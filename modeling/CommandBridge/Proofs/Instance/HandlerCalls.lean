import CommandBridge.Proofs.Instance.CallTurns
import CommandBridge.Proofs.Results.Pendency

/-!
# CommandBridge.Proofs.Instance.HandlerCalls

What becomes of the commands that are delivered to a callback instance, whatever the order in which
handlers come to their ends, this is noticed and outcomes are published.

What has happened about a ticket says how far its call has come (`Course`).  Every turn keeps this
for all calls (`Ledger.after`): it moves one call on, and all that happens is about the ticket of
that call.  Closing drops all calls (`Dropped`), and nothing happens about their tickets any more.
-/

namespace CommandBridge.Callback

open ResultChannel

variable {h h' : Host} {i place m : Nat} {call : HandlerCall} {c : Command}
  {status : ResultStatus} {result : Json} {outcome : Except Fault Json} {now : Timestamp}

/-! ## Courses -/

/-- What is to be published of a handler's outcome. -/
inductive Due : Except Fault Json → ResultStatus → Json → Prop where
  | value (v : Json) : Due (.ok v) .success v
  | failure (f : Fault) : Due (.error f) .error (.object [("error", .str f.text)])

theorem due_publication (outcome : Except Fault Json) :
    Due outcome (publication outcome).1 (publication outcome).2 := by
  cases outcome with
  | ok v => exact .value v
  | error f => exact .failure f

/-- How far the call of a command has come, by what has happened about its ticket: it is registered,
its handler comes to an end, and the outcome is published, each of them once and in this order. -/
inductive Course (c : Command) : List Event → CallStage → Prop where
  | queued (registered : Timestamp) : Course c [.step ⟨registered, .register c⟩] .queued
  | finished (registered : Timestamp) (outcome : Except Fault Json) :
      Course c [.step ⟨registered, .register c⟩, .returned c.ticket outcome] (.finished outcome)
  | publishing (registered : Timestamp) {outcome : Except Fault Json} {status : ResultStatus}
      {result : Json} (h : Due outcome status result) :
      Course c [.step ⟨registered, .register c⟩, .returned c.ticket outcome]
        (.publishing status result)
  | settled (registered published : Timestamp) {outcome : Except Fault Json} {status : ResultStatus}
      {result : Json} (h : Due outcome status result) :
      Course c [.step ⟨registered, .register c⟩, .returned c.ticket outcome,
        .step ⟨published, .publish c.ticket (.string status.text) result⟩] .over

section

variable {c : Command} {es : List Event} {outcome : Except Fault Json} {status : ResultStatus}
  {result : Json}

theorem Course.of_queued (h : Course c es .queued) :
    ∃ registered, es = [.step ⟨registered, .register c⟩] := by
  cases h
  exact ⟨_, rfl⟩

theorem Course.of_finished (h : Course c es (.finished outcome)) :
    ∃ registered, es = [.step ⟨registered, .register c⟩, .returned c.ticket outcome] := by
  cases h
  exact ⟨_, rfl⟩

theorem Course.of_publishing (h : Course c es (.publishing status result)) :
    ∃ registered outcome, Due outcome status result ∧
      es = [.step ⟨registered, .register c⟩, .returned c.ticket outcome] := by
  cases h
  exact ⟨_, _, ‹_›, rfl⟩

end

/-- The calls of an open callback instance, and what has happened so far.  All that concerns the
`own` tickets has to do with their calls. -/
structure Ledger (i m : Nat) (own : String → Prop) (commands : List Command) (es : List Event)
    (h : Host) : Prop where
  capacity : h.results.capacity = m
  callback : IsCallback i h
  holds : (h.instanceAt i).holdsChannel = true
  calls : h.calls.map HandlerCall.command = commands
  apart : (commands.map Command.ticket).Nodup
  mine : ∀ c ∈ commands, own c.ticket
  course : ∀ (place : Nat) (call : HandlerCall), h.calls[place]? = some call → call.owner = i ∧
    Course call.command (es.filter (Event.isAbout call.command.ticket)) call.stage
  known : ∀ e ∈ es, ∀ ticket, e.subject? = some ticket → own ticket →
    ticket ∈ commands.map Command.ticket

variable {own : String → Prop} {commands : List Command} {es new : List Event} {stage : CallStage}
  {t : Turn}

theorem filter_isAbout_of_forall {ticket : String}
    (h : ∀ e ∈ new, e.subject? = some ticket) : new.filter (Event.isAbout ticket) = new := by
  rw [List.filter_eq_self]
  intro e he
  exact decide_eq_true (h e he)

theorem filter_isAbout_of_forall_ne {ticket : String}
    (h : ∀ e ∈ new, e.subject? ≠ some ticket) : new.filter (Event.isAbout ticket) = [] := by
  rw [List.filter_eq_nil_iff]
  intro e he
  exact fun hticket => h e he (of_decide_eq_true hticket)

/-- Calls at different places have different tickets. -/
theorem Ledger.eq_of_ticket (hl : Ledger i m own commands es h) {place' : Nat} {call' : HandlerCall}
    (hcall : h.calls[place]? = some call) (hcall' : h.calls[place']? = some call')
    (hticket : call'.command.ticket = call.command.ticket) : place' = place := by
  have hat : ∀ {p : Nat} {x : HandlerCall}, h.calls[p]? = some x →
      (commands.map Command.ticket)[p]? = some x.command.ticket := by
    intro p x hx
    rw [← hl.calls, List.getElem?_map, List.getElem?_map, hx]
    rfl
  obtain ⟨hlt, -⟩ := List.getElem?_eq_some_iff.mp (hat hcall')
  exact (List.getElem?_inj hlt hl.apart).mp (by rw [hat hcall', hat hcall, hticket])

/-- A call of the ledger moves on, and nothing happens but about its ticket. -/
theorem Ledger.advance (hl : Ledger i m own commands es h) (hcall : h.calls[place]? = some call)
    (hnew : ∀ e ∈ new, e.subject? = some call.command.ticket)
    (hcourse : Course call.command
      (es.filter (Event.isAbout call.command.ticket) ++ new) stage)
    (hcap : h'.results.capacity = m) (hcallback : IsCallback i h')
    (hholds : (h'.instanceAt i).holdsChannel = true) (hcalls : h'.calls = h.calls) :
    Ledger i m own commands (es ++ new) (atStage h' place stage) where
  capacity := hcap
  callback := hcallback
  holds := hholds
  calls := by
    rw [← hl.calls, ← hcalls]
    apply List.ext_getElem?
    intro n
    rw [List.getElem?_map, List.getElem?_map, atStage, List.getElem?_modify]
    cases h'.calls[n]? with
    | none => rfl
    | some x => by_cases hn : place = n <;> simp [hn]
  apart := hl.apart
  mine := hl.mine
  course := by
    intro place' call' hcall'
    rcases getElem?_atStage hcall' with ⟨rfl, x, hx, rfl⟩ | ⟨hplace, hx⟩
    · rw [hcalls] at hx
      obtain rfl := Option.some.inj (hcall.symm.trans hx)
      rw [List.filter_append, filter_isAbout_of_forall hnew]
      exact ⟨(hl.course place' call hx).1, hcourse⟩
    · rw [hcalls] at hx
      have hother : ∀ e ∈ new, e.subject? ≠ some call'.command.ticket := by
        intro e he heq
        have hticket := Option.some.inj (heq.symm.trans (hnew e he))
        exact hplace (hl.eq_of_ticket hcall hx hticket)
      rw [List.filter_append, filter_isAbout_of_forall_ne hother, List.append_nil]
      exact hl.course place' call' hx
  known := by
    intro e he ticket hticket hown
    rcases List.mem_append.mp he with he | he
    · exact hl.known e he ticket hticket hown
    · rw [hnew e he, Option.some.injEq] at hticket
      subst hticket
      rw [← hl.calls, List.map_map]
      exact List.mem_map_of_mem (List.mem_of_getElem? hcall)

/-- What happens to the channel alone leaves the calls as they are. -/
theorem Ledger.onChannel (hl : Ledger i m own commands es h) {c : ResultChannel}
    (hcap : c.capacity = m)
    (hnew : ∀ e ∈ new, ∀ ticket, e.subject? = some ticket → ¬ own ticket) :
    Ledger i m own commands (es ++ new) { h with results := c } where
  capacity := hcap
  callback := hl.callback
  holds := hl.holds
  calls := hl.calls
  apart := hl.apart
  mine := hl.mine
  course := by
    intro place call hcall
    obtain ⟨howner, hcourse⟩ := hl.course place call hcall
    have hother : ∀ e ∈ new, e.subject? ≠ some call.command.ticket := by
      intro e he heq
      refine hnew e he _ heq (hl.mine call.command ?_)
      rw [← hl.calls]
      exact List.mem_map_of_mem (List.mem_of_getElem? hcall)
    rw [List.filter_append, filter_isAbout_of_forall_ne hother, List.append_nil]
    exact ⟨howner, hcourse⟩
  known := by
    intro e he ticket hticket hown'
    rcases List.mem_append.mp he with he | he
    · exact hl.known e he ticket hticket hown'
    · exact absurd hown' (hnew e he ticket hticket)

/-- A command with a ticket of its own is registered and delivered. -/
theorem Ledger.deliver (hl : Ledger i m own commands es h) (now : Timestamp) (hown : own c.ticket)
    (hfresh : c.ticket ∉ commands.map Command.ticket) :
    Ledger i m own (commands ++ [c]) (es ++ [.step ⟨now, .register c⟩])
      ((⟨now, .deliver c⟩ : Turn).after i h) := by
  have hquiet : es.filter (Event.isAbout c.ticket) = [] :=
    filter_isAbout_of_forall_ne fun e he hticket => hfresh (hl.known e he _ hticket hown)
  have hcalls : h.calls.map HandlerCall.command = commands := hl.calls
  rw [after_deliver now c hl.callback hl.capacity]
  exact {
    capacity := Step.capacity_after hl.capacity _
    callback := hl.callback
    holds := hl.holds
    calls := by simp [hcalls]
    apart := by
      rw [List.map_append, List.nodup_append]
      refine ⟨hl.apart, by simp, ?_⟩
      rintro a ha b hb rfl
      rw [List.map_singleton, List.mem_singleton] at hb
      exact hfresh (hb ▸ ha)
    mine := by
      intro x hx
      rcases List.mem_append.mp hx with hx | hx
      · exact hl.mine x hx
      · rw [List.mem_singleton.mp hx]
        exact hown
    course := by
      intro place call hcall
      rw [List.getElem?_append] at hcall
      split at hcall
      · obtain ⟨howner, hcourse⟩ := hl.course place call hcall
        have hother : ∀ e ∈ [Event.step ⟨now, .register c⟩],
            e.subject? ≠ some call.command.ticket := by
          intro e he heq
          rw [List.mem_singleton.mp he] at heq
          have hticket : c.ticket = call.command.ticket := Option.some.inj heq
          refine hfresh (hticket ▸ List.mem_map_of_mem ?_)
          rw [← hcalls]
          exact List.mem_map_of_mem (List.mem_of_getElem? hcall)
        rw [List.filter_append, filter_isAbout_of_forall_ne hother, List.append_nil]
        exact ⟨howner, hcourse⟩
      · obtain rfl := List.mem_singleton.mp (List.mem_of_getElem? hcall)
        rw [List.filter_append, hquiet, filter_isAbout_of_forall (by simp [Event.subject?,
          Step.subject?])]
        exact ⟨rfl, .queued now⟩
    known := by
      intro e he ticket hticket hown'
      rw [List.map_append, List.mem_append]
      rcases List.mem_append.mp he with he | he
      · exact .inl (hl.known e he ticket hticket hown')
      · rw [List.mem_singleton.mp he] at hticket
        exact .inr (by simpa [Event.subject?, Step.subject?, eq_comm] using hticket) }

/-- A turn of an open instance: what is delivered has an own ticket, and nothing else on the channel
concerns such a ticket. -/
def Turn.Plays (own : String → Prop) (t : Turn) : Prop :=
  match t.move with
  | .deliver c => own c.ticket
  | .channel o => ∀ ticket, (⟨t.now, o⟩ : Step).subject? = some ticket → ¬ own ticket
  | .close => False
  | _ => True

/-- A turn of an open instance keeps the ledger. -/
theorem Ledger.after (hl : Ledger i m own commands es h) (ht : t.Plays own)
    (hfresh : ∀ c ∈ t.delivered?, c.ticket ∉ commands.map Command.ticket) :
    Ledger i m own (commands ++ t.delivered?.toList) (es ++ t.events h) (t.after i h) := by
  obtain ⟨now, move⟩ := t
  cases move with
  | deliver c => exact hl.deliver now ht (hfresh c rfl)
  | run place =>
      rw [Turn.delivered?, Option.toList_none, List.append_nil, after_run, Turn.events]
      dsimp only
      split
      · next owner c hcall =>
        obtain ⟨rfl, hcourse⟩ := hl.course place _ hcall
        obtain ⟨⟨instances, hused⟩, hcallback, hholds⟩ := used_spec hl.callback
        refine hl.advance hcall (by simp [Event.subject?]) ?_ ?_ hcallback
          (hholds.trans hl.holds) ?_
        · obtain ⟨registered, hes⟩ := hcourse.of_queued
          rw [hes]
          exact .finished registered _
        · rw [hused]
          exact hl.capacity
        · rw [hused]
      · rw [List.append_nil]
        exact hl
  | notice place =>
      rw [Turn.delivered?, Option.toList_none, List.append_nil, after_notice, Turn.events]
      dsimp only
      split
      · next owner c outcome hcall =>
        obtain ⟨rfl, hcourse⟩ := hl.course place _ hcall
        rw [if_pos hl.holds]
        refine hl.advance hcall (by simp) ?_ hl.capacity hl.callback hl.holds rfl
        obtain ⟨registered, hes⟩ := hcourse.of_finished
        rw [hes]
        exact .publishing registered (due_publication outcome)
      · rw [List.append_nil]
        exact hl
  | publish place =>
      rw [Turn.delivered?, Option.toList_none, List.append_nil, after_publish, Turn.events]
      dsimp only
      split
      · next owner c status result hcall =>
        obtain ⟨rfl, hcourse⟩ := hl.course place _ hcall
        refine hl.advance hcall (by simp [Event.subject?, Step.subject?]) ?_
          (Step.capacity_after hl.capacity _) hl.callback hl.holds rfl
        obtain ⟨registered, outcome, hdue, hes⟩ := hcourse.of_publishing
        rw [hes]
        exact .settled registered now hdue
      · rw [List.append_nil]
        exact hl
  | close => exact ht.elim
  | channel o =>
      have hnew : ∀ e ∈ [Event.step ⟨now, o⟩], ∀ ticket, e.subject? = some ticket →
          ¬ own ticket := by
        rintro e he ticket hticket
        rw [List.mem_singleton.mp he] at hticket
        exact ht ticket hticket
      have hafter := hl.onChannel (Step.capacity_after hl.capacity ⟨now, o⟩) hnew
      rw [Turn.delivered?, Option.toList_none, List.append_nil]
      exact hafter

/-! ## Runs -/

theorem delivered_cons (t : Turn) (turns : List Turn) :
    delivered (t :: turns) = t.delivered?.toList ++ delivered turns := by
  rw [delivered, List.filterMap_cons, delivered]
  cases t.delivered? <;> rfl

/-- What a turn does on the channel is what happens there. -/
theorem Ledger.results_after (hl : Ledger i m own commands es h) (ht : t.Plays own) :
    (t.after i h).results = runAll ((t.events h).filterMap Event.step?) h.results := by
  obtain ⟨now, move⟩ := t
  cases move with
  | deliver c =>
      rw [after_deliver now c hl.callback hl.capacity]
      rfl
  | run place =>
      rw [after_run, Turn.events]
      dsimp only
      split
      · next owner c hcall =>
        obtain ⟨rfl, -⟩ := hl.course place _ hcall
        obtain ⟨⟨instances, hused⟩, -, -⟩ := used_spec hl.callback
        rw [hused]
        rfl
      · rfl
  | notice place =>
      rw [after_notice]
      split <;> rfl
  | publish place =>
      rw [after_publish, Turn.events]
      dsimp only
      split <;> rfl
  | close => exact ht.elim
  | channel o => rfl

/-- A run of an open instance keeps the ledger, and does on the channel what happens there. -/
theorem Ledger.run (hl : Ledger i m own commands es h) (turns : List Turn)
    (hturns : ∀ t ∈ turns, t.Plays own)
    (hapart : ((commands ++ delivered turns).map Command.ticket).Nodup) :
    Ledger i m own (commands ++ delivered turns) (es ++ events i turns h)
        (afterAll i turns h) ∧
      (afterAll i turns h).results =
        runAll ((events i turns h).filterMap Event.step?) h.results := by
  induction turns generalizing commands es h with
  | nil =>
      refine ⟨?_, rfl⟩
      simpa [delivered, events, afterAll] using hl
  | cons t turns ih =>
      have hplays := hturns t List.mem_cons_self
      rw [delivered_cons, ← List.append_assoc] at hapart ⊢
      have hfresh : ∀ c ∈ t.delivered?, c.ticket ∉ commands.map Command.ticket := by
        intro c hc hmem
        rw [List.map_append, List.map_append, List.nodup_append, List.nodup_append] at hapart
        refine hapart.1.2.2 _ hmem _ (List.mem_map_of_mem ?_) rfl
        rw [Option.mem_toList]
        exact hc
      obtain ⟨hledger, hresults⟩ := ih (hl.after hplays hfresh)
        (fun t' ht' => hturns t' (List.mem_cons_of_mem t ht')) hapart
      rw [events, List.filterMap_append, runAll_append, ← hl.results_after hplays,
        ← List.append_assoc es]
      exact ⟨hledger, hresults⟩

/-! ## What has become of a ticket -/

/-- Whether the handler of a ticket's command has come to its end. -/
def hasReturned (es : List Event) (ticket : String) : Bool :=
  es.any fun e =>
    match e with
    | .returned t _ => t = ticket
    | .step _ => false

theorem hasReturned_iff {ticket : String} :
    hasReturned es ticket = true ↔ ∃ outcome, Event.returned ticket outcome ∈ es := by
  rw [hasReturned, List.any_eq_true]
  constructor
  · rintro ⟨e, he, hreturned⟩
    cases e with
    | step s => exact absurd hreturned (by simp)
    | returned t outcome =>
        obtain rfl : t = ticket := by simpa using hreturned
        exact ⟨outcome, he⟩
  · rintro ⟨outcome, he⟩
    exact ⟨_, he, by simp⟩

/-- What is not about a ticket says nothing of its handler. -/
theorem hasReturned_filter (es : List Event) (ticket : String) :
    hasReturned (es.filter (Event.isAbout ticket)) ticket = hasReturned es ticket := by
  rw [Bool.eq_iff_iff, hasReturned_iff, hasReturned_iff]
  simp [Event.isAbout, Event.subject?]

/-- A handler has come to its end unless its call is queued. -/
theorem Course.hasReturned_iff (h : Course c es stage) :
    hasReturned es c.ticket = true ↔ stage ≠ .queued := by
  cases h <;> simp [hasReturned]

/-- Every command has its call. -/
theorem Ledger.exists_call (hl : Ledger i m own commands es h) (hc : c ∈ commands) :
    ∃ (place : Nat) (call : HandlerCall), h.calls[place]? = some call ∧
      Course c (es.filter (Event.isAbout c.ticket)) call.stage := by
  rw [← hl.calls] at hc
  obtain ⟨call, hmem, rfl⟩ := List.mem_map.mp hc
  obtain ⟨place, hplace⟩ := List.mem_iff_getElem?.mp hmem
  exact ⟨place, call, hplace, (hl.course place call hplace).2⟩

/-- A call with nothing left to do until its handler comes to its end. -/
def AtRest (call : HandlerCall) : Prop := call.stage = .queued ∨ call.stage = .over

/-- Nothing is ready: the outcome of every handler that came to its end was published. -/
def Quiet (h : Host) : Prop := ∀ call ∈ h.calls, AtRest call

/-- Where nothing is ready, what is awaited are the handlers that have not come to their end. -/
theorem Ledger.pendingCalls (hl : Ledger i m own commands es h) (hquiet : Quiet h) :
    h.pendingCalls i = commands.countP fun c => !hasReturned es c.ticket := by
  rw [Host.pendingCalls, ← hl.calls, List.countP_map]
  refine List.countP_congr fun call hmem => ?_
  obtain ⟨place, hplace⟩ := List.mem_iff_getElem?.mp hmem
  obtain ⟨howner, hcourse⟩ := hl.course place call hplace
  have hreturned := hcourse.hasReturned_iff
  rw [hasReturned_filter] at hreturned
  rcases hquiet call hmem with hstage | hstage
  · have hwaiting : hasReturned es call.command.ticket = false :=
      Bool.eq_false_iff.mpr fun h => hreturned.mp h hstage
    simp [howner, HandlerCall.isPending, hstage, hwaiting]
  · simp [howner, HandlerCall.isPending, hstage, hreturned]

/-- A call that is over has published what was due. -/
theorem Course.exists_publication (h : Course c es stage)
    (hstage : stage = .queued ∨ stage = .over) (hreturned : .returned c.ticket outcome ∈ es) :
    ∃ now status result, Due outcome status result ∧
      Event.step ⟨now, .publish c.ticket (.string status.text) result⟩ ∈ es := by
  cases h with
  | queued registered => exact absurd hreturned (by simp)
  | finished registered outcome' => simp at hstage
  | publishing registered hdue => simp at hstage
  | settled registered published hdue =>
      rename_i outcome' status result
      obtain rfl : outcome = outcome' := by simpa using hreturned
      exact ⟨published, status, result, hdue, by simp⟩

/-- Nothing happens about a ticket after its outcome was published. -/
theorem Course.eq_nil_of_publication (now : Timestamp) (status result : Json)
    {before after : List Event}
    (h : Course c (before ++ .step ⟨now, .publish c.ticket status result⟩ :: after) stage) :
    after = [] := by
  have hlast : ∀ {es}, Course c es stage →
      Event.step ⟨now, .publish c.ticket status result⟩ ∉ es.dropLast := by
    intro es h
    cases h <;> simp
  by_contra hafter
  refine hlast h ?_
  rw [List.dropLast_append_of_ne_nil (by simp), List.dropLast_cons_of_ne_nil hafter]
  simp

/-- Nothing was published on a ticket. -/
def Unpublished (es : List Event) (ticket : String) : Prop :=
  ∀ s, Event.step s ∈ es → s.publishesOn ticket = false

/-- Nothing is published on a ticket before its handler has come to its end. -/
theorem Ledger.unpublished (hl : Ledger i m own commands es h) (hc : c ∈ commands)
    (hwaiting : hasReturned es c.ticket = false) : Unpublished es c.ticket := by
  intro s hs
  by_contra hpublishes
  have hsubject : s.subject? = some c.ticket := by
    obtain ⟨now, operation⟩ := s
    cases operation with
    | publish t status result => simpa [Step.publishesOn, Step.subject?] using hpublishes
    | _ => exact absurd rfl hpublishes
  obtain ⟨place, call, hcall, hcourse⟩ := hl.exists_call hc
  have hmem : Event.step s ∈ es.filter (Event.isAbout c.ticket) :=
    List.mem_filter.mpr ⟨hs, decide_eq_true hsubject⟩
  have hqueued : call.stage = .queued := by
    by_contra hstage
    have hreturned := hcourse.hasReturned_iff.mpr hstage
    rw [hasReturned_filter, hwaiting] at hreturned
    exact absurd hreturned (by simp)
  obtain ⟨registered, hes⟩ := (hqueued ▸ hcourse).of_queued
  rw [hes, List.mem_singleton, Event.step.injEq] at hmem
  rw [hmem] at hpublishes
  exact hpublishes rfl

theorem mem_step? {es : List Event} {s : Step} :
    s ∈ es.filterMap Event.step? ↔ Event.step s ∈ es := by
  rw [List.mem_filterMap]
  constructor
  · rintro ⟨e, he, hs⟩
    cases e with
    | step s' => exact Option.some.inj hs ▸ he
    | returned t o => exact absurd hs (by simp [Event.step?])
  · exact fun hs => ⟨_, hs, rfl⟩

/-- A published outcome is all that the map has of its ticket. -/
theorem Ledger.has (hl : Ledger i m own commands es h) {c₀ : ResultChannel}
    (hcap : c₀.capacity = m) (hkeyed : Keyed c₀)
    (hresults : h.results = runAll (es.filterMap Event.step?) c₀) (hc : c ∈ commands)
    (hpublished : Event.step ⟨now, .publish c.ticket (.string status.text) result⟩ ∈ es) :
    Has c.ticket status result h.results := by
  obtain ⟨before, after, rfl⟩ := List.append_of_mem hpublished
  obtain ⟨place, call, hcall, hcourse⟩ := hl.exists_call hc
  have hlast : after.filter (Event.isAbout c.ticket) = [] := by
    rw [List.filter_append, List.filter_cons_of_pos (by simp [Event.isAbout, Event.subject?,
      Step.subject?])] at hcourse
    exact hcourse.eq_nil_of_publication now _ result
  have hcap' := capacity_runAll (before.filterMap Event.step?) hcap
  have hkeyed' := keyed_runAll (before.filterMap Event.step?) hcap hkeyed
  rw [hresults, List.filterMap_append, runAll_append]
  refine has_runAll (after.filterMap Event.step?) (Step.capacity_after hcap' _)
    (hkeyed'.after hcap' _) (has_after_publish hcap' hkeyed' now status result) ?_
  intro s hs heq
  rw [List.filter_eq_nil_iff] at hlast
  exact hlast _ (mem_step?.mp hs) (decide_eq_true heq)

/-! ## Giving every call its turns -/

/-- The turns that tell of every handler that came to its end, and publish its outcome. -/
def settling (now : Timestamp) (places : List Nat) : List Turn :=
  places.flatMap fun place => [⟨now, .notice place⟩, ⟨now, .publish place⟩]

/-- Both turns of a call put it at rest and leave the others as they are. -/
theorem Ledger.atRest (hl : Ledger i m own commands es h) (now : Timestamp) {place' : Nat}
    (hcall : (afterAll i [⟨now, .notice place⟩, ⟨now, .publish place⟩] h).calls[place']? =
      some call) :
    AtRest call ∨ (place' ≠ place ∧ h.calls[place']? = some call) := by
  have hnoticed : ∀ {q : Nat} {x : HandlerCall},
      ((⟨now, .notice place⟩ : Turn).after i h).calls[q]? = some x →
      (q = place ∧ ∀ outcome, x.stage ≠ .finished outcome) ∨
        (q ≠ place ∧ h.calls[q]? = some x) := by
    intro q x hx
    rw [after_notice] at hx
    split at hx
    · next owner c outcome hthere =>
      obtain ⟨rfl, -⟩ := hl.course place _ hthere
      rw [if_pos hl.holds] at hx
      rcases getElem?_atStage hx with ⟨hq, y, -, rfl⟩ | hother
      · exact .inl ⟨hq, fun outcome' => by simp⟩
      · exact .inr hother
    · next hnone =>
      by_cases hq : q = place
      · refine .inl ⟨hq, ?_⟩
        rintro outcome hstage
        obtain ⟨owner, command, stage⟩ := x
        obtain rfl : stage = .finished outcome := hstage
        exact hnone owner command outcome (hq ▸ hx)
      · exact .inr ⟨hq, hx⟩
  have hafter : afterAll i [⟨now, .notice place⟩, ⟨now, .publish place⟩] h =
      (⟨now, .publish place⟩ : Turn).after i ((⟨now, .notice place⟩ : Turn).after i h) := rfl
  rw [hafter, after_publish] at hcall
  split at hcall
  · next owner c status result hthere =>
    rcases getElem?_atStage hcall with ⟨hq, y, -, rfl⟩ | ⟨hq, hother⟩
    · exact .inl (.inr rfl)
    · rcases hnoticed hother with ⟨hsame, -⟩ | hold
      · exact absurd hsame hq
      · exact .inr hold
  · next hnone =>
    rcases hnoticed hcall with ⟨hq, hstage⟩ | hold
    · left
      obtain ⟨owner, command, stage⟩ := call
      cases stage with
      | queued => exact .inl rfl
      | finished outcome => exact absurd rfl (hstage outcome)
      | publishing status result => exact absurd (hq ▸ hcall) (hnone owner command status result)
      | _ => exact .inr rfl
    · exact .inr hold

/-- Once every call had its turns, nothing is ready. -/
theorem Ledger.quiet_settling (hl : Ledger i m own commands es h) (now : Timestamp)
    (places : List Nat)
    (hplaces : ∀ (place : Nat) (call : HandlerCall), h.calls[place]? = some call →
      AtRest call ∨ place ∈ places) :
    Quiet (afterAll i (settling now places) h) := by
  induction places generalizing es h with
  | nil =>
      intro call hcall
      obtain ⟨place, hplace⟩ := List.mem_iff_getElem?.mp hcall
      rcases hplaces place call hplace with hrest | hmem
      · exact hrest
      · exact absurd hmem (by simp)
  | cons p places ih =>
      have hplays : ∀ t ∈ ([⟨now, .notice p⟩, ⟨now, .publish p⟩] : List Turn), t.Plays own := by
        simp [Turn.Plays]
      have hnone : delivered [⟨now, .notice p⟩, ⟨now, .publish p⟩] = [] := rfl
      obtain ⟨hafter, -⟩ := hl.run _ hplays (by rw [hnone, List.append_nil]; exact hl.apart)
      rw [hnone, List.append_nil] at hafter
      refine ih hafter fun place call hcall => ?_
      rcases hl.atRest now hcall with hrest | ⟨hne, hold⟩
      · exact .inl hrest
      · rcases hplaces place call hold with hrest | hmem
        · exact .inl hrest
        · exact .inr ((List.mem_cons.mp hmem).resolve_left hne)

/-! ## After closing -/

/-- A callback instance whose calls with tickets of `gone` are over. -/
structure Dropped (i m : Nat) (gone : String → Prop) (h : Host) : Prop where
  capacity : h.results.capacity = m
  callback : IsCallback i h
  owner : ∀ call ∈ h.calls, call.owner = i
  dropped : ∀ call ∈ h.calls, gone call.command.ticket → call.stage = .over

variable {gone : String → Prop}

/-- A call that is not over has moved on. -/
theorem Dropped.advance (hd : Dropped i m gone h) (hcall : h.calls[place]? = some call)
    (hstage : call.stage ≠ .over) (hcap : h'.results.capacity = m) (hcallback : IsCallback i h')
    (hcalls : h'.calls = h.calls) : Dropped i m gone (atStage h' place stage) := by
  have hmem : call ∈ h.calls := List.mem_of_getElem? hcall
  have hall : ∀ x ∈ (atStage h' place stage).calls,
      x ∈ h.calls ∨ x = { call with stage := stage } := by
    intro x hx
    obtain ⟨place', hplace'⟩ := List.mem_iff_getElem?.mp hx
    rcases getElem?_atStage hplace' with ⟨-, y, hy, rfl⟩ | ⟨-, hy⟩
    · rw [hcalls] at hy
      obtain rfl := Option.some.inj (hcall.symm.trans hy)
      exact .inr rfl
    · exact .inl (hcalls ▸ List.mem_of_getElem? hy)
  refine ⟨hcap, hcallback, fun x hx => ?_, fun x hx hgone => ?_⟩
  · rcases hall x hx with hold | rfl
    · exact hd.owner x hold
    · exact hd.owner call hmem
  · rcases hall x hx with hold | rfl
    · exact hd.dropped x hold hgone
    · exact absurd (hd.dropped call hmem hgone) hstage

/-- Closing leaves no call that is not over. -/
theorem dropped_after_close (now : Timestamp) (hcap : h.results.capacity = m) (hi : IsCallback i h)
    (howner : ∀ call ∈ h.calls, call.owner = i) :
    Dropped i m gone ((⟨now, .close⟩ : Turn).after i h) := by
  obtain ⟨⟨instances, hclosed⟩, hcallback⟩ := after_close now hi
  have hall : ∀ call ∈ ((⟨now, .close⟩ : Turn).after i h).calls,
      call.owner = i ∧ call.stage = .over := by
    intro call hcall
    rw [hclosed] at hcall
    obtain ⟨x, hx, rfl⟩ := List.mem_map.mp hcall
    rw [cancel, if_pos (howner x hx)]
    exact ⟨howner x hx, rfl⟩
  refine ⟨?_, hcallback, fun call hcall => (hall call hcall).1, fun call hcall _ =>
    (hall call hcall).2⟩
  rw [hclosed]
  exact hcap

/-- What is over stays so, if its ticket is not delivered again. -/
theorem Dropped.after (hd : Dropped i m gone h) (ht : ∀ c ∈ t.delivered?, ¬ gone c.ticket) :
    Dropped i m gone (t.after i h) := by
  obtain ⟨now, move⟩ := t
  cases move with
  | deliver c =>
      rw [after_deliver now c hd.callback hd.capacity]
      refine ⟨Step.capacity_after hd.capacity _, hd.callback, ?_, ?_⟩
      · intro call hcall
        rcases List.mem_append.mp hcall with hcall | hcall
        · exact hd.owner call hcall
        · rw [List.mem_singleton.mp hcall]
      · intro call hcall hgone
        rcases List.mem_append.mp hcall with hcall | hcall
        · exact hd.dropped call hcall hgone
        · rw [List.mem_singleton.mp hcall] at hgone
          exact absurd hgone (ht c rfl)
  | run place =>
      rw [after_run]
      split
      · next owner c hcall =>
        obtain rfl := hd.owner _ (List.mem_of_getElem? hcall)
        obtain ⟨⟨instances, hused⟩, hcallback, -⟩ := used_spec hd.callback
        refine hd.advance hcall (by simp) ?_ hcallback ?_
        · rw [hused]
          exact hd.capacity
        · rw [hused]
      · exact hd
  | notice place =>
      rw [after_notice]
      split
      · next owner c outcome hcall =>
        exact hd.advance hcall (by simp) hd.capacity hd.callback rfl
      · exact hd
  | publish place =>
      rw [after_publish]
      split
      · next owner c status result hcall =>
        exact hd.advance hcall (by simp) (Step.capacity_after hd.capacity _) hd.callback rfl
      · exact hd
  | close => exact dropped_after_close now hd.capacity hd.callback hd.owner
  | channel o => exact ⟨Step.capacity_after hd.capacity ⟨now, o⟩, hd.callback, hd.owner, hd.dropped⟩

/-- A turn that delivers none of some tickets, and changes nothing about them on the channel. -/
def Turn.Spares (gone : String → Prop) (t : Turn) : Prop :=
  match t.move with
  | .deliver c => ¬ gone c.ticket
  | .channel o => ∀ ticket, (⟨t.now, o⟩ : Step).subject? = some ticket → ¬ gone ticket
  | _ => True

/-- Nothing happens about a ticket whose call was dropped. -/
theorem Dropped.not_about (hd : Dropped i m gone h) (ht : t.Spares gone) :
    ∀ e ∈ t.events h, ∀ ticket, e.subject? = some ticket → ¬ gone ticket := by
  intro e he ticket hticket hgone
  obtain ⟨now, move⟩ := t
  cases move with
  | deliver c =>
      rw [List.mem_singleton.mp he] at hticket
      exact ht (Option.some.inj hticket ▸ hgone)
  | run place =>
      rw [Turn.events] at he
      dsimp only at he
      split at he
      · next owner c hcall =>
        rw [List.mem_singleton.mp he] at hticket
        have hover := hd.dropped _ (List.mem_of_getElem? hcall) (Option.some.inj hticket ▸ hgone)
        exact absurd hover (by simp)
      · exact absurd he (by simp)
  | publish place =>
      rw [Turn.events] at he
      dsimp only at he
      split at he
      · next owner c status result hcall =>
        rw [List.mem_singleton.mp he] at hticket
        have hover := hd.dropped _ (List.mem_of_getElem? hcall) (Option.some.inj hticket ▸ hgone)
        exact absurd hover (by simp)
      · exact absurd he (by simp)
  | channel o =>
      rw [List.mem_singleton.mp he] at hticket
      exact ht ticket hticket hgone
  | notice place => exact absurd he (by simp [Turn.events])
  | close => exact absurd he (by simp [Turn.events])

theorem Dropped.run (hd : Dropped i m gone h) (turns : List Turn)
    (hturns : ∀ c ∈ delivered turns, ¬ gone c.ticket) : Dropped i m gone (afterAll i turns h) := by
  induction turns generalizing h with
  | nil => exact hd
  | cons t turns ih =>
      rw [delivered_cons] at hturns
      exact ih (hd.after fun c hc => hturns c (List.mem_append_left _ (Option.mem_toList.mpr hc)))
        fun c hc => hturns c (List.mem_append_right _ hc)

theorem Dropped.not_about_run (hd : Dropped i m gone h) (turns : List Turn)
    (hturns : ∀ t ∈ turns, t.Spares gone) :
    ∀ e ∈ events i turns h, ∀ ticket, e.subject? = some ticket → ¬ gone ticket := by
  induction turns generalizing h with
  | nil => simp [events]
  | cons t turns ih =>
      have hspares := hturns t List.mem_cons_self
      have hafter : Dropped i m gone (t.after i h) := by
        refine hd.after fun c hc => ?_
        obtain ⟨now, move⟩ := t
        cases move <;> simp_all [Turn.delivered?, Turn.Spares]
      intro e he
      rcases List.mem_append.mp he with he | he
      · exact hd.not_about hspares e he
      · exact ih hafter (fun t' ht' => hturns t' (List.mem_cons_of_mem t ht')) e he

/-- Nothing is awaited where all calls are over. -/
theorem pendingCalls_eq_zero (h : Host) (i : Nat)
    (hover : ∀ call ∈ h.calls, call.stage = .over) : h.pendingCalls i = 0 := by
  rw [Host.pendingCalls, List.countP_eq_zero]
  intro call hcall
  simp [HandlerCall.isPending, hover call hcall]

/-! ## Runs of an instance -/

/-- What becomes of the commands that a run delivers. -/
structure Served (i : Nat) (turns : List Turn) (h : Host) : Prop where
  /-- Each is registered, its handler comes to its end, and the outcome of that is published: once
  each, and in this order. -/
  course : ∀ c ∈ delivered turns, ∃ stage,
    Course c ((events i turns h).filter (Event.isAbout c.ticket)) stage
  /-- Nothing else was done on the channel. -/
  channel : (afterAll i turns h).results =
    runAll ((events i turns h).filterMap Event.step?) h.results
  /-- A ticket is pending until its handler comes to its end, and then until the outcome is
  published. -/
  waiting : ∀ c ∈ delivered turns, hasReturned (events i turns h) c.ticket = false →
    Unpublished (events i turns h) c.ticket
  pending : ∀ c ∈ delivered turns, Unpublished (events i turns h) c.ticket →
    Pending c.ticket (afterAll i turns h).results
  /-- What is published is all that the map has of the ticket from then on. -/
  outcome : ∀ c ∈ delivered turns, ∀ now status result,
    Event.step ⟨now, .publish c.ticket (.string status.text) result⟩ ∈ events i turns h →
    Has c.ticket status result (afterAll i turns h).results
  /-- What is about to be published is stored if its ticket can be found, and answered with if it
  has a body. -/
  arrives : ∀ (now : Timestamp) (place : Nat) (c : Command) (status : ResultStatus) (result : Json)
    (current : Record),
    (afterAll i turns h).calls[place]? = some ⟨i, c, .publishing status result⟩ →
    ((get now c.ticket).run (afterAll i turns h).results).answer = .ok current →
    (⟨now, .publish c.ticket (.string status.text) result⟩ : Step).stores?
        (afterAll i turns h).results = some (current.withOutcome now status result) ∧
      ((publishOutcome now c.ticket status result).run (afterAll i turns h).results).answer =
        (current.withOutcome now status result).dump.map
          fun _ => current.withOutcome now status result
  /-- If not, that is logged, and no other ticket, queue or call is concerned. -/
  expires : ∀ now place c status result e,
    (afterAll i turns h).calls[place]? = some ⟨i, c, .publishing status result⟩ →
    ((get now c.ticket).run (afterAll i turns h).results).answer = .error e →
    (publish now place).run (afterAll i turns h) =
      ⟨.ok (), atStage { afterAll i turns h with results :=
        { (afterAll i turns h).results with
          redis := consulted c.ticket (afterAll i turns h).results } } place .over,
        ((get now c.ticket).run (afterAll i turns h).results).log ++ [expired c.ticket]⟩
  /-- It takes two turns for each call until nothing is ready. -/
  settles : ∀ now, Quiet (afterAll i
    (settling now (List.range (afterAll i turns h).calls.length)) (afterAll i turns h))
  /-- Where nothing is ready, every outcome was published, and what is awaited are the handlers that
  have not come to their end. -/
  published : Quiet (afterAll i turns h) → ∀ c ∈ delivered turns, ∀ outcome,
    Event.returned c.ticket outcome ∈ events i turns h → ∃ now status result,
      Due outcome status result ∧
      Event.step ⟨now, .publish c.ticket (.string status.text) result⟩ ∈ events i turns h
  count : Quiet (afterAll i turns h) → (afterAll i turns h).pendingCalls i =
    (delivered turns).countP fun c => !hasReturned (events i turns h) c.ticket
  /-- Closing leaves nothing to wait for, until something is delivered again. -/
  closed : ∀ now later, delivered later = [] → (afterAll i later
    ((⟨now, .close⟩ : Turn).after i (afterAll i turns h))).pendingCalls i = 0
  /-- Whatever comes after the closing, nothing more happens about the tickets of before, if nobody
  else uses them. -/
  silent : ∀ now later, (∀ t ∈ later, t.Spares (· ∈ (delivered turns).map Command.ticket)) →
    ∀ e ∈ events i later ((⟨now, .close⟩ : Turn).after i (afterAll i turns h)),
      ∀ c ∈ delivered turns, e.subject? ≠ some c.ticket

/-- Commands with distinct tickets are delivered to an open callback instance whose channel can hold
records.  However the steps of their calls follow each other, and whatever the handlers come to,
each ticket has its own outcome and no other. -/
theorem calls_run_their_course {turns : List Turn} (hcap : h.results.capacity = m)
    (hkeyed : Keyed h.results) (hcalls : h.calls = []) (hi : IsCallback i h)
    (hholds : (h.instanceAt i).holdsChannel = true)
    (hapart : ((delivered turns).map Command.ticket).Nodup)
    (hplays : ∀ t ∈ turns, t.Plays (· ∈ (delivered turns).map Command.ticket))
    (hpending : ∀ c ∈ delivered turns, Pending c.ticket h.results) : Served i turns h := by
  have hempty : Ledger i m (· ∈ (delivered turns).map Command.ticket) [] [] h := by
    refine ⟨hcap, hi, hholds, by rw [hcalls]; rfl, List.nodup_nil, by simp, ?_, by simp⟩
    intro place call hcall
    rw [hcalls] at hcall
    exact absurd hcall (by simp)
  obtain ⟨hl, hresults⟩ := hempty.run turns hplays (by rwa [List.nil_append])
  rw [List.nil_append, List.nil_append] at hl
  have howner : ∀ call ∈ (afterAll i turns h).calls, call.owner = i := by
    intro call hcall
    obtain ⟨place, hplace⟩ := List.mem_iff_getElem?.mp hcall
    exact (hl.course place call hplace).1
  have hdropped : ∀ (gone : String → Prop) (now : Timestamp),
      Dropped i m gone ((⟨now, .close⟩ : Turn).after i (afterAll i turns h)) := fun gone now =>
    dropped_after_close now hl.capacity hl.callback howner
  exact {
    course := fun c hc => by
      obtain ⟨place, call, -, hcourse⟩ := hl.exists_call hc
      exact ⟨call.stage, hcourse⟩
    channel := hresults
    waiting := fun c hc => hl.unpublished hc
    pending := fun c hc hunpublished => by
      rw [hresults]
      exact pending_runAll _ hcap hkeyed (hpending c hc) fun s hs =>
        hunpublished s (mem_step?.mp hs)
    outcome := fun c hc now status result hpublished =>
      hl.has hcap hkeyed hresults hc hpublished
    arrives := fun now place c status result current _ hget =>
      ⟨incoming?_of_ok hget (ResultStatus.ofJson?_text status),
        publish_answer hl.capacity hget (ResultStatus.ofJson?_text status)⟩
    expires := fun now place c status result e hcall hget => publish_run_of_error now hcall hget
    settles := fun now => hl.quiet_settling now _ fun place call hcall =>
      .inr (List.mem_range.mpr (List.getElem?_eq_some_iff.mp hcall).1)
    published := fun hquiet c hc outcome hreturned => by
      obtain ⟨place, call, hcall, hcourse⟩ := hl.exists_call hc
      have hmem : Event.returned c.ticket outcome ∈
          (events i turns h).filter (Event.isAbout c.ticket) :=
        List.mem_filter.mpr ⟨hreturned, by simp [Event.isAbout, Event.subject?]⟩
      obtain ⟨now, status, result, hdue, hpublished⟩ :=
        hcourse.exists_publication (hquiet call (List.mem_of_getElem? hcall)) hmem
      exact ⟨now, status, result, hdue, List.mem_of_mem_filter hpublished⟩
    count := fun hquiet => hl.pendingCalls hquiet
    closed := fun now later hnone => by
      have hd := (hdropped (fun _ => True) now).run later (by simp [hnone])
      exact pendingCalls_eq_zero _ i fun call hcall => hd.dropped call hcall trivial
    silent := fun now later hspares e he c hc hsubject =>
      (hdropped _ now).not_about_run later hspares e he c.ticket hsubject
        (List.mem_map_of_mem hc) }

/-! Two commands whose handlers come to their ends the other way round. -/

def sampleCommand (ticket : String) : Command := ⟨.callTool, "x", .null, ticket, ""⟩

def sampleHost : Host where
  instances := [{
    adapter := .callback ⟨[.returns (.int 7), .raises (.ofMessage .value "no")]⟩
    holdsChannel := true }]
  results := { capacity := 10, ttl := 60 }

def sampleTurns : List Turn :=
  [.deliver (sampleCommand "a"), .deliver (sampleCommand "b"), .run 1, .run 0, .notice 0, .notice 1,
    .publish 1, .publish 0].map (⟨⟨0⟩, ·⟩)

/-- The first outcome is that of the second command, and the other way round. -/
theorem calls_run_their_course_crossed :
    ((delivered sampleTurns).map Command.ticket).Nodup ∧ Served 0 sampleTurns sampleHost ∧
      (afterAll 0 sampleTurns sampleHost).results.records.map
        (fun r => (r.ticket, r.status, r.result)) =
        [("b", .success, .int 7), ("a", .error, .object [("error", .string "no")])] ∧
      (afterAll 0 sampleTurns sampleHost).pendingCalls 0 = 0 := by
  have hapart : ((delivered sampleTurns).map Command.ticket).Nodup := by decide
  have hnone : ∀ ticket r, ¬ Shown sampleHost.results ticket r := by
    rintro ticket r (⟨hmem, -⟩ | ⟨hconn, -, -⟩)
    · exact absurd hmem (by simp [sampleHost])
    · exact absurd hconn (by simp [sampleHost])
  refine ⟨hapart, ?_, by decide, by decide⟩
  exact calls_run_their_course (i := 0) (m := 10) rfl (keyed_of_memory rfl) rfl ⟨_, rfl⟩ rfl hapart
    (by simp [sampleTurns, Turn.Plays, delivered, Turn.delivered?]) fun c _ x hx =>
      absurd hx (hnone c.ticket x)

end CommandBridge.Callback
