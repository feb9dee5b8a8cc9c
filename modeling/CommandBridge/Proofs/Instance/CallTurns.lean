import CommandBridge.Instance.Operations
import CommandBridge.Proofs.Progress
import CommandBridge.Proofs.Results.Backed

/-!
# CommandBridge.Proofs.Instance.CallTurns

A callback instance, turn by turn.  Its calls take their steps one at a time and in any order, while
commands are delivered and the channel is used: a turn is one such step, and `Turn.events` says what
happens in it.  There is one equation for what each sort of turn leaves (`after_deliver`,
`after_run`, `after_notice`, `after_publish`, `after_close`).

Calls that are run together are run by such turns (`runCalls_state`).
-/

namespace CommandBridge.Callback

open ResultChannel

/-! ## Turns -/

/-- What can happen to a callback instance, to one of its calls, and on the result channel. -/
inductive Move where
  | deliver (c : Command)
  | run (place : Nat)
  | notice (place : Nat)
  | publish (place : Nat)
  | close
  | channel (o : ChannelOperation)

/-- A move, and the time at which it is made. -/
structure Turn where
  now : Timestamp
  move : Move

/-- What happened in a turn: an operation on the channel, or a handler came to its end. -/
inductive Event where
  | step (s : Step)
  | returned (ticket : String) (outcome : Except Fault Json)

namespace Event

/-- The ticket that an event changes something about. -/
def subject? : Event → Option String
  | .step s => s.subject?
  | .returned ticket _ => some ticket

/-- The operation on the channel that an event is. -/
def step? : Event → Option Step
  | .step s => some s
  | .returned _ _ => none

/-- Whether an event changes something about a ticket. -/
def isAbout (ticket : String) (e : Event) : Bool := e.subject? = some ticket

end Event

/-- What the next handler call of an instance comes to. -/
def outcomeAt (h : Host) (i : Nat) : HandlerOutcome :=
  match (h.instanceAt i).adapter with
  | .callback c => c.outcomes.head?.getD .echo
  | _ => .echo

namespace Turn

variable (i : Nat) (t : Turn) (h : Host)

/-- A turn of the instance at place `i`.  A command that is delivered is registered before. -/
def operation : Op Host Unit :=
  match t.move with
  | .deliver c => do
      discard (Host.onResults (register t.now c))
      discard (Host.deliver t.now i c)
  | .run place => discard (runHandler place)
  | .notice place => Callback.notice place
  | .publish place => Callback.publish t.now place
  | .close => Host.closeInstance i
  | .channel o => Host.onResults (o.run t.now)

/-- The host after a turn. -/
def after : Host := ((t.operation i).run h).state

/-- The command that a turn delivers. -/
def delivered? : Option Command :=
  match t.move with
  | .deliver c => some c
  | _ => none

/-- What happens in a turn. -/
def events : List Event :=
  match t.move with
  | .deliver c => [.step ⟨t.now, .register c⟩]
  | .run place =>
    match h.calls[place]? with
    | some ⟨owner, c, .queued⟩ => [.returned c.ticket ((outcomeAt h owner).on c)]
    | _ => []
  | .publish place =>
    match h.calls[place]? with
    | some ⟨_, c, .publishing status result⟩ =>
      [.step ⟨t.now, .publish c.ticket (.string status.text) result⟩]
    | _ => []
  | .channel o => [.step ⟨t.now, o⟩]
  | _ => []

end Turn

/-- The host after a run. -/
def afterAll (i : Nat) (turns : List Turn) (h : Host) : Host :=
  turns.foldl (fun h t => t.after i h) h

/-- What happens in a run. -/
def events (i : Nat) : List Turn → Host → List Event
  | [], _ => []
  | t :: rest, h => t.events h ++ events i rest (t.after i h)

/-- The commands that a run delivers. -/
def delivered (turns : List Turn) : List Command := turns.filterMap Turn.delivered?

/-! ## What each turn does -/

variable {h : Host} {i place : Nat} {call : HandlerCall} {c : Command} {status : ResultStatus}
  {result : Json} {outcome : Except Fault Json} {now : Timestamp} {m : Nat}

/-- A host whose call at a place has come to a stage. -/
def atStage (h : Host) (place : Nat) (stage : CallStage) : Host :=
  { h with calls := h.calls.modify place fun c => { c with stage := stage } }

/-- The call at the place is what it was but for its stage, and the others are what they were. -/
theorem getElem?_atStage {stage : CallStage} {place' : Nat}
    (hcall : (atStage h place stage).calls[place']? = some call) :
    (place' = place ∧ ∃ x, h.calls[place]? = some x ∧ call = { x with stage }) ∨
      (place' ≠ place ∧ h.calls[place']? = some call) := by
  rw [atStage, List.getElem?_modify] at hcall
  obtain ⟨x, hx, rfl⟩ := Option.map_eq_some_iff.mp hcall
  by_cases hplace : place = place'
  · subst hplace
    rw [if_pos rfl]
    exact .inl ⟨rfl, x, hx, rfl⟩
  · rw [if_neg hplace]
    exact .inr ⟨Ne.symm hplace, hx⟩

/-- A host whose instance at a place is a callback instance. -/
def IsCallback (i : Nat) (h : Host) : Prop := ∃ c, (h.instanceAt i).adapter = .callback c

theorem instanceAt_modify (hi : IsCallback i h) (f : Instance → Instance) :
    ({ h with instances := h.instances.modify i f } : Host).instanceAt i = f (h.instanceAt i) := by
  obtain ⟨c, hc⟩ := hi
  rw [Host.instanceAt, Host.instanceAt, List.getElem?_modify_eq]
  cases hinstance : h.instances[i]? with
  | some a => rfl
  | none =>
      have hdefault : (default : Instance).adapter = .recording {} := rfl
      rw [Host.instanceAt, hinstance, Option.getD_none, hdefault] at hc
      exact absurd hc (by simp)

theorem nextOutcome_answer (h : Host) (i : Nat) :
    ((nextOutcome i).run h).answer = .ok (outcomeAt h i) := by
  rw [nextOutcome, Op.answer_bind_ok (a := h) rfl, Op.run_get, outcomeAt]
  cases (h.instanceAt i).adapter <;> rfl

/-- The host after the outcome of a handler call was used up. -/
def used (h : Host) (i : Nat) : Host := ((nextOutcome i).run h).state

/-- Using up an outcome changes the script of the handler and nothing else. -/
theorem used_spec (hi : IsCallback i h) :
    (∃ instances, used h i = { h with instances := instances }) ∧ IsCallback i (used h i) ∧
      ((used h i).instanceAt i).holdsChannel = (h.instanceAt i).holdsChannel := by
  obtain ⟨c, hc⟩ := hi
  have hused : used h i = { h with instances := h.instances.modify i fun a =>
      { a with adapter := .callback { c with outcomes := c.outcomes.tail } } } := by
    rw [used, nextOutcome, Op.state_bind_ok (a := h) rfl, Op.run_get, hc]
    rfl
  rw [hused, IsCallback, instanceAt_modify ⟨c, hc⟩]
  exact ⟨⟨_, rfl⟩, ⟨_, rfl⟩, rfl⟩

theorem after_run (now : Timestamp) (i place : Nat) (h : Host) :
    (⟨now, .run place⟩ : Turn).after i h =
      match h.calls[place]? with
      | some ⟨owner, c, .queued⟩ =>
        atStage (used h owner) place (.finished ((outcomeAt h owner).on c))
      | _ => h := by
  show ((discard (runHandler place)).run h).state = _
  rw [Op.run_discard, runHandler, Op.state_bind_ok (a := h) rfl, Op.run_get]
  rcases h.calls[place]? with _ | ⟨owner, c, stage⟩
  · rfl
  · cases stage with
    | queued =>
        dsimp only
        rw [Op.state_bind_ok (nextOutcome_answer h owner)]
        rfl
    | _ => rfl

theorem after_notice (now : Timestamp) (i place : Nat) (h : Host) :
    (⟨now, .notice place⟩ : Turn).after i h =
      match h.calls[place]? with
      | some ⟨owner, _, .finished outcome⟩ =>
        atStage h place (if (h.instanceAt owner).holdsChannel then
          .publishing (publication outcome).1 (publication outcome).2 else .over)
      | _ => h := by
  show ((Callback.notice place).run h).state = _
  rw [Callback.notice, Op.state_bind_ok (a := h) rfl, Op.run_get]
  rcases h.calls[place]? with _ | ⟨owner, c, stage⟩
  · rfl
  · cases stage with
    | finished outcome =>
        dsimp only
        cases (h.instanceAt owner).holdsChannel with
        | true => cases outcome <;> rfl
        | false => rfl
    | _ => rfl

theorem after_publish (now : Timestamp) (i place : Nat) (h : Host) :
    (⟨now, .publish place⟩ : Turn).after i h =
      match h.calls[place]? with
      | some ⟨_, c, .publishing status result⟩ =>
        atStage { h with
          results :=
            (⟨now, .publish c.ticket (.string status.text) result⟩ : Step).after h.results }
          place .over
      | _ => h := by
  show ((Callback.publish now place).run h).state = _
  rw [Callback.publish, Op.state_bind_ok (a := h) rfl, Op.run_get]
  rcases h.calls[place]? with _ | ⟨owner, c, stage⟩
  · rfl
  · cases stage with
    | publishing status result =>
        dsimp only
        rw [Op.state_bind_ok (by rw [Op.run_attempt]), Step.after, ChannelOperation.run,
          Op.run_discard]
        split <;> rfl
    | _ => rfl

/-- What is logged of an outcome that nobody waits for any more. -/
def expired (ticket : String) : Log.Entry :=
  Log.event .callback .warning "result_ticket_expired" [("ticket", .string ticket)]

/-- An outcome whose ticket cannot be found is logged, and changes nothing but its own call. -/
theorem publish_run_of_error (now : Timestamp) {e : Failure}
    (hcall : h.calls[place]? = some ⟨i, c, .publishing status result⟩)
    (hget : ((get now c.ticket).run h.results).answer = .error e) :
    (publish now place).run h = ⟨.ok (), atStage { h with
        results := { h.results with redis := consulted c.ticket h.results } } place .over,
      ((get now c.ticket).run h.results).log ++ [expired c.ticket]⟩ := by
  have hlost : (publishOutcome now c.ticket status result).run h.results =
      ⟨.error (.bridge (.resultNotFound c.ticket)),
        { h.results with redis := consulted c.ticket h.results },
        ((get now c.ticket).run h.results).log⟩ := by
    rw [get_answer_of_error hget] at hget
    rw [← get_state now c.ticket, publishOutcome, ResultChannel.publish, Op.run_bind]
    rcases hrun : (get now c.ticket).run h.results with ⟨answer, state, log⟩
    rw [hrun] at hget
    obtain rfl : answer = .error (.bridge (.resultNotFound c.ticket)) := hget
    rfl
  rw [publish, Op.run_bind, Op.run_get]
  simp only [hcall, Op.run_bind, Op.run_attempt, Host.onResults, Op.run_on, hlost]
  simp [Op.event, atStage, expired]

theorem after_deliver (now : Timestamp) (c : Command) (hi : IsCallback i h)
    (hcap : h.results.capacity = m) :
    ((⟨now, .deliver c⟩ : Turn).after i h) =
      { h with
        results := (⟨now, .register c⟩ : Step).after h.results
        calls := h.calls ++ [⟨i, c, .queued⟩] } := by
  obtain ⟨a, ha⟩ := hi
  have hregister : ((discard (Host.onResults (register now c)) : Op Host Unit).run h).answer =
      .ok () := by
    rw [Op.run_discard, Host.onResults, Op.run_on, register_answer hcap]
    rfl
  have hafter : ((⟨now, .register c⟩ : Step).after h.results) =
      ((register now c).run h.results).state := by
    rw [Step.after, ChannelOperation.run, Op.run_discard]
  have hdeliver : ∀ g : Host, (g.instanceAt i).adapter = .callback a →
      ((Host.deliver now i c).run g).state = { g with calls := g.calls ++ [⟨i, c, .queued⟩] } := by
    intro g hg
    rw [Host.deliver, Op.state_bind_ok (a := g) rfl, Op.run_get, hg]
    rfl
  show ((discard (Host.onResults (register now c)) >>= fun _ =>
    discard (Host.deliver now i c)).run h).state = _
  rw [Op.state_bind_ok hregister, Op.run_discard, Op.run_discard, hafter]
  exact hdeliver { h with results := ((register now c).run h.results).state } ha

/-- A change of an instance that leaves its sort leaves a callback instance. -/
theorem isCallback_modify (hi : IsCallback i h) {f : Instance → Instance}
    (hf : ∀ a, (f a).adapter = a.adapter) :
    IsCallback i { h with instances := h.instances.modify i f } := by
  rw [IsCallback, instanceAt_modify hi, hf]
  exact hi

/-- Closing a callback instance drops its calls. -/
theorem after_close (now : Timestamp) (hi : IsCallback i h) :
    (∃ instances, (⟨now, .close⟩ : Turn).after i h =
        { h with instances := instances, calls := h.calls.map (cancel i) }) ∧
      IsCallback i ((⟨now, .close⟩ : Turn).after i h) := by
  have hcounted := isCallback_modify hi (f := fun a => { a with closes := a.closes + 1 })
    fun _ => rfl
  have hclosed : (⟨now, .close⟩ : Turn).after i h = { h with
      instances := (h.instances.modify i fun a => { a with closes := a.closes + 1 }).modify i
        fun a => { a with holdsChannel := false }
      calls := h.calls.map (cancel i) } := by
    obtain ⟨c, hc⟩ := hcounted
    show ((Host.closeInstance i).run h).state = _
    rw [Host.closeInstance, Op.state_bind_ok (a := ()) rfl, Op.state_bind_ok rfl]
    dsimp only [Host.update, Op.run_modify, Op.run_get]
    rw [hc]
    rfl
  rw [hclosed]
  exact ⟨⟨_, rfl⟩, isCallback_modify hcounted fun _ => rfl⟩

/-! ## Batches -/

theorem total_runHandler (place : Nat) : (runHandler place).Total := by
  refine .bind .get fun h => ?_
  split
  · exact .pure _
  · split
    · exact .bind (fun h => ⟨_, nextOutcome_answer h _⟩) fun _ =>
        .bind (.modify _) fun _ => .pure _
    · exact .pure _

theorem total_notice (place : Nat) : (notice place).Total := by
  refine .bind .get fun h => ?_
  split
  · exact .pure _
  · split
    · split
      · exact .modify _
      · dsimp only
        split
        · exact .bind (.event _ _ _ _) fun _ => .modify _
        · exact .modify _
    · exact .pure _

theorem total_publish (now : Timestamp) (place : Nat) : (publish now place).Total := by
  refine .bind .get fun h => ?_
  split
  · exact .pure _
  · split
    · refine .bind (.attempt _) fun r => ?_
      dsimp only
      split
      · exact .bind (.event _ _ _ _) fun _ => .modify _
      · exact .modify _
    · exact .pure _

/-- The turns of a batch of calls: all handlers come to their end, then all of that is noticed, and
then all outcomes are published. -/
def batch (now : Timestamp) (places : List Nat) : List Turn :=
  places.map (⟨now, .run ·⟩) ++ places.map (⟨now, .notice ·⟩) ++ places.map (⟨now, .publish ·⟩)

/-- The places of the calls that are run together. -/
def chosen (limit : Option Nat) (newestFirst : Bool) (h : Host) : List Nat :=
  takeSome limit (if newestFirst then (List.range h.calls.length).reverse
    else List.range h.calls.length)

/-- A host without the calls at some places. -/
def without (places : List Nat) (h : Host) : Host :=
  { h with calls := (h.calls.zipIdx.filter fun c => !places.contains c.2).map (·.1) }

theorem afterAll_batch (now : Timestamp) (places : List Nat) (i : Nat) (h : Host) :
    afterAll i (batch now places) h =
      places.foldl (fun h p => ((Callback.publish now p).run h).state)
        (places.foldl (fun h p => ((notice p).run h).state)
          (places.foldl (fun h p => ((runHandler p).run h).state) h)) := by
  have hran : ∀ (h : Host) (p : Nat),
      (⟨now, .run p⟩ : Turn).after i h = ((runHandler p).run h).state := by
    intro h p
    show ((discard (runHandler p)).run h).state = _
    rw [Op.run_discard]
  rw [afterAll, batch, List.foldl_append, List.foldl_append, List.foldl_map, List.foldl_map,
    List.foldl_map]
  simp only [hran]
  rfl

/-- Calls that are run together get these turns, and leave. -/
theorem runCalls_state (now : Timestamp) (limit : Option Nat) (newestFirst : Bool) (i : Nat)
    (h : Host) :
    ((runCalls now limit newestFirst).run h).state =
      without (chosen limit newestFirst h)
        (afterAll i (batch now (chosen limit newestFirst h)) h) := by
  obtain ⟨⟨ran, hran⟩, hstate⟩ := Op.run_mapM_of_total total_runHandler
    (chosen limit newestFirst h) h
  rw [afterAll_batch, ← hstate, ← Op.state_forM_of_total total_notice,
    ← Op.state_forM_of_total (total_publish now)]
  obtain ⟨_, hnoticed⟩ := Op.Total.forM total_notice (chosen limit newestFirst h)
    (((chosen limit newestFirst h).mapM runHandler).run h).state
  obtain ⟨_, hpublished⟩ := Op.Total.forM (total_publish now) (chosen limit newestFirst h)
    (((chosen limit newestFirst h).forM notice).run
      (((chosen limit newestFirst h).mapM runHandler).run h).state).state
  rw [runCalls, Op.state_bind_ok (a := h) rfl]
  exact (Op.state_bind_ok hran).trans ((Op.state_bind_ok hnoticed).trans
    (Op.state_bind_ok hpublished))

end CommandBridge.Callback
