import CommandBridge.Proofs.Dispatch.Turns

/-!
# CommandBridge.Proofs.Dispatch.Lifecycle

Which instances are open in a run of a bridge, whatever openings and deliveries do.

1. Openings and closings alternate, and each closing is of the instance opened last
   (`Alternates`), so an instance is open if and only if it is the bridge's opened one
   (`openings_eq_closings`).
2. The opened instance is the attached one, and none is open after a detachment or a shutdown
   (`run_opens_and_closes`).
3. A command goes to the opened instance only.  That one holds the result channel, unless its
   opening failed: nobody opens it again before the next command (`delivery_after_opening`).
-/

namespace CommandBridge.Bridge

/-! ## Alternation -/

namespace LifecycleEvent

/-- An opening of the instance `i`. -/
def isOpening (i : Nat) : LifecycleEvent → Bool
  | .opening j _ => j = i
  | .closing _ _ => false

/-- A closing of the instance `i`. -/
def isClosing (i : Nat) : LifecycleEvent → Bool
  | .opening _ _ => false
  | .closing j _ => j = i

/-- An event that can follow where `opened` is open: nothing but that is closed, and nothing is
opened before. -/
def Fits (opened : Option Nat) : LifecycleEvent → Prop
  | .opening _ _ => opened = none
  | .closing i _ => opened = some i

end LifecycleEvent

open LifecycleEvent

/-- Openings and closings alternate, and what is closed is what was opened; `opened` is open at
the start. -/
def Alternates (opened : Option Nat) : List LifecycleEvent → Prop
  | [] => True
  | e :: es => e.Fits opened ∧ Alternates e.leaves es

/-- What is open after events; `opened` is open at the start. -/
def openAfter (opened : Option Nat) (es : List LifecycleEvent) : Option Nat :=
  es.foldl (fun _ e => e.leaves) opened

variable {opened : Option Nat} {es : List LifecycleEvent} {e : LifecycleEvent} {s : Slots}

theorem openAfter_concat : openAfter opened (es ++ [e]) = e.leaves := by
  rw [openAfter, List.foldl_append]
  rfl

theorem alternates_concat :
    Alternates opened (es ++ [e]) ↔ Alternates opened es ∧ e.Fits (openAfter opened es) := by
  induction es generalizing opened with
  | nil => simp [Alternates, openAfter]
  | cons e' es ih =>
      rw [List.cons_append, Alternates, Alternates, ih, and_assoc]
      rfl

/-- An instance was opened as often as it was closed, apart from the one that is open at the start
and the one that is open at the end. -/
theorem openings_eq_closings (h : Alternates opened es) (i : Nat) :
    es.countP (isOpening i) + (if opened = some i then 1 else 0) =
      es.countP (isClosing i) + (if openAfter opened es = some i then 1 else 0) := by
  induction es generalizing opened with
  | nil => rfl
  | cons e es ih =>
      obtain ⟨hfits, hrest⟩ := h
      have hrest := ih hrest
      have hopen : openAfter opened (e :: es) = openAfter e.leaves es := rfl
      rw [hopen, List.countP_cons, List.countP_cons]
      cases e with
      | opening j c =>
          obtain rfl : opened = none := hfits
          simp only [leaves, isOpening, isClosing, Option.some.injEq, decide_eq_true_eq,
            reduceCtorEq, if_false, Bool.false_eq_true] at hrest ⊢
          omega
      | closing j c =>
          obtain rfl : opened = some j := hfits
          simp only [leaves, isOpening, isClosing, Option.some.injEq, decide_eq_true_eq,
            reduceCtorEq, if_false, Bool.false_eq_true] at hrest ⊢
          omega

theorem opens_change (e : LifecycleEvent) (t : Tenure) :
    (e.change t).opens = t.opens + if e.isOpening e.place then 1 else 0 := by
  cases e <;> simp [change, place, isOpening, Tenure.opened, Tenure.closed]

theorem closes_change (e : LifecycleEvent) (t : Tenure) :
    (e.change t).closes = t.closes + if e.isClosing e.place then 1 else 0 := by
  cases e <;> simp [change, place, isClosing, Tenure.opened, Tenure.closed]

theorem not_about {i : Nat} (h : e.place ≠ i) : e.isOpening i = false ∧ e.isClosing i = false := by
  cases e <;> simpa [place, isOpening, isClosing] using h

/-! ## What a run keeps -/

/-- The slots are those that the events `es` lead to. -/
structure Consistent (es : List LifecycleEvent) (s : Slots) : Prop where
  alternates : Alternates none es
  opened : s.opened = openAfter none es
  attached : ∀ i, s.opened = some i → s.attached = some i
  inRange : ∀ i, s.attached = some i → i < s.tenures.length
  counts : ∀ (i : Nat) (t : Tenure), s.tenures[i]? = some t →
    t.opens = es.countP (isOpening i) ∧ t.closes = es.countP (isClosing i)
  holds : ∀ i, es.getLast? = some (.opening i true) →
    ∃ t, s.tenures[i]? = some t ∧ t.holdsChannel = true

/-- A bridge with an empty slot, of whose instances none was ever opened. -/
structure Fresh (b : Bridge) : Prop where
  attached : b.attached = none
  opened : b.opened = none
  tenures : ∀ t ∈ b.host.tenures, t = ⟨0, 0, false⟩

theorem Fresh.consistent {b : Bridge} (h : b.Fresh) : Consistent [] b.slots where
  alternates := trivial
  opened := h.opened
  attached i hi := by simp [slots, h.opened] at hi
  inRange i hi := by simp [slots, h.attached] at hi
  counts i t ht := by
    obtain rfl := h.tenures t (List.mem_of_getElem? ht)
    exact ⟨rfl, rfl⟩
  holds i hi := by simp at hi

namespace Consistent

/-- An event that fits keeps the slots consistent; only the attached instance is opened. -/
theorem event (h : Consistent es s) (hfits : e.Fits s.opened)
    (hopening : ∀ i, e.leaves = some i → s.attached = some i) :
    Consistent (es ++ [e]) (e.on s) where
  alternates := alternates_concat.mpr ⟨h.alternates, h.opened ▸ hfits⟩
  opened := openAfter_concat.symm
  attached := hopening
  inRange i hi := by
    rw [LifecycleEvent.on, List.length_modify]
    exact h.inRange i hi
  counts i t ht := by
    rw [LifecycleEvent.on, List.getElem?_modify] at ht
    obtain ⟨t', ht', rfl⟩ := Option.map_eq_some_iff.mp ht
    obtain ⟨hopens, hcloses⟩ := h.counts i t' ht'
    rw [List.countP_append, List.countP_append, List.countP_singleton, List.countP_singleton]
    split
    · next hi =>
      subst hi
      rw [opens_change, closes_change, hopens, hcloses]
      exact ⟨rfl, rfl⟩
    · next hi =>
      rw [(not_about hi).1, (not_about hi).2]
      exact ⟨hopens, hcloses⟩
  holds i hi := by
    rw [List.getLast?_concat] at hi
    obtain rfl := Option.some.inj hi
    have hlt := h.inRange i (hopening i rfl)
    have hget : (LifecycleEvent.on (.opening i true) s).tenures[i]? =
        some (change (.opening i true) s.tenures[i]) := by
      rw [LifecycleEvent.on, List.getElem?_modify, List.getElem?_eq_getElem hlt]
      exact congrArg some (if_pos rfl)
    exact ⟨_, hget, by simp [change, Tenure.opened]⟩

/-- Emptying the slot, once nothing is open. -/
theorem detached (h : Consistent es s) (hopened : s.opened = none) :
    Consistent es { s with attached := none } :=
  { h with
    attached := fun i hi => by simp [hopened] at hi
    inRange := fun i hi => by simp at hi }

/-- Filling the slot if it is empty. -/
theorem attaches (h : Consistent es s) {i : Nat} (hi : i < s.tenures.length) :
    Consistent es { s with attached := s.attached.or (some i) } :=
  { h with
    attached := fun k hk => by rw [h.attached k hk]; rfl
    inRange := fun k hk => by
      cases ha : s.attached with
      | none =>
          rw [ha] at hk
          obtain rfl : i = k := Option.some.inj hk
          exact hi
      | some k' =>
          rw [ha] at hk
          obtain rfl : k' = k := Option.some.inj hk
          exact h.inRange k' ha }

variable {b : Bridge} {t : Turn}

/-- The attached instance is opened where nothing is open. -/
theorem opening_fits (h : Consistent es b.slots) (he : b.attached.bind b.opening? = some e) :
    e.Fits b.opened ∧ ∀ i, e.leaves = some i → b.attached = some i := by
  obtain ⟨i, hi, he⟩ := Option.bind_eq_some_iff.mp he
  rw [opening?] at he
  split at he
  · simp at he
  · next hne =>
    obtain rfl := Option.some.inj he
    refine ⟨?_, fun k hk => by rw [hi, ← hk]; rfl⟩
    cases hopened : b.opened with
    | none => rfl
    | some k =>
        have hk : b.attached = some k := h.attached k hopened
        exact absurd (hopened.trans (hk.symm.trans hi)) hne

/-- What is closed is open. -/
theorem closing_fits {o : Option Nat} (he : o.bind b.closing? = some e) :
    e.Fits b.opened ∧ e.leaves = none := by
  obtain ⟨i, -, he⟩ := Option.bind_eq_some_iff.mp he
  rw [closing?] at he
  split at he
  · next hopened =>
    obtain rfl := Option.some.inj he
    exact ⟨hopened, rfl⟩
  · simp at he

/-- What a turn opens or closes fits. -/
theorem event_fits (h : Consistent es b.slots) (he : t.event? b = some e) :
    e.Fits b.opened ∧ ∀ i, e.leaves = some i → b.attached = some i := by
  have hclosing : ∀ {o : Option Nat}, o.bind b.closing? = some e →
      e.Fits b.opened ∧ ∀ i, e.leaves = some i → b.attached = some i := by
    intro o ho
    obtain ⟨hfits, hnone⟩ := closing_fits ho
    exact ⟨hfits, fun i hi => by simp [hnone] at hi⟩
  obtain ⟨now, action⟩ := t
  cases action with
  | detach => exact hclosing he
  | startup => exact h.opening_fits he
  | shutdown => exact hclosing he
  | call c =>
      simp only [Turn.event?] at he
      split at he
      · simp at he
      · exact h.opening_fits he
  | _ => simp [Turn.event?] at he

theorem through (h : Consistent es s) {o : Option LifecycleEvent}
    (ho : ∀ e, o = some e → e.Fits s.opened ∧ ∀ i, e.leaves = some i → s.attached = some i) :
    Consistent (es ++ o.toList) (s.through o) := by
  cases o with
  | none =>
      rw [Option.toList_none, List.append_nil]
      exact h
  | some e =>
      obtain ⟨hfits, hopening⟩ := ho e rfl
      exact h.event hfits hopening

/-- Nothing is open once a bridge closed what was attached to it. -/
theorem opened_detach (h : Consistent es b.slots) :
    (b.slots.through (b.attached.bind b.closing?)).opened = none := by
  cases he : b.attached.bind b.closing? with
  | some e => exact (closing_fits he).2
  | none =>
      cases hopened : b.opened with
      | none => exact hopened
      | some k =>
          have hk : b.attached = some k := h.attached k hopened
          simp [hk, closing?, hopened] at he

/-- Nothing is open once a bridge closed what it had opened. -/
theorem opened_shutdown (b : Bridge) :
    (b.slots.through (b.opened.bind b.closing?)).opened = none := by
  cases hopened : b.opened with
  | none => exact hopened
  | some i =>
      rw [Option.bind_some, closing?, if_pos hopened]
      rfl

/-- A turn keeps the slots consistent. -/
theorem after (h : Consistent es b.slots)
    (hplace : ∀ i, t.action = .attach i → i < b.host.instances.length) :
    Consistent (es ++ (t.event? b).toList) (t.after b).slots := by
  have hthrough := h.through fun _ he => h.event_fits (t := t) he
  rw [slots_after]
  have hattached : (b.slots.through (t.event? b)).attached = b.attached :=
    b.slots.attached_through _
  obtain ⟨now, action⟩ := t
  cases action with
  | attach i =>
      have hi : i < b.slots.tenures.length := by
        rw [slots, Host.tenures, List.length_map]
        exact hplace i rfl
      exact hthrough.attaches hi
  | detach => exact hthrough.detached h.opened_detach
  | _ =>
      rw [← hattached]
      exact hthrough

end Consistent

theorem length_instances_after (t : Turn) (b : Bridge) :
    (t.after b).host.instances.length = b.host.instances.length := by
  have hslots := congrArg (fun s : Slots => s.tenures.length) (slots_after t b)
  simp only [slots, Host.tenures, List.length_map] at hslots
  rw [hslots]
  cases t.event? b with
  | none => exact List.length_map _
  | some e => exact (List.length_modify _ _ _).trans (List.length_map _)

/-- A run only attaches instances that there are. -/
def InRange (turns : List Turn) (b : Bridge) : Prop :=
  ∀ t ∈ turns, ∀ i, t.action = .attach i → i < b.host.instances.length

/-- A run keeps the slots consistent with what it opens and closes. -/
theorem Consistent.runAll {b : Bridge} (h : Consistent es b.slots) {turns : List Turn}
    (hrange : InRange turns b) :
    Consistent (es ++ events turns b) (Bridge.runAll turns b).slots := by
  induction turns generalizing b es with
  | nil =>
      rw [events, List.append_nil]
      exact h
  | cons t turns ih =>
      rw [events, ← List.append_assoc]
      refine ih (h.after fun i hi => hrange t List.mem_cons_self i hi) ?_
      intro t' ht' i hi
      rw [length_instances_after]
      exact hrange t' (List.mem_cons_of_mem t ht') i hi

/-! ## Openings and closings of a run -/

/-- An instance is open if and only if it is the opened one. -/
theorem Consistent.opens_eq {b : Bridge} (h : Consistent es b.slots) (i : Nat) :
    (b.host.instanceAt i).opens =
      (b.host.instanceAt i).closes + if b.opened = some i then 1 else 0 := by
  rcases Nat.lt_or_ge i b.host.instances.length with hi | hi
  · obtain ⟨hopens, hcloses⟩ := h.counts i _ (Host.tenures_getElem? hi)
    have hbalance := openings_eq_closings h.alternates i
    rw [← h.opened, ← hopens, ← hcloses, if_neg (by simp)] at hbalance
    exact hbalance
  · have hnot : b.opened ≠ some i := by
      intro hopened
      have hlt := h.inRange i (h.attached i hopened)
      rw [slots, Host.tenures, List.length_map] at hlt
      omega
    rw [if_neg hnot, Host.instanceAt, List.getElem?_eq_none hi]
    rfl

theorem attach_of_empty {b : Bridge} (h : b.attached = none) (i : Nat) :
    ((attach i).run b).answer = .ok () ∧
      ((attach i).run b).state = { b with attached := some i } := by
  rw [attach, Op.answer_bind_ok (a := b) rfl, Op.state_bind_ok (a := b) rfl, Op.run_get, h]
  exact ⟨rfl, rfl⟩

theorem attach_of_full {b : Bridge} {k : Nat} (h : b.attached = some k) (i : Nat) :
    (attach i).run b = ⟨.error (.bridge (.alreadyAttached b.label)), b, []⟩ := by
  rw [attach, Op.run_bind, Op.run_get]
  simp only [h]
  rfl

theorem backend_close (c : ResultChannel) :
    (ResultChannel.close.run c).answer = .ok () ∧
      (ResultChannel.close.run c).state.backend = "memory" := by
  rw [ResultChannel.close, Op.answer_bind_ok (a := c) rfl, Op.state_bind_ok (a := c) rfl,
    Op.run_get]
  cases hconn : c.connected with
  | true => exact ⟨rfl, rfl⟩
  | false => exact ⟨rfl, by simp [ResultChannel.backend, hconn]⟩

/-- A bridge that is shut down keeps its records in memory, unless closing fails. -/
theorem backend_shutdown {b : Bridge}
    (h : ∀ i, b.opened = some i → ((Host.closeInstance i).run b.host).completed = true) :
    (shutdown.run b).answer = .ok () ∧ (shutdown.run b).state.host.results.backend = "memory" := by
  have hlet : ∀ b : Bridge, ((onResults ResultChannel.close).run b).answer = .ok () ∧
      ((onResults ResultChannel.close).run b).state.host.results.backend = "memory" :=
    fun b => backend_close b.host.results
  rw [shutdown, Op.answer_bind_ok (a := b) rfl, Op.state_bind_ok (a := b) rfl, Op.run_get]
  cases hopened : b.opened with
  | none => exact hlet b
  | some i =>
      have hclosed : ((onHost (Host.closeInstance i)).run { b with opened := none }).answer =
          .ok () := by
        have hcompleted := h i hopened
        rw [Outcome.completed] at hcompleted
        split at hcompleted
        · next ha => exact ha
        · simp at hcompleted
      show ((onHost (Host.closeInstance i) >>= fun _ => onResults ResultChannel.close).run
          { b with opened := none }).answer = .ok () ∧
        ((onHost (Host.closeInstance i) >>= fun _ => onResults ResultChannel.close).run
          { b with opened := none }).state.host.results.backend = "memory"
      rw [Op.answer_bind_ok hclosed, Op.state_bind_ok hclosed]
      exact hlet _

/-- What a run opens and closes, whatever openings and deliveries do.

* Openings and closings alternate, and each closing is of the instance opened before it; they
  are all that instances see.
* The opened instance was opened once more often than it was closed, and any other as often.  It is
  the attached one.
* An instance can be attached if and only if the slot is empty; otherwise that fails and changes
  nothing.
* No instance is open after a detachment or a shutdown.  After a shutdown, records
  are in memory only, unless closing failed. -/
theorem run_opens_and_closes {b : Bridge} (hfresh : b.Fresh) {turns : List Turn}
    (hrange : InRange turns b) :
    let s := runAll turns b
    Alternates none (events turns b) ∧
    (∀ i < s.host.instances.length,
      (s.host.instanceAt i).opens = (events turns b).countP (isOpening i) ∧
      (s.host.instanceAt i).closes = (events turns b).countP (isClosing i)) ∧
    (∀ i, (s.host.instanceAt i).opens =
      (s.host.instanceAt i).closes + if s.opened = some i then 1 else 0) ∧
    (∀ i, s.opened = some i → s.attached = some i) ∧
    (∀ i, (s.attached = none → ((attach i).run s).answer = .ok () ∧
        ((attach i).run s).state = { s with attached := some i }) ∧
      ∀ k, s.attached = some k →
        (attach i).run s = ⟨.error (.bridge (.alreadyAttached s.label)), s, []⟩) ∧
    (∀ t : Turn, t.action = .detach ∨ t.action = .shutdown →
      (t.after s).opened = none ∧
      ∀ i, ((t.after s).host.instanceAt i).opens = ((t.after s).host.instanceAt i).closes) ∧
    ((∀ i, s.opened = some i → ((Host.closeInstance i).run s.host).completed = true) →
      (shutdown.run s).answer = .ok () ∧
        (shutdown.run s).state.host.results.backend = "memory") := by
  intro s
  have hrun : Consistent (events turns b) s.slots := hfresh.consistent.runAll hrange
  refine ⟨hrun.alternates, ?_, hrun.opens_eq, hrun.attached,
    fun i => ⟨fun h => attach_of_empty h i, fun k h => attach_of_full h i⟩, ?_, backend_shutdown⟩
  · intro i hi
    exact hrun.counts i _ (Host.tenures_getElem? hi)
  · intro t ht
    have hopened : (t.after s).opened = none := by
      have hslots : (t.after s).opened = (s.slots.through (t.event? s)).opened :=
        congrArg Slots.opened (slots_after t s)
      rw [hslots, Turn.event?]
      rcases ht with ht | ht
      · rw [ht]
        exact hrun.opened_detach
      · rw [ht]
        exact Consistent.opened_shutdown s
    have hafter : Consistent (events turns b ++ (t.event? s).toList) (t.after s).slots := by
      refine hrun.after fun i hi => ?_
      rcases ht with ht | ht <;> simp [ht] at hi
    refine ⟨hopened, fun i => ?_⟩
    rw [hafter.opens_eq, hopened, if_neg (by simp)]
    rfl

/-- A bridge with two instances, of which the first one fails to open once. -/
def reluctant : Bridge :=
  { host := {
      instances := [{ adapter := .recording { openings := [some (.ofMessage .runtime "no")] } }, {}]
      results := { capacity := 2, ttl := 60, connected := true } } }

/-- Calls of a tool, the first of which fails for want of an opening, with what else can happen
around them. -/
def eventful : List Turn :=
  [.attach 0, .call (.callTool "echo" .null), .attach 1, .detach, .attach 1, .startup, .shutdown,
    .call (.callTool "echo" .null)].map fun action => ⟨⟨0⟩, action⟩

theorem eventful_events : events eventful reluctant =
    [.opening 0 false, .closing 0 true, .opening 1 true, .closing 1 true, .opening 1 true] := by
  decide +kernel

theorem fresh_reluctant : reluctant.Fresh := ⟨rfl, rfl, by decide⟩

theorem inRange_eventful : InRange eventful reluctant := by
  intro t ht i hi
  simp only [eventful, List.map_cons, List.map_nil, List.mem_cons, List.not_mem_nil,
    or_false] at ht
  rcases ht with rfl | rfl | rfl | rfl | rfl | rfl | rfl | rfl <;> simp at hi
  all_goals
    subst hi
    decide

/-- The second instance was opened twice and closed once. -/
theorem run_opens_and_closes_eventful :
    reluctant.Fresh ∧ InRange eventful reluctant ∧
      ((runAll eventful reluctant).host.instanceAt 1).opens = 2 ∧
      ((runAll eventful reluctant).host.instanceAt 1).closes = 1 := by
  obtain ⟨-, hcounts, -⟩ := run_opens_and_closes fresh_reluctant inRange_eventful
  obtain ⟨hopens, hcloses⟩ := hcounts 1 (by decide +kernel)
  rw [hopens, hcloses, eventful_events]
  exact ⟨fresh_reluctant, inRange_eventful, rfl, rfl⟩

/-! ## Deliveries -/

theorem getLast?_of_openAfter {i : Nat} (h : openAfter none es = some i) :
    ∃ completed, es.getLast? = some (.opening i completed) := by
  rcases List.eq_nil_or_concat' es with rfl | ⟨es', e, rfl⟩
  · simp [openAfter] at h
  · rw [openAfter_concat] at h
    rw [List.getLast?_concat]
    cases e with
    | opening j c =>
        obtain rfl : j = i := Option.some.inj h
        exact ⟨c, rfl⟩
    | closing j c => simp [leaves] at h

/-- Whether its opening completed or failed, an instance is noted as the opened one. -/
theorem opened_ensureOpen (b : Bridge) (i : Nat) :
    ((ensureOpen i).run b).state.opened = some i := by
  have hslots : ((ensureOpen i).run b).state.opened = (b.slots.through (b.opening? i)).opened :=
    congrArg Slots.opened (slots_ensureOpen b i)
  rw [hslots, opening?]
  split
  · next hopened => exact hopened
  · rfl

/-- An opening that did not fail completed. -/
theorem opening?_of_ok {b : Bridge} {i : Nat} (h : ((ensureOpen i).run b).answer = .ok ())
    (he : b.opening? i = some e) : e = .opening i true := by
  rw [opening?] at he
  split at he
  · simp at he
  · next hne =>
    rw [ensureOpen, Op.answer_bind_ok (a := b) rfl, Op.run_get, if_neg hne] at h
    have hanswer : ((Host.openInstance i).run b.host).answer = .ok () := h
    rw [Outcome.completed, hanswer] at he
    exact (Option.some.inj he).symm

/-- To make the attached instance ready keeps the slots consistent. -/
theorem Consistent.ensureOpen {b : Bridge} (h : Consistent es b.slots) {i : Nat}
    (hi : b.attached = some i) :
    Consistent (es ++ (b.opening? i).toList) ((Bridge.ensureOpen i).run b).state.slots := by
  rw [slots_ensureOpen]
  exact h.through fun e he => h.opening_fits (by rw [hi]; exact he)

/-- An attached instance that was made ready holds the channel, unless its last opening failed
before. -/
theorem Consistent.holdsChannel {b : Bridge} (h : Consistent es b.slots) {i : Nat}
    (hi : b.attached = some i) (hopen : ((Bridge.ensureOpen i).run b).answer = .ok ()) :
    ((es ++ (b.opening? i).toList).getLast? = some (.opening i true) ∧
        (((Bridge.ensureOpen i).run b).state.host.instanceAt i).holdsChannel = true) ∨
      es.getLast? = some (.opening i false) := by
  have hready := h.ensureOpen hi
  have hopened : ((Bridge.ensureOpen i).run b).state.slots.opened = some i := opened_ensureOpen b i
  obtain ⟨completed, hlast⟩ := getLast?_of_openAfter (hready.opened.symm.trans hopened)
  cases completed with
  | true =>
      obtain ⟨t, ht, hholds⟩ := hready.holds i hlast
      have hlt := hready.inRange i (hready.attached i hopened)
      rw [slots, Host.tenures, List.length_map] at hlt
      obtain rfl := Option.some.inj ((Host.tenures_getElem? hlt).symm.trans ht)
      exact .inl ⟨hlast, hholds⟩
  | false =>
      -- an opening that failed is not one of now, which would have failed too
      cases he : b.opening? i with
      | none =>
          rw [he, Option.toList_none, List.append_nil] at hlast
          exact .inr hlast
      | some e =>
          rw [he, Option.toList_some, List.getLast?_concat] at hlast
          obtain rfl := opening?_of_ok hopen he
          simp at hlast

/-- Who is given the command of a call at the end of a run: nobody, or the attached instance.  What
the bridge opened or closed last is then an opening of that instance.

If that opening completed, the instance holds the result channel when it is given the command.  It
can only have failed before this call, since a call whose opening fails hands nothing over;
later calls do not open the instance again. -/
theorem delivery_after_opening {b : Bridge} (hfresh : b.Fresh) {turns : List Turn}
    (hrange : InRange turns b) (now : Timestamp) (call : Call) :
    let s := runAll turns b
    s.host.SameDeliveries ((call.run now).run s).state.host ∨
    ∃ i, s.attached = some i ∧
      ((call.run now).run s).state =
        ((handOver now i (call.command now s)).run (Call.readied i s)).state ∧
      ((events (turns ++ [⟨now, .call call⟩]) b).getLast? = some (.opening i true) ∧
          ((Call.readied i s).host.instanceAt i).holdsChannel = true ∨
        (events turns b).getLast? = some (.opening i false)) := by
  intro s
  have hrun : Consistent (events turns b) s.slots := hfresh.consistent.runAll hrange
  cases hname : call.nameless? with
  | some what =>
      rw [Call.run_of_nameless hname]
      exact .inl (.refl _)
  | none =>
  cases hi : s.attached with
  | none =>
      rw [(Call.run_of_named hname now s).2,
        (dispatch_unavailable now call.kind call.target call.arguments hi).2]
      exact .inl (.refl _)
  | some i =>
  cases hopen : ((ensureOpen i).run s).answer with
  | error e =>
      obtain ⟨opened, host, hstate, hsame⟩ := ensureOpen_frame s i
      rw [(Call.run_of_named hname now s).2,
        (dispatch_of_open_error now call.kind call.target call.arguments hi hopen).2, hstate]
      exact .inl hsame
  | ok u =>
      refine .inr ⟨i, rfl, (Call.run_of_open now hname hi hopen).2, ?_⟩
      have hevents : events (turns ++ [⟨now, .call call⟩]) b =
          events turns b ++ (s.opening? i).toList := by
        have hevent : (⟨now, .call call⟩ : Turn).event? s = s.opening? i := by
          simp [Turn.event?, hname, hi]
        rw [events_append, events, hevent]
        simp [events, s]
      rw [hevents]
      exact hrun.holdsChannel hi hopen

/-- The last instance of the run holds the channel when it is given another command. -/
theorem delivery_after_opening_eventful :
    reluctant.Fresh ∧ InRange eventful reluctant ∧
      ((Call.readied 1 (runAll eventful reluctant)).host.instanceAt 1).holdsChannel = true := by
  refine ⟨fresh_reluctant, inRange_eventful, ?_⟩
  rcases delivery_after_opening fresh_reluctant inRange_eventful ⟨0⟩ (.callTool "echo" .null) with
    hsame | ⟨i, hi, -, ⟨-, hholds⟩ | hfailed⟩
  · have hreceived := congrArg List.length (hsame.received 1)
    exact absurd hreceived (by decide +kernel)
  · obtain rfl : i = 1 := by
      have hattached : (runAll eventful reluctant).attached = some 1 := by decide +kernel
      exact Option.some.inj (hi.symm.trans hattached)
    exact hholds
  · rw [eventful_events] at hfailed
    simp at hfailed

/-- A command can go to an instance that was never opened without failing, and holds no
channel. -/
theorem delivery_after_failed_opening :
    let call : Turn := ⟨⟨0⟩, .call (.callTool "echo" .null)⟩
    let turns : List Turn := [⟨⟨0⟩, .attach 0⟩, call, call]
    events turns reluctant = [.opening 0 false] ∧
      ((runAll turns reluctant).host.received 0).length = 1 ∧
      ((runAll turns reluctant).host.instanceAt 0).holdsChannel = false := by
  decide +kernel

end CommandBridge.Bridge
