import CommandBridge.Proofs.Results.RecordMap

/-!
# CommandBridge.Proofs.Results.Run

Runs of a result channel: lists of operations, each at its own reading of the clock, of which
some store a record and some do not.  The history of a run is the list of the stores
that took place, and the map only ever changes by them (`Step.after_eq`).

A store is not always a success: a publication whose record has no body stores it and fails then.
So the successes of a run are the stores of a record that can be dumped (`successes_eq_filter`).

A record that is stored stays until as many others have been stored after it as the
map can hold (`exists_record_of_few_others`).
-/

namespace CommandBridge.ResultChannel

open Recency

/-- An operation, and the time at which it is done. -/
structure Step where
  now : Timestamp
  operation : ChannelOperation
  deriving DecidableEq

/-- A store that took place: the step it was, and the record that was stored. -/
structure Stored where
  step : Step
  record : Record
  deriving DecidableEq

/-- The ticket whose record was stored. -/
def Stored.ticket (x : Stored) : String := x.record.ticket

namespace Step

/-- The channel after a step. -/
def after (s : Step) (c : ResultChannel) : ResultChannel :=
  ((s.operation.run s.now).run c).state

/-- The record that a step answers with, if it is a registration or a publication
and succeeds. -/
def answered? (s : Step) (c : ResultChannel) : Option Record :=
  match s.operation with
  | .register command => ((register s.now command).run c).answer.toOption
  | .publish ticket status result => ((publish s.now ticket status result).run c).answer.toOption
  | _ => none

/-- The record that a step puts into the map, if it puts one there. -/
def stores? (s : Step) (c : ResultChannel) : Option Record :=
  match s.operation with
  | .register command => some (Record.ofCommand command s.now)
  | .publish ticket status result => incoming? s.now ticket status result c
  | _ => none

/-- The store that a step is, if it is one. -/
def stored? (s : Step) (c : ResultChannel) : Option Stored := (s.stores? c).map fun r => ⟨s, r⟩

/-- The queues after a step: they are offered what is published. -/
def queuesAfter (s : Step) (c : ResultChannel) : List EventQueue :=
  match s.operation with
  | .publish _ _ _ =>
    match s.stores? c with
    | some r => offered r c.queues
    | none => c.queues
  | .subscribe limit => c.queues ++ [⟨limit, [], true⟩]
  | .unsubscribe place => c.queues.modify place fun q => { q with isOpen := false }
  | .drain place => c.queues.modify place fun q => { q with pending := [] }
  | _ => c.queues

/-- What Redis is like after the look-up of a step, if it begins with one. -/
def redisAsked (s : Step) (c : ResultChannel) : Redis :=
  match s.operation with
  | .publish ticket _ _ => consulted ticket c
  | .get ticket => consulted ticket c
  | _ => c.redis

/-- What Redis is like after a step. -/
def redisAfter (s : Step) (c : ResultChannel) : Redis :=
  match s.stores? c with
  | some r => written r { c with redis := s.redisAsked c }
  | none => s.redisAsked c

/-- The ticket that a step registers. -/
def registered? (s : Step) : Option String :=
  match s.operation with
  | .register command => some command.ticket
  | _ => none

end Step

/-- The channel after a run. -/
def runAll (steps : List Step) (c : ResultChannel) : ResultChannel :=
  steps.foldl (fun c s => s.after c) c

/-- The stores of a run, in their order. -/
def history : List Step → ResultChannel → List Stored
  | [], _ => []
  | s :: rest, c => (s.stored? c).toList ++ history rest (s.after c)

/-- The stores of a run that are answered, in their order. -/
def successes : List Step → ResultChannel → List Stored
  | [], _ => []
  | s :: rest, c => ((s.answered? c).map fun r => ⟨s, r⟩).toList ++ successes rest (s.after c)

/-- The tickets that a run stores, in the order of the stores. -/
def storedTickets (steps : List Step) (c : ResultChannel) : List String :=
  (history steps c).map Stored.ticket

@[simp] theorem runAll_nil (c : ResultChannel) : runAll [] c = c := rfl

@[simp] theorem runAll_cons (s : Step) (steps : List Step) (c : ResultChannel) :
    runAll (s :: steps) c = runAll steps (s.after c) := rfl

theorem runAll_append (steps steps' : List Step) (c : ResultChannel) :
    runAll (steps ++ steps') c = runAll steps' (runAll steps c) := List.foldl_append

/-! ## One step -/

variable {c : ResultChannel} {m : Nat}

namespace Step

/-- A record that was just registered has a body. -/
theorem dumpable_ofCommand (command : Command) (now : Timestamp) :
    (Record.ofCommand command now).Dumpable := rfl

/-- A step answers with the record that it stores, if that has a body. -/
theorem answered?_eq (hcap : c.capacity = m) (s : Step) :
    s.answered? c = (s.stores? c).filter fun r => r.Dumpable := by
  obtain ⟨now, operation⟩ := s
  cases operation with
  | register command =>
      simp [answered?, stores?, register_answer hcap, Except.toOption, Option.filter,
        dumpable_ofCommand]
  | publish ticket status result => exact toOption_publish_answer hcap
  | _ => rfl

/-- All that a step does: the map changes by what it stores, and capacity and connection stay. -/
theorem after_eq (hcap : c.capacity = m) (s : Step) :
    s.after c =
      { c with
        records := match s.stores? c with
          | some r => kept m r c.records
          | none => c.records
        queues := s.queuesAfter c
        redis := s.redisAfter c } := by
  obtain ⟨now, operation⟩ := s
  cases operation with
  | register command =>
      simp [after, stores?, queuesAfter, redisAfter, redisAsked, ChannelOperation.run,
        register_state hcap]
  | publish ticket status result =>
      simp only [after, stores?, queuesAfter, redisAfter, redisAsked, ChannelOperation.run,
        Op.run_discard]
      cases h : incoming? now ticket status result c with
      | none => exact publish_state_of_none h
      | some r => exact publish_state hcap h
  | get ticket =>
      simp [after, stores?, queuesAfter, redisAfter, redisAsked, ChannelOperation.run, get_state]
  | subscribe limit => rfl
  | unsubscribe place => rfl
  | drain place => rfl

theorem capacity_after (hcap : c.capacity = m) (s : Step) : (s.after c).capacity = m := by
  rw [s.after_eq hcap]
  exact hcap

theorem connected_after (hcap : c.capacity = m) (s : Step) :
    (s.after c).connected = c.connected := by
  rw [s.after_eq hcap]

theorem nesting_after (hcap : c.capacity = m) (s : Step) : (s.after c).nesting = c.nesting := by
  rw [s.after_eq hcap]

theorem records_after_of_none (hcap : c.capacity = m) {s : Step} (h : s.stores? c = none) :
    (s.after c).records = c.records := by
  rw [s.after_eq hcap, h]

theorem records_after_of_some (hcap : c.capacity = m) {s : Step} {r : Record}
    (h : s.stores? c = some r) : (s.after c).records = kept m r c.records := by
  rw [s.after_eq hcap, h]

theorem redis_after (hcap : c.capacity = m) (s : Step) : (s.after c).redis = s.redisAfter c := by
  rw [s.after_eq hcap]

theorem queues_after (hcap : c.capacity = m) (s : Step) :
    (s.after c).queues = s.queuesAfter c := by
  rw [s.after_eq hcap]

end Step

/-! ## Whole runs -/

theorem capacity_runAll (steps : List Step) (hcap : c.capacity = m) :
    (runAll steps c).capacity = m := by
  induction steps generalizing c with
  | nil => exact hcap
  | cons s rest ih => exact ih (s.capacity_after hcap)

/-- The successes of a run are the stores of records that can be dumped. -/
theorem successes_eq_filter (steps : List Step) (hcap : c.capacity = m) :
    successes steps c = (history steps c).filter fun x => x.record.Dumpable := by
  induction steps generalizing c with
  | nil => rfl
  | cons s rest ih =>
      rw [successes, history, List.filter_append, ih (s.capacity_after hcap), s.answered?_eq hcap,
        Step.stored?]
      cases s.stores? c with
      | none => rfl
      | some r => by_cases hr : r.Dumpable <;> simp [Option.filter, hr]

/-! ## What stays in the map -/

/-- The newest records of a map: that of `ticket`, and after it only records of some other
tickets, one of each at most. -/
def NewerOnly (ticket : String) (others : Finset String) (records : List Record) : Prop :=
  ∃ older r newer, records = older ++ r :: newer ∧ r.ticket = ticket ∧
    (newer.map Record.ticket).Nodup ∧ ∀ x ∈ newer, x.ticket ∈ others ∧ x.ticket ≠ ticket

variable {ticket : String} {others : Finset String} {records : List Record}

theorem NewerOnly.exists_find? (h : NewerOnly ticket others records) :
    ∃ r, find? ticket records = some r := by
  obtain ⟨older, r, newer, rfl, hr, -, -⟩ := h
  rw [← Option.isSome_iff_exists, find?, List.find?_isSome]
  exact ⟨r, by simp, by simpa using hr⟩

/-- A record that was just stored has no newer ones. -/
theorem newerOnly_kept (hm : 1 ≤ m) {r : Record} (hr : r.ticket = ticket) :
    NewerOnly ticket others (kept m r records) := by
  obtain ⟨n, rfl⟩ : ∃ n, m = n + 1 := ⟨m - 1, by omega⟩
  rw [kept, insertNewest, List.rtake_concat_succ]
  exact ⟨_, r, [], rfl, hr, by simp, by simp⟩

/-- Storing another record evicts none of the newest ones while there is room for them all. -/
theorem NewerOnly.store_other (h : NewerOnly ticket others records) {x : Record}
    (hx : x.ticket ∈ others) (hne : x.ticket ≠ ticket) (hfew : others.card < m) :
    NewerOnly ticket others (kept m x records) := by
  obtain ⟨older, r, newer, rfl, hr, hnodup, hnewer⟩ := h
  let newer' := newer.filter (fun y => y.ticket ≠ x.ticket) ++ [x]
  have hrne : r.ticket ≠ x.ticket := by rw [hr]; exact hne.symm
  have hinsert : insertNewest x (older ++ r :: newer) =
      older.filter (fun y => y.ticket ≠ x.ticket) ++ r :: newer' := by
    simp [insertNewest, hrne, newer']
  have hnodup' : (newer'.map Record.ticket).Nodup := nodup_insertNewest hnodup x
  have hnewer' : ∀ y ∈ newer', y.ticket ∈ others ∧ y.ticket ≠ ticket := by
    intro y hy
    rcases List.mem_append.mp hy with hy | hy
    · exact hnewer y (List.mem_filter.mp hy).1
    · rw [List.mem_singleton.mp hy]
      exact ⟨hx, hne⟩
  have hlength : newer'.length ≤ others.card := by
    rw [← List.length_map, ← List.toFinset_card_of_nodup hnodup']
    apply Finset.card_le_card
    intro a ha
    obtain ⟨y, hy, rfl⟩ := List.mem_map.mp (List.mem_toFinset.mp ha)
    exact (hnewer' y hy).1
  rw [kept, hinsert, rtake_append_of_ge (by rw [List.length_cons]; omega)]
  exact ⟨_, r, newer', rfl, hr, hnodup', hnewer'⟩

/-- One step of a run keeps the record if it stores one of the few other tickets, or none. -/
theorem NewerOnly.after (h : NewerOnly ticket others c.records) (hm : 1 ≤ m)
    (hcap : c.capacity = m) (hfew : others.card < m) {s : Step}
    (hs : ∀ x ∈ s.stored? c, x.ticket ≠ ticket → x.ticket ∈ others) :
    NewerOnly ticket others (s.after c).records := by
  cases hr : s.stores? c with
  | none => rwa [Step.records_after_of_none hcap hr]
  | some r =>
      rw [Step.records_after_of_some hcap hr]
      by_cases hticket : r.ticket = ticket
      · exact newerOnly_kept hm hticket
      · have hother := hs ⟨s, r⟩ (by simp [Step.stored?, hr]) hticket
        exact h.store_other hother hticket hfew

/-- A record stays while fewer other tickets are stored than the map can hold records. -/
theorem newerOnly_runAll (hm : 1 ≤ m) (hfew : others.card < m) (steps : List Step)
    (hcap : c.capacity = m) (h : NewerOnly ticket others c.records)
    (hothers : ∀ t ∈ storedTickets steps c, t ≠ ticket → t ∈ others) :
    NewerOnly ticket others (runAll steps c).records := by
  induction steps generalizing c with
  | nil => exact h
  | cons s rest ih =>
      have hstored : storedTickets (s :: rest) c =
          (s.stored? c).toList.map Stored.ticket ++ storedTickets rest (s.after c) := by
        simp [storedTickets, history]
      rw [hstored] at hothers
      refine ih (s.capacity_after hcap) (h.after hm hcap hfew ?_) ?_
      · intro x hx
        apply hothers x.ticket
        exact List.mem_append_left _ (List.mem_map_of_mem (by simpa using hx))
      · intro t ht
        exact hothers t (List.mem_append_right _ ht)

end CommandBridge.ResultChannel
