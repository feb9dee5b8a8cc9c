import CommandBridge.Proofs.Results.Run

/-!
# CommandBridge.Proofs.Results.History

The record map as a function of everything that was ever stored.  `recordOf?` reads the
record of a ticket off a history: kind and target from the registration, the rest from
the last publication.  A channel of capacity `m` that keeps its records in memory holds exactly
the records of the `m` tickets that were stored last (`records_eq_history`), and forgets
a ticket once `m` others have been stored after it (`Forgotten`).

The history has stores that nobody was told of.  A publication that fails for want of a body changes
the map like any other, so the map is not one of the successes (`failed_publication_is_stored`).

The proof keeps `Matches` along a run: the map is the one of the history so far.
-/

namespace CommandBridge.ResultChannel

open Recency

/-! ## Records by history -/

/-- The command that a store registers under a ticket, and when. -/
def registrationOn (ticket : String) (x : Stored) : Option (Command × Timestamp) :=
  match x.step.operation with
  | .register command => if command.ticket = ticket then some (command, x.step.now) else none
  | _ => none

/-- The outcome that a store publishes on a ticket, and when. -/
def outcomeOn (ticket : String) (x : Stored) : Option (ResultStatus × Json × Timestamp) :=
  match x.step.operation with
  | .publish t status result =>
    if t = ticket then (ResultStatus.ofJson? status).map fun s => (s, result, x.step.now) else none
  | _ => none

/-- The command that was registered under a ticket. -/
def registration? (h : List Stored) (ticket : String) : Option (Command × Timestamp) :=
  (h.filterMap (registrationOn ticket)).head?

/-- The outcome that was published last on a ticket. -/
def outcome? (h : List Stored) (ticket : String) : Option (ResultStatus × Json × Timestamp) :=
  (h.filterMap (outcomeOn ticket)).getLast?

/-- The record of a ticket: what was registered, and what was published last. -/
def recordOf? (h : List Stored) (ticket : String) : Option Record :=
  (registration? h ticket).map fun (command, registered) =>
    match outcome? h ticket with
    | none =>
      { ticket := ticket, kind := command.kind, target := command.target
        status := .pending, result := .null, updatedAt := registered.text }
    | some (status, result, published) =>
      { ticket := ticket, kind := command.kind, target := command.target
        status := status, result := result, updatedAt := published.text }

/-- The tickets that a run registers. -/
def registeredTickets (steps : List Step) : List String := steps.filterMap Step.registered?

/-- A ticket is forgotten if it was never registered, or if the map has no room for it any
more: as many others as the map holds have been stored since its last store. -/
def Forgotten (m : Nat) (steps : List Step) (c : ResultChannel) (ticket : String) : Prop :=
  ticket ∉ registeredTickets steps ∨ m ≤ (since ticket (storedTickets steps c)).toFinset.card

/-! ## One more store -/

theorem registration?_concat (h : List Stored) (x : Stored) (ticket : String) :
    registration? (h ++ [x]) ticket = (registration? h ticket).or (registrationOn ticket x) := by
  rw [registration?, List.filterMap_append, List.head?_append, registration?]
  cases hx : registrationOn ticket x <;> simp [hx]

theorem outcome?_concat (h : List Stored) (x : Stored) (ticket : String) :
    outcome? (h ++ [x]) ticket = (outcomeOn ticket x).or (outcome? h ticket) := by
  rw [outcome?, List.filterMap_append, List.getLast?_append, outcome?]
  cases hx : outcomeOn ticket x <;> simp [hx]

/-- A store on another ticket has no effect on the record of a ticket. -/
theorem recordOf?_concat_of_none (h : List Stored) {x : Stored} {ticket : String}
    (hreg : registrationOn ticket x = none) (hout : outcomeOn ticket x = none) :
    recordOf? (h ++ [x]) ticket = recordOf? h ticket := by
  rw [recordOf?, registration?_concat, outcome?_concat, hreg, hout, Option.or_none, Option.none_or,
    recordOf?]

theorem ticket_of_recordOf? {h : List Stored} {ticket : String} {r : Record}
    (hr : recordOf? h ticket = some r) : r.ticket = ticket := by
  obtain ⟨⟨command, registered⟩, -, hrec⟩ := Option.map_eq_some_iff.mp hr
  rw [← hrec]
  cases outcome? h ticket <;> rfl

/-- A ticket whose history begins with a registration has its record. -/
theorem recordOf?_register {h : List Stored} {command : Command} {now : Timestamp} {r : Record}
    (hreg : registration? h command.ticket = none) (hout : outcome? h command.ticket = none) :
    recordOf? (h ++ [⟨⟨now, .register command⟩, r⟩]) command.ticket =
      some (Record.ofCommand command now) := by
  rw [recordOf?, registration?_concat, outcome?_concat, hreg, hout]
  simp [registrationOn, outcomeOn, Record.ofCommand]

/-- A publication takes the place of the last one. -/
theorem recordOf?_publish {h : List Stored} {ticket : String} {status result : Json}
    {now : Timestamp} {r current : Record} {s : ResultStatus}
    (hcur : recordOf? h ticket = some current) (hs : ResultStatus.ofJson? status = some s) :
    recordOf? (h ++ [⟨⟨now, .publish ticket status result⟩, r⟩]) ticket =
      some (current.withOutcome now s result) := by
  obtain ⟨⟨command, registered⟩, hreg, hrec⟩ := Option.map_eq_some_iff.mp hcur
  rw [recordOf?, registration?_concat, outcome?_concat, hreg]
  rw [← hrec]
  cases outcome? h ticket <;>
    simp [outcomeOn, hs, Record.withOutcome]

/-! ## The map of a history -/

/-- The tickets of the map after a store. -/
theorem map_ticket_kept (m : Nat) (r : Record) (records : List Record) :
    (kept m r records).map Record.ticket =
      ((records.map Record.ticket).filter (fun t => t ≠ r.ticket) ++ [r.ticket]).rtake m := by
  have hinsert : (insertNewest r records).map Record.ticket =
      (records.map Record.ticket).filter (fun t => t ≠ r.ticket) ++ [r.ticket] := by
    rw [insertNewest, List.map_append, List.filter_map]
    rfl
  rw [← hinsert, kept, List.rtake, List.rtake, List.map_drop, List.length_map]

/-- A record that is in the map after a store is the one that was stored, or it was there
before under another ticket. -/
theorem mem_kept {m : Nat} {r x : Record} {records : List Record} (h : x ∈ kept m r records) :
    x = r ∨ (x ∈ records ∧ x.ticket ≠ r.ticket) := by
  have hmem : x ∈ insertNewest r records := List.mem_of_mem_drop h
  rw [insertNewest, List.mem_append, List.mem_singleton, List.mem_filter] at hmem
  rcases hmem with hmem | rfl
  · exact .inr ⟨hmem.1, by simpa using hmem.2⟩
  · exact .inl rfl

/-- A channel in memory whose map is the one of a history. -/
structure Matches (m : Nat) (h : List Stored) (c : ResultChannel) : Prop where
  capacity : c.capacity = m
  memory : c.connected = false
  keys : c.records.map Record.ticket = latest m (h.map Stored.ticket)
  contents : ∀ r ∈ c.records, recordOf? h r.ticket = some r
  registered : ∀ t ∈ h.map Stored.ticket, (registration? h t).isSome
  unregistered : ∀ t, registration? h t = none → outcome? h t = none

variable {c : ResultChannel} {m : Nat} {h : List Stored}

/-- A ticket is in the map if and only if it is one of those stored last. -/
theorem Matches.find?_eq (hc : Matches m h c) (ticket : String) :
    find? ticket c.records =
      if ticket ∈ latest m (h.map Stored.ticket) then recordOf? h ticket else none := by
  rw [← hc.keys]
  cases hfind : find? ticket c.records with
  | none =>
      have hnot : ticket ∉ c.records.map Record.ticket := by
        intro hmem
        obtain ⟨r, hr, rfl⟩ := List.mem_map.mp hmem
        simpa using List.find?_eq_none.mp hfind r hr
      rw [if_neg hnot]
  | some r =>
      have hr : r ∈ c.records := List.mem_of_find?_eq_some hfind
      have hticket : r.ticket = ticket := ticket_of_find? hfind
      rw [if_pos (List.mem_map.mpr ⟨r, hr, hticket⟩), ← hticket, hc.contents r hr]

/-- Storing a record keeps the map that of the history, if the history gives that record and no
other one changes. -/
theorem Matches.store (hm : 1 ≤ m) (hc : Matches m h c) {x : Stored} {d : ResultChannel}
    (hcap : d.capacity = m) (hmem : d.connected = false)
    (hrecords : d.records = kept m x.record c.records)
    (hx : recordOf? (h ++ [x]) x.ticket = some x.record)
    (hother : ∀ t ≠ x.ticket, registrationOn t x = none ∧ outcomeOn t x = none)
    (hreg : (registration? (h ++ [x]) x.ticket).isSome) : Matches m (h ++ [x]) d where
  capacity := hcap
  memory := hmem
  keys := by
    obtain ⟨n, rfl⟩ : ∃ n, m = n + 1 := ⟨m - 1, by omega⟩
    rw [hrecords, map_ticket_kept, hc.keys, List.map_append, List.map_singleton, latest_concat]
    rfl
  contents := by
    intro r hr
    rw [hrecords] at hr
    rcases mem_kept hr with rfl | ⟨hr, hne⟩
    · exact hx
    · obtain ⟨h₁, h₂⟩ := hother r.ticket hne
      rw [recordOf?_concat_of_none h h₁ h₂, hc.contents r hr]
  registered := by
    intro t ht
    rw [List.map_append, List.mem_append] at ht
    rcases ht with ht | ht
    · rw [registration?_concat, Option.isSome_or, hc.registered t ht, Bool.true_or]
    · rw [List.map_singleton, List.mem_singleton] at ht
      rwa [ht]
  unregistered := by
    intro t ht
    by_cases hxt : t = x.ticket
    · rw [hxt] at ht
      simp [ht] at hreg
    · obtain ⟨h₁, h₂⟩ := hother t hxt
      rw [registration?_concat, h₁, Option.or_none] at ht
      rw [outcome?_concat, h₂, Option.none_or, hc.unregistered t ht]

/-! ## Runs -/

/-- One step keeps the map that of the history, if what it registers is fresh. -/
theorem Matches.after (hm : 1 ≤ m) (hc : Matches m h c) (s : Step)
    (hfresh : ∀ t ∈ s.registered?, registration? h t = none) :
    Matches m (h ++ (s.stored? c).toList) (s.after c) := by
  have hcap := s.capacity_after hc.capacity
  have hmem : (s.after c).connected = false := by rw [s.connected_after hc.capacity, hc.memory]
  cases hr : s.stores? c with
  | none =>
      have hrecords := Step.records_after_of_none hc.capacity hr
      simp only [Step.stored?, hr, Option.map_none, Option.toList_none, List.append_nil]
      exact ⟨hcap, hmem, hrecords ▸ hc.keys, hrecords ▸ hc.contents, hc.registered, hc.unregistered⟩
  | some r =>
      have hrecords := Step.records_after_of_some hc.capacity hr
      simp only [Step.stored?, hr, Option.map_some, Option.toList_some]
      obtain ⟨now, operation⟩ := s
      cases operation with
      | register command =>
          have hnew := hfresh command.ticket (by simp [Step.registered?])
          obtain rfl : Record.ofCommand command now = r := Option.some.inj hr
          refine hc.store hm hcap hmem hrecords
            (recordOf?_register hnew (hc.unregistered _ hnew)) ?_ ?_
          · intro t ht
            simp only [registrationOn, outcomeOn, and_true]
            exact if_neg (Ne.symm ht)
          · rw [registration?_concat]
            simp [registrationOn, Stored.ticket, Record.ofCommand]
      | publish ticket status result =>
          obtain ⟨current, status', hget, hstatus, rfl⟩ := exists_of_incoming? hr
          rw [get_answer_memory hc.memory, hc.find?_eq] at hget
          have hcur : recordOf? h ticket = some current := by
            split at hget
            · cases hrec : recordOf? h ticket <;> simp_all
            · simp at hget
          have hticket : current.ticket = ticket := ticket_of_recordOf? hcur
          have hxticket : Stored.ticket ⟨⟨now, .publish ticket status result⟩,
              current.withOutcome now status' result⟩ = ticket := hticket
          refine hc.store hm hcap hmem hrecords ?_ ?_ ?_
          · rw [hxticket]
            exact recordOf?_publish hcur hstatus
          · intro t ht
            rw [hxticket] at ht
            simp only [registrationOn, outcomeOn, true_and]
            exact if_neg (Ne.symm ht)
          · rw [hxticket, registration?_concat]
            obtain ⟨registered, hreg, -⟩ := Option.map_eq_some_iff.mp hcur
            simp [hreg]
      | get ticket => simp [Step.stores?] at hr
      | subscribe limit => simp [Step.stores?] at hr
      | unsubscribe place => simp [Step.stores?] at hr
      | drain place => simp [Step.stores?] at hr

theorem registeredTickets_cons (s : Step) (rest : List Step) :
    registeredTickets (s :: rest) = s.registered?.toList ++ registeredTickets rest := by
  cases hs : s.registered? <;> simp [registeredTickets, hs]

/-- Only a registration gives a ticket its command. -/
theorem registrationOn_eq_none {ticket : String} {x : Stored}
    (hx : x.step.registered? ≠ some ticket) : registrationOn ticket x = none := by
  obtain ⟨⟨now, operation⟩, r⟩ := x
  cases operation with
  | register command => exact if_neg fun heq => hx (congrArg some heq)
  | _ => rfl

/-- What is registered once in a run is still fresh after its first step, if it is registered in the
rest. -/
theorem fresh_after {s : Step} {rest : List Step}
    (hnodup : (registeredTickets (s :: rest)).Nodup)
    (hfresh : ∀ t ∈ registeredTickets (s :: rest), registration? h t = none) :
    ∀ t ∈ registeredTickets rest, registration? (h ++ (s.stored? c).toList) t = none := by
  intro t ht
  rw [registeredTickets_cons] at hnodup hfresh
  have hold := hfresh t (List.mem_append_right _ ht)
  cases hr : s.stores? c with
  | none => simpa [Step.stored?, hr] using hold
  | some r =>
      -- a ticket of the rest is not the one that this step registers
      have hne : s.registered? ≠ some t := by
        intro heq
        have hmem : t ∈ s.registered?.toList := by simp [heq]
        exact (List.nodup_append.mp hnodup).2.2 t hmem t ht rfl
      simp only [Step.stored?, hr, Option.map_some, Option.toList_some]
      rw [registration?_concat, hold, Option.none_or]
      exact registrationOn_eq_none hne

/-- What the first step of a run registers is fresh. -/
theorem fresh_head {s : Step} {rest : List Step}
    (hfresh : ∀ t ∈ registeredTickets (s :: rest), registration? h t = none) :
    ∀ t ∈ s.registered?, registration? h t = none := by
  intro t ht
  rw [registeredTickets_cons] at hfresh
  exact hfresh t (List.mem_append_left _ (by simpa using ht))

theorem nodup_rest {s : Step} {rest : List Step}
    (hnodup : (registeredTickets (s :: rest)).Nodup) : (registeredTickets rest).Nodup := by
  rw [registeredTickets_cons] at hnodup
  exact (List.nodup_append.mp hnodup).2.1

/-- A run keeps the map that of the history, if each ticket is registered once. -/
theorem Matches.runAll (hm : 1 ≤ m) (steps : List Step) (hc : Matches m h c)
    (hnodup : (registeredTickets steps).Nodup)
    (hfresh : ∀ t ∈ registeredTickets steps, registration? h t = none) :
    Matches m (h ++ history steps c) (runAll steps c) := by
  induction steps generalizing h c with
  | nil => simpa [history] using hc
  | cons s rest ih =>
      rw [history, ← List.append_assoc, runAll_cons]
      exact ih (hc.after hm s (fresh_head hfresh)) (nodup_rest hnodup) (fresh_after hnodup hfresh)

/-- Every registration is a store. -/
theorem mem_storedTickets_of_registered {ticket : String} (steps : List Step)
    (hcap : c.capacity = m) (ht : ticket ∈ registeredTickets steps) :
    ticket ∈ storedTickets steps c := by
  induction steps generalizing c with
  | nil => simp [registeredTickets] at ht
  | cons s rest ih =>
      rw [registeredTickets_cons, List.mem_append] at ht
      rw [storedTickets, history, List.map_append, List.mem_append]
      rcases ht with ht | ht
      · left
        obtain ⟨now, operation⟩ := s
        cases operation with
        | register command =>
            have hticket : command.ticket = ticket := by
              simpa [Step.registered?, eq_comm] using ht
            simp [Step.stored?, Step.stores?, Stored.ticket, Record.ofCommand, hticket]
        | _ => simp [Step.registered?] at ht
      · exact .inr (ih (s.capacity_after hcap) ht)

/-- A history registers no other tickets than the run does. -/
theorem mem_registeredTickets_of_isSome {ticket : String} (steps : List Step)
    (ht : (registration? (history steps c) ticket).isSome) :
    ticket ∈ registeredTickets steps := by
  induction steps generalizing c with
  | nil => simp [history, registration?] at ht
  | cons s rest ih =>
      rw [registeredTickets_cons, List.mem_append]
      by_cases hs : s.registered? = some ticket
      · exact .inl (by simp [hs])
      · right
        apply ih (c := s.after c)
        have hnone : (s.stored? c).toList.filterMap (registrationOn ticket) = [] := by
          cases hr : s.stores? c with
          | none => simp [Step.stored?, hr]
          | some r =>
              have hx : registrationOn ticket ⟨s, r⟩ = none := registrationOn_eq_none hs
              simp [Step.stored?, hr, hx]
        rwa [history, registration?, List.filterMap_append, hnone, List.nil_append] at ht

/-! ## What can be looked up -/

/-- In memory, a look-up fails on the tickets that are not among the latest. -/
theorem Matches.get_fails_iff (hc : Matches m h c) (now : Timestamp) (ticket : String) :
    ((get now ticket).run c).answer = .error (.bridge (.resultNotFound ticket)) ↔
      ticket ∉ latest m (h.map Stored.ticket) := by
  rw [get_answer_memory hc.memory, ← hc.keys]
  cases hfind : find? ticket c.records with
  | none =>
      have hnot : ∀ r ∈ c.records, r.ticket ≠ ticket := by
        simpa [find?] using hfind
      simpa using hnot
  | some r =>
      have hr : r ∈ c.records := List.mem_of_find?_eq_some hfind
      have hticket : r.ticket = ticket := ticket_of_find? hfind
      simpa using ⟨r, hr, hticket⟩

/-- A publication fails on a ticket if and only if a look-up does. -/
theorem publish_fails_iff (hcap : c.capacity = m) (now : Timestamp) (ticket : String)
    (status result : Json) :
    ((publish now ticket status result).run c).answer =
        .error (.bridge (.resultNotFound ticket)) ↔
      ((get now ticket).run c).answer = .error (.bridge (.resultNotFound ticket)) := by
  constructor
  · intro hpub
    cases hget : ((get now ticket).run c).answer with
    | error e => rw [get_answer_of_error hget]
    | ok current =>
        cases hs : ResultStatus.ofJson? status with
        | none =>
            rw [publish_answer_of_status_none hget hs] at hpub
            simp at hpub
        | some s =>
            rw [publish_answer hcap hget hs, Record.map_dump_eq_error_iff] at hpub
            simp at hpub
  · exact publish_answer_of_get_error

/-- After a run from an empty map, the latest tickets are those that are not forgotten. -/
theorem not_mem_latest_iff_forgotten {steps : List Step} {ticket : String}
    (hcap : c.capacity = m) (hrun : Matches m (history steps c) (runAll steps c)) :
    ticket ∉ latest m (storedTickets steps c) ↔ Forgotten m steps c ticket := by
  have hstored : ticket ∈ storedTickets steps c ↔ ticket ∈ registeredTickets steps :=
    ⟨fun ht => mem_registeredTickets_of_isSome steps (hrun.registered ticket ht),
      mem_storedTickets_of_registered steps hcap⟩
  rw [mem_latest_iff, hstored, Forgotten, not_and_or, Nat.not_lt]

/-- In memory the map is a function of the stores: it has one record each for the `m` tickets that
were stored last, in the order of their last stores.  Each has the kind and target that were
registered and the outcome that was published last.  Looking a ticket up changes nothing, and it
fails, as does publishing on it, exactly when the ticket is forgotten.  The stores are the successes
of the run and the publications of outcomes that cannot be dumped. -/
theorem records_eq_history (steps : List Step) (hm : 1 ≤ m) (hcap : c.capacity = m)
    (hmemory : c.connected = false) (hempty : c.records = [])
    (hfresh : (registeredTickets steps).Nodup) :
    successes steps c = (history steps c).filter (fun x => x.record.Dumpable) ∧
    (runAll steps c).records.map Record.ticket = latest m (storedTickets steps c) ∧
    ((runAll steps c).records.map Record.ticket).Nodup ∧ (runAll steps c).records.length ≤ m ∧
    (∀ r ∈ (runAll steps c).records, recordOf? (history steps c) r.ticket = some r) ∧
    ∀ (now : Timestamp) (ticket : String),
      ((get now ticket).run (runAll steps c)).state = runAll steps c ∧
      (((get now ticket).run (runAll steps c)).answer =
        .error (.bridge (.resultNotFound ticket)) ↔ Forgotten m steps c ticket) ∧
      ∀ status result : Json,
        ((publish now ticket status result).run (runAll steps c)).answer =
          .error (.bridge (.resultNotFound ticket)) ↔ Forgotten m steps c ticket := by
  have hstart : Matches m [] c := ⟨hcap, hmemory, by rw [hempty]; simp [latest], by simp [hempty],
    by simp, fun _ _ => rfl⟩
  have hrun : Matches m (history steps c) (runAll steps c) :=
    hstart.runAll hm steps hfresh fun _ _ => rfl
  have hkeys : (runAll steps c).records.map Record.ticket = latest m (storedTickets steps c) :=
    hrun.keys
  have hfails : ∀ now ticket, ((get now ticket).run (runAll steps c)).answer =
      .error (.bridge (.resultNotFound ticket)) ↔ Forgotten m steps c ticket := by
    intro now ticket
    rw [hrun.get_fails_iff, ← not_mem_latest_iff_forgotten hcap hrun, storedTickets]
  refine ⟨successes_eq_filter steps hcap, hkeys, ?_, ?_, hrun.contents, ?_⟩
  · rw [hkeys]
    exact nodup_latest m _
  · have hlength : (latest m (storedTickets steps c)).length = (runAll steps c).records.length := by
      rw [← hkeys, List.length_map]
    rw [← hlength]
    exact length_latest_le m _
  · intro now ticket
    refine ⟨?_, hfails now ticket, ?_⟩
    · have hsame : consulted ticket (runAll steps c) = (runAll steps c).redis := by
        simp [consulted, hrun.memory]
      rw [get_state, hsame]
    · intro status result
      rw [publish_fails_iff hrun.capacity, hfails]

/-- A run of three registrations on a map for two records; the first ticket is published on
before the third is registered. -/
def republication : List Step :=
  [⟨⟨0⟩, .register ⟨.callTool, "echo", .null, "1", ""⟩⟩,
    ⟨⟨1⟩, .register ⟨.getPrompt, "plan", .null, "2", ""⟩⟩,
    ⟨⟨2⟩, .publish "1" (.string "success") (.int 7)⟩,
    ⟨⟨3⟩, .register ⟨.readResource, "notes", .null, "3", ""⟩⟩]

/-- A publication makes a ticket one of the latest again, so another one is evicted. -/
theorem republication_keeps_published :
    (registeredTickets republication).Nodup ∧
    (runAll republication { capacity := 2, ttl := 60 }).records.map Record.ticket = ["1", "3"] := by
  have hfresh : (registeredTickets republication).Nodup := by decide
  refine ⟨hfresh, ?_⟩
  obtain ⟨-, hkeys, -⟩ := records_eq_history (m := 2) (c := { capacity := 2, ttl := 60 })
    republication (by decide) rfl rfl rfl hfresh
  rw [hkeys]
  decide +kernel

/-- The same run, with an outcome that is nested deeper than a dump goes. -/
def failedRepublication : List Step :=
  [⟨⟨0⟩, .register ⟨.callTool, "echo", .null, "1", ""⟩⟩,
    ⟨⟨1⟩, .register ⟨.getPrompt, "plan", .null, "2", ""⟩⟩,
    ⟨⟨2⟩, .publish "1" (.string "success") (.nested 255 .null)⟩,
    ⟨⟨3⟩, .register ⟨.readResource, "notes", .null, "3", ""⟩⟩]

/-- A publication that fails evicts a record: of the two tickets that were stored last with success,
one is not in the map. -/
theorem failed_publication_is_stored :
    latest 2 ((successes failedRepublication { capacity := 2, ttl := 60 }).map Stored.ticket) =
      ["2", "3"] ∧
    (runAll failedRepublication { capacity := 2, ttl := 60 }).records.map Record.ticket =
      ["1", "3"] := by
  constructor <;> decide +kernel

end CommandBridge.ResultChannel
