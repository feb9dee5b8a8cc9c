import CommandBridge.Proofs.Log.Events
import CommandBridge.Proofs.Results.Capacity
import CommandBridge.Proofs.Results.Offline
import CommandBridge.Proofs.Results.Pendency
import CommandBridge.Proofs.Trail

/-!
# CommandBridge.Proofs.Results.Publication

A publication of a result that can be dumped is done as a whole or not at all
(`publish_all_or_nothing`).  Whether it is done depends on two things only: whether its ticket has a
record, in the map or in Redis (`Tracked`), and whether its status is one.  What Redis then makes of
the record that is written through does not matter.  A publication that fails for one of these
reasons leaves nothing but a trace among the calls to Redis.

A publication of a result that cannot be dumped is done in part: its record is stored and logged,
but nobody is told, and it fails (`publication_without_body_is_logged`).
-/

namespace CommandBridge

namespace ResultStatus

variable {j : Json} {s : ResultStatus}

theorem ofJson?_eq_some_iff : ofJson? j = some s ↔ j = .string s.text := by
  constructor
  · intro h
    simpa using List.find?_some h
  · rintro rfl
    exact ofJson?_text s

theorem ofJson?_eq_none_iff : ofJson? j = none ↔ ∀ s : ResultStatus, j ≠ .string s.text := by
  simp only [Option.eq_none_iff_forall_ne_some, ne_eq, ofJson?_eq_some_iff]

end ResultStatus

/-- A text is put under its key, or nothing is changed. -/
theorem Redis.lookup_setex (r : Redis) (key : String) (ttl : Int) (text key' : String) :
    ((Redis.setex key ttl text).run r).state.lookup key' = r.lookup key' ∨
      key' = key ∧ ((Redis.setex key ttl text).run r).state.lookup key' = some text := by
  rw [Redis.setex, Op.run_bind, Redis.attemptCall_run]
  cases r.faults r.calls.length .setex with
  | some f => exact .inl rfl
  | none =>
      simp only [Op.run_modify, Redis.lookup_write]
      split
      · next heq => exact .inr ⟨heq, rfl⟩
      · exact .inl rfl

namespace ResultChannel

open Trail

variable {c : ResultChannel} {m : Nat} {ticket : String} {status result : Json}
  {current r : Record} {records : List Record} {now : Timestamp}

/-! ## Looking up -/

/-- The record of a ticket: the one in the map, or else the one that Redis comes back with. -/
inductive Tracked (now : Timestamp) (ticket : String) (c : ResultChannel) (r : Record) : Prop where
  | here (hfind : find? ticket c.records = some r)
  | there {text : String} (hfind : find? ticket c.records = none) (hconn : c.connected = true)
      (hanswers : c.redis.faults c.redis.calls.length .get = none)
      (hlookup : c.redis.lookup (redisKey ticket) = some text)
      (hread : readStored c.nesting now text = .ok r)

/-- An empty text is no record. -/
theorem readStored_empty (nesting : Nat) (now : Timestamp) (r : Record) :
    readStored nesting now "" ≠ .ok r := by
  have hread : Json.readNested nesting "" = .error (.malformed .expectingValue 1 1 0) := by
    cases nesting <;> rfl
  rw [readStored, hread]
  simp

/-- A record that Redis comes back with is fetched. -/
theorem fetch_answer_of_read {text : String}
    (hanswers : c.redis.faults c.redis.calls.length .get = none)
    (hlookup : c.redis.lookup (redisKey ticket) = some text)
    (hread : readStored c.nesting now text = .ok r) :
    ((fetch now ticket).run c).answer = .ok (some r) := by
  have hne : text.isEmpty = false := by
    rw [String.isEmpty_eq_false_iff]
    rintro rfl
    exact readStored_empty c.nesting now r hread
  rw [fetch, Op.answer_bind_ok (a := c) rfl]
  simp only [Op.run_get]
  rw [Op.run_bind, onRedis, Op.run_on, Redis.get_run, hanswers, hlookup]
  simp [hne, hread, Except.map]

theorem get_answer_ok_iff :
    ((get now ticket).run c).answer = .ok r ↔ Tracked now ticket c r := by
  cases hfind : find? ticket c.records with
  | some x =>
      rw [get_run_of_find? hfind]
      refine ⟨fun h => .here (hfind.trans (congrArg some (Except.ok.inj h))), fun h => ?_⟩
      cases h with
      | here hsome => rw [Option.some.inj (hfind.symm.trans hsome)]
      | there hnone _ _ _ _ => exact absurd (hfind.symm.trans hnone) (by simp)
  | none =>
      cases hconn : c.connected with
      | false =>
          rw [get_answer_memory hconn, hfind]
          refine ⟨fun h => absurd h (by simp), fun h => ?_⟩
          cases h with
          | here hsome => exact absurd (hfind.symm.trans hsome) (by simp)
          | there _ hconn' _ _ _ => exact absurd (hconn.symm.trans hconn') (by simp)
      | true =>
          have hget : ((get now ticket).run c).answer = .ok r ↔
              ((fetch now ticket).run c).answer = .ok (some r) := by
            rw [get_run_of_fetch hconn hfind]
            rcases (fetch now ticket).run c with ⟨e | _ | x, c', log⟩ <;> simp
          rw [hget]
          constructor
          · intro h
            obtain ⟨hanswers, -⟩ := (fetch_run now ticket c).2 r h
            obtain ⟨text, hlookup, hread⟩ := exists_of_fetch h
            exact .there hfind hconn hanswers hlookup hread
          · rintro (hsome | ⟨-, -, hanswers, hlookup, hread⟩)
            · exact absurd (hfind.symm.trans hsome) (by simp)
            · exact fetch_answer_of_read hanswers hlookup hread

/-- Looking a ticket up leaves Redis what it holds. -/
theorem entries_consulted (ticket : String) (c : ResultChannel) :
    (consulted ticket c).entries = c.redis.entries := by
  rw [consulted]
  split
  · rw [Redis.get_state]
  · rfl

/-- A look-up that comes back with a record logs nothing. -/
theorem get_run_of_ok (h : ((get now ticket).run c).answer = .ok r) :
    (get now ticket).run c = ⟨.ok r, { c with redis := consulted ticket c }, []⟩ := by
  have hlog : ((get now ticket).run c).log = [] := by
    cases hfind : find? ticket c.records with
    | some x => rw [get_run_of_find? hfind]
    | none =>
        cases hconn : c.connected with
        | false =>
            rw [get_answer_memory hconn, hfind] at h
            exact absurd h (by simp)
        | true =>
            have hfetch := (fetch_run now ticket c).1
            rw [get_run_of_fetch hconn hfind] at h ⊢
            rcases hrun : (fetch now ticket).run c with ⟨e | _ | x, c', log⟩ <;> simp_all
  rw [← get_state now ticket, ← h, ← hlog]

/-! ## Entries -/

/-- Whether an entry tells of a publication. -/
abbrev IsPublished : Log.Entry → Prop := Log.Entry.IsOneOf .results ["result_published"]

theorem isPublished_event {level : Log.Level} {name : String} {fields : List (String × Json)}
    (hname : Log.PlainName name) (hfields : ∀ f ∈ fields, f.1 ≠ "event") :
    IsPublished (Log.event .results level name fields) ↔ name = "result_published" := by
  have hone : IsPublished (Log.event .results level name fields) ↔ name ∈ ["result_published"] :=
    Log.isOneOf_event hname hfields
  rwa [List.mem_singleton] at hone

theorem isPublished_published (r : Record) : IsPublished (published r) :=
  (isPublished_event (by decide +kernel) (by simp)).mpr rfl

theorem quiet_get (now : Timestamp) (ticket : String) :
    (words fun e => ¬ IsPublished e).Follows (get now ticket) := by
  have hfetch : (words fun e => ¬ IsPublished e).Follows (fetch now ticket) := by
    intro c e he
    rw [(fetch_run now ticket c).1] at he
    exact absurd he (by simp)
  refine .bind .get fun c => ?_
  split
  · exact .pure _
  · refine .ite (.bind (.attempt hfetch) fun r => ?_) (.fail _)
    split
    · exact .pure _
    · exact .fail _
    · refine .bind (.say ?_) fun _ => .fail _
      rw [isPublished_event (by decide +kernel) (by simp)]
      decide

theorem quiet_store (r : Record) : (words fun e => ¬ IsPublished e).Follows (store r) := by
  have hinsert : (words fun e => ¬ IsPublished e).Follows (insert r) := by
    intro c e he
    rw [Op.run, insert] at he
    split at he <;> cases he
  have hwrite : (words fun e => ¬ IsPublished e).Follows (writeThrough r) := by
    intro c e he
    rw [writeThrough_log] at he
    exact absurd he (by simp)
  refine .bind hinsert fun _ => .bind .get fun _ => ?_
  refine .ite (.bind (.attempt hwrite) fun a => ?_) (.pure _)
  split
  · exact .pure _
  · refine .say ?_
    rw [isPublished_event (by decide +kernel) (by simp)]
    decide

/-! ## Storing -/

/-- A record that is stored in a map that is not too large is the newest.  Only the oldest one has
to leave, if the ticket is not in the map and the map is full. -/
theorem kept_eq (hm : 1 ≤ m) (hlength : records.length ≤ m) (r : Record) :
    kept m r records = (records.filter fun x => x.ticket ≠ r.ticket).drop
      (if find? r.ticket records = none ∧ records.length = m then 1 else 0) ++ [r] := by
  rw [kept, insertNewest]
  cases hfind : find? r.ticket records with
  | none =>
      have hall : (records.filter fun x => x.ticket ≠ r.ticket) = records := by
        rw [List.filter_eq_self]
        rw [find?, List.find?_eq_none] at hfind
        simpa using hfind
      rw [hall, List.rtake, List.length_append, List.length_singleton,
        List.drop_append_of_le_length (by omega)]
      congr 2
      simp only [true_and]
      split <;> omega
  | some current =>
      have hlt := length_insertNewest_le hfind
      rw [insertNewest] at hlt
      rw [List.rtake, Nat.sub_eq_zero_of_le (Nat.le_trans hlt hlength), if_neg (by simp)]
      rfl

/-- What is written through changes no text but that of the record's ticket, which becomes its
body. -/
theorem lookup_written_or (r : Record) (c : ResultChannel) (key : String) :
    (written r c).lookup key = c.redis.lookup key ∨
      r.Dumpable ∧ key = redisKey r.ticket ∧
        (written r c).lookup key = some r.toBody.write := by
  rw [written]
  split
  · next h => exact (Redis.lookup_setex _ _ _ _ key).imp_right fun h' => ⟨h.2, h'⟩
  · exact .inl rfl

/-! ## Publishing -/

theorem publish_run_of_error {e : Failure} (h : ((get now ticket).run c).answer = .error e) :
    (publish now ticket status result).run c =
      ⟨.error (.bridge (.resultNotFound ticket)), { c with redis := consulted ticket c },
        ((get now ticket).run c).log⟩ := by
  obtain rfl := get_answer_of_error h
  have hrun : (get now ticket).run c = ⟨.error (.bridge (.resultNotFound ticket)),
      { c with redis := consulted ticket c }, ((get now ticket).run c).log⟩ := by
    rw [← get_state now ticket, ← h]
  rw [publish, Op.run_bind_of_error hrun]

theorem publish_run_of_status_none (h : ((get now ticket).run c).answer = .ok current)
    (hs : ResultStatus.ofJson? status = none) :
    (publish now ticket status result).run c =
      ⟨.error (.unknownStatus status), { c with redis := consulted ticket c }, []⟩ := by
  rw [publish, Op.run_bind_of_silent (get_run_of_ok h)]
  exact Op.run_bind_of_error (by rw [checkStatus, hs]; rfl)

theorem publish_run_of_ok {s : ResultStatus} (hcap : c.capacity = m)
    (h : ((get now ticket).run c).answer = .ok current)
    (hs : ResultStatus.ofJson? status = some s) (hticket : current.ticket = ticket) :
    let r := current.withOutcome now s result
    (publish now ticket status result).run c =
      ⟨r.dump.map fun _ => r, { c with
        records := kept m r c.records
        queues := offered r c.queues
        redis := written r { c with redis := consulted ticket c } },
        ((store r).run { c with redis := consulted ticket c }).log ++ [published r]⟩ := by
  intro r
  have hlog : ((publish now ticket status result).run c).log =
      ((store r).run { c with redis := consulted ticket c }).log ++ [published r] := by
    have hcheck : (checkStatus status).run { c with redis := consulted ticket c } =
        ⟨.ok s, { c with redis := consulted ticket c }, []⟩ := by
      rw [checkStatus, hs]
      rfl
    obtain ⟨log, hstore, -⟩ := store_run_of_ok (c := { c with redis := consulted ticket c })
      (r := r) (by rw [hcap]; exact evict_eq_rtake m _)
    rw [publish, Op.run_bind_of_silent (get_run_of_ok h), Op.run_bind_of_silent hcheck,
      Op.run_bind_of_run hstore, hstore, published, ← hticket]
    simp only [Op.event, Op.run_bind, Op.run_log, broadcast_run]
    cases (current.withOutcome now s result).dump <;> rfl
  rw [← publish_answer hcap h hs, ← publish_state hcap (incoming?_of_ok h hs), ← hlog]

/-- What a publication comes to. -/
structure Publication (now : Timestamp) (ticket : String) (status result : Json)
    (c : ResultChannel) (o : Outcome ResultChannel Record) : Prop where
  /-- It fails if the ticket has no record, whatever the status is, -/
  notFound : o.answer = .error (.bridge (.resultNotFound ticket)) ↔ ∀ r, ¬ Tracked now ticket c r
  /-- and if the ticket has one, but the status is none. -/
  unknownStatus : o.answer = .error (.unknownStatus status) ↔
    (∃ r, Tracked now ticket c r) ∧ ∀ s : ResultStatus, status ≠ .string s.text
  /-- Otherwise it succeeds if the result can be dumped, -/
  succeeds : (∃ r, o.answer = .ok r) ↔
    (∃ r, Tracked now ticket c r) ∧ (∃ s : ResultStatus, status = .string s.text) ∧ result.Dumpable
  /-- and fails with the fault of the dump if not. -/
  undumpable : ∀ f, o.answer = .error (.fault f) ↔
    (∃ r, Tracked now ticket c r) ∧ (∃ s : ResultStatus, status = .string s.text) ∧
      result.dumpFault? Json.dumpLimit = some f
  /-- If it fails for another reason, Redis was perhaps asked, and nothing else was done. -/
  nothing : ∀ e, o.answer = .error e → (∀ f, e ≠ .fault f) →
    o.state = { c with redis := o.state.redis } ∧ o.state.redis.entries = c.redis.entries ∧
      o.log.filter IsPublished = []
  /-- If the ticket has a record and the status is one, the record has the outcome, -/
  all : ∀ current s, Tracked now ticket c current → status = .string (ResultStatus.text s) →
    let r := current.withOutcome now s result
    o.answer = (r.dump.map fun _ => r) ∧ r.ticket = ticket ∧
    -- and is the newest, and is broadcast if it has a body; only the oldest one may have to leave,
    o.state = { c with
      records := (c.records.filter fun x => x.ticket ≠ ticket).drop
        (if find? ticket c.records = none ∧ (c.records.length : Int) = c.capacity then 1 else 0)
          ++ [r]
      queues := offered r c.queues
      redis := o.state.redis } ∧
    -- and no other record is written through, nor one without a body
    (∀ key, o.state.redis.lookup key = c.redis.lookup key ∨
      r.Dumpable ∧ key = redisKey ticket ∧ o.state.redis.lookup key = some r.toBody.write) ∧
    o.log.filter IsPublished = [published r]

theorem publication_of_not_tracked {e : Failure} (hget : ((get now ticket).run c).answer = .error e) :
    Publication now ticket status result c ((publish now ticket status result).run c) := by
  have hnone : ∀ r, ¬ Tracked now ticket c r := fun r h => by
    rw [get_answer_ok_iff.mpr h] at hget
    exact absurd hget (by simp)
  have hquiet := Log.filter_isOneOf_eq_nil (quiet_get now ticket c)
  rw [publish_run_of_error hget]
  exact {
    notFound := by simp [hnone]
    unknownStatus := by simp [hnone]
    succeeds := by simp [hnone]
    undumpable := by simp [hnone]
    nothing _ _ _ := ⟨rfl, entries_consulted ticket c, hquiet⟩
    all current _ h _ := absurd h (hnone current) }

theorem publication_of_status_none (hget : ((get now ticket).run c).answer = .ok current)
    (hs : ResultStatus.ofJson? status = none) :
    Publication now ticket status result c ((publish now ticket status result).run c) := by
  have htracked := get_answer_ok_iff.mp hget
  have hunknown := ResultStatus.ofJson?_eq_none_iff.mp hs
  rw [publish_run_of_status_none hget hs]
  exact {
    notFound := by simpa using ⟨current, htracked⟩
    unknownStatus := by simpa [hunknown] using ⟨current, htracked⟩
    succeeds := by simp [hunknown]
    undumpable := by simp [hunknown]
    nothing _ _ _ := ⟨rfl, entries_consulted ticket c, rfl⟩
    all _ s _ h := absurd h (hunknown s) }

/-- A publication on a ticket that has a record, with a status that is one, is stored.  What it
answers is up to the dump. -/
theorem publication_of_stored {s : ResultStatus} (hcap : 1 ≤ c.capacity) (hwithin : c.Within)
    (hget : ((get now ticket).run c).answer = .ok current)
    (hs : ResultStatus.ofJson? status = some s) (hticket : current.ticket = ticket) :
    Publication now ticket status result c ((publish now ticket status result).run c) := by
  obtain ⟨m, hm⟩ : ∃ m : Nat, c.capacity = m := ⟨c.capacity.toNat, by omega⟩
  have htracked := get_answer_ok_iff.mp hget
  have hsame : (current.withOutcome now s result).ticket = ticket := hticket
  have hlength : c.records.length ≤ m := by
    rcases hwithin with hempty | hle
    · simp [hempty]
    · omega
  have hquiet := Log.filter_isOneOf_eq_nil
    (quiet_store (current.withOutcome now s result) { c with redis := consulted ticket c })
  obtain rfl := ResultStatus.ofJson?_eq_some_iff.mp hs
  rw [publish_run_of_ok hm hget hs hticket]
  exact {
    notFound := by
      simpa [Record.map_dump_eq_error_iff] using ⟨current, htracked⟩
    unknownStatus := by
      refine iff_of_false ?_ fun h => h.2 s rfl
      simp [Record.map_dump_eq_error_iff]
    succeeds := by
      simp only [Record.map_dump_eq_ok_iff, exists_and_left, exists_eq, and_true]
      exact ⟨fun h => ⟨⟨current, htracked⟩, ⟨s, rfl⟩, h⟩, fun h => h.2.2⟩
    undumpable f := by
      simp only [Record.map_dump_eq_error_iff, Failure.fault.injEq, exists_eq_right']
      exact ⟨fun h => ⟨⟨current, htracked⟩, ⟨s, rfl⟩, h⟩, fun h => h.2.2⟩
    nothing e h hno := by
      obtain ⟨f, -, rfl⟩ := Record.map_dump_eq_error_iff.mp h
      exact absurd rfl (hno f)
    all := by
      intro x s' hx hs'
      obtain rfl : x = current := Except.ok.inj ((get_answer_ok_iff.mpr hx).symm.trans hget)
      obtain rfl : s' = s :=
        Option.some.inj ((ResultStatus.ofJson?_eq_some_iff.mpr hs').symm.trans hs)
      refine ⟨rfl, hticket, ?_, fun key => ?_, ?_⟩
      · have hone : 1 ≤ m := by omega
        have hrecords := kept_eq hone hlength (x.withOutcome now s' result)
        rw [hsame] at hrecords
        simp only [hrecords, hm, Nat.cast_inj]
      · have hwritten := lookup_written_or (x.withOutcome now s' result)
          { c with redis := consulted ticket c } key
        rwa [lookup_consulted, hsame] at hwritten
      · rw [List.filter_append, hquiet, List.nil_append,
          Log.filter_isOneOf_eq_self (by simpa using isPublished_published _)] }

/-- A publication does nothing if its ticket has no record or its status is none.  Else it is done
as a whole if its result can be dumped, and all but the broadcast if not. -/
theorem publish_all_or_nothing (now : Timestamp) (ticket : String) (status result : Json)
    (hcap : 1 ≤ c.capacity) (hwithin : c.Within) (hkeyed : c.Keyed) :
    Publication now ticket status result c ((publish now ticket status result).run c) := by
  cases hget : ((get now ticket).run c).answer with
  | error e => exact publication_of_not_tracked hget
  | ok current =>
      cases hs : ResultStatus.ofJson? status with
      | none => exact publication_of_status_none hget hs
      | some s =>
          exact publication_of_stored hcap hwithin hget hs (hkeyed _ _ (shown_of_get hget))

/-- Whatever is asked of a channel one after the other, it holds no more records than it may. -/
theorem within_runAll (steps : List Step) (h : c.Within) : (runAll steps c).Within := by
  induction steps generalizing c with
  | nil => exact h
  | cons s rest ih => exact ih (within_run s.now s.operation c h)

/-- A channel for one record that holds the second of two commands; Redis still has the first. -/
def full : ResultChannel :=
  runAll [⟨⟨0⟩, .register ⟨.callTool, "echo", .null, "1", ""⟩⟩,
    ⟨⟨1⟩, .register ⟨.getPrompt, "plan", .null, "2", ""⟩⟩]
    { capacity := 1, ttl := 60, connected := true }

/-- The record that was fetched takes the place of the other one. -/
theorem publish_all_or_nothing_full :
    1 ≤ full.capacity ∧ full.Within ∧ full.Keyed ∧
      Publication ⟨2⟩ "1" (.string "success") (.int 7) full
        ((publish ⟨2⟩ "1" (.string "success") (.int 7)).run full) ∧
      ((publish ⟨2⟩ "1" (.string "success") (.int 7)).run full).state.records.map (·.ticket) =
        ["1"] := by
  have hcap : 1 ≤ full.capacity := by decide +kernel
  have hwithin : full.Within := within_runAll _ (.inl rfl)
  have hkeyed : full.Keyed := by
    refine keyed_runAll (m := 1) _ rfl fun t r h => ?_
    rcases h with ⟨hmem, -⟩ | ⟨-, hlookup, -⟩
    · exact absurd hmem (by simp)
    · exact absurd hlookup (by simp [Redis.lookup])
  exact ⟨hcap, hwithin, hkeyed, publish_all_or_nothing ⟨2⟩ "1" (.string "success") (.int 7) hcap
    hwithin hkeyed, by decide +kernel⟩

/-- A channel with the record of one command and a subscriber. -/
def listening : ResultChannel :=
  runAll [⟨⟨0⟩, .register ⟨.callTool, "echo", .null, "1", ""⟩⟩, ⟨⟨1⟩, .subscribe 9⟩]
    { capacity := 1, ttl := 60 }

/-- A publication that fails for its result has stored the outcome, and said so in the log, and has
told nobody. -/
theorem publication_without_body_is_logged :
    let o := (publish ⟨2⟩ "1" (.string "success") (.nested 255 .null)).run listening
    o.answer = .error (.fault Json.tooDeepToDump) ∧
      o.state.records.map (fun r => (r.ticket, r.status)) = [("1", .success)] ∧
      o.log.filter IsPublished = o.state.records.map published ∧
      o.state.queues.map (·.pending) = [[]] := by
  refine ⟨?_, ?_, ?_, ?_⟩ <;> decide +kernel

end ResultChannel

end CommandBridge
