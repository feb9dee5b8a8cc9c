import CommandBridge.Proofs.Json.Dump
import CommandBridge.Proofs.Results.Recency
import CommandBridge.Results.Operation

/-!
# CommandBridge.Proofs.Results.RecordMap

What the operations of a result channel do to its records and to nothing else.  A channel
of capacity `m` keeps the `m` newest records (`kept`), so storing never fails, and
each operation has one equation for its answer and one for the channel it leaves:

* `store_answer`, `store_state` — a record is put into the map, and written through;
* `get_answer_of_find?`, `get_state` — a look-up leaves all but the log of Redis calls;
* `register_answer`, `register_state` — a registration is a store;
* `publish_answer`, `publish_state` and `publish_state_of_none` — a publication is a look-up, a
  store and a broadcast, or only the look-up.

A publication fails in the broadcast if the record that it stored has no body
(`toOption_publish_answer`).
-/

namespace CommandBridge.ResultChannel

variable {c : ResultChannel} {m : Nat}

/-! ## Storing -/

/-- The records of a map of capacity `m` after a record was stored. -/
def kept (m : Nat) (r : Record) (records : List Record) : List Record :=
  (insertNewest r records).rtake m

/-- What Redis holds after a record was stored: its body, if it has one. -/
def written (r : Record) (c : ResultChannel) : Redis :=
  if c.connected ∧ r.Dumpable then
    ((Redis.setex (redisKey r.ticket) c.ttl r.toBody.write).run c.redis).state
  else c.redis

/-- A record is found under its own ticket. -/
theorem ticket_of_find? {ticket : String} {records : List Record} {r : Record}
    (h : find? ticket records = some r) : r.ticket = ticket := by
  simpa using List.find?_some h

/-- Eviction keeps the newest records. -/
theorem evict_eq_rtake (m : Nat) (records : List Record) :
    evict m records = .ok (records.rtake m) := by
  induction records with
  | nil =>
      have hneg : ¬ (m : Int) < 0 := by omega
      rw [evict, if_neg hneg, List.rtake_nil]
  | cons r rest ih =>
      by_cases h : (m : Int) < (r :: rest).length
      · have hlen : m ≤ rest.length := by
          simp only [List.length_cons] at h; omega
        rw [evict, if_pos h, ih, ← List.singleton_append, Recency.rtake_append_of_le hlen]
      · have hlen : (r :: rest).length - m = 0 := by omega
        rw [evict, if_neg h, List.rtake, hlen, List.drop_zero]

/-- A record that is stored takes the place of another one of its ticket. -/
theorem nodup_insertNewest {records : List Record} (h : (records.map Record.ticket).Nodup)
    (r : Record) : ((insertNewest r records).map Record.ticket).Nodup := by
  rw [insertNewest, List.map_append, List.nodup_append]
  refine ⟨h.sublist (List.filter_sublist.map _), List.nodup_singleton _, ?_⟩
  rintro t ht _ hmem rfl
  obtain ⟨x, hx, rfl⟩ := List.mem_map.mp ht
  exact of_decide_eq_true (List.mem_filter.mp hx).2 (List.mem_singleton.mp hmem)

/-- A stored record is found under its ticket. -/
theorem find?_kept (hm : 1 ≤ m) (r : Record) (records : List Record) :
    find? r.ticket (kept m r records) = some r := by
  obtain ⟨n, rfl⟩ : ∃ n, m = n + 1 := ⟨m - 1, by omega⟩
  let others := records.filter fun x => x.ticket ≠ r.ticket
  have hnone : find? r.ticket (others.rtake n) = none := by
    rw [find?, List.find?_eq_none]
    intro x hx
    have hne : x.ticket ≠ r.ticket :=
      of_decide_eq_true (List.mem_filter.mp (List.mem_of_mem_drop hx)).2
    simpa using hne
  rw [find?] at hnone
  rw [kept, insertNewest, List.rtake_concat_succ, find?, List.find?_append, hnone]
  simp

/-- A record is put into the map if eviction comes to an end. -/
theorem insert_run_of_ok {r : Record} {records : List Record}
    (h : evict c.capacity (insertNewest r c.records) = .ok records) :
    (insert r).run c = ⟨.ok (), { c with records := records }, []⟩ := by
  show insert r c = _
  rw [insert, h]

theorem insert_run (hcap : c.capacity = m) (r : Record) :
    (insert r).run c = ⟨.ok (), { c with records := kept m r c.records }, []⟩ :=
  insert_run_of_ok (by rw [hcap, evict_eq_rtake, kept])

theorem writeThrough_state (hconn : c.connected = true) (r : Record) :
    ((writeThrough r).run c).state = { c with redis := written r c } := by
  by_cases hr : r.Dumpable
  · simp [writeThrough, onRedis, written, hconn, hr, Record.dump_of_dumpable hr]
  · obtain ⟨f, -, hf⟩ := Record.dump_of_not_dumpable hr
    simp [writeThrough, written, hr, hf]

/-- Storing a record never fails, whatever becomes of Redis. -/
theorem store_answer (hcap : c.capacity = m) (r : Record) :
    ((store r).run c).answer = .ok () := by
  rw [store, Op.answer_bind_ok (a := ()) (by rw [insert_run hcap])]
  rw [Op.answer_bind_ok (a := { c with records := kept m r c.records })
    (by rw [insert_run hcap]; rfl)]
  cases hc : c.connected with
  | false => simp
  | true =>
      simp only [if_true]
      rw [Op.answer_bind_ok (by rw [Op.run_attempt])]
      split <;> simp [Op.event]

/-- A stored record is put into the map, and written through to Redis. -/
theorem store_state_of_ok {r : Record} {records : List Record}
    (h : evict c.capacity (insertNewest r c.records) = .ok records) :
    ((store r).run c).state = { c with records := records, redis := written r c } := by
  have hinsert := insert_run_of_ok h
  rw [store, Op.state_bind_ok (a := ()) (by rw [hinsert]), hinsert,
    Op.state_bind_ok (a := { c with records := records }) rfl]
  by_cases hconn : c.connected = true
  · have hwrite := writeThrough_state (c := { c with records := records }) hconn r
    simp only [Op.run_get, if_pos hconn]
    rw [Op.state_bind_ok (by rw [Op.run_attempt]), Op.run_attempt, hwrite]
    split <;> simp [Op.event, written]
  · simp [hconn, written]

/-- A stored record is the newest of those that are kept. -/
theorem store_state (hcap : c.capacity = m) (r : Record) :
    ((store r).run c).state =
      { c with records := kept m r c.records, redis := written r c } :=
  store_state_of_ok (by rw [hcap, evict_eq_rtake, kept])

/-! ## Looking up -/

/-- What Redis is like after a ticket was looked up: it is asked for a ticket that is not in the
map. -/
def consulted (ticket : String) (c : ResultChannel) : Redis :=
  if c.connected ∧ find? ticket c.records = none then
    ((Redis.get (redisKey ticket)).run c.redis).state
  else c.redis

/-- A ticket in the map is answered from there. -/
theorem get_run_of_find? {now : Timestamp} {ticket : String} {r : Record}
    (h : find? ticket c.records = some r) : (get now ticket).run c = ⟨.ok r, c, []⟩ := by
  simp [get, h]

theorem fetch_state (now : Timestamp) (ticket : String) :
    ((fetch now ticket).run c).state =
      { c with redis := ((Redis.get (redisKey ticket)).run c.redis).state } := by
  rw [fetch, Op.state_bind_ok (a := c) rfl]
  simp only [Op.run_get]
  cases hget : ((onRedis (Redis.get (redisKey ticket))).run c).answer with
  | error e =>
      rw [Op.state_bind_error hget]
      rfl
  | ok text? =>
      rw [Op.state_bind_ok hget]
      cases text? with
      | none => rfl
      | some text =>
          by_cases ht : text.isEmpty = true
          · simp [ht, onRedis]
          · cases hr : readStored c.nesting now text <;> simp [ht, hr, onRedis]

/-- A look-up changes nothing but the log of Redis calls. -/
theorem get_state (now : Timestamp) (ticket : String) :
    ((get now ticket).run c).state = { c with redis := consulted ticket c } := by
  cases hfind : find? ticket c.records with
  | some r => simp [get_run_of_find? hfind, consulted, hfind]
  | none =>
      rw [get, Op.state_bind_ok (a := c) rfl]
      simp only [Op.run_get, hfind]
      by_cases hc : c.connected = true
      · have hstate : { c with redis := consulted ticket c } =
            ((fetch now ticket).run c).state := by
          rw [consulted, if_pos ⟨hc, hfind⟩, fetch_state]
        rw [hstate, if_pos hc, Op.state_bind_ok (by rw [Op.run_attempt])]
        cases hf : ((fetch now ticket).run c).answer with
        | error e => simp [Op.event]
        | ok r? => cases r? <;> simp
      · have hsame : consulted ticket c = c.redis := by simp [consulted, hc]
        rw [hsame, if_neg hc]
        rfl

/-- A look-up fails in one way only. -/
theorem get_answer_of_error {now : Timestamp} {ticket : String} {e : Failure}
    (h : ((get now ticket).run c).answer = .error e) : e = .bridge (.resultNotFound ticket) := by
  cases hfind : find? ticket c.records with
  | some r => simp [get_run_of_find? hfind] at h
  | none =>
      rw [get, Op.answer_bind_ok (a := c) rfl] at h
      simp only [Op.run_get, hfind] at h
      cases hc : c.connected with
      | false => simp_all
      | true =>
          simp only [hc, if_true] at h
          cases hf : ((fetch now ticket).run c).answer with
          | error e' => simp_all [Op.event]
          | ok r? => cases r? <;> simp_all

/-- Without Redis the map is all there is. -/
theorem get_answer_memory (hc : c.connected = false) (now : Timestamp) (ticket : String) :
    ((get now ticket).run c).answer =
      match find? ticket c.records with
      | some r => .ok r
      | none => .error (.bridge (.resultNotFound ticket)) := by
  cases hfind : find? ticket c.records <;> simp [get, hfind, hc]

/-! ## Registering and publishing -/

theorem register_answer (hcap : c.capacity = m) (now : Timestamp) (command : Command) :
    ((register now command).run c).answer = .ok (Record.ofCommand command now) := by
  rw [register, Op.answer_bind_ok (store_answer hcap _)]
  rfl

/-- A registration is a store and nothing else. -/
theorem register_state (hcap : c.capacity = m) (now : Timestamp) (command : Command) :
    ((register now command).run c).state =
      { c with records := kept m (Record.ofCommand command now) c.records
               redis := written (Record.ofCommand command now) c } := by
  rw [register, Op.state_bind_ok (store_answer hcap _)]
  exact store_state hcap _

/-- The queues after a record was broadcast: its body was offered to them, if it has one. -/
def offered (r : Record) (queues : List EventQueue) : List EventQueue :=
  if r.Dumpable then queues.map (EventQueue.offer r.toBody) else queues

/-- A broadcast fails if the record has no body, and then nobody is told. -/
theorem broadcast_run (r : Record) :
    (broadcast r).run c =
      ⟨r.dump.map fun _ => (), { c with queues := offered r c.queues }, []⟩ := by
  by_cases hr : r.Dumpable
  · simp [broadcast, offered, hr, Record.dump_of_dumpable hr, Except.map]
  · obtain ⟨f, -, hf⟩ := Record.dump_of_not_dumpable hr
    simp [broadcast, offered, hr, hf, Except.map]

section Publish

variable {now : Timestamp} {ticket : String} {status result : Json} {current r : Record}
  {s : ResultStatus}

/-- The record that a publication stores: the ticket has to be found, and the status to be known. -/
def incoming? (now : Timestamp) (ticket : String) (status result : Json) (c : ResultChannel) :
    Option Record := do
  let current ← ((get now ticket).run c).answer.toOption
  let s ← ResultStatus.ofJson? status
  return current.withOutcome now s result

theorem incoming?_of_ok (h : ((get now ticket).run c).answer = .ok current)
    (hs : ResultStatus.ofJson? status = some s) :
    incoming? now ticket status result c = some (current.withOutcome now s result) := by
  simp [incoming?, h, hs, Except.toOption]

theorem exists_of_incoming? (h : incoming? now ticket status result c = some r) :
    ∃ current s, ((get now ticket).run c).answer = .ok current ∧
      ResultStatus.ofJson? status = some s ∧ r = current.withOutcome now s result := by
  cases hget : ((get now ticket).run c).answer with
  | error e => simp [incoming?, hget, Except.toOption] at h
  | ok current =>
      cases hs : ResultStatus.ofJson? status with
      | none => simp [incoming?, hs] at h
      | some s =>
          rw [incoming?_of_ok hget hs] at h
          exact ⟨current, s, rfl, rfl, (Option.some.inj h).symm⟩

/-- Whether a record can be dumped depends on its result only. -/
@[simp] theorem dumpable_withOutcome :
    (current.withOutcome now s result).Dumpable ↔ result.Dumpable := Iff.rfl

/-- Publishing on a ticket that cannot be looked up fails like the look-up. -/
theorem publish_answer_of_get_error {e : Failure}
    (h : ((get now ticket).run c).answer = .error e) :
    ((publish now ticket status result).run c).answer = .error e := by
  rw [publish, Op.answer_bind_error h]

/-- The ticket is looked up before the status is read. -/
theorem publish_answer_of_status_none (h : ((get now ticket).run c).answer = .ok current)
    (hs : ResultStatus.ofJson? status = none) :
    ((publish now ticket status result).run c).answer = .error (.unknownStatus status) := by
  rw [publish, Op.answer_bind_ok h]
  exact Op.answer_bind_error (by simp [checkStatus, hs])

/-- A publication that stores a record answers with it, or fails because it has no body. -/
theorem publish_answer (hcap : c.capacity = m) (h : ((get now ticket).run c).answer = .ok current)
    (hs : ResultStatus.ofJson? status = some s) :
    ((publish now ticket status result).run c).answer =
      (current.withOutcome now s result).dump.map fun _ => current.withOutcome now s result := by
  have hstatus : ((checkStatus status).run ((get now ticket).run c).state).answer = .ok s := by
    simp [checkStatus, hs]
  have hcap' : ((checkStatus status).run ((get now ticket).run c).state).state.capacity = m := by
    simp [checkStatus, hs, get_state, hcap]
  rw [publish, Op.answer_bind_ok h, Op.answer_bind_ok hstatus]
  simp only
  rw [Op.answer_bind_ok (store_answer hcap' _), Op.answer_bind_ok (a := ()) rfl, Op.run_bind,
    broadcast_run]
  cases (current.withOutcome now s result).dump <;> rfl

theorem publish_answer_of_dumpable (hcap : c.capacity = m)
    (h : ((get now ticket).run c).answer = .ok current)
    (hs : ResultStatus.ofJson? status = some s) (hresult : result.Dumpable) :
    ((publish now ticket status result).run c).answer =
      .ok (current.withOutcome now s result) := by
  rw [publish_answer hcap h hs, Record.dump_of_dumpable (dumpable_withOutcome.mpr hresult)]
  rfl

/-- A publication that succeeds stored the record that it answers with, which has a body. -/
theorem incoming?_of_publish_answer (hcap : c.capacity = m)
    (h : ((publish now ticket status result).run c).answer = .ok r) :
    incoming? now ticket status result c = some r ∧ r.Dumpable := by
  cases hget : ((get now ticket).run c).answer with
  | error e => simp [publish_answer_of_get_error hget] at h
  | ok current =>
      cases hs : ResultStatus.ofJson? status with
      | none => simp [publish_answer_of_status_none hget hs] at h
      | some s =>
          rw [publish_answer hcap hget hs, Record.map_dump_eq_ok_iff] at h
          obtain ⟨hdump, rfl⟩ := h
          exact ⟨incoming?_of_ok hget hs, hdump⟩

/-- What a publication answers with is the record that it stored, if that has a body. -/
theorem toOption_publish_answer (hcap : c.capacity = m) :
    ((publish now ticket status result).run c).answer.toOption =
      (incoming? now ticket status result c).filter fun r => r.Dumpable := by
  cases hin : incoming? now ticket status result c with
  | none =>
      cases h : ((publish now ticket status result).run c).answer with
      | error e => rfl
      | ok r => simp [(incoming?_of_publish_answer hcap h).1] at hin
  | some r =>
      obtain ⟨current, s, hget, hs, rfl⟩ := exists_of_incoming? hin
      rw [publish_answer hcap hget hs]
      by_cases hr : (current.withOutcome now s result).Dumpable
      · simp [Record.dump_of_dumpable hr, Except.map, Except.toOption, Option.filter, hr]
      · obtain ⟨f, -, hf⟩ := Record.dump_of_not_dumpable hr
        simp [hf, Except.map, Except.toOption, Option.filter, hr]

/-- A publication that stores no record is no more than its look-up. -/
theorem publish_state_of_none (h : incoming? now ticket status result c = none) :
    ((publish now ticket status result).run c).state = { c with redis := consulted ticket c } := by
  rw [← get_state now ticket]
  cases hget : ((get now ticket).run c).answer with
  | error e' => rw [publish, Op.state_bind_error hget]
  | ok current =>
      cases hs : ResultStatus.ofJson? status with
      | none =>
          rw [publish, Op.state_bind_ok hget,
            Op.state_bind_error (e := .unknownStatus status) (by simp [checkStatus, hs])]
          simp [checkStatus, hs]
      | some s => simp [incoming?_of_ok hget hs] at h

/-- A publication stores the record with its outcome and offers the body to every queue. -/
theorem publish_state (hcap : c.capacity = m) (h : incoming? now ticket status result c = some r) :
    ((publish now ticket status result).run c).state =
      { c with
        records := kept m r c.records
        queues := offered r c.queues
        redis := written r { c with redis := consulted ticket c } } := by
  obtain ⟨current, s, hget, hs, rfl⟩ := exists_of_incoming? h
  have hstatus : ((checkStatus status).run ((get now ticket).run c).state).answer = .ok s := by
    simp [checkStatus, hs]
  have hstate : ((checkStatus status).run ((get now ticket).run c).state).state =
      { c with redis := consulted ticket c } := by
    simp [checkStatus, hs, get_state]
  rw [publish, Op.state_bind_ok hget, Op.state_bind_ok hstatus, hstate]
  have hcap' : ({ c with redis := consulted ticket c } : ResultChannel).capacity = m := hcap
  simp only
  rw [Op.state_bind_ok (store_answer hcap' _), store_state hcap', Op.state_bind_ok (a := ()) rfl,
    Op.run_bind]
  simp only [Op.event, Op.run_log]
  rw [broadcast_run]
  cases (current.withOutcome now s result).dump <;> rfl

end Publish

/-- An outcome published on a ticket that is in the map is its record from then on, and the event of
every open queue that has room. -/
theorem publishOutcome_of_find? (now : Timestamp) {ticket : String} (s : ResultStatus)
    {result : Json} {current : Record} (hm : 1 ≤ m) (hcap : c.capacity = m)
    (hfind : find? ticket c.records = some current) (hresult : result.Dumpable) :
    ((publishOutcome now ticket s result).run c).answer =
        .ok (current.withOutcome now s result) ∧
      find? ticket ((publishOutcome now ticket s result).run c).state.records =
        some (current.withOutcome now s result) ∧
      ((publishOutcome now ticket s result).run c).state.queues =
        c.queues.map (EventQueue.offer (current.withOutcome now s result).toBody) := by
  have hget : ((get now ticket).run c).answer = .ok current := by rw [get_run_of_find? hfind]
  have hs := ResultStatus.ofJson?_text s
  have hticket : (current.withOutcome now s result).ticket = ticket := by
    show current.ticket = ticket
    exact ticket_of_find? hfind
  rw [publishOutcome, publish_answer_of_dumpable hcap hget hs hresult,
    publish_state hcap (incoming?_of_ok hget hs), offered,
    if_pos (dumpable_withOutcome.mpr hresult)]
  refine ⟨rfl, ?_, rfl⟩
  rw [← hticket]
  exact find?_kept hm _ _

section Bodies

variable {now : Timestamp} {ticket : String} {s : ResultStatus} {result : Json} {r : Record}

/-- Asked for the body of what it stores, a publication answers with it, if there is one. -/
theorem publishBody_answer (hcap : c.capacity = m)
    (h : incoming? now ticket (.string s.text) result c = some r) :
    ((publishBody now ticket s result).run c).answer = r.dump := by
  obtain ⟨current, s', hget, hs, rfl⟩ := exists_of_incoming? h
  have hpublish : ((publishOutcome now ticket s result).run c).answer = _ :=
    publish_answer hcap hget hs
  cases hdump : (current.withOutcome now s' result).dump with
  | error e =>
      rw [hdump] at hpublish
      rw [publishBody, Op.answer_bind_error hpublish]
  | ok body =>
      rw [hdump] at hpublish
      rw [publishBody, Op.answer_bind_ok hpublish, Op.run_ofExcept, hdump]

/-- A known status is no reason to store nothing, so the ticket was not found. -/
theorem publishBody_answer_of_none (h : incoming? now ticket (.string s.text) result c = none) :
    ((publishBody now ticket s result).run c).answer =
      .error (.bridge (.resultNotFound ticket)) := by
  cases hget : ((get now ticket).run c).answer with
  | error e =>
      obtain rfl := get_answer_of_error hget
      exact Op.answer_bind_error (publish_answer_of_get_error hget)
  | ok current => simp [incoming?_of_ok hget (ResultStatus.ofJson?_text s)] at h

/-- The body is made when everything has been done. -/
theorem publishBody_state (now : Timestamp) (ticket : String) (s : ResultStatus) (result : Json)
    (c : ResultChannel) :
    ((publishBody now ticket s result).run c).state =
      ((publishOutcome now ticket s result).run c).state :=
  Op.state_bind_ofExcept _ _ c

theorem getBody_state (now : Timestamp) (ticket : String) (c : ResultChannel) :
    ((getBody now ticket).run c).state = { c with redis := consulted ticket c } :=
  (Op.state_bind_ofExcept _ _ c).trans (get_state now ticket)

end Bodies

end CommandBridge.ResultChannel
