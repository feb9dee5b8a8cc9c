import CommandBridge.Proofs.Results.Finality

/-!
# CommandBridge.Proofs.Results.Capacity

A channel never holds more records than its capacity (`Within`, kept by every operation).  So an
outcome that is published on a ticket of the map drops nobody's record: the map has it as its
newest record, and is otherwise what it was (`publishOutcome_run`).  Without Redis, an outcome that
is published on any other ticket changes nothing (`publishOutcome_run_of_none`).
-/

namespace CommandBridge.ResultChannel

variable {c : ResultChannel} {ticket t : String} {r current : Record} {records : List Record}
  {now : Timestamp}

/-- A channel that holds no more records than it may. -/
def Within (c : ResultChannel) : Prop :=
  c.records = [] ∨ (c.records.length : Int) ≤ c.capacity

/-! ## Every operation keeps to the capacity -/

theorem length_le_of_evict {capacity : Int} {kept : List Record}
    (h : evict capacity records = .ok kept) : (kept.length : Int) ≤ capacity := by
  induction records with
  | nil =>
      rw [evict] at h
      split at h
      · exact absurd h (by simp)
      · next hcap =>
        rw [← Except.ok.inj h, List.length_nil]
        omega
  | cons r rest ih =>
      rw [evict] at h
      split at h
      · exact ih h
      · next hcap =>
        rw [← Except.ok.inj h]
        omega

theorem evict_of_le {capacity : Int} (h : (records.length : Int) ≤ capacity) :
    evict capacity records = .ok records := by
  cases records with
  | nil =>
      rw [List.length_nil] at h
      rw [evict, if_neg (by omega)]
  | cons r rest => rw [evict, if_neg (by omega)]

theorem within_store (r : Record) : (store r).Keeps Within := by
  intro c _
  cases hkept : evict c.capacity (insertNewest r c.records) with
  | error e =>
      rw [store_state_of_error hkept]
      exact .inl rfl
  | ok kept =>
      rw [store_state_of_ok hkept]
      exact .inr (length_le_of_evict hkept)

theorem within_get (now : Timestamp) (ticket : String) : (get now ticket).Keeps Within := by
  intro c hc
  rw [get_state]
  exact hc

theorem within_publish (now : Timestamp) (ticket : String) (status result : Json) :
    (publish now ticket status result).Keeps Within := by
  have hcheck : (checkStatus status).Keeps Within := by
    unfold checkStatus
    split
    · exact .pure _
    · exact .fail _
  have hbroadcast : ∀ r, (broadcast r).Keeps Within := by
    intro r c hc
    rw [broadcast_run]
    exact hc
  exact .bind (within_get now ticket) fun _ => .bind hcheck fun _ => .bind (within_store _) fun _ =>
    .bind (.event _ _ _ _) fun _ => .bind (hbroadcast _) fun _ => .pure _

/-- Whatever is asked of a channel, it holds no more records than it may. -/
theorem within_run (now : Timestamp) (o : ChannelOperation) : (o.run now).Keeps Within := by
  cases o with
  | register command => exact .discard (.bind (within_store _) fun _ => .pure _)
  | publish ticket status result => exact .discard (within_publish now ticket status result)
  | get ticket => exact .discard (within_get now ticket)
  | subscribe limit => exact .discard fun _ hc => hc
  | unsubscribe place => exact .modify fun _ hc => hc
  | drain place => exact .discard fun _ hc => hc

/-! ## Publishing on a ticket of the map -/

theorem find?_insertNewest (r : Record) (records : List Record) (t : String) :
    find? t (insertNewest r records) = if t = r.ticket then some r else find? t records := by
  rw [insertNewest, find?, find?, List.find?_append, List.find?_filter]
  by_cases ht : t = r.ticket
  · subst ht
    have hnone : records.find? (fun x => decide (decide (x.ticket ≠ r.ticket) = true ∧
        decide (x.ticket = r.ticket) = true)) = none := by
      rw [List.find?_eq_none]
      intro x _
      simp
    rw [hnone, if_pos rfl, Option.none_or]
    simp
  · have hsame : (fun x : Record => decide (decide (x.ticket ≠ r.ticket) = true ∧
        decide (x.ticket = t) = true)) = fun x => decide (x.ticket = t) := by
      funext x
      by_cases hx : x.ticket = t
      · simp [hx, ht]
      · simp [hx]
    have hother : [r].find? (fun x => decide (x.ticket = t)) = none := by
      simpa using fun h : r.ticket = t => ht h.symm
    rw [hsame, hother, if_neg ht, Option.or_none]

/-- A ticket that is in the map makes room for its new record. -/
theorem length_insertNewest_le (h : find? r.ticket records = some current) :
    (insertNewest r records).length ≤ records.length := by
  have hlt : (records.filter fun x => x.ticket ≠ r.ticket).length < records.length := by
    rw [List.length_filter_lt_length_iff_exists]
    refine ⟨current, List.mem_of_find?_eq_some h, ?_⟩
    simp [ticket_of_find? h]
  rw [insertNewest, List.length_append, List.length_singleton]
  exact hlt

/-- A record that fits into the map is stored.  Without Redis nothing is logged. -/
theorem store_run_of_ok (h : evict c.capacity (insertNewest r c.records) = .ok records) :
    ∃ log, (store r).run c = ⟨.ok (), { c with records := records, redis := written r c }, log⟩ ∧
      (c.connected = false → log = []) := by
  have hstate := store_state_of_ok h
  have hinsert := insert_run_of_ok h
  refine ⟨((store r).run c).log, ?_, fun hconn => ?_⟩
  · have hanswer : ((store r).run c).answer = .ok () := by
      rw [store, Op.answer_bind_ok (a := ()) (by rw [hinsert]), hinsert,
        Op.answer_bind_ok (a := { c with records := records }) rfl]
      simp only [Op.run_get]
      split
      · rw [Op.answer_bind_ok (by rw [Op.run_attempt])]
        split <;> rfl
      · rfl
    rw [← hstate, ← hanswer]
  · simp [store, hinsert, hconn]

/-- A channel after an outcome was published on a ticket of its map. -/
def settled (r : Record) (c : ResultChannel) : ResultChannel :=
  { c with
    records := insertNewest r c.records
    queues := offered r c.queues
    redis := written r c }

/-- What is logged about an outcome that was published. -/
def published (r : Record) : Log.Entry :=
  Log.event .results .info "result_published"
    [("ticket", .string r.ticket), ("kind", .string r.kind.text), ("target", .string r.target),
      ("status", .string r.status.text)]

/-- An outcome published on a ticket of the map is its record there, and nobody else's record is
lost.  If the record has no body, the publication fails all the same. -/
theorem publishOutcome_run (now : Timestamp) (status : ResultStatus) (result : Json)
    (hwithin : c.Within) (hfind : find? ticket c.records = some current) :
    ∃ log, (publishOutcome now ticket status result).run c =
        ⟨(current.withOutcome now status result).dump.map fun _ =>
            current.withOutcome now status result,
          settled (current.withOutcome now status result) c,
          log ++ [published (current.withOutcome now status result)]⟩ ∧
      (c.connected = false → log = []) := by
  have hticket : ticket = (current.withOutcome now status result).ticket :=
    (ticket_of_find? hfind).symm
  have hroom : evict c.capacity (insertNewest (current.withOutcome now status result) c.records) =
      .ok (insertNewest (current.withOutcome now status result) c.records) := by
    refine evict_of_le ?_
    have hlength := length_insertNewest_le (hticket ▸ hfind)
    rcases hwithin with hempty | hle
    · rw [hempty] at hfind
      exact absurd hfind (by simp [find?])
    · omega
  obtain ⟨log, hstore, hlog⟩ := store_run_of_ok hroom
  refine ⟨log, ?_, hlog⟩
  have hcheck : (checkStatus (.string status.text)).run c = ⟨.ok status, c, []⟩ := by
    rw [checkStatus, ResultStatus.ofJson?_text]
    rfl
  rw [publishOutcome, publish, Op.run_bind, get_run_of_find? hfind]
  dsimp only
  rw [Op.run_bind, hcheck]
  dsimp only
  rw [Op.run_bind, hstore]
  dsimp only
  rw [Op.run_bind]
  simp only [Op.event, Op.run_log]
  rw [Op.run_bind, broadcast_run]
  cases hdump : (current.withOutcome now status result).dump <;>
    simp [settled, published, ← hticket, Except.map]

/-- Without Redis, an outcome published on a ticket that is not in the map changes nothing. -/
theorem publishOutcome_run_of_none (now : Timestamp) (status : ResultStatus) (result : Json)
    (hconn : c.connected = false) (hfind : find? ticket c.records = none) :
    (publishOutcome now ticket status result).run c =
      ⟨.error (.bridge (.resultNotFound ticket)), c, []⟩ := by
  simp [publishOutcome, publish, get, hfind, hconn]

end CommandBridge.ResultChannel
