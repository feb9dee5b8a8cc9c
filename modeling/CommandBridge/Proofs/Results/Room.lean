import CommandBridge.Proofs.Results.Publication

/-!
# CommandBridge.Proofs.Results.Room

What the capacity of a channel does to its operations.  With room for some number of records, also
for none, storing never fails and keeps the newest ones.  With a negative capacity not even the
empty map is small enough: eviction runs on until nothing is left to evict, and whatever would
store a record fails with that (`store_of_no_room`).  Nothing else fails so
(`register_eq_nothingToEvict_iff`, `publish_eq_nothingToEvict_iff`).
-/

namespace CommandBridge.ResultChannel

variable {c : ResultChannel} {r : Record} {now : Timestamp} {ticket : String}
  {status result : Json}

/-! ## Storing -/

/-- No map is small enough for a negative capacity. -/
theorem evict_of_neg {capacity : Int} (h : capacity < 0) (records : List Record) :
    evict capacity records = .error .nothingToEvict := by
  induction records with
  | nil => rw [evict, if_pos h]
  | cons r rest ih =>
      have hlong : capacity < (r :: rest).length := by omega
      rw [evict, if_pos hlong, ih]

/-- A channel with a negative capacity loses all its records over a store, which writes nothing
through and logs nothing. -/
theorem store_of_no_room (hcap : c.capacity < 0) (r : Record) :
    (store r).run c = ⟨.error .nothingToEvict, { c with records := [] }, []⟩ := by
  rw [store_run, evict_of_neg hcap]

/-- A channel with some capacity keeps the newest records. -/
theorem store_of_room (hcap : 0 ≤ c.capacity) (r : Record) :
    ((store r).run c).answer = .ok () ∧
      ((store r).run c).state.records = (insertNewest r c.records).rtake c.capacity.toNat := by
  have hnat : c.capacity = c.capacity.toNat := by omega
  exact ⟨store_answer hnat r, by rw [store_state hnat, kept]⟩

/-- Whether or not it fails, a store leaves no more records than there is room for. -/
theorem length_store_le (c : ResultChannel) (r : Record) :
    (((store r).run c).state.records.length : Int) ≤ max c.capacity 0 := by
  by_cases hcap : 0 ≤ c.capacity
  · rw [(store_of_room hcap r).2, Recency.length_rtake]
    omega
  · rw [store_of_no_room (by omega)]
    exact le_max_right _ _

/-! ## Registering and publishing -/

/-- A channel with a negative capacity may not even be empty, and tracks no command. -/
theorem register_of_no_room (hcap : c.capacity < 0) (now : Timestamp) (command : Command) :
    (register now command).run c = ⟨.error .nothingToEvict, { c with records := [] }, []⟩ :=
  Op.run_bind_of_error (store_of_no_room hcap _)

theorem register_eq_nothingToEvict_iff (now : Timestamp) (command : Command) :
    ((register now command).run c).answer = .error .nothingToEvict ↔ c.capacity < 0 := by
  by_cases hcap : c.capacity < 0
  · rw [register_of_no_room hcap]
    exact iff_of_true rfl hcap
  · have hnat : c.capacity = c.capacity.toNat := by omega
    rw [register_answer hnat]
    exact iff_of_false (by simp) hcap

/-- Publishing fails for want of room once the ticket was found and the status is one. -/
theorem publish_eq_nothingToEvict_iff :
    ((publish now ticket status result).run c).answer = .error .nothingToEvict ↔
      c.capacity < 0 ∧ (∃ current, Tracked now ticket c current) ∧
        ∃ s : ResultStatus, status = .string s.text := by
  cases hget : ((get now ticket).run c).answer with
  | error e =>
      rw [publish_answer_of_get_error hget, get_answer_of_error hget]
      refine iff_of_false (by simp) ?_
      rintro ⟨-, ⟨current, htracked⟩, -⟩
      exact absurd (hget.symm.trans (get_answer_ok_iff.mpr htracked)) (by simp)
  | ok current =>
      have htracked := get_answer_ok_iff.mp hget
      cases hs : ResultStatus.ofJson? status with
      | none =>
          rw [publish_answer_of_status_none hget hs]
          refine iff_of_false (by simp) ?_
          rintro ⟨-, -, s, hstatus⟩
          exact ResultStatus.ofJson?_eq_none_iff.mp hs s hstatus
      | some s =>
          have hstatus := ResultStatus.ofJson?_eq_some_iff.mp hs
          by_cases hcap : c.capacity < 0
          · have hchecked : ((checkStatus status).run ((get now ticket).run c).state).answer =
                .ok s := by rw [checkStatus, hs]; rfl
            have hleft : ((checkStatus status).run ((get now ticket).run c).state).state =
                { c with redis := consulted ticket c } := by
              rw [checkStatus, hs, get_state]
              rfl
            have hstore := store_of_no_room (c := { c with redis := consulted ticket c }) hcap
              (current.withOutcome now s result)
            refine iff_of_true ?_ ⟨hcap, ⟨current, htracked⟩, s, hstatus⟩
            rw [publish, Op.answer_bind_ok hget, Op.answer_bind_ok hchecked, hleft]
            exact Op.answer_bind_error (by rw [hstore])
          · have hnat : c.capacity = c.capacity.toNat := by omega
            rw [publish_answer hnat hget hs]
            exact iff_of_false (by simp [Record.map_dump_eq_error_iff]) fun h => hcap h.1

end CommandBridge.ResultChannel
