import CommandBridge.Proofs.Results.Finality
import CommandBridge.Proofs.Results.Run
import CommandBridge.Proofs.Timestamp

/-!
# CommandBridge.Proofs.Results.Stamps

The times of records.  A record that is registered or published has the time at which that was done
(`Step.updatedAt_of_stores?`), so while the clock does not go back the times of the records that
are stored one after the other do not, as texts (`pairwise_history`).

Whatever is done on a channel at one time leaves records that were there before and records of that
time, and never two of one ticket (`Dated`).
-/

namespace CommandBridge

open ResultChannel

namespace ResultChannel

variable {c : ResultChannel} {r : Record} {now : Timestamp} {past : List Record}

/-! ## Records that are stored one after the other -/

/-- A record has the time of the step that stored it. -/
theorem Step.updatedAt_of_stores? {s : Step} (h : s.stores? c = some r) :
    r.updatedAt = s.now.text := by
  obtain ⟨now, operation⟩ := s
  cases operation with
  | register command =>
      obtain rfl := Option.some.inj h
      rfl
  | publish ticket status result =>
      obtain ⟨current, s, -, -, rfl⟩ := exists_of_incoming? h
      rfl
  | _ => exact absurd h (by simp [stores?])

theorem updatedAt_of_mem_history {steps : List Step} {x : Stored} (hx : x ∈ history steps c) :
    x.record.updatedAt = x.step.now.text := by
  induction steps generalizing c with
  | nil => simp [history] at hx
  | cons s rest ih =>
      rcases List.mem_append.mp hx with hx | hx
      · obtain ⟨r, hr, rfl⟩ := Option.map_eq_some_iff.mp (Option.mem_toList.mp hx)
        exact Step.updatedAt_of_stores? hr
      · exact ih hx

/-- Every store is a step of the run, in the same order. -/
theorem history_steps_sublist (steps : List Step) (c : ResultChannel) :
    ((history steps c).map Stored.step).Sublist steps := by
  induction steps generalizing c with
  | nil => exact .slnil
  | cons s rest ih =>
      rw [history, List.map_append]
      cases hs : s.stores? c with
      | none =>
          rw [Step.stored?, hs]
          exact (ih (s.after c)).cons s
      | some r =>
          rw [Step.stored?, hs]
          exact (ih (s.after c)).cons_cons s

/-- While the clock never goes back, neither do the times of the records that are stored. -/
theorem pairwise_history {steps : List Step}
    (hclock : Timestamp.Advancing (steps.map Step.now)) (c : ResultChannel) :
    (history steps c).Pairwise fun x y => x.record.updatedAt ≤ y.record.updatedAt := by
  have hsteps := hclock.text_le
  rw [List.pairwise_map] at hsteps
  have hstored := hsteps.sublist (history_steps_sublist steps c)
  rw [List.pairwise_map] at hstored
  refine hstored.imp_of_mem fun hx hy hle => ?_
  rw [updatedAt_of_mem_history hx, updatedAt_of_mem_history hy]
  exact hle

/-! ## Records in the map -/

/-- The records of a channel, one of each ticket at most, are from the past or were made now. -/
structure Dated (past : List Record) (now : Timestamp) (c : ResultChannel) : Prop where
  distinct : (c.records.map Record.ticket).Nodup
  dated : ∀ r ∈ c.records, r ∈ past ∨ r.updatedAt = now.text

theorem dated_store (hr : r.updatedAt = now.text) : (store r).Keeps (Dated past now) := by
  intro c hc
  cases hkept : evict c.capacity (insertNewest r c.records) with
  | error e =>
      rw [store_state_of_error hkept]
      exact ⟨List.nodup_nil, fun _ hx => by simp at hx⟩
  | ok kept =>
      rw [store_state_of_ok hkept]
      have hsub := sublist_of_evict hkept
      refine ⟨(nodup_insertNewest hc.distinct r).sublist (hsub.map _), fun x hx => ?_⟩
      rcases List.mem_append.mp (hsub.mem hx) with hold | hnew
      · exact hc.dated x (List.mem_of_mem_filter hold)
      · rw [List.mem_singleton.mp hnew]
        exact .inr hr

theorem dated_get (ticket : String) : (get now ticket).Keeps (Dated past now) := by
  intro c hc
  rw [get_state]
  exact ⟨hc.distinct, hc.dated⟩

theorem dated_register (command : Command) : (register now command).Keeps (Dated past now) :=
  .bind (dated_store rfl) fun _ => .pure _

theorem dated_publish (ticket : String) (status result : Json) :
    (publish now ticket status result).Keeps (Dated past now) :=
  .bind (dated_get ticket) fun _ => .bind (keeps_checkStatus status) fun _ =>
    .bind (dated_store rfl) fun _ => .bind (.event _ _ _ _) fun _ =>
      .bind (.bind (.ofExcept _) fun _ => .modify fun _ hc => ⟨hc.distinct, hc.dated⟩)
        fun _ => .pure _

theorem dated_close : close.Keeps (Dated past now) :=
  .bind .get fun _ => .ite
    (fun _ => .bind (.on fun _ hc => ⟨hc.distinct, hc.dated⟩) fun _ =>
      .modify fun _ hc => ⟨hc.distinct, hc.dated⟩)
    fun _ => .pure _

end ResultChannel

/-- Whatever is done on a channel, its records are from the past or were made now. -/
theorem ChannelOperation.dated_run (o : ChannelOperation) (past : List Record) (now : Timestamp) :
    (o.run now).Keeps (Dated past now) := by
  cases o with
  | register command => exact .discard (dated_register command)
  | publish ticket status result => exact .discard (dated_publish ticket status result)
  | get ticket => exact .discard (dated_get ticket)
  | subscribe limit => exact .discard fun _ hc => ⟨hc.distinct, hc.dated⟩
  | unsubscribe place => exact fun _ hc => ⟨hc.distinct, hc.dated⟩
  | drain place => exact .discard fun _ hc => ⟨hc.distinct, hc.dated⟩

end CommandBridge
