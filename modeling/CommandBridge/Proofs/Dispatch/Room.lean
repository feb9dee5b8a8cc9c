import CommandBridge.Proofs.Dispatch.Calls
import CommandBridge.Proofs.Results.Room
import CommandBridge.Service.Setup

/-!
# CommandBridge.Proofs.Dispatch.Room

What the capacity of the result channel does to calls.  With room for some number of records, also
for none, no call fails for want of room, whatever its instance does on the channel meanwhile
(`capacity_delivered`).  With a negative capacity a call fails when its command is to be tracked,
before the instance is given it (`run_of_no_room`).

`room_for_records` says this of everything that stores records.  As the settings and the
options take every integer, such a channel can be asked for (`no_room_by_settings`).
-/

namespace CommandBridge

open ResultChannel

namespace Bridge

/-- Where no record can be tracked, a command is not delivered. -/
theorem handOver_of_no_room {b : Bridge} (hcap : b.host.results.capacity < 0) (now : Timestamp)
    (i : Nat) (c : Command) :
    (handOver now i c).run b = ⟨.error .nothingToEvict,
      { b with host := { b.host with results := { b.host.results with records := [] } } }, []⟩ := by
  have hregister : (discard (onResults (register now c))).run b = ⟨.error .nothingToEvict,
      { b with host := { b.host with results := { b.host.results with records := [] } } }, []⟩ := by
    rw [Op.run_discard, onResults, onHost, Op.run_on, Host.onResults, Op.run_on,
      register_of_no_room hcap]
    rfl
  exact Op.run_bind_of_error hregister

end Bridge

namespace Call

variable {call : Call} {now : Timestamp} {b : Bridge} {i : Nat} {m : Nat}

/-- Whatever an instance does with a command, the capacity stays. -/
theorem capacity_delivered (hcap : b.host.results.capacity = m) :
    (call.delivered now i b).state.results.capacity = m := by
  obtain ⟨steps, hrun⟩ := Host.exists_runAll_deliver now i (call.command now b)
    ((readied i b).host.tracking now (call.command now b))
  rw [delivered, Bridge.delivery, hrun]
  exact capacity_runAll steps (Host.capacity_tracking now _ (capacity_readied i hcap))

/-- A call that would be delivered fails where no record can be tracked.  It is not delivered and
not counted, and the map is empty. -/
theorem run_of_no_room (hcap : b.host.results.capacity < 0) (hname : call.nameless? = none)
    (hi : b.attached = some i) (hopen : ((Bridge.ensureOpen i).run b).answer = .ok ()) :
    ((call.run now).run b).answer = .error .nothingToEvict ∧
      ((call.run now).run b).state.host.results = { b.host.results with records := [] } ∧
      (∀ j, ((call.run now).run b).state.host.received j = b.host.received j) ∧
      ((call.run now).run b).state.stats = b.stats := by
  have hsame := sameDeliveries_readied i b
  have hready : (readied i b).host.results.capacity < 0 := by
    rw [hsame.results]
    exact hcap
  obtain ⟨hanswer, hstate⟩ := run_of_open now hname hi hopen
  rw [hanswer, hstate, Bridge.handOver_of_no_room hready]
  exact ⟨rfl, by rw [← hsame.results], fun j => hsame.received j, stats_readied i b⟩

/-- Publishing why a command was not taken does not fail for want of room. -/
theorem rejection_ne_nothingToEvict (hcap : b.host.results.capacity = m) (detail : Text) :
    (Bridge.rejection now (call.command now b) detail (call.delivered now i b).state).answer ≠
      .error .nothingToEvict := by
  intro hfails
  have hroom := (publish_eq_nothingToEvict_iff.mp hfails).1
  rw [capacity_delivered hcap] at hroom
  omega

/-- With room for some number of records, also for none, no call fails for want of room. -/
theorem run_ne_nothingToEvict (hcap : b.host.results.capacity = m) (hname : call.nameless? = none)
    (hi : b.attached = some i) (hopen : ((Bridge.ensureOpen i).run b).answer = .ok ()) :
    ((call.run now).run b).answer ≠ .error .nothingToEvict := by
  intro hfails
  cases hrefused : Bridge.refused? (call.delivered now i b) with
  | none =>
      rw [(run_of_taken hcap hname hi hopen hrefused).1] at hfails
      exact absurd hfails (by simp)
  | some detail =>
      have hrejection : (Bridge.rejection now (call.command now b) detail
          (call.delivered now i b).state).answer ≠ .error .nothingToEvict :=
        rejection_ne_nothingToEvict hcap detail
      rw [(run_of_refused hcap hname hi hopen hrefused).1] at hfails
      cases hrecorded : (Bridge.rejection now (call.command now b) detail
          (call.delivered now i b).state).answer with
      | error e =>
          rw [hrecorded] at hfails hrejection
          obtain rfl : e = .nothingToEvict := Except.error.inj hfails
          exact hrejection rfl
      | ok r =>
          rw [hrecorded] at hfails
          exact absurd (Except.error.inj hfails) nofun

/-- A call fails for want of room if it comes to tracking its command, and no record can be
tracked. -/
theorem run_eq_nothingToEvict_iff :
    ((call.run now).run b).answer = .error .nothingToEvict ↔
      b.host.results.capacity < 0 ∧ call.nameless? = none ∧
        ∃ i, b.attached = some i ∧ ((Bridge.ensureOpen i).run b).answer = .ok () := by
  refine ⟨fun hfails => ?_, fun ⟨hcap, hname, i, hi, hopen⟩ =>
    (run_of_no_room hcap hname hi hopen).1⟩
  cases hname : call.nameless? with
  | some what =>
      rw [run_of_nameless hname] at hfails
      exact absurd (Except.error.inj hfails) nofun
  | none =>
    obtain ⟨hanswer, -⟩ := run_of_named hname now b
    cases hi : b.attached with
    | none =>
        rw [hanswer, (Bridge.dispatch_unavailable now _ _ _ hi).1] at hfails
        exact absurd (Except.error.inj hfails) nofun
    | some i =>
      cases hopen : ((Bridge.ensureOpen i).run b).answer with
      | error e =>
          rw [hanswer, (Bridge.dispatch_of_open_error now _ _ _ hi hopen).1] at hfails
          obtain ⟨f, rfl⟩ := Bridge.failsOnly_ensureOpen i b e hopen
          exact absurd (Except.error.inj hfails) nofun
      | ok u =>
        refine ⟨?_, rfl, i, rfl, hopen⟩
        by_contra hcap
        exact run_ne_nothingToEvict (m := b.host.results.capacity.toNat) (by omega) hname hi hopen
          hfails

end Call

/-- A channel has the capacity that it was given, unless that is none or zero, and else that of the
settings. -/
theorem ServiceOptions.capacity_channel (o : ServiceOptions) (settings : BridgeSettings) :
    (o.channel settings).capacity =
      if o.capacity.getD 0 = 0 then settings.maxTrackedResults else o.capacity.getD 0 := by
  show numberOr settings.maxTrackedResults o.capacity = _
  rcases o.capacity with _ | n
  · rfl
  · by_cases hn : n = 0
    · rw [hn]
      rfl
    · simp [numberOr, hn]

/-- What every capacity does to a store, and to all that stores.

* A channel is given its capacity, or has that of the settings; given zero counts as not given.
* With room for some number of records, also for none, a store answers, and the map is left with the
  newest records, as many as there is room for.
* With a negative capacity a store fails with the failure of the map, which it leaves empty;
  nothing is written through and nothing is logged.
* So there are never more records than there is room for.
* A registration fails with the failure of the map exactly if the capacity is negative, a
  publication if moreover the ticket has a record and the status is one, and a call if moreover it
  has a name and an instance that is open by then.  Such a call is not delivered and not counted. -/
theorem room_for_records (c : ResultChannel) (r : Record) (now : Timestamp) (command : Command)
    (ticket : String) (status result : Json) (call : Call) (b : Bridge) (o : ServiceOptions)
    (settings : BridgeSettings) :
    (o.channel settings).capacity =
      (if o.capacity.getD 0 = 0 then settings.maxTrackedResults else o.capacity.getD 0) ∧
    (0 ≤ c.capacity → ((store r).run c).answer = .ok () ∧
      ((store r).run c).state.records = (insertNewest r c.records).rtake c.capacity.toNat) ∧
    (c.capacity < 0 →
      (store r).run c = ⟨.error .nothingToEvict, { c with records := [] }, []⟩) ∧
    (((store r).run c).state.records.length : Int) ≤ max c.capacity 0 ∧
    (((register now command).run c).answer = .error .nothingToEvict ↔ c.capacity < 0) ∧
    (((publish now ticket status result).run c).answer = .error .nothingToEvict ↔
      c.capacity < 0 ∧ (∃ current, Tracked now ticket c current) ∧
        ∃ s : ResultStatus, status = .string s.text) ∧
    (((call.run now).run b).answer = .error .nothingToEvict ↔
      b.host.results.capacity < 0 ∧ call.nameless? = none ∧
        ∃ i, b.attached = some i ∧ ((Bridge.ensureOpen i).run b).answer = .ok ()) ∧
    (((call.run now).run b).answer = .error .nothingToEvict →
      ((call.run now).run b).state.host.results = { b.host.results with records := [] } ∧
      (∀ j, ((call.run now).run b).state.host.received j = b.host.received j) ∧
      ((call.run now).run b).state.stats = b.stats) := by
  refine ⟨o.capacity_channel settings, fun hcap => store_of_room hcap r,
    fun hcap => store_of_no_room hcap r,
    length_store_le c r, register_eq_nothingToEvict_iff now command,
    publish_eq_nothingToEvict_iff, Call.run_eq_nothingToEvict_iff, fun hfails => ?_⟩
  obtain ⟨hcap, hname, i, hi, hopen⟩ := Call.run_eq_nothingToEvict_iff.mp hfails
  exact (Call.run_of_no_room hcap hname hi hopen).2

/-- Of two records the newer one is kept where there is room for one, and neither where there is
room for less than none; nor is a command delivered there. -/
theorem room_for_records_two :
    let first := Record.ofCommand ⟨.callTool, "echo", .null, ticketOf 1, ""⟩ ⟨0⟩
    let second := Record.ofCommand ⟨.callTool, "echo", .null, ticketOf 2, ""⟩ ⟨1⟩
    let channel (capacity : Int) : ResultChannel := { capacity, ttl := 60, records := [first] }
    let host : Host := { instances := [{}], results := channel (-1) }
    let b : Bridge := { attached := some 0, opened := some 0, host }
    ((store second).run (channel 1)).state.records = [second] ∧
      (store second).run (channel (-1)) =
        ⟨.error .nothingToEvict, { channel (-1) with records := [] }, []⟩ ∧
      (((Call.callTool "echo" .null).run ⟨1⟩).run b).answer = .error .nothingToEvict ∧
      (((Call.callTool "echo" .null).run ⟨1⟩).run b).state.host.received 0 = [] := by
  intro first second channel host b
  obtain ⟨-, hroom, -⟩ := room_for_records (channel 1) second ⟨1⟩
    ⟨.callTool, "echo", .null, "", ""⟩ "" .null .null (.callTool "echo" .null) b {} {}
  obtain ⟨-, -, hnone, -, -, -, hcall, hleft⟩ := room_for_records (channel (-1)) second ⟨1⟩
    ⟨.callTool, "echo", .null, "", ""⟩ "" .null .null (.callTool "echo" .null) b {} {}
  have hfails := hcall.mpr ⟨by decide, rfl, 0, rfl, rfl⟩
  refine ⟨?_, hnone (by decide), hfails, (hleft hfails).2.1 0⟩
  rw [(hroom (by decide)).2]
  decide +kernel

/-- A setting of minus one is read like any other, and then no command can be tracked. -/
theorem no_room_by_settings :
    ∃ settings, BridgeSettings.ofValues [("mcp_max_tracked_results", "-1")] = .ok settings ∧
      ((register ⟨0⟩ ⟨.callTool, "echo", .null, ticketOf 1, ""⟩).run
        (ServiceOptions.channel {} settings)).answer = .error .nothingToEvict := by
  refine ⟨{ maxTrackedResults := -1 }, by decide +kernel, by decide +kernel⟩

end CommandBridge
