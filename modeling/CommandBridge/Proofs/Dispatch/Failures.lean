import CommandBridge.Proofs.Dispatch.Calls

/-!
# CommandBridge.Proofs.Dispatch.Failures

Commands that their instance does not take.  The reason is published on the ticket, which can
only fail if the record is gone by then.  A delivery is a run of operations on the result
channel (`Host.exists_runAll_deliver`), and a record stays while fewer other tickets are stored
than the map can hold, so the caller, the record and the subscribers are told the same reason
(`failed_call_is_recorded`).
-/

namespace CommandBridge

open ResultChannel

/-- An event that is offered to an open queue with room is the last one in it. -/
theorem EventQueue.pending_offer {q : EventQueue} (hopen : q.isOpen = true)
    (hroom : q.hasRoom = true) (event : Json) :
    (q.offer event).pending = q.pending ++ [event] := by
  rw [offer, hopen, hroom]
  rfl

namespace Bridge

/-- The reason for which a command is not taken: the text of the failure or else its name, the
detail of the refusal or else a text that stands in for it. -/
theorem refused?_eq {o : Outcome Host Delivery} {detail : Text} (h : refused? o = some detail) :
    (∃ e, o.answer = .error e ∧ detail = if e.text.isEmpty then (e.name : Text) else e.text) ∨
      ∃ d, o.answer = .ok d ∧ d.accepted = false ∧
        detail = if (d.detail.getD []).isEmpty then refusal else d.detail.getD [] := by
  unfold refused? at h
  cases ho : o.answer with
  | error e =>
      rw [ho] at h
      exact .inl ⟨e, rfl, (Option.some.inj h).symm⟩
  | ok d =>
      rw [ho] at h
      refine .inr ⟨d, rfl, ?_⟩
      cases ha : d.accepted with
      | true => simp [refusalOf, ha] at h
      | false =>
          refine ⟨rfl, ?_⟩
          cases hd : d.detail <;> simp_all [refusalOf]

end Bridge

namespace Call

variable {call : Call} {now : Timestamp} {b : Bridge} {i : Nat} {m : Nat}

/-- The other tickets that are stored while a command is delivered. -/
def othersStored (call : Call) (now : Timestamp) (i : Nat) (b : Bridge) (steps : List Step) :
    Finset String :=
  ((storedTickets steps (call.channelAtDelivery now i b)).filter
    fun t => t ≠ (call.command now b).ticket).toFinset

/-- The record of a command survives the delivery if few others are stored meanwhile. -/
theorem exists_record_of_delivered (hm : 1 ≤ m) (hcap : b.host.results.capacity = m)
    {steps : List Step}
    (hrun : (call.delivered now i b).state.results =
      runAll steps (call.channelAtDelivery now i b))
    (hfew : (call.othersStored now i b steps).card < m) :
    (call.delivered now i b).state.results.capacity = m ∧
      ∃ r, find? (call.command now b).ticket (call.delivered now i b).state.results.records =
        some r := by
  have hcap' : (call.channelAtDelivery now i b).capacity = m :=
    Host.capacity_tracking now _ (capacity_readied i hcap)
  have hstart : NewerOnly (call.command now b).ticket (call.othersStored now i b steps)
      (call.channelAtDelivery now i b).records := by
    rw [channelAtDelivery, Host.tracking, register_state (capacity_readied i hcap)]
    exact newerOnly_kept hm rfl
  rw [hrun]
  refine ⟨capacity_runAll steps hcap', ?_⟩
  apply (newerOnly_runAll hm hfew steps hcap' hstart ?_).exists_find?
  intro t ht hne
  exact List.mem_toFinset.mpr (List.mem_filter.mpr ⟨ht, by simpa using hne⟩)

/-- A command that its instance refuses or fails to take, after it did whatever it did on the result
channel: the call fails with the reason, which is never empty, and with what the command was; the
ticket's record is an error with that reason; and so is the last event of every queue
that has room.  No command is counted as dispatched. -/
theorem failed_call_is_recorded {steps : List Step} {detail : Text} (hm : 1 ≤ m)
    (hcap : b.host.results.capacity = m) (hname : call.nameless? = none)
    (hi : b.attached = some i) (hopen : ((Bridge.ensureOpen i).run b).answer = .ok ())
    (hrun : (call.delivered now i b).state.results =
      runAll steps (call.channelAtDelivery now i b))
    (hfew : (call.othersStored now i b steps).card < m)
    (hrefused : Bridge.refused? (call.delivered now i b) = some detail) :
    let c := call.command now b
    let failure : BridgeError := .deliveryFailure detail
      [("kind", .string c.kind.text), ("target", .string c.target), ("ticket", .string c.ticket)]
    ((call.run now).run b).answer = .error (.bridge failure) ∧
    failure.message = ("Delivery error: " : Text) ++ detail ∧ detail ≠ [] ∧
    ((∃ e, (call.delivered now i b).answer = .error e ∧
        detail = if e.text.isEmpty then (e.name : Text) else e.text) ∨
      ∃ d, (call.delivered now i b).answer = .ok d ∧ d.accepted = false ∧
        detail = if (d.detail.getD []).isEmpty then Bridge.refusal else d.detail.getD []) ∧
    (∃ r, find? c.ticket ((call.run now).run b).state.host.results.records = some r ∧
      r.ticket = c.ticket ∧ r.status = .error ∧ r.result = .object [("error", .str detail)] ∧
      ∀ (place : Nat) (q : EventQueue),
        (call.delivered now i b).state.results.queues[place]? = some q →
        q.isOpen = true → q.hasRoom = true →
        ∃ q', ((call.run now).run b).state.host.results.queues[place]? = some q' ∧
          q'.pending = q.pending ++ [r.toBody]) ∧
    ((call.run now).run b).state.stats.dispatched = b.stats.dispatched := by
  intro c failure
  obtain ⟨hcap', current, hcurrent⟩ := exists_record_of_delivered hm hcap hrun hfew
  obtain ⟨hpublished, hrecord, hqueues⟩ := publishOutcome_of_find? now .error hm hcap' hcurrent
    (Bridge.dumpable_errorResult detail)
  rw [← Bridge.rejection] at hpublished hrecord hqueues
  obtain ⟨hanswer, hstate⟩ := run_of_refused hcap hname hi hopen hrefused
  rw [hpublished] at hanswer
  refine ⟨hanswer, rfl, Bridge.ne_nil_of_refused? hrefused, Bridge.refused?_eq hrefused, ?_, ?_⟩
  · rw [hstate]
    refine ⟨_, hrecord, ?_, rfl, rfl, ?_⟩
    · show current.ticket = (call.command now b).ticket
      exact ticket_of_find? hcurrent
    · intro place q hq hqopen hqroom
      refine ⟨_, ?_, EventQueue.pending_offer hqopen hqroom _⟩
      simp only [hqueues, List.getElem?_map, hq, Option.map_some]
  · rw [hstate]

/-- A bridge whose instance publishes a success and raises then. -/
def stubborn : Bridge := eager (.error (.ofMessage .value "no"))

/-- The success that the instance publishes on the ticket of the first call. -/
def success : Step := ⟨⟨0⟩, .publish (ticketOf 1) (.string "success") (.int 1)⟩

/-- After the success that its instance published, the record of a call is an error, and so is the
last event. -/
theorem failed_call_is_recorded_stubborn :
    ∃ (r : Record) (q q' : EventQueue),
      ((callTool "echo" .null).delivered ⟨0⟩ 0 stubborn).state.results.queues = [q] ∧
      q.pending.length = 1 ∧
      find? (ticketOf 1)
        (((callTool "echo" .null).run ⟨0⟩).run stubborn).state.host.results.records = some r ∧
      r.status = .error ∧ r.result = .object [("error", .str ("no" : Text))] ∧
      (((callTool "echo" .null).run ⟨0⟩).run stubborn).state.host.results.queues[0]? = some q' ∧
      q'.pending = q.pending ++ [r.toBody] := by
  have hrun : ((callTool "echo" .null).delivered ⟨0⟩ 0 stubborn).state.results =
      runAll [success] ((callTool "echo" .null).channelAtDelivery ⟨0⟩ 0 stubborn) := rfl
  have hfew : ((callTool "echo" .null).othersStored ⟨0⟩ 0 stubborn [success]).card < 2 := by
    decide +kernel
  have hrefused : Bridge.refused? ((callTool "echo" .null).delivered ⟨0⟩ 0 stubborn) =
      some ("no" : Text) := by decide +kernel
  have hqueues : ∃ q,
      ((callTool "echo" .null).delivered ⟨0⟩ 0 stubborn).state.results.queues = [q] ∧
      q.isOpen = true ∧ q.hasRoom = true ∧ q.pending.length = 1 := ⟨_, rfl, rfl, rfl, rfl⟩
  obtain ⟨q, hq, hqopen, hqroom, hqlength⟩ := hqueues
  obtain ⟨-, -, -, -, ⟨r, hfind, -, hstatus, hresult, hlast⟩, -⟩ :=
    failed_call_is_recorded (m := 2) (by decide) rfl rfl rfl rfl hrun hfew hrefused
  obtain ⟨q', hplace, hpending⟩ := hlast 0 q (by rw [hq]; rfl) hqopen hqroom
  exact ⟨r, q, q', hq, hqlength, hfind, hstatus, hresult, hplace, hpending⟩

end Call

end CommandBridge
