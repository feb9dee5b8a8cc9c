import CommandBridge.Dispatch.Call
import CommandBridge.Proofs.Json.Digits
import CommandBridge.Proofs.Results.RecordMap

/-!
# CommandBridge.Proofs.Dispatch.HandOver

What handing a command over leaves, as a function of what the instance does with it.

1. The command is tracked as pending before the instance sees it (`Host.tracking`,
   `find?_tracking`).
2. The instance is given the command once (`delivery`).
3. If it takes the command, the counter of the kind grows (`handOver_accepted`).  If not, the
   counter of failures grows and the reason is published on the ticket
   (`handOver_refused_state`, `handOver_refused_answer`).
-/

namespace CommandBridge

open ResultChannel

/-- Tickets drawn one after the other differ. -/
theorem ticketOf_injective : Function.Injective ticketOf := by
  intro a b h
  exact Json.hexDigits_injective 32 (String.ofList_injective h)

/-! ## Texts about failures -/

theorem BridgeError.name_ne_empty (e : BridgeError) : e.name ≠ "" := by
  cases e <;> simp [BridgeError.name]

theorem Fault.systemName_ne_empty (code : Int) : Fault.systemName code ≠ "" := by
  unfold Fault.systemName
  split <;> decide

theorem Fault.name_ne_empty (f : Fault) : f.name ≠ "" := by
  have hsystem : ∀ code : Json, (code.toInt?.map Fault.systemName).getD "OSError" ≠ "" := by
    intro code
    cases code.toInt? with
    | none => decide
    | some n => exact Fault.systemName_ne_empty n
  unfold Fault.name
  split
  case h_1 name _ => exact name.property
  case h_14 =>
    split
    · exact hsystem _
    · decide
  all_goals decide

theorem Failure.name_ne_empty (e : Failure) : e.name ≠ "" := by
  cases e with
  | bridge e => exact e.name_ne_empty
  | fault f => exact f.name_ne_empty
  | unreadable e => cases e <;> simp [Failure.name]
  | _ => simp [Failure.name]

theorem Text.ofString_ne_nil {s : String} (h : s ≠ "") : Text.ofString s ≠ [] := by
  rw [Text.ofString, Ne, List.map_eq_nil_iff]
  simpa using h

namespace Bridge

/-- The text about a failed delivery says something. -/
theorem failureText_ne_nil (e : Failure) : failureText e ≠ [] := by
  unfold failureText
  split
  · exact Text.ofString_ne_nil e.name_ne_empty
  · next h => simpa using h

/-- The reason of a refusal says something. -/
theorem ne_nil_of_refusalOf {d : Delivery} {detail : Text} (h : refusalOf d = some detail) :
    detail ≠ [] := by
  have hrefusal : refusal ≠ [] := Text.ofString_ne_nil (by decide)
  unfold refusalOf at h
  split at h
  · simp at h
  · obtain rfl := Option.some.inj h
    cases hd : d.detail with
    | none => exact hrefusal
    | some t =>
        simp only
        split
        · exact hrefusal
        · next ht => simpa using ht

end Bridge

/-! ## The moment of delivery -/

/-- What instances share once a command is tracked as pending. -/
def Host.tracking (now : Timestamp) (c : Command) (h : Host) : Host :=
  { h with results := ((ResultChannel.register now c).run h.results).state }

theorem Host.capacity_tracking {m : Nat} (now : Timestamp) (c : Command) {h : Host}
    (hcap : h.results.capacity = m) : (h.tracking now c).results.capacity = m := by
  rw [tracking, register_state hcap]
  exact hcap

/-- A command that was just registered is tracked as pending. -/
theorem Host.find?_tracking {m : Nat} (now : Timestamp) (c : Command) {h : Host} (hm : 1 ≤ m)
    (hcap : h.results.capacity = m) :
    find? c.ticket (h.tracking now c).results.records = some (Record.ofCommand c now) := by
  rw [tracking, register_state hcap]
  exact find?_kept hm (Record.ofCommand c now) h.results.records

namespace Bridge

/-- What the instance makes of a command that was just registered. -/
def delivery (now : Timestamp) (i : Nat) (c : Command) (h : Host) : Outcome Host Delivery :=
  (Host.deliver now i c).run (h.tracking now c)

/-- Why the instance did not take a command, if it did not. -/
def refused? (o : Outcome Host Delivery) : Option Text :=
  match o.answer with
  | .ok d => refusalOf d
  | .error e => some (failureText e)

/-- A command is taken if and only if the instance says so. -/
theorem refused?_eq_none_iff {o : Outcome Host Delivery} :
    refused? o = none ↔ ∃ d, o.answer = .ok d ∧ d.accepted = true := by
  unfold refused?
  cases o.answer with
  | error e => simp
  | ok d => simp [refusalOf]

theorem ne_nil_of_refused? {o : Outcome Host Delivery} {detail : Text}
    (h : refused? o = some detail) : detail ≠ [] := by
  unfold refused? at h
  split at h
  · exact ne_nil_of_refusalOf h
  · next e _ => rw [← Option.some.inj h]; exact failureText_ne_nil e

/-- What is published on the ticket of a command that was not taken. -/
def errorResult (detail : Text) : Json := .object [("error", .str detail)]

theorem dumpable_errorResult (detail : Text) : (errorResult detail).Dumpable :=
  Json.dumpable_error detail

/-- What an error about a command that was not taken tells about the command. -/
def commandDetails (c : Command) : Details :=
  [("kind", .string c.kind.text), ("target", .string c.target), ("ticket", .string c.ticket)]

/-! ## Handing over -/

variable {b : Bridge} {now : Timestamp} {i : Nat} {c : Command} {m : Nat}

/-- Delivering never fails: what goes wrong is a refusal. -/
theorem deliver_run (b : Bridge) (now : Timestamp) (i : Nat) (c : Command) :
    ∃ d, ((deliver now i c).run b).answer = .ok d ∧
      refusalOf d = refused? ((Host.deliver now i c).run b.host) ∧
      ((deliver now i c).run b).state =
        { b with host := ((Host.deliver now i c).run b.host).state } := by
  have hattempt : (((onHost (Host.deliver now i c)).attempt).run b).answer =
      .ok ((Host.deliver now i c).run b.host).answer := rfl
  rw [deliver, Op.answer_bind_ok hattempt, Op.state_bind_ok hattempt]
  cases ho : ((Host.deliver now i c).run b.host).answer with
  | ok d => exact ⟨d, rfl, by simp [refused?, ho], rfl⟩
  | error e =>
      refine ⟨.rejected (failureText e), rfl, ?_, rfl⟩
      have hne : (failureText e).isEmpty = false := by
        simpa using failureText_ne_nil e
      simp [refused?, ho, refusalOf, Delivery.rejected, hne]

/-- The outcome of publishing that a command was not taken. -/
def rejection (now : Timestamp) (c : Command) (detail : Text) (h : Host) :
    Outcome ResultChannel Record :=
  (publishOutcome now c.ticket .error (errorResult detail)).run h.results

theorem reject_run (b : Bridge) (now : Timestamp) (c : Command) (detail : Text) :
    ((reject now c detail).run b).answer =
        .error (match (rejection now c detail b.host).answer with
          | .ok _ => .bridge (.deliveryFailure detail (commandDetails c))
          | .error e => e) ∧
      ((reject now c detail).run b).state =
        { b with
          stats := { b.stats with deliveryFailures := b.stats.deliveryFailures + 1 }
          host := { b.host with results := (rejection now c detail b.host).state } } := by
  cases hr : (rejection now c detail b.host).answer with
  | ok r =>
      have hpub : ((publishOutcome now c.ticket .error
          (.object [("error", .str detail)])).run b.host.results).answer = .ok r := hr
      constructor
      · simp [reject, Op.event, onResults, onHost, Host.onResults, hpub, Except.map, commandDetails]
      · simp [reject, Op.event, onResults, onHost, Host.onResults, hpub, Except.map, rejection,
          errorResult]
  | error e =>
      have hpub : ((publishOutcome now c.ticket .error
          (.object [("error", .str detail)])).run b.host.results).answer = .error e := hr
      constructor
      · simp [reject, Op.event, onResults, onHost, Host.onResults, hpub, Except.map]
      · simp [reject, Op.event, onResults, onHost, Host.onResults, hpub, Except.map, rejection,
          errorResult]

/-- Before a command is delivered it is registered. -/
theorem register_run (now : Timestamp) (c : Command) (hcap : b.host.results.capacity = m) :
    ((discard (onResults (ResultChannel.register now c))).run b).answer = .ok () ∧
      ((discard (onResults (ResultChannel.register now c))).run b).state =
        { b with host := b.host.tracking now c } := by
  constructor
  · simp [onResults, onHost, Host.onResults, register_answer hcap, Except.map]
  · simp [onResults, onHost, Host.onResults, Host.tracking]

/-- A command that its instance takes is counted. -/
theorem handOver_accepted (hcap : b.host.results.capacity = m)
    (h : refused? (delivery now i c b.host) = none) :
    ((handOver now i c).run b).answer = .ok c ∧
      ((handOver now i c).run b).state =
        { b with
          stats := b.stats.count c.kind
          host := (delivery now i c b.host).state } := by
  obtain ⟨hregister, htracking⟩ := register_run now c hcap
  obtain ⟨d, hanswer, hrefusal, hstate⟩ :=
    deliver_run { b with host := b.host.tracking now c } now i c
  rw [← delivery, h] at hrefusal
  rw [handOver, Op.answer_bind_ok hregister, Op.state_bind_ok hregister, htracking,
    Op.answer_bind_ok hanswer, Op.state_bind_ok hanswer, hstate, hrefusal]
  exact ⟨rfl, rfl⟩

/-- A command that its instance does not take fails; the reason is published on its ticket
before that. -/
theorem handOver_refused (hcap : b.host.results.capacity = m) {detail : Text}
    (h : refused? (delivery now i c b.host) = some detail) :
    ((handOver now i c).run b).answer =
        .error (match (rejection now c detail (delivery now i c b.host).state).answer with
          | .ok _ => .bridge (.deliveryFailure detail (commandDetails c))
          | .error e => e) ∧
      ((handOver now i c).run b).state =
        { b with
          stats := { b.stats with deliveryFailures := b.stats.deliveryFailures + 1 }
          host := { (delivery now i c b.host).state with
            results := (rejection now c detail (delivery now i c b.host).state).state } } := by
  obtain ⟨hregister, htracking⟩ := register_run now c hcap
  obtain ⟨d, hanswer, hrefusal, hstate⟩ :=
    deliver_run { b with host := b.host.tracking now c } now i c
  rw [← delivery, h] at hrefusal
  rw [handOver, Op.answer_bind_ok hregister, Op.state_bind_ok hregister, htracking,
    Op.answer_bind_ok hanswer, Op.state_bind_ok hanswer, hstate, hrefusal]
  obtain ⟨hfails, hleft⟩ :=
    reject_run { b with host := (delivery now i c b.host).state } now c detail
  exact ⟨Op.answer_bind_error hfails, (Op.state_bind_error hfails).trans hleft⟩

end Bridge

end CommandBridge
