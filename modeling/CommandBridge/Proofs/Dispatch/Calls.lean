import CommandBridge.Proofs.Dispatch.Delivery
import CommandBridge.Proofs.Dispatch.HandOver

/-!
# CommandBridge.Proofs.Dispatch.Calls

What calls leave, whatever the attached instance does (`call_outcome`): a call is refused for an
empty name, fails for want of an instance or with the instance's opening, or becomes one command
that the instance is given once.  Then it ends in one of two ways: `run_of_taken` or
`run_of_refused`.
-/

namespace CommandBridge

open ResultChannel

/-- What a caller can ask of the attached instance. -/
inductive Call where
  | readResource (uri : String)
  | callTool (name : String) (arguments : Json)
  | getPrompt (name : String)
  deriving DecidableEq

namespace Call

/-- Asks the bridge. -/
def run (now : Timestamp) : Call → Op Bridge Response
  | .readResource uri => Bridge.readResource now uri
  | .callTool name arguments => Bridge.callTool now name arguments
  | .getPrompt name => Bridge.getPrompt now name

/-- The kind of command that a call becomes. -/
def kind : Call → DispatchKind
  | .readResource _ => .readResource
  | .callTool _ _ => .callTool
  | .getPrompt _ => .getPrompt

/-- What the command is about: the decoded URI, or the name. -/
def target : Call → String
  | .readResource uri => (Percent.decode uri).value
  | .callTool name _ => name
  | .getPrompt name => name

/-- The arguments of the command; only tool calls have any. -/
def arguments : Call → Json
  | .callTool _ arguments => arguments
  | _ => .null

/-- What is lacking a name in a call that has an empty one. -/
def nameless? : Call → Option String
  | .readResource _ => none
  | .callTool name _ => if name = "" then some "Tool" else none
  | .getPrompt name => if name = "" then some "Prompt" else none

/-- The command that a call becomes on a bridge. -/
def command (call : Call) (now : Timestamp) (b : Bridge) : Command :=
  ⟨call.kind, call.target, call.arguments, ticketOf (b.ticketsDrawn + 1), now.text⟩

/-- What the caller is told once the command of a call was handed over. -/
def response (call : Call) (c : Command) : Response :=
  match call with
  | .readResource uri => ⟨.processing, [("uri", .string (Percent.decode uri).value),
      ("decoded", .bool (Percent.decode uri).exact), ("ticket", .string c.ticket),
      ("message", Bridge.followUp c.ticket "resource contents")]⟩
  | .callTool name arguments => ⟨.success, [("tool", .string name), ("args", arguments),
      ("ticket", .string c.ticket), ("advisory", .bool true),
      ("message", Bridge.followUp c.ticket "tool result")]⟩
  | .getPrompt name => ⟨.processing, [("name", .string name), ("messages", .arr []),
      ("ticket", .string c.ticket), ("message", Bridge.followUp c.ticket "prompt messages")]⟩

/-- A call with an empty name is refused at once. -/
theorem run_of_nameless {call : Call} {what : String} (h : call.nameless? = some what)
    (now : Timestamp) (b : Bridge) :
    (call.run now).run b = ⟨.error (Bridge.emptyName what), b, []⟩ := by
  cases call with
  | readResource uri => simp [nameless?] at h
  | callTool name arguments =>
      obtain ⟨rfl, rfl⟩ : name = "" ∧ what = "Tool" := by
        simpa [nameless?, eq_comm] using h
      rfl
  | getPrompt name =>
      obtain ⟨rfl, rfl⟩ : name = "" ∧ what = "Prompt" := by
        simpa [nameless?, eq_comm] using h
      rfl

/-- Any other call is a dispatch, and answers with a response to the command. -/
theorem run_of_named {call : Call} (h : call.nameless? = none) (now : Timestamp) (b : Bridge) :
    ((call.run now).run b).answer =
        ((Bridge.dispatch now call.kind call.target call.arguments).run b).answer.map
          call.response ∧
      ((call.run now).run b).state =
        ((Bridge.dispatch now call.kind call.target call.arguments).run b).state := by
  -- the call goes on from the dispatch with a response only
  have hresponse : ∀ {x : Op Bridge Command} {f : Command → Response},
      ((x >>= fun c => pure (f c)).run b).answer = (x.run b).answer.map f ∧
        ((x >>= fun c => pure (f c)).run b).state = (x.run b).state := by
    intro x f
    cases hx : (x.run b).answer with
    | error e => exact ⟨Op.answer_bind_error hx, Op.state_bind_error hx⟩
    | ok c => exact ⟨Op.answer_bind_ok hx, Op.state_bind_ok hx⟩
  cases call with
  | readResource uri =>
      simp only [run, Bridge.readResource]
      split
      · exact hresponse
      · exact hresponse
  | callTool name arguments =>
      have hname : name ≠ "" := by simpa [nameless?] using h
      simp only [run, Bridge.callTool, if_neg hname]
      exact hresponse
  | getPrompt name =>
      have hname : name ≠ "" := by simpa [nameless?] using h
      simp only [run, Bridge.getPrompt, if_neg hname]
      exact hresponse

end Call

namespace Bridge

/-! ## Dispatching -/

variable {b : Bridge} {i : Nat} {m : Nat} (now : Timestamp) (kind : DispatchKind)
  (target : String) (arguments : Json)

/-- Without an instance a dispatch is counted as that and fails. -/
theorem dispatch_unavailable (h : b.attached = none) :
    ((dispatch now kind target arguments).run b).answer =
        .error (.bridge (.targetUnavailable b.label)) ∧
      ((dispatch now kind target arguments).run b).state =
        { b with
          stats := { b.stats with targetUnavailable := b.stats.targetUnavailable + 1 } } := by
  rw [dispatch, Op.answer_bind_ok (a := b) rfl, Op.state_bind_ok (a := b) rfl, Op.run_get]
  split
  · exact ⟨rfl, rfl⟩
  · next i hi => simp [h] at hi

/-- The failure of an opening is that of the dispatch. -/
theorem dispatch_of_open_error (h : b.attached = some i) {e : Failure}
    (hopen : ((ensureOpen i).run b).answer = .error e) :
    ((dispatch now kind target arguments).run b).answer = .error e ∧
      ((dispatch now kind target arguments).run b).state = ((ensureOpen i).run b).state := by
  rw [dispatch, Op.answer_bind_ok (a := b) rfl, Op.state_bind_ok (a := b) rfl, Op.run_get, h]
  exact ⟨Op.answer_bind_error hopen, Op.state_bind_error hopen⟩

/-- An instance that is open is handed a command with the next ticket. -/
theorem dispatch_of_open_ok (h : b.attached = some i)
    (hopen : ((ensureOpen i).run b).answer = .ok ()) :
    let ready := { ((ensureOpen i).run b).state with
      ticketsDrawn := ((ensureOpen i).run b).state.ticketsDrawn + 1 }
    let c : Command := ⟨kind, target, arguments, ticketOf ready.ticketsDrawn, now.text⟩
    ((dispatch now kind target arguments).run b).answer = ((handOver now i c).run ready).answer ∧
      ((dispatch now kind target arguments).run b).state =
        ((handOver now i c).run ready).state := by
  rw [dispatch, Op.answer_bind_ok (a := b) rfl, Op.state_bind_ok (a := b) rfl, Op.run_get, h]
  exact ⟨Op.answer_bind_ok hopen, Op.state_bind_ok hopen⟩

/-- Opening the instance changes neither the counters nor what was delivered. -/
theorem ensureOpen_frame (b : Bridge) (i : Nat) :
    ∃ opened host, ((ensureOpen i).run b).state = { b with opened := opened, host := host } ∧
      Host.SameDeliveries b.host host := by
  rw [ensureOpen, Op.state_bind_ok (a := b) rfl, Op.run_get]
  split
  · exact ⟨b.opened, b.host, rfl, .refl b.host⟩
  · exact ⟨some i, _, rfl, Host.sameDeliveries_openInstance b.host i⟩

/-- An opening fails with a fault of the instance. -/
theorem failsOnly_ensureOpen (i : Nat) :
    (ensureOpen i).FailsOnly fun e => ∃ f, e = .fault f := by
  have hopen : (Host.openInstance i).FailsOnly fun e => ∃ f, e = .fault f := by
    refine .bind (.modify _) fun _ => .bind .get fun h => ?_
    split
    · refine .bind (.modify _) fun _ => ?_
      split
      · exact .fail ⟨_, rfl⟩
      · exact .modify _
    · exact .modify _
    · exact .bind .get fun _ => .bind (.put _) fun _ => .bind (.modify _) fun _ =>
        .bind (.modify _) fun _ => .event _ _ _ _
  refine .bind .get fun b => ?_
  split
  · exact .pure _
  · exact .bind (.modify _) fun _ => .on hopen

end Bridge

/-! ## Calls on an open instance -/

namespace Call

variable {call : Call} {now : Timestamp} {b : Bridge} {i : Nat} {m : Nat}

/-- The bridge once the attached instance is open and the ticket of a call is drawn. -/
def readied (i : Nat) (b : Bridge) : Bridge :=
  { ((Bridge.ensureOpen i).run b).state with ticketsDrawn := b.ticketsDrawn + 1 }

/-- The result channel at the moment of the delivery, when the command is tracked. -/
def channelAtDelivery (call : Call) (now : Timestamp) (i : Nat) (b : Bridge) : ResultChannel :=
  ((readied i b).host.tracking now (call.command now b)).results

/-- What the attached instance makes of the command of a call. -/
def delivered (call : Call) (now : Timestamp) (i : Nat) (b : Bridge) : Outcome Host Delivery :=
  Bridge.delivery now i (call.command now b) (readied i b).host

theorem sameDeliveries_readied (i : Nat) (b : Bridge) :
    Host.SameDeliveries b.host (readied i b).host := by
  obtain ⟨opened, host, hstate, hsame⟩ := Bridge.ensureOpen_frame b i
  rw [readied, hstate]
  exact hsame

theorem stats_readied (i : Nat) (b : Bridge) : (readied i b).stats = b.stats := by
  obtain ⟨opened, host, hstate, hsame⟩ := Bridge.ensureOpen_frame b i
  rw [readied, hstate]

theorem capacity_readied (i : Nat) (hcap : b.host.results.capacity = m) :
    (readied i b).host.results.capacity = m := by
  rw [(sameDeliveries_readied i b).results, hcap]

/-- A call on an open instance hands its command over. -/
theorem run_of_open (now : Timestamp) (hname : call.nameless? = none) (hi : b.attached = some i)
    (hopen : ((Bridge.ensureOpen i).run b).answer = .ok ()) :
    ((call.run now).run b).answer =
        ((Bridge.handOver now i (call.command now b)).run (readied i b)).answer.map
          call.response ∧
      ((call.run now).run b).state =
        ((Bridge.handOver now i (call.command now b)).run (readied i b)).state := by
  obtain ⟨opened, host, hstate, hsame⟩ := Bridge.ensureOpen_frame b i
  obtain ⟨hanswer, hleft⟩ := run_of_named hname now b
  obtain ⟨hdispatched, hdispatchLeft⟩ := Bridge.dispatch_of_open_ok now call.kind call.target
    call.arguments hi hopen
  have hdrawn : ((Bridge.ensureOpen i).run b).state.ticketsDrawn = b.ticketsDrawn := by
    rw [hstate]
  rw [hdrawn] at hdispatched hdispatchLeft
  exact ⟨by rw [hanswer, hdispatched]; rfl, by rw [hleft, hdispatchLeft]; rfl⟩

/-- A call whose command is taken is answered and counted. -/
theorem run_of_taken (hcap : b.host.results.capacity = m) (hname : call.nameless? = none)
    (hi : b.attached = some i) (hopen : ((Bridge.ensureOpen i).run b).answer = .ok ())
    (htaken : Bridge.refused? (call.delivered now i b) = none) :
    ((call.run now).run b).answer = .ok (call.response (call.command now b)) ∧
      ((call.run now).run b).state =
        { readied i b with
          stats := b.stats.count call.kind
          host := (call.delivered now i b).state } := by
  obtain ⟨hanswer, hstate⟩ := run_of_open now hname hi hopen
  obtain ⟨hok, hleft⟩ := Bridge.handOver_accepted (capacity_readied i hcap) htaken
  rw [hanswer, hstate, hok, hleft, stats_readied]
  exact ⟨rfl, rfl⟩

/-- A call whose command is not taken fails, and is counted as a failure. -/
theorem run_of_refused (hcap : b.host.results.capacity = m) (hname : call.nameless? = none)
    (hi : b.attached = some i) (hopen : ((Bridge.ensureOpen i).run b).answer = .ok ())
    {detail : Text} (hrefused : Bridge.refused? (call.delivered now i b) = some detail) :
    ((call.run now).run b).answer =
        .error (match (Bridge.rejection now (call.command now b) detail
            (call.delivered now i b).state).answer with
          | .ok _ => .bridge (.deliveryFailure detail (Bridge.commandDetails (call.command now b)))
          | .error e => e) ∧
      ((call.run now).run b).state =
        { readied i b with
          stats := { b.stats with deliveryFailures := b.stats.deliveryFailures + 1 }
          host := { (call.delivered now i b).state with
            results := (Bridge.rejection now (call.command now b) detail
              (call.delivered now i b).state).state } } := by
  obtain ⟨hanswer, hstate⟩ := run_of_open now hname hi hopen
  obtain ⟨hfails, hleft⟩ := Bridge.handOver_refused (capacity_readied i hcap) hrefused
  rw [hanswer, hstate, hfails, hleft, stats_readied]
  exact ⟨rfl, rfl⟩

/-- The instance of a call is given the command of the call and nothing else. -/
theorem received_delivered (hlength : i < b.host.instances.length)
    (hkeeps : (b.host.instanceAt i).adapter.keepsCommands = true) (j : Nat) :
    (call.delivered now i b).state.received j =
      b.host.received j ++ if j = i then [call.command now b] else [] := by
  have hsame := sameDeliveries_readied i b
  have hlength' : i < ((readied i b).host.tracking now (call.command now b)).instances.length :=
    hsame.length ▸ hlength
  have hkeeps' : (((readied i b).host.tracking now (call.command now b)).instanceAt
      i).adapter.keepsCommands = true := (hsame.keeps i).trans hkeeps
  rw [delivered, Bridge.delivery, Host.received_deliver now _ hlength' hkeeps', ← hsame.received]
  rfl

/-- A bridge whose instance publishes an outcome before it answers a delivery. -/
def eager (answer : Except Fault Delivery) : Bridge :=
  let script : ScriptedDelivery := ⟨[.publish none (.string "success") (.int 1)], answer⟩
  { attached := some 0
    host := {
      instances := [{ adapter := .recording { deliveries := [script] } }]
      results := { capacity := 2, ttl := 60, queues := [⟨0, [], true⟩] } } }

end Call

end CommandBridge
