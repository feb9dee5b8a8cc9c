import CommandBridge.Dispatch.Bridge
import CommandBridge.Log.Structured
import CommandBridge.Text.Percent

/-!
# CommandBridge.Dispatch.Call

Dispatching calls to the attached instance.  A call becomes a command with a ticket of its
own, which is registered as pending and then delivered.

* If the instance accepts it, the caller is told so; the outcome comes later, on the
  result channel.
* If the instance refuses it or fails to take it, the outcome of the ticket is that
  error, and the caller is told the same.
-/

namespace CommandBridge

namespace Catalog

/-- Whether the catalog lists a target for a kind of command. -/
def lists (c : Catalog) (kind : DispatchKind) (target : String) : Bool :=
  match kind with
  | .readResource => (c.resource? target).isSome
  | .callTool => (c.tool? target).isSome
  | .getPrompt => (c.prompt? target).isSome

end Catalog

namespace Bridge

/-! ## Delivering -/

/-- What is said about a command that was refused without a word. -/
def refusal : Text := "Command was not accepted"

/-- Why an instance did not take a command, if it did not. -/
def refusalOf (d : Delivery) : Option Text :=
  if d.accepted then none
  else some (match d.detail with
    | some t => if t.isEmpty then refusal else t
    | none => refusal)

/-- The text about a delivery that failed, which is never empty. -/
def failureText (e : Failure) : Text := if e.text.isEmpty then (e.name : Text) else e.text

/-- Hands a command to an instance; a failure on its side is a refusal. -/
def deliver (now : Timestamp) (i : Nat) (c : Command) : Op Bridge Delivery := do
  match ← (onHost (Host.deliver now i c)).attempt with
  | .ok d => return d
  | .error e =>
    Op.log ⟨.dispatch, .error, s!"Delivery raised for {c.kind.text} {c.target}"⟩
    return .rejected (failureText e)

/-- Records that a command was refused, and fails. -/
def reject (now : Timestamp) (c : Command) (detail : Text) : Op Bridge Unit := do
  Op.modify fun b =>
    { b with stats := { b.stats with deliveryFailures := b.stats.deliveryFailures + 1 } }
  Op.event .dispatch .error "dispatch_delivery_failed"
    [("ticket", .string c.ticket), ("kind", .string c.kind.text), ("target", .string c.target),
      ("error", .str detail)]
  discard (onResults (ResultChannel.publishOutcome now c.ticket .error
    (.object [("error", .str detail)])))
  Op.fail (.bridge (.deliveryFailure detail
    [("kind", .string c.kind.text), ("target", .string c.target), ("ticket", .string c.ticket)]))

/-- Records that a command was accepted. -/
def accept (c : Command) : Op Bridge Unit := do
  Op.modify fun b => { b with stats := b.stats.count c.kind }
  let listed := (← Op.get).catalog.lists c.kind c.target
  Op.event .dispatch .info "command_dispatched"
    [("ticket", .string c.ticket), ("kind", .string c.kind.text), ("target", .string c.target),
      ("in_catalog", .bool listed),
      ("arguments", Log.truncate Log.truncationLimit c.arguments)]

/-- Registers a command as pending and delivers it to an instance. -/
def handOver (now : Timestamp) (i : Nat) (c : Command) : Op Bridge Command := do
  discard (onResults (ResultChannel.register now c))
  match refusalOf (← deliver now i c) with
  | some detail => reject now c detail
  | none => accept c
  return c

/-- Dispatches a command to the attached instance. -/
def dispatch (now : Timestamp) (kind : DispatchKind) (target : String) (arguments : Json) :
    Op Bridge Command := do
  let b ← Op.get
  match b.attached with
  | none =>
    Op.modify fun b =>
      { b with stats := { b.stats with targetUnavailable := b.stats.targetUnavailable + 1 } }
    Op.event .dispatch .warning "dispatch_target_unavailable"
      [("kind", .string kind.text), ("target", .string target), ("label", .string b.label)]
    Op.fail (.bridge (.targetUnavailable b.label))
  | some i =>
    ensureOpen i
    handOver now i ⟨kind, target, arguments, ← drawTicket, now.text⟩

/-! ## Calls -/

/-- What a caller is told to do next. -/
def followUp (ticket what : String) : Json :=
  .string s!"Delivered to the application; poll /mcp/results/{ticket} for the {what}"

/-- Asks the instance to read a resource.  A URI that cannot be decoded is
dispatched as it is. -/
def readResource (now : Timestamp) (uri : String) : Op Bridge Response := do
  let d := Percent.decode uri
  if !d.exact then
    Op.event .dispatch .warning "resource_uri_decode_fallback" [("raw_uri", .string uri)]
  let c ← dispatch now .readResource d.value .null
  return ⟨.processing, [("uri", .string d.value), ("decoded", .bool d.exact),
    ("ticket", .string c.ticket), ("message", followUp c.ticket "resource contents")]⟩

/-- The error of an empty name. -/
def emptyName (what : String) : Failure :=
  .bridge (.invalidArgument (s!"{what} name must not be empty" : String)
    [("field", .string "name")])

/-- Hands over a tool call; its acknowledgement is due after the acknowledgement delay. -/
def callTool (now : Timestamp) (name : String) (arguments : Json) : Op Bridge Response := do
  if name = "" then Op.fail (emptyName "Tool")
  let c ← dispatch now .callTool name arguments
  return ⟨.success, [("tool", .string name), ("args", arguments), ("ticket", .string c.ticket),
    ("advisory", .bool true), ("message", followUp c.ticket "tool result")]⟩

/-- Asks the instance for a prompt. -/
def getPrompt (now : Timestamp) (name : String) : Op Bridge Response := do
  if name = "" then Op.fail (emptyName "Prompt")
  let c ← dispatch now .getPrompt name .null
  return ⟨.processing, [("name", .string name), ("messages", .arr []),
    ("ticket", .string c.ticket), ("message", followUp c.ticket "prompt messages")]⟩

end Bridge

end CommandBridge
