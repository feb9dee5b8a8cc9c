import CommandBridge.Dispatch.Command
import CommandBridge.Fault
import CommandBridge.Files.Path
import CommandBridge.Results.Operation

/-!
# CommandBridge.Instance.Basic

Application instances.  An instance takes commands without waiting for what comes
of them, and reports outcomes later on the result channel it was handed
when it was opened.  There are three sorts:

* a recording instance keeps the commands it gets and follows a script,
* a callback instance calls a handler of the same process for every command,
* a file queue writes commands to request files and collects response files.
-/

namespace CommandBridge

/-! ## Recording instances -/

/-- Something a recording instance does on the result channel during a delivery.
Where no ticket is given, the command's own one is meant.  A failure of an attempted action
is of no consequence to the instance; any other failure is one of the delivery. -/
inductive ChannelAction where
  | register (c : Command)
  | publish (ticket : Option String) (status result : Json)
  | get (ticket : Option String)
  | subscribe (limit : Int)
  | unsubscribe (place : Nat)
  | drain (place : Nat)
  | attempt (action : ChannelAction)
  deriving DecidableEq, Repr

/-- The operation on the channel that an action of the instance with the command `own` is. -/
def ChannelAction.operation (own : Command) : ChannelAction → ChannelOperation
  | .register c => .register c
  | .publish ticket status result => .publish (ticket.getD own.ticket) status result
  | .get ticket => .get (ticket.getD own.ticket)
  | .subscribe limit => .subscribe limit
  | .unsubscribe place => .unsubscribe place
  | .drain place => .drain place
  | .attempt action => action.operation own

/-- Whether a failure of an action is of no consequence. -/
def ChannelAction.isAttempt : ChannelAction → Bool
  | .attempt _ => true
  | _ => false

/-- What a recording instance does with one command: actions on its result channel,
and then a fault or an answer. -/
structure ScriptedDelivery where
  actions : List ChannelAction := []
  answer : Except Fault Delivery := .ok .accept
  deriving Repr

/-- A recording instance.  Each opening and each delivery uses up the first
element of its script; without one, openings succeed and commands are accepted. -/
structure Recording where
  openings : List (Option Fault) := []
  deliveries : List ScriptedDelivery := []
  received : List Command := []
  deriving Repr

/-! ## Callback instances -/

/-- What a handler does with a command; `echo` returns the command's kind,
target and arguments. -/
inductive HandlerOutcome where
  | returns (value : Json)
  | raises (f : Fault)
  | echo
  deriving DecidableEq, Repr

/-- A callback instance; each handler call uses up the first outcome, `echo` without one. -/
structure Callback where
  outcomes : List HandlerOutcome := []
  deriving DecidableEq, Repr

/-- What a handler's outcome is for a command. -/
def HandlerOutcome.on (c : Command) : HandlerOutcome → Except Fault Json
  | .returns value => .ok value
  | .raises f => .error f
  | .echo => .ok (.object [("kind", .string c.kind.text), ("target", .string c.target),
      ("arguments", c.arguments)])

/-! ## File queues -/

/-- A file queue: its directory, the interval at which it looks for response
files (as it was given, and in nanoseconds), and its collector if it has one. -/
structure FileQueue where
  directory : Path
  interval : Json
  nanoseconds : Nat
  collector : Option Nat := none
  deriving DecidableEq, Repr

/-- The directory of request files. -/
def FileQueue.requests (q : FileQueue) : Path := q.directory.child "requests"

/-- The directory of response files. -/
def FileQueue.responses (q : FileQueue) : Path := q.directory.child "responses"

/-! ## Instances -/

/-- The sorts of instances. -/
inductive Adapter where
  | recording (r : Recording)
  | callback (c : Callback)
  | fileQueue (q : FileQueue)
  deriving Repr

/-- The name of a sort. -/
def Adapter.typeName : Adapter → String
  | .recording _ => "RecordingInstance"
  | .callback _ => "CallbackInstance"
  | .fileQueue _ => "FileQueueInstance"

/-- An application instance: its name and sort, whether it holds the result
channel, and how often it was opened and closed. -/
structure Instance where
  name : String := "recording"
  adapter : Adapter := .recording {}
  holdsChannel : Bool := false
  opens : Nat := 0
  closes : Nat := 0
  deriving Repr, Inhabited

end CommandBridge
