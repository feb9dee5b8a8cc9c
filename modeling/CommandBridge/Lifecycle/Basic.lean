import CommandBridge.Lifecycle.Machine
import CommandBridge.Log.Level
import CommandBridge.Settings.Basic

/-!
# CommandBridge.Lifecycle.Basic

The life of a server.  It is started at most once: a socket is bound, and the web
server runs in a thread of its own.  A server that does not say in time that it has
started is stopped again.
-/

namespace CommandBridge

/-- The thread that a web server runs in. -/
structure ServerThread where
  run : ServerRun
  begun : Nat
  isAlive : Bool
  deriving DecidableEq, Repr

/-- Whether the web server of a thread has started at a time. -/
def ServerThread.hasStarted (t : ServerThread) (clock : Nat) : Bool :=
  match t.run with
  | .startsAfter milliseconds => t.begun + milliseconds ≤ clock
  | _ => false

/-- A server with what it runs on. -/
structure Lifecycle where
  host : String
  port : Int
  level : Log.LevelName
  listener : Option Nat := none
  thread : Option ServerThread := none
  shouldExit : Bool := false
  machine : Machine := {}

/-- The routes of the service, for people. -/
def endpointTable : List (String × String × String) :=
  [("GET", "/mcp/resources", "List all resources"),
    ("GET", "/mcp/resources/\x7buri\x7d", "Read a specific resource"),
    ("GET", "/mcp/tools", "List all tools"),
    ("POST", "/mcp/tools/\x7bname\x7d", "Call a tool"),
    ("GET", "/mcp/prompts", "List all prompts"),
    ("GET", "/mcp/prompts/\x7bname\x7d", "Get a specific prompt"),
    ("GET", "/mcp/results/\x7bticket\x7d", "Poll a dispatched command's result"),
    ("POST", "/mcp/results/\x7bticket\x7d", "Publish a result (application side)"),
    ("GET", "/mcp/events", "Stream published results (SSE)")]

/-- A text with blanks after it up to a width. -/
def padRight (width : Nat) (s : String) : String :=
  s ++ String.ofList (List.replicate (width - s.length) ' ')

/-- The line about a route. -/
def endpointLine (e : String × String × String) : String :=
  "  - " ++ padRight 5 e.1 ++ " " ++ padRight 24 e.2.1 ++ " " ++ e.2.2

namespace Lifecycle

/-- A server for the host, the port and the level that are given, or those of the settings. -/
def create (settings : ServerSettings) (host : Option String) (port : Option Int) (level : Json)
    (machine : Machine) : Lifecycle where
  host := match host with
    | some "" | none => settings.host
    | some h => h
  port := port.getD settings.port
  level := Log.resolveLevel level settings.log.level
  machine := machine

/-- Runs an operation on the machine. -/
def onMachine {α : Type} (x : Op Machine α) : Op Lifecycle α :=
  x.on Lifecycle.machine fun m l => { l with machine := m }

/-- Whether the thread of the server is alive. -/
def isRunning (l : Lifecycle) : Bool := (l.thread.map (·.isAlive)).getD false

/-- The port that is bound, if a socket was made. -/
def boundPort : Op Lifecycle (Option Int) := do
  match (← Op.get).listener with
  | none => return none
  | some place => some <$> onMachine (Machine.portOf place)

/-- Logs a line. -/
def logLine (level : Log.Level) (s : String) : Op Lifecycle Unit := Op.log ⟨.lifecycle, level, s⟩

/-! ## Failing to start -/

/-- The failure of a start. -/
def startupFailure (message : Text) (details : List (String × Json)) : Failure :=
  .bridge (.startupFailure message (details.map fun d => ((d.1 : Text), d.2)))

/-- The number and the description of a system error. -/
def systemParts (f : Fault) : Json × Json :=
  match f.arguments with
  | code :: description :: rest => if rest.length ≤ 3 then (code, description) else (.null, .null)
  | _ => (.null, .null)

/-- The failure of a binding. -/
def bindFailure (host : String) (port : Int) (f : Fault) : Failure :=
  let (code, description) := systemParts f
  let why := if description.isBlank then f.text else description.plain
  startupFailure ((s!"Failed to bind bridge server port {host}:{port}: " : String) ++ why)
    [("host", .string host), ("port", .int port), ("errno", code)]

/-- Binds the socket of the server. -/
def bindListener : Op Lifecycle Unit := do
  let l ← Op.get
  match ← (onMachine (Machine.bind l.host l.port)).attempt with
  | .ok place => Op.modify fun l => { l with listener := some place }
  | .error (.fault f) => Op.fail (bindFailure l.host l.port f)
  | .error e => Op.fail e

/-! ## Stopping -/

/-- Waits for the thread of the server, which is over then. -/
def joinThread (timeout : Option Json) : Op Lifecycle Waited := do
  match ← onMachine (Machine.join timeout) with
  | .interrupted => return .interrupted
  | .ended =>
    Op.modify fun l => { l with thread := l.thread.map fun t => { t with isAlive := false } }
    return .ended

/-- How long a stop waits unless something else is asked for, in seconds. -/
def stopTimeout : Json := .float (.ofDecimal false ⟨5, 0⟩)

/-- Closes the socket of the server. -/
def closeListener : Op Lifecycle Unit := do
  match (← Op.get).listener with
  | some place => onMachine (Machine.closeListener place)
  | none => return

/-- Stops the server. -/
def stop (timeout : Option Json) : Op Lifecycle Waited := do
  let l ← Op.get
  if l.thread.isSome then
    Op.put { l with shouldExit := true }
    if (← joinThread timeout) = .interrupted then return .interrupted
  closeListener
  Op.event .lifecycle .info "server_stopped" [("host", .string l.host), ("port", .int l.port)]
  return .ended

/-- Waits until the server is over. -/
def wait : Op Lifecycle Waited := do
  if (← Op.get).thread.isSome then joinThread none else return .ended

/-! ## Starting -/

/-- How often the start of the web server is looked for, in milliseconds. -/
def pollInterval : Nat := 10

/-- How long a start waits unless something else is asked for, in nanoseconds. -/
def startTimeout : Nat := 10000000000

/-- Runs the web server in a thread of its own. -/
def runServer (port : Int) : Op Lifecycle Unit := do
  let l ← Op.get
  let level := l.level.text.toLower
  match l.machine.refusal level with
  | some f => Op.fail (.fault f)
  | none =>
    onMachine (Machine.note (.makeServer l.host port level))
    let run ← onMachine Machine.nextRun
    onMachine (Machine.note (.makeThread "graph-bridge-http"))
    onMachine (Machine.note (.runServer port))
    let alive := run ≠ .exits && run ≠ .crashes
    if run = .crashes then logLine .error "Bridge server thread crashed"
    Op.modify fun l =>
      { l with thread := some ⟨run, l.machine.clock, alive⟩, shouldExit := false }

/-- Waits until the web server has started, but not up to `deadline`, in nanoseconds.
At most `looks` looks are taken. -/
def awaitStart (deadline : Nat) : Nat → Op Lifecycle Bool
  | 0 => return false
  | looks + 1 => do
    let l ← Op.get
    match l.thread with
    | none => return false
    | some t =>
      if t.hasStarted l.machine.clock then return true
      else if deadline ≤ l.machine.clock * 1000000 || !t.isAlive then return false
      else
        onMachine (Machine.sleep pollInterval)
        awaitStart deadline looks

/-- Says where the server listens. -/
def announce (port : Int) : Op Lifecycle Unit := do
  let l ← Op.get
  Op.event .lifecycle .info "server_listening" [("host", .string l.host), ("port", .int port)]
  logLine .info s!"[MCP Server] HTTP server listening on http://{l.host}:{port}"
  logLine .info "[MCP Server] Endpoints:"
  endpointTable.forM fun e => logLine .info (endpointLine e)

/-- Starts the server, and gives up after a number of nanoseconds. -/
def start (timeout : Nat) : Op Lifecycle Unit := do
  let l ← Op.get
  if l.thread.isSome then
    let port ← boundPort
    Op.fail (startupFailure "Bridge server already started"
      [("host", .string l.host), ("port", .ofOption (port.map .int))])
  bindListener
  match ← boundPort with
  | none => Op.fail (.fault Machine.closedFault)
  | some port =>
    runServer port
    let deadline := (← Op.get).machine.clock * 1000000 + timeout
    if ← awaitStart deadline (timeout / (pollInterval * 1000000) + 2) then announce port
    else
      discard (stop (some stopTimeout))
      Op.fail (startupFailure "Bridge server did not finish starting"
        [("host", .string l.host), ("port", .int port)])

end Lifecycle

end CommandBridge
