import CommandBridge.Op

/-!
# CommandBridge.Lifecycle.Machine

What a server runs on: sockets, a thread, a clock in milliseconds, and the web server
itself.  How these behave is given from outside: what each binding and each run of the
web server comes to, which levels the web server refuses, and whether someone
interrupts a wait that has no end.
-/

namespace CommandBridge

/-- What a binding comes to: a fault of the system, or a port, the one asked for unless
another is given. -/
inductive Binding where
  | fails (f : Fault)
  | binds (port : Option Int)
  deriving DecidableEq, Repr

/-- What a run of the web server comes to. -/
inductive ServerRun where
  /-- It has started after this many milliseconds. -/
  | startsAfter (milliseconds : Nat)
  /-- It goes on and never reports that it has started. -/
  | neverStarts
  /-- It is over at once. -/
  | exits
  /-- It fails at once. -/
  | crashes
  deriving DecidableEq, Repr

/-- A listening socket. -/
structure Listener where
  port : Int
  isOpen : Bool := true
  deriving DecidableEq, Repr

/-- The families of addresses. -/
inductive AddressFamily where
  | inet
  | inet6
  deriving DecidableEq, Repr

/-- The family of a host: one with a colon is of version 6. -/
def AddressFamily.ofHost (host : String) : AddressFamily :=
  if host.toList.contains ':' then .inet6 else .inet

/-- What was asked of the machine. -/
inductive MachineCall where
  | bind (host : String) (port : Int) (family : AddressFamily) (backlog : Nat)
  | closeListener (port : Int)
  | makeServer (host : String) (port : Int) (level : String)
  | makeThread (name : String)
  | runServer (port : Int)
  | join (timeout : Option Json)
  deriving DecidableEq, Repr

/-- Whether a wait came to its end. -/
inductive Waited where
  | ended
  | interrupted
  deriving DecidableEq, Repr

/-- The levels that the web server knows. -/
def webServerLevels : List String := ["critical", "error", "warning", "info", "debug", "trace"]

/-- Why the web server refuses a level, if it does. -/
def refuseUnknownLevel (level : String) : Option Fault :=
  if webServerLevels.contains level then none else some ⟨.key, [.string level]⟩

/-- What a server runs on. -/
structure Machine where
  bindings : List Binding := []
  runs : List ServerRun := []
  refusal : String → Option Fault := refuseUnknownLevel
  isInterrupted : Bool := false
  listeners : List Listener := []
  clock : Nat := 0
  calls : List MachineCall := []

namespace Machine

/-- Notes a call. -/
def note (c : MachineCall) : Op Machine Unit := Op.modify fun m => { m with calls := m.calls ++ [c] }

/-- How many connections may wait to be accepted. -/
def backlog : Nat := 2048

/-- Binds a socket and answers with its place; a fault of the system is a failure. -/
def bind (host : String) (port : Int) : Op Machine Nat := do
  note (.bind host port (.ofHost host) backlog)
  let m ← Op.get
  Op.put { m with bindings := m.bindings.tail }
  match m.bindings.head?.getD (.binds none) with
  | .fails f => Op.fail (.fault f)
  | .binds other =>
    Op.modify fun m => { m with listeners := m.listeners ++ [⟨other.getD port, true⟩] }
    return m.listeners.length

/-- The fault of using a socket that is closed. -/
def closedFault : Fault := ⟨.system, [.int 9, .string "Bad file descriptor"]⟩

/-- The port of a socket. -/
def portOf (place : Nat) : Op Machine Int := do
  match (← Op.get).listeners[place]? with
  | some ⟨port, true⟩ => return port
  | _ => Op.fail (.fault closedFault)

/-- Closes a socket. -/
def closeListener (place : Nat) : Op Machine Unit := do
  match (← Op.get).listeners[place]? with
  | none => return
  | some l =>
    note (.closeListener l.port)
    Op.modify fun m => { m with
      listeners := m.listeners.modify place fun l => { l with isOpen := false } }

/-- Takes what the next run of the web server comes to. -/
def nextRun : Op Machine ServerRun := fun m =>
  ⟨.ok (m.runs.head?.getD (.startsAfter 0)), { m with runs := m.runs.tail }, []⟩

/-- Lets time pass. -/
def sleep (milliseconds : Nat) : Op Machine Unit :=
  Op.modify fun m => { m with clock := m.clock + milliseconds }

/-- Waits until a thread is over; only a wait without an end can be interrupted. -/
def join (timeout : Option Json) : Op Machine Waited := do
  note (.join timeout)
  return if timeout.isNone && (← Op.get).isInterrupted then .interrupted else .ended

end Machine

end CommandBridge
