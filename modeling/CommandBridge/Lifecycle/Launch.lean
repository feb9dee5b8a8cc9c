import CommandBridge.Lifecycle.Basic
import CommandBridge.Service.Setup

/-!
# CommandBridge.Lifecycle.Launch

Running the bridge as a program: the default service is set up, its server is started,
and the program waits until the server is over or someone interrupts it.
-/

namespace CommandBridge

/-- How the program ends. -/
inductive Exit where
  | normal
  | failure
  deriving DecidableEq, Repr

/-- A service and its server. -/
structure Launch where
  service : Service
  lifecycle : Lifecycle

namespace Launch

/-- Runs an operation on the service. -/
def onService {α : Type} (x : Op Service α) : Op Launch α :=
  x.on Launch.service fun s l => { l with service := s }

/-- Runs an operation on the server. -/
def onLifecycle {α : Type} (x : Op Lifecycle α) : Op Launch α :=
  x.on Launch.lifecycle fun c l => { l with lifecycle := c }

/-- What the program starts from. -/
def create (server : ServerSettings) (settings : BridgeSettings) (machine : Machine) :
    Except Fault Launch := do
  let options : ServiceOptions := {}
  return ⟨← options.create server settings, .create server none none .null machine⟩

/-- Says that the server could not be started. -/
def reportFailure (e : BridgeError) : Op Launch Unit :=
  let p := e.payload none
  Op.event .http .error "server_startup_failed"
    [("code", .string p.code.text), ("message", .str p.message),
      ("user_action", .string p.code.userAction), ("details", .obj p.details)]

/-- Starts the server; answers whether it could be started. -/
def startServer : Op Launch Bool := do
  match ← (onLifecycle (Lifecycle.start Lifecycle.startTimeout)).attempt with
  | .ok () => return true
  | .error (.bridge e) =>
    reportFailure e
    return false
  | .error e => Op.fail e

/-- Runs the bridge. -/
def run : Op Launch Exit := do
  onService Service.attachDefault
  if ← startServer then
    if (← onLifecycle Lifecycle.wait) = .interrupted then
      Op.log ⟨.http, .info, "[Bridge] Shutting down..."⟩
      discard (onLifecycle (Lifecycle.stop (some Lifecycle.stopTimeout)))
    return .normal
  else return .failure

end Launch

end CommandBridge
