import CommandBridge.Dispatch.Call
import CommandBridge.Results.Stream
import CommandBridge.Service.Progress
import CommandBridge.Settings.Basic

/-!
# CommandBridge.Service.Basic

A running service: the bridge, the event streams that are open on it, the connections
that event streams are sent over, and what is counted about requests.
-/

namespace CommandBridge

/-- A connection over which an event stream is sent; `due` is the time of the next
heartbeat, and `unread` is what was sent and not looked at. -/
structure Connection where
  stream : EventStream
  due : Nat
  unread : String := ""
  deriving DecidableEq, Repr

/-- What is counted about requests. -/
structure RequestStats where
  received : Nat := 0
  failed : Nat := 0
  identified : Nat := 0
  deriving DecidableEq, Repr

/-- A running service. -/
structure Service where
  bridge : Bridge
  server : ServerSettings := {}
  settings : BridgeSettings := {}
  streams : List EventStream := []
  connections : List Connection := []
  requests : RequestStats := {}

namespace Service

/-- The time of the service. -/
def clock (s : Service) : Nat := s.bridge.host.clock

/-- The result channel. -/
def results (s : Service) : ResultChannel := s.bridge.host.results

/-- How deep the body of a request can be nested before the reader gives up. -/
def nesting (s : Service) : Nat := s.bridge.host.nesting

/-- Runs an operation on the bridge. -/
def onBridge {α : Type} (x : Op Bridge α) : Op Service α :=
  x.on Service.bridge fun b s => { s with bridge := b }

/-- Runs an operation on what the instances share. -/
def onHost {α : Type} (x : Op Host α) : Op Service α := onBridge (Bridge.onHost x)

/-- Runs an operation on the result channel. -/
def onResults {α : Type} (x : Op ResultChannel α) : Op Service α := onHost (Host.onResults x)

/-- Puts the time forward. -/
def setClock (time : Nat) : Op Service Unit :=
  onHost (Op.modify fun h => { h with clock := max h.clock time })

/-! ## Calls -/

/-- Hands over a tool call and acknowledges it after the acknowledgement delay. -/
def callTool (now : Timestamp) (name : String) (arguments : Json) :
    Op Service (Progress Service Response) := do
  let r ← onBridge (Bridge.callTool now name arguments)
  let s ← Op.get
  if s.bridge.ackDelay = 0 then return .done r
  else return .suspended ⟨s.clock + s.bridge.ackDelay, none⟩ (return r)

/-- Waits for a number of nanoseconds. -/
def sleep (nanoseconds : Nat) : Op Service (Progress Service Unit) := do
  let s ← Op.get
  return .suspended ⟨s.clock + nanoseconds, none⟩ (return ())

/-! ## Event streams -/

/-- Opens an event stream and answers with its place. -/
def openStream (heartbeat : Nat) : Op Service Nat := fun s =>
  ⟨.ok s.streams.length, { s with streams := s.streams ++ [⟨heartbeat, .fresh, false⟩] }, []⟩

/-- Puts an event stream in place of another. -/
def putStream (place : Nat) (stream : EventStream) : Op Service Unit :=
  Op.modify fun s => { s with streams := s.streams.modify place fun _ => stream }

/-- The frame that ends a wait: that of an event if there is one, else a heartbeat. -/
def frameAfterWait (queue : Nat) : Op ResultChannel Frame := do
  match ← ResultChannel.nextEvent? queue with
  | some event => return .result event
  | none => return .heartbeat

/-- Waits for the next frame of an event stream; there is none once it has ended. -/
def nextFrame (place : Nat) : Op Service (Progress Service (Option Frame)) := do
  let s ← Op.get
  match s.streams[place]? with
  | none => return .done none
  | some stream =>
    let (stream, step) ← onResults stream.next
    putStream place stream
    match step, stream.phase with
    | .frame f, _ => return .done (some f)
    | .waiting, .live q =>
      return .suspended ⟨s.clock + stream.heartbeat, some q⟩
        (some <$> onResults (frameAfterWait q))
    | _, _ => return .done none

/-- Notes that the client of an event stream is gone. -/
def disconnectStream (place : Nat) : Op Service Unit :=
  Op.modify fun s =>
    { s with streams := s.streams.modify place fun e => { e with disconnected := true } }

/-- Closes an event stream. -/
def closeStream (place : Nat) : Op Service Unit := do
  match (← Op.get).streams[place]? with
  | none => return
  | some stream => putStream place (← onResults stream.close)

end Service

end CommandBridge
