import CommandBridge.Results.Channel

/-!
# CommandBridge.Results.Stream

Event streams: the frames of server-sent events for one client.

1. A stream opens a queue when its first frame is asked for, and that frame
   says that it is ready.
2. Each further frame is the oldest event that was not sent yet or, when none
   comes in time, a heartbeat.  With a heartbeat of zero no event is ever waited for.
3. Once the client is gone the stream ends and closes its queue.
-/

namespace CommandBridge

/-- A frame of an event stream. -/
inductive Frame where
  | ready (backend : String)
  | heartbeat
  | result (body : Json)
  deriving DecidableEq, Repr

/-- The text of a frame. -/
def Frame.text : Frame → String
  | .ready backend =>
    "data: " ++ Json.write (.object [("type", .string "ready"), ("result_backend", .string backend)])
      ++ "\n\n"
  | .heartbeat => ": heartbeat\n\n"
  | .result body => "event: result\ndata: " ++ Json.write body ++ "\n\n"

/-- How far a stream has come. -/
inductive StreamPhase where
  | fresh
  | live (queue : Nat)
  | ended
  deriving DecidableEq, Repr

/-- The stream of a client; `heartbeat` is the longest time between frames, in nanoseconds. -/
structure EventStream where
  heartbeat : Nat
  phase : StreamPhase := .fresh
  disconnected : Bool := false
  deriving DecidableEq, Repr

/-- What asking a stream for its next frame gives. -/
inductive StreamStep where
  | frame (f : Frame)
  | ended
  | waiting
  deriving DecidableEq, Repr

namespace EventStream

/-- Asks for the next frame; `waiting` says that it is due when an event comes
or the heartbeat is over. -/
def next (s : EventStream) : Op ResultChannel (EventStream × StreamStep) := do
  match s.phase with
  | .ended => return (s, .ended)
  | .fresh =>
    let q ← ResultChannel.subscribe ResultChannel.defaultLimit
    let c ← Op.get
    return ({ s with phase := .live q }, .frame (.ready c.backend))
  | .live q =>
    if s.disconnected then
      ResultChannel.unsubscribe q
      return ({ s with phase := .ended }, .ended)
    else if s.heartbeat = 0 then return (s, .frame .heartbeat)
    else
      match ← ResultChannel.nextEvent? q with
      | some event => return (s, .frame (.result event))
      | none => return (s, .waiting)

/-- Closes a stream from outside. -/
def close (s : EventStream) : Op ResultChannel EventStream := do
  match s.phase with
  | .live q => ResultChannel.unsubscribe q
  | _ => pure ()
  return { s with phase := .ended }

end EventStream

end CommandBridge
