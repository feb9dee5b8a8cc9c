import CommandBridge.Service.Basic

/-!
# CommandBridge.Service.Connection

Connections that event streams are sent over.  Whatever a stream has to send is sent at
once: events as they come, and a heartbeat whenever none came for long enough.
-/

namespace CommandBridge

namespace Connection

/-- Sends a frame; the next heartbeat is due one heartbeat later. -/
def send (clock : Nat) (f : Frame) (c : Connection) : Connection :=
  { c with unread := c.unread ++ f.text, due := clock + max c.stream.heartbeat 1 }

/-- Sends up to `limit` frames that are at hand. -/
def sendReady (clock : Nat) : Nat → Connection → Op ResultChannel Connection
  | 0, c => return c
  | limit + 1, c => do
    let (stream, step) ← c.stream.next
    match step with
    | .frame f => sendReady clock limit ({ c with stream := stream }.send clock f)
    | _ => return { c with stream := stream }

/-- The number of events that a connection has yet to send. -/
def backlog (r : ResultChannel) (c : Connection) : Nat :=
  match c.stream.phase with
  | .live q => ((r.queues[q]?).map (·.pending.length)).getD 0
  | _ => 0

/-- Sends what is at hand, and a heartbeat if one is due. -/
def advance (clock : Nat) (c : Connection) : Op ResultChannel Connection := do
  let c ← sendReady clock (c.backlog (← Op.get)) c
  match c.stream.phase with
  | .live _ => return if c.due ≤ clock then c.send clock .heartbeat else c
  | _ => return c

/-- The time of the next heartbeat, while the stream is live. -/
def dueTime? (c : Connection) : Option Nat :=
  match c.stream.phase with
  | .live _ => some c.due
  | _ => none

end Connection

namespace Service

/-- Puts a connection in place of another. -/
def putConnection (place : Nat) (c : Connection) : Op Service Unit :=
  Op.modify fun s => { s with connections := s.connections.modify place fun _ => c }

/-- Opens a connection, sends its first frame and answers with its place. -/
def connect (heartbeat : Nat) : Op Service Nat := do
  let s ← Op.get
  let c ← onResults (Connection.sendReady s.clock 1 ⟨⟨heartbeat, .fresh, false⟩, 0, ""⟩)
  Op.modify fun t => { t with connections := t.connections ++ [c] }
  return s.connections.length

/-- Takes what was sent over a connection since it was last looked at. -/
def takeUnread (place : Nat) : Op Service String := do
  match (← Op.get).connections[place]? with
  | none => return ""
  | some c =>
    putConnection place { c with unread := "" }
    return c.unread

/-- Ends a connection from the side of the client. -/
def disconnect (place : Nat) : Op Service Unit := do
  match (← Op.get).connections[place]? with
  | none => return
  | some c => putConnection place { c with stream := ← onResults c.stream.close }

/-- Lets a connection send what it has. -/
def advanceConnection (place : Nat) : Op Service Unit := do
  let s ← Op.get
  match s.connections[place]? with
  | none => return
  | some c => putConnection place (← onResults (c.advance s.clock))

end Service

end CommandBridge
