import CommandBridge.Service.Connection

/-!
# CommandBridge.Service.Clock

How time passes.  Operations are started one after the other, and each does at once all
it can.  While one is still waiting the clock goes on to the next time at which something
is due: the end of a wait, a round of a collector, a heartbeat of a connection.
At each such time the background goes first.
-/

namespace CommandBridge

/-- An operation that was started. -/
inductive Started (α : Type) where
  | waiting (w : Wait) (resume : Op Service α)
  | over (r : Except Failure α)

namespace Service

variable {α : Type}

/-- Lets the collectors and the connections do what they can do now. -/
def settle (now : Timestamp) : Op Service Unit := do
  onHost (FileQueue.runDue now)
  (List.range (← Op.get).connections.length).forM advanceConnection

/-- The times at which something is due in the background. -/
def backgroundTimes (s : Service) : List Nat :=
  s.bridge.host.collectors.filterMap FileQueue.dueTime?
    ++ s.connections.filterMap Connection.dueTime?

/-- Whether a wait is over. -/
def isOver (s : Service) (w : Wait) : Bool :=
  w.deadline ≤ s.clock ||
    match w.queue with
    | some q => s.results.queues[q]?.any fun e => !e.pending.isEmpty
    | none => false

/-- Starts an operation. -/
def start (x : Op Service (Progress Service α)) : Op Service (Started α) := do
  match ← x.attempt with
  | .ok (.done a) => return .over (.ok a)
  | .ok (.suspended w resume) => return .waiting w resume
  | .error e => return .over (.error e)

/-- Brings a started operation to its end. -/
def finish : Started α → Op Service (Except Failure α)
  | .over r => return r
  | .waiting _ resume => resume.attempt

/-- Goes on with a started operation if its wait is over. -/
def wake (t : Started α) : Op Service (Started α) := do
  match t with
  | .over r => return .over r
  | .waiting w resume =>
    if (← Op.get).isOver w then return .over (← resume.attempt) else return .waiting w resume

/-- The end of an operation's wait. -/
def deadline? : Started α → Option Nat
  | .waiting w _ => some w.deadline
  | .over _ => none

/-- The next time at which something is due, while operations are waiting. -/
def nextTime? (s : Service) (ts : List (Started α)) : Option Nat :=
  match ts.filterMap deadline? with
  | [] => none
  | d :: ds => some ((ds ++ s.backgroundTimes).foldl min d)

/-- Lets time pass, for at most `limit` nanoseconds, until all operations
are over. -/
def drive (now : Timestamp) : Nat → List (Started α) → Op Service (List (Except Failure α))
  | 0, ts => ts.mapM finish
  | limit + 1, ts => do
    settle now
    let ts ← ts.mapM wake
    match (← Op.get).nextTime? ts with
    | none => ts.mapM finish
    | some t =>
      setClock t
      drive now limit ts

/-- Runs operations concurrently and answers with what came of each. -/
def gather (now : Timestamp) (xs : List (Op Service (Progress Service α))) :
    Op Service (List (Except Failure α)) := do
  let ts ← xs.mapM start
  let s ← Op.get
  drive now ((ts.filterMap deadline?).foldl max s.clock - s.clock + 1) ts

/-- Runs an operation to its end and lets the background do what it can do then. -/
def perform (now : Timestamp) (x : Op Service (Progress Service α)) : Op Service α := do
  let rs ← gather now [x]
  settle now
  match rs with
  | [r] => Op.ofExcept r
  | _ => Op.fail (.fault (.ofMessage .runtime "one operation has one result"))

end Service

end CommandBridge
