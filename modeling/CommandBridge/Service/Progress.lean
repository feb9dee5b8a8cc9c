import CommandBridge.Op

/-!
# CommandBridge.Service.Progress

Operations that take time.  Such an operation is started and does everything it can do
at once; then it is over, or it waits for a point in time or for an event and says
how it goes on.
-/

namespace CommandBridge

/-- What a suspended operation waits for: a time in nanoseconds or, if a queue is
given, an event in that queue before. -/
structure Wait where
  deadline : Nat
  queue : Option Nat := none
  deriving DecidableEq, Repr

/-- How far an operation has come when it was started. -/
inductive Progress (σ α : Type) where
  | done (a : α)
  | suspended (w : Wait) (resume : Op σ α)

namespace Op

variable {σ α β : Type}

/-- An operation that takes no time. -/
def atOnce (x : Op σ α) : Op σ (Progress σ α) := do return .done (← x)

/-- Goes on with the answer or the failure of an operation when it is over. -/
def onceOver (x : Op σ (Progress σ α)) (f : Except Failure α → Op σ β) :
    Op σ (Progress σ β) := do
  match ← x.attempt with
  | .ok (.done a) => atOnce (f (.ok a))
  | .ok (.suspended w resume) => return .suspended w (do f (← resume.attempt))
  | .error e => atOnce (f (.error e))

/-- Goes on with the answer of an operation when it is over. -/
def andThen (x : Op σ (Progress σ α)) (f : α → Op σ β) : Op σ (Progress σ β) :=
  x.onceOver fun r => do f (← Op.ofExcept r)

end Op

end CommandBridge
