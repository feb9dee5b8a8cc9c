import CommandBridge.Instance.Callback
import CommandBridge.Instance.FileQueue
import CommandBridge.Instance.Recording

/-!
# CommandBridge.Instance.Operations

Opening, closing and delivering, for instances of every sort.
-/

namespace CommandBridge.Host

/-- Hands an instance the result channel. -/
def openInstance (i : Nat) : Op Host Unit := do
  update i fun a => { a with opens := a.opens + 1 }
  match ((← Op.get).instanceAt i).adapter with
  | .recording r => r.open i
  | .callback _ => update i fun a => { a with holdsChannel := true }
  | .fileQueue q => q.open i

/-- Takes the result channel back from an instance. -/
def closeInstance (i : Nat) : Op Host Unit := do
  update i fun a => { a with closes := a.closes + 1 }
  match ((← Op.get).instanceAt i).adapter with
  | .recording _ => pure ()
  | .callback _ => Callback.close i
  | .fileQueue q => q.close i
  update i fun a => { a with holdsChannel := false }

/-- Hands a command to an instance. -/
def deliver (now : Timestamp) (i : Nat) (c : Command) : Op Host Delivery := do
  match ((← Op.get).instanceAt i).adapter with
  | .recording r => r.deliver now i c
  | .callback _ => Callback.deliver i c
  | .fileQueue q => q.deliver c

/-- Puts a new instance in place; a file queue makes its directories. -/
def create (a : Instance) : Op Host Nat := do
  match a.adapter with
  | .fileQueue q => q.prepare
  | _ => pure ()
  add a

end CommandBridge.Host
