import CommandBridge.Catalog.ProjectGraph
import CommandBridge.Instance.Operations

/-!
# CommandBridge.Dispatch.Bridge

The bridge: a catalog, a slot for one application instance, and what the
instances share.  An instance is opened before it gets its first command, or when the
bridge starts up, and closed when it is detached or the bridge shuts down.

The bridge notes which instance it opened before the opening is over.
-/

namespace CommandBridge

/-- What is counted about dispatches. -/
structure DispatchStats where
  dispatched : DispatchKind → Nat := fun _ => 0
  deliveryFailures : Nat := 0
  targetUnavailable : Nat := 0

/-- The counters after another command of a kind was handed over. -/
def DispatchStats.count (s : DispatchStats) (kind : DispatchKind) : DispatchStats :=
  { s with dispatched := fun k => if k = kind then s.dispatched k + 1 else s.dispatched k }

/-- The bridge; `attached` and `opened` are places of instances, and `ackDelay` is
the time between handing over a tool call and acknowledging it, in nanoseconds. -/
structure Bridge where
  catalog : Catalog := .projectGraph
  label : String := "main"
  attached : Option Nat := none
  opened : Option Nat := none
  stats : DispatchStats := {}
  ackDelay : Nat := 0
  ticketsDrawn : Nat := 0
  host : Host

namespace Bridge

/-- Runs an operation on what the instances share. -/
def onHost {α : Type} (x : Op Host α) : Op Bridge α :=
  x.on Bridge.host fun h b => { b with host := h }

/-- Runs an operation on the result channel. -/
def onResults {α : Type} (x : Op ResultChannel α) : Op Bridge α := onHost (Host.onResults x)

/-- Draws the next ticket. -/
def drawTicket : Op Bridge String := fun b =>
  ⟨.ok (ticketOf (b.ticketsDrawn + 1)), { b with ticketsDrawn := b.ticketsDrawn + 1 }, []⟩

/-! ## The slot -/

/-- The instance under a label; no label, or an empty one, is the label of the slot. -/
def lookup (b : Bridge) (label : Option String) : Option Nat :=
  match label with
  | none => b.attached
  | some l => if l = "" ∨ l = b.label then b.attached else none

/-- Puts an instance into the slot if that is empty. -/
def attach (i : Nat) : Op Bridge Unit := do
  let b ← Op.get
  match b.attached with
  | some _ => Op.fail (.bridge (.alreadyAttached b.label))
  | none =>
    Op.put { b with attached := some i }
    Op.event .registry .info "instance_attached" (("target", .string b.label) :: b.host.describe i)

/-- Opens an instance unless it is the one that was opened last. -/
def ensureOpen (i : Nat) : Op Bridge Unit := do
  if (← Op.get).opened = some i then return
  Op.modify fun b => { b with opened := some i }
  onHost (Host.openInstance i)

/-- Empties the slot and answers with the instance that was in it. -/
def detach : Op Bridge (Option Nat) := do
  let b ← Op.get
  match b.attached with
  | none => return none
  | some i =>
    Op.put { b with attached := none }
    Op.event .registry .info "instance_detached" [("target", .string b.label)]
    if b.opened = some i then
      Op.modify fun b => { b with opened := none }
      onHost (Host.closeInstance i)
    return some i

/-- Opens the attached instance. -/
def startup : Op Bridge Unit := do
  match (← Op.get).attached with
  | some i => ensureOpen i
  | none => return

/-- Closes the opened instance and lets go of Redis. -/
def shutdown : Op Bridge Unit := do
  match (← Op.get).opened with
  | some i =>
    Op.modify fun b => { b with opened := none }
    onHost (Host.closeInstance i)
  | none => pure ()
  onResults ResultChannel.close

end Bridge

end CommandBridge
