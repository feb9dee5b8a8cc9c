import CommandBridge.Files.Tree
import CommandBridge.Instance.Basic
import CommandBridge.Results.Channel

/-!
# CommandBridge.Instance.Host

What instances share: the result channel, the files below the working
directory, the handler calls that wait for their turn, the collectors of
response files, and a clock in nanoseconds that only moves while something is
waited for.  Instances are known by their place in the list of all instances.
-/

namespace CommandBridge

/-- How far the handler call of a command has come. -/
inductive CallStage where
  /-- The handler has not run. -/
  | queued
  /-- The handler has run, and nobody was told yet. -/
  | finished (outcome : Except Fault Json)
  /-- The outcome is about to be published. -/
  | publishing (status : ResultStatus) (result : Json)
  /-- Nothing is awaited any more: the outcome was published, or nobody is there to do it. -/
  | over
  deriving Repr

/-- The handler call of a command. -/
structure HandlerCall where
  owner : Nat
  command : Command
  stage : CallStage := .queued
  deriving Repr

/-- Whether the outcome of a call is still awaited. -/
def HandlerCall.isPending (c : HandlerCall) : Bool :=
  match c.stage with
  | .over => false
  | _ => true

/-- What a collector does next. -/
inductive CollectorStage where
  /-- Looks for response files at this time. -/
  | due (time : Nat)
  /-- Nothing, since it failed. -/
  | failed (e : Failure)
  deriving Repr

/-- A collector of the response files of a file queue. -/
structure Collector where
  id : Nat
  owner : Nat
  stage : CollectorStage
  deriving Repr

/-- What instances share.  `nesting` is how deep a response file or the body of a request can be
nested before the reader gives up. -/
structure Host where
  instances : List Instance := []
  results : ResultChannel
  files : FileTree := {}
  calls : List HandlerCall := []
  collectors : List Collector := []
  collectorsStarted : Nat := 0
  clock : Nat := 0
  nesting : Nat := Json.usualNesting

namespace Host

/-- The instance at a place. -/
def instanceAt (h : Host) (i : Nat) : Instance := h.instances[i]?.getD default

/-- Changes the instance at a place. -/
def update (i : Nat) (f : Instance → Instance) : Op Host Unit :=
  Op.modify fun h => { h with instances := h.instances.modify i f }

/-- Adds an instance and answers with its place. -/
def add (a : Instance) : Op Host Nat := fun h =>
  ⟨.ok h.instances.length, { h with instances := h.instances ++ [a] }, []⟩

/-- Runs an operation on the result channel. -/
def onResults {α : Type} (x : Op ResultChannel α) : Op Host α :=
  x.on Host.results fun c h => { h with results := c }

/-- Runs an operation on the files. -/
def onFiles (f : FileTree → Except Failure FileTree) : Op Host Unit := fun h =>
  match f h.files with
  | .ok t => ⟨.ok (), { h with files := t }, []⟩
  | .error e => ⟨.error e, h, []⟩

theorem run_onFiles_of_ok {f : FileTree → Except Failure FileTree} {h : Host} {t : FileTree}
    (hf : f h.files = .ok t) : (onFiles f).run h = ⟨.ok (), { h with files := t }, []⟩ := by
  rw [Op.run, onFiles, hf]

theorem run_onFiles_of_error {f : FileTree → Except Failure FileTree} {h : Host} {e : Failure}
    (hf : f h.files = .error e) : (onFiles f).run h = ⟨.error e, h, []⟩ := by
  rw [Op.run, onFiles, hf]

/-- The number of commands of a callback instance whose outcome is still awaited. -/
def pendingCalls (h : Host) (i : Nat) : Nat :=
  h.calls.countP fun c => c.owner = i && c.isPending

/-- What is told about an instance. -/
def describe (h : Host) (i : Nat) : List (String × Json) :=
  let a := h.instanceAt i
  [("name", .string a.name), ("type", .string a.adapter.typeName)] ++
    match a.adapter with
    | .recording _ => []
    | .callback _ => [("pending", .nat (h.pendingCalls i))]
    | .fileQueue q => [("queue_dir", .string q.directory.toString)]

end Host

end CommandBridge
