import CommandBridge.Instance.Host
import CommandBridge.Text.Breaks
import CommandBridge.Text.Utf8

/-!
# CommandBridge.Instance.FileQueue

File queues.

1. A command becomes the file `requests/<ticket>.json`, which holds its message as
   JSON text.  The text is written under another name first, and the file
   renamed, so nobody sees a part of it.
2. The application answers with a file `responses/<ticket>.json`.  Collecting removes
   each response file with the request it answers and publishes what it says.
3. While the queue is open, a collector does this again and again.
-/

namespace CommandBridge.FileQueue

/-! ## Requests -/

/-- The request file of a ticket. -/
def requestPath (q : FileQueue) (ticket : String) : Path := q.requests.child (ticket ++ ".json")

/-- The bytes of a message. -/
def messageBytes (c : Command) : List UInt8 := Utf8.encode c.toMessage.write

/-- The name under which a file is written before it gets its own. -/
def temporary (p : Path) : Path := p.withSuffix ".tmp"

/-- Writes a file in one step, as far as readers of its name can tell. -/
def writeAtomic (p : Path) (bytes : List UInt8) : Op Host Unit := do
  if p.parts.any fun part => part.toList.contains '\x00' then
    Op.fail (.fault (.ofMessage .value "embedded null byte"))
  Host.onFiles fun t => t.write (temporary p) bytes
  Host.onFiles fun t => t.rename (temporary p) p

/-- Takes a command: it is accepted if its request file could be written. -/
def deliver (q : FileQueue) (c : Command) : Op Host Delivery := do
  let p := q.requestPath c.ticket
  match ← (writeAtomic p (messageBytes c)).attempt with
  | .ok () => return .accept
  | .error e =>
    if e.isSystem then
      return .rejected ((s!"Could not write {p.name}: " : String) ++ e.text)
    else Op.fail e

/-! ## Responses -/

/-- The outcome that a response file with a JSON value stands for.  An object has
members for the status and the result; any other value is itself the result. -/
def outcomeOf (j : Json) : ResultStatus × Json :=
  match j with
  | .obj _ =>
    let status :=
      match ResultStatus.ofJson? ((j.get? "status").getD (.string ResultStatus.success.text)) with
      | none => .error
      | some .pending => .success
      | some s => s
    (status, (j.get? "result").getD .null)
  | value => (.success, value)

/-- The outcome of a response file that cannot be read. -/
def malformed (why : Text) : ResultStatus × Json :=
  (.error, .object [("error", .str (("Malformed response file: " : Text) ++ why))])

/-- The outcome that the bytes of a response file stand for.  A text that is nested too deep for
the reader is not one that is not JSON: reading it fails. -/
def readResponse (nesting : Nat) (bytes : List UInt8) : Except Failure (ResultStatus × Json) :=
  match Utf8.decode bytes with
  | .error m => .ok (malformed (m.message : String))
  | .ok cs =>
    match Json.readNested nesting (String.ofList (Breaks.unify cs)) with
    | .ok j => .ok (outcomeOf j)
    | .error (.tooDeep c) => .error (.unreadable (.tooDeep c))
    | .error e => .ok (malformed (e.message : String))

/-- The outcome that a response file stands for. -/
def responseAt (nesting : Nat) (t : FileTree) (p : Path) : Except Failure (ResultStatus × Json) :=
  match t.read p with
  | .ok bytes => readResponse nesting bytes
  | .error e => .ok (malformed e.text)

/-- Removes a file if it is there. -/
def removeIfPresent (p : Path) : Op Host Bool := do
  match ← (Host.onFiles fun t => t.remove p).attempt with
  | .ok () => return true
  | .error e => if e.isFileNotFound then return false else Op.fail e

/-- Handles one response file. -/
def collectFile (now : Timestamp) (i : Nat) (q : FileQueue) (name : String) : Op Host Unit := do
  let h ← Op.get
  let (status, result) ← Op.ofExcept (responseAt h.nesting h.files (q.responses.child name))
  discard (removeIfPresent (q.responses.child name))
  discard (removeIfPresent (q.requests.child name))
  if ((← Op.get).instanceAt i).holdsChannel then
    let ticket := Path.stemOf name
    let r ← (Host.onResults (ResultChannel.publishOutcome now ticket status result)).attempt
    match r with
    | .ok _ => pure ()
    | .error (.bridge (.resultNotFound _)) =>
      Op.event .fileQueue .warning "file_queue_unknown_ticket" [("ticket", .string ticket)]
    | .error e => Op.fail e

/-- Handles every response file there is, by name, and answers how many there were. -/
def collect (now : Timestamp) (i : Nat) (q : FileQueue) : Op Host Nat := do
  let names := (← Op.get).files.names q.responses ".json"
  names.forM (collectFile now i q)
  return names.length

/-! ## Opening and closing -/

/-- Makes the directories of a queue. -/
def prepare (q : FileQueue) : Op Host Unit := do
  Host.onFiles fun t => t.makeDirs q.requests
  Host.onFiles fun t => t.makeDirs q.responses

/-- Changes the file queue at a place. -/
def put (i : Nat) (q : FileQueue) : Op Host Unit :=
  Host.update i fun a => { a with adapter := .fileQueue q }

/-- Starts a collector for the queue. -/
def «open» (i : Nat) (q : FileQueue) : Op Host Unit := do
  let h ← Op.get
  Op.put { h with
    collectors := h.collectors ++ [⟨h.collectorsStarted, i, .due h.clock⟩]
    collectorsStarted := h.collectorsStarted + 1 }
  put i { q with collector := some h.collectorsStarted }
  Host.update i fun a => { a with holdsChannel := true }
  Op.event .fileQueue .info "file_queue_opened"
    [("queue_dir", .string q.directory.toString), ("poll_interval", q.interval)]

/-- Stops a collector; one that failed tells so now. -/
def stopCollector (i : Nat) (q : FileQueue) : Op Host Unit := do
  match q.collector with
  | none => return
  | some id =>
    match ((← Op.get).collectors.find? fun c => c.id = id).map Collector.stage with
    | some (CollectorStage.failed e) => Op.fail e
    | _ =>
      Op.modify fun h => { h with collectors := h.collectors.filter fun c => c.id ≠ id }
      put i { q with collector := none }

/-- Stops the collector and removes the requests that were not answered. -/
def close (i : Nat) (q : FileQueue) : Op Host Unit := do
  stopCollector i q
  let names := (← Op.get).files.names q.requests ".json"
  let removed ← names.mapM fun name => removeIfPresent (q.requests.child name)
  Op.event .fileQueue .info "file_queue_closed"
    [("pending_requests_removed", .nat (removed.countP id))]

/-! ## Collectors -/

/-- What a collector does after a round that ended at `clock`. -/
def nextStage (clock nanoseconds : Nat) (e : Option Failure) : CollectorStage :=
  match e with
  | some e => if e.isSystem then .due (clock + max nanoseconds 1) else .failed e
  | none => .due (clock + max nanoseconds 1)

/-- One round of a collector.  A system error is logged, and any other failure ends it. -/
def round (now : Timestamp) (c : Collector) : Op Host Unit := do
  match ((← Op.get).instanceAt c.owner).adapter with
  | .fileQueue q =>
    let failure ← do
      match ← (collect now c.owner q).attempt with
      | .ok _ => pure none
      | .error e =>
        if e.isSystem then
          Op.event .fileQueue .warning "file_queue_collect_failed" [("error", .str e.text)]
        pure (some e)
    Op.modify fun h => { h with
      collectors := h.collectors.map fun d =>
        if d.id = c.id then { d with stage := nextStage h.clock q.nanoseconds failure } else d }
  | _ => return

/-- The time of a collector's next round. -/
def dueTime? (c : Collector) : Option Nat :=
  match c.stage with
  | .due time => some time
  | .failed _ => none

/-- Lets every collector that is due do a round. -/
def runDue (now : Timestamp) : Op Host Unit := do
  let h ← Op.get
  let due := h.collectors.filter fun c => (dueTime? c).any (· ≤ h.clock)
  due.forM (round now)

end CommandBridge.FileQueue
