import CommandBridge.Dispatch.Command
import CommandBridge.Failure
import CommandBridge.Json.Dump
import CommandBridge.Timestamp

/-!
# CommandBridge.Results.Record

The record of a dispatched command: what was asked, and what came of it so far.
A record is pending until an outcome is published.

A record leaves the channel as a body, which is made by dumping it (`Record.dump`).  Its result can
stand in the way of that, and then the record has no body.
-/

namespace CommandBridge

/-- What came of a command. -/
inductive ResultStatus where
  | pending
  | success
  | error
  deriving DecidableEq, Repr

namespace ResultStatus

/-- The text of a status. -/
def text : ResultStatus → String
  | .pending => "pending"
  | .success => "success"
  | .error => "error"

/-- All statuses. -/
def all : List ResultStatus := [.pending, .success, .error]

/-- The statuses by their texts. -/
def table : List (String × ResultStatus) := all.map fun s => (s.text, s)

/-- The status a value names. -/
def ofJson? (j : Json) : Option ResultStatus := all.find? fun s => j = .string s.text

/-- Every status is read back from its text. -/
theorem ofJson?_text (s : ResultStatus) : ofJson? (.string s.text) = some s := by
  cases s <;> decide

end ResultStatus

/-- The record of a command. -/
structure Record where
  ticket : String
  kind : DispatchKind
  target : String
  status : ResultStatus := .pending
  result : Json := .null
  updatedAt : String
  deriving DecidableEq, Repr

namespace Record

/-- The record of a command that was just registered. -/
def ofCommand (c : Command) (now : Timestamp) : Record where
  ticket := c.ticket
  kind := c.kind
  target := c.target
  updatedAt := now.text

/-- A record after an outcome was published. -/
def withOutcome (now : Timestamp) (status : ResultStatus) (result : Json) (r : Record) : Record :=
  { r with status := status, result := result, updatedAt := now.text }

/-- Whether an outcome has been published. -/
def isFinal (r : Record) : Bool := r.status ≠ .pending

/-- Reads a record; `now` stands in for an absent time. -/
def ofJson (now : String) (j : Json) : Validated Record :=
  readRecord "ResultRecord" (j := j) fun ms =>
    (Validated.seq (.ok Record.mk) (readField ms ["ticket"] .string none))
      |>.seq (readField ms ["kind"] (.choice DispatchKind.table) none)
      |>.seq (readField ms ["target"] .string none)
      |>.seq (readField ms ["status"] (.choice ResultStatus.table) (some .pending))
      |>.seq (readField ms ["result"] .any (some .null))
      |>.seq (readField ms ["updated_at"] .string (some now))

/-- The members of a record.  Numbers that JSON cannot hold have become null. -/
def fields (r : Record) : List (Text × Json) :=
  [("ticket", .string r.ticket), ("kind", .string r.kind.text), ("target", .string r.target),
    ("status", .string r.status.text), ("result", r.result.finiteOnly),
    ("updated_at", .string r.updatedAt)]

/-- The body of a record that has one. -/
def toBody (r : Record) : Json := .obj r.fields

/-- Whether a record has a body. -/
def Dumpable (r : Record) : Prop := r.result.Dumpable

instance (r : Record) : Decidable r.Dumpable := inferInstanceAs (Decidable r.result.Dumpable)

/-- The body of a record, which is what is answered, stored and broadcast; all but the result can
always be dumped. -/
def dump (r : Record) : Except Failure Json :=
  match r.result.dumpFault? Json.dumpLimit with
  | none => .ok r.toBody
  | some f => .error (.fault f)

theorem dump_of_dumpable {r : Record} (h : r.Dumpable) : r.dump = .ok r.toBody := by
  rw [dump, show r.result.dumpFault? Json.dumpLimit = none from h]

theorem dump_of_not_dumpable {r : Record} (h : ¬ r.Dumpable) :
    ∃ f, r.result.dumpFault? Json.dumpLimit = some f ∧ r.dump = .error (.fault f) := by
  obtain ⟨f, hf⟩ := Option.ne_none_iff_exists'.mp h
  exact ⟨f, hf, by rw [dump, hf]⟩

/-- A record has a body if and only if it can be dumped. -/
theorem dump_eq_ok_iff {r : Record} {body : Json} :
    r.dump = .ok body ↔ r.Dumpable ∧ body = r.toBody := by
  by_cases h : r.Dumpable
  · rw [dump_of_dumpable h, Except.ok.injEq]
    exact ⟨fun hb => ⟨h, hb.symm⟩, fun hb => hb.2.symm⟩
  · obtain ⟨f, -, hf⟩ := dump_of_not_dumpable h
    simp [hf, h]

theorem eq_toBody_of_dump {r : Record} {body : Json} (h : r.dump = .ok body) : body = r.toBody :=
  (dump_eq_ok_iff.mp h).2

/-- What is made of the body of a record is there if the record can be dumped, -/
theorem map_dump_eq_ok_iff {α : Type} {r : Record} {g : Json → α} {a : α} :
    r.dump.map g = .ok a ↔ r.Dumpable ∧ a = g r.toBody := by
  by_cases h : r.Dumpable
  · simp [dump_of_dumpable h, Except.map, h, eq_comm]
  · obtain ⟨f, -, hf⟩ := dump_of_not_dumpable h
    simp [hf, Except.map, h]

/-- and there is a fault in its place if not. -/
theorem map_dump_eq_error_iff {α : Type} {r : Record} {g : Json → α} {e : Failure} :
    r.dump.map g = .error e ↔ ∃ f, r.result.dumpFault? Json.dumpLimit = some f ∧ e = .fault f := by
  rw [dump]
  cases r.result.dumpFault? Json.dumpLimit <;> simp [Except.map, eq_comm]

end Record

/-- A request to publish an outcome. -/
structure PublishRequest where
  status : ResultStatus
  result : Json
  deriving DecidableEq, Repr

namespace PublishRequest

/-- The fields of a publish request. -/
def ofMembers (ms : List (Text × Json)) : Validated PublishRequest :=
  (Validated.seq (.ok PublishRequest.mk)
    (readField ms ["status"] (.choice ResultStatus.table) (some .success)))
    |>.seq (readField ms ["result"] .any (some .null))

/-- Reads a publish request. -/
def ofJson (j : Json) : Validated PublishRequest :=
  readRecord "PublishResultRequest" ofMembers j

/-- The members of a publish request. -/
def fields (r : PublishRequest) : List (Text × Json) :=
  [("status", .string r.status.text), ("result", r.result)]

end PublishRequest

end CommandBridge
