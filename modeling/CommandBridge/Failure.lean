import CommandBridge.Error.Basic
import CommandBridge.Fault
import CommandBridge.Json.Reader
import CommandBridge.Schema.Validation

/-!
# CommandBridge.Failure

Everything an operation of the bridge can fail with: an error of the bridge
itself, a fault raised by something it works with, a record that does not
validate, or one of the few conditions that have a cause of their own.
-/

namespace CommandBridge

/-- Why an operation failed. -/
inductive Failure where
  | bridge (e : BridgeError)
  | fault (f : Fault)
  | invalid (record : String) (errors : List FieldError)
  /-- A text that was to be JSON is not. -/
  | unreadable (e : Json.ReadError)
  /-- A published status is none of the three statuses. -/
  | unknownStatus (value : Json)
  /-- Something was to be evicted from the record map, and it was empty. -/
  | nothingToEvict
  deriving DecidableEq, Repr

namespace Failure

/-- The text of a failure. -/
def text : Failure → Text
  | .bridge e => e.message
  | .fault f => f.text
  | .invalid record errors => (FieldError.reportAll record errors : Text)
  | .unreadable e => (e.message : Text)
  | .unknownStatus v => (s!"{v.literal} is not a valid ResultStatus" : String)
  | .nothingToEvict => (Fault.ofMessage .key "dictionary is empty").text

/-- The name of a failure's class. -/
def name : Failure → String
  | .bridge e => e.name
  | .fault f => f.name
  | .invalid _ _ => "ValidationError"
  | .unreadable (.malformed _ _ _ _) => "JSONDecodeError"
  | .unreadable (.tooManyDigits _) => "ValueError"
  | .unreadable (.tooDeep _) => "RecursionError"
  | .unknownStatus _ => "ValueError"
  | .nothingToEvict => "KeyError"

/-- Whether a failure is a system error. -/
def isSystem : Failure → Bool
  | .fault f => f.isSystem
  | _ => false

/-- Whether a failure says that a file is not there. -/
def isFileNotFound (e : Failure) : Bool := e.name = "FileNotFoundError"

end Failure

end CommandBridge
