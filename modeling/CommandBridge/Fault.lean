import CommandBridge.Json.Literal

/-!
# CommandBridge.Fault

What an application, a store or the file system can raise.  A fault is a kind
with arguments, and its text depends on them only: no text for none, the
argument itself for one, and all of them as a tuple otherwise.  A missing
key is quoted, and system errors (those of the connection included) with a
number and a description have a form of their own.
-/

namespace CommandBridge

/-- The name of a class, which is never empty. -/
abbrev ClassName := { s : String // s ≠ "" }

/-- The kinds of faults; `custom` is a class that an application defines itself. -/
inductive FaultKind where
  | custom (name : ClassName)
  | general
  | value
  | type
  | attribute
  | key
  | runtime
  | system
  | connection
  | timeout
  | overflow
  | recursion
  | decoding
  | encoding
  deriving DecidableEq, Repr

/-- A raised fault. -/
structure Fault where
  kind : FaultKind
  arguments : List Json
  deriving DecidableEq, Repr

namespace Fault

/-- The name of a system error with this number. -/
def systemName : Int → String
  | 1 | 13 => "PermissionError"
  | 2 => "FileNotFoundError"
  | 3 => "ProcessLookupError"
  | 4 => "InterruptedError"
  | 10 => "ChildProcessError"
  | 11 | 114 | 115 => "BlockingIOError"
  | 17 => "FileExistsError"
  | 20 => "NotADirectoryError"
  | 21 => "IsADirectoryError"
  | 32 | 108 => "BrokenPipeError"
  | 103 => "ConnectionAbortedError"
  | 104 => "ConnectionResetError"
  | 110 => "TimeoutError"
  | 111 => "ConnectionRefusedError"
  | _ => "OSError"

/-- The name of a fault; system errors with a number are named by it. -/
def name (f : Fault) : String :=
  match f.kind, f.arguments with
  | .custom name, _ => name
  | .general, _ => "Exception"
  | .value, _ => "ValueError"
  | .type, _ => "TypeError"
  | .attribute, _ => "AttributeError"
  | .key, _ => "KeyError"
  | .runtime, _ => "RuntimeError"
  | .connection, _ => "ConnectionError"
  | .timeout, _ => "TimeoutError"
  | .overflow, _ => "OverflowError"
  | .recursion, _ => "RecursionError"
  | .decoding, _ => "UnicodeDecodeError"
  | .encoding, _ => "UnicodeEncodeError"
  | .system, code :: _ :: rest =>
    if rest.length ≤ 3 then (code.toInt?.map systemName).getD "OSError" else "OSError"
  | .system, _ => "OSError"

/-- Whether a fault is a system error of any sort. -/
def isSystem (f : Fault) : Bool := f.kind = .system || f.kind = .connection || f.kind = .timeout

/-- The text of arguments that have no form of their own. -/
def argumentsText : List Json → Text
  | [] => []
  | [a] => a.plain
  | args => (Json.literalTuple args : Text)

/-- The number and the description of a system error. -/
def numbered (code description : Json) : Text :=
  ("[Errno " : Text) ++ code.plain ++ ("] " : Text) ++ description.plain

/-- The text of a system error: a number, a description and the files concerned. -/
def systemText : List Json → Text
  | [code, description] => numbered code description
  | [code, description, .null] | [code, description, .null, _] => numbered code description
  | [code, description, file] | [code, description, file, _] =>
    numbered code description ++ ((": " ++ file.literal : String) : Text)
  | [code, description, file, _, target] =>
    if file = .null then numbered code description
    else if target = .null then numbered code description ++ ((": " ++ file.literal : String) : Text)
    else
      numbered code description ++ ((": " ++ file.literal ++ " -> " ++ target.literal : String) : Text)
  | args => argumentsText args

/-- The text of a fault. -/
def text (f : Fault) : Text :=
  match f.kind, f.arguments with
  | .key, [k] => (k.literal : Text)
  | _, args => if f.isSystem then systemText args else argumentsText args

/-- A fault that consists of its text. -/
def ofMessage (kind : FaultKind) (message : String) : Fault := ⟨kind, [.string message]⟩

/-- A system error about a file. -/
def ofFile (code : Nat) (description : String) (file : String) : Fault :=
  ⟨.system, [.nat code, .string description, .string file]⟩

example : (⟨.system, [.int 2, .string "No such file"]⟩ : Fault).text
    = ("[Errno 2] No such file" : Text) := by decide +kernel
example : (⟨.key, [.string "it's"]⟩ : Fault).text = ("\"it's\"" : Text) := by decide +kernel
example : (⟨.value, [.string "a", .int 1]⟩ : Fault).text = ("('a', 1)" : Text) := by decide +kernel

end Fault

end CommandBridge
