import CommandBridge.Fault
import CommandBridge.Text.Utf8

/-!
# CommandBridge.Json.Dump

Values on their way out.  Before the body of a record is written anywhere, its result is dumped:
numbers that are not finite become null (`finiteOnly`), and the dump fails at the first thing in it
that cannot go out (`dumpFault?`).  There are two such things:

1. a value that stands inside as many others as the dump keeps track of;
2. the name of a member that has no UTF-8 bytes.  Strings that are values are not looked at.

A dump goes through a value in the order in which it is written, and looks at the name of a member
before its value.
-/

namespace CommandBridge.Json

/-- How many values can stand inside each other for a dump, the innermost included. -/
def dumpLimit : Nat := 255

/-- The fault of a value that is nested too deep. -/
def tooDeepToDump : Fault := .ofMessage .value "Maximum serialization depth exceeded"

/-- The fault of a name that has no bytes. -/
def nameFault? (name : Text) : Option Fault :=
  (Utf8.unencodable? name).map fun e => .ofMessage .encoding e.message

mutual

/-- What the dump of a value fails with, if it fails; `depth` values can stand inside each other. -/
def dumpFault? : Nat → Json → Option Fault
  | 0, _ => some tooDeepToDump
  | depth + 1, .arr es => dumpFaultElements? depth es
  | depth + 1, .obj ms => dumpFaultMembers? depth ms
  | _ + 1, _ => none

/-- What the dump of elements fails with. -/
def dumpFaultElements? (depth : Nat) : List Json → Option Fault
  | [] => none
  | j :: r => (dumpFault? depth j).or (dumpFaultElements? depth r)

/-- What the dump of members fails with. -/
def dumpFaultMembers? (depth : Nat) : List (Text × Json) → Option Fault
  | [] => none
  | (k, j) :: r => (nameFault? k).or ((dumpFault? depth j).or (dumpFaultMembers? depth r))

end

/-- Whether a value can be dumped. -/
def Dumpable (j : Json) : Prop := dumpFault? dumpLimit j = none

instance (j : Json) : Decidable (Dumpable j) := inferInstanceAs (Decidable (_ = _))

example : dumpFault? 2 (.arr [.int 1]) = none := by decide
example : dumpFault? 1 (.arr [.int 1]) = some tooDeepToDump := by decide
example : (dumpFault? 9 (.obj [([.surrogate 0], .null)])).map Fault.text = some
    ("'utf-8' codec can't encode character '\\ud800' in position 0: surrogates not allowed"
      : Text) := by decide +kernel

end CommandBridge.Json
