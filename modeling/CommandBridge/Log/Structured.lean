import CommandBridge.Log.Entry
import CommandBridge.Fault

/-!
# CommandBridge.Log.Structured

Logging an event at a level that is given as a word.  The word, in lower case,
names what a logger offers: logging at one of the levels, or something else,
which then fails or does nothing.  Any other word logs at `INFO`.

`truncate` keeps large values out of the log: a value whose JSON text is longer
than allowed gives way to the beginning of that text.  Every value has such a text here; that an
interpreter gives up on one that is nested too deep is left out.
-/

namespace CommandBridge.Log

/-- What a word stands for on a logger. -/
inductive LevelWord where
  | level (l : Level)
  | inert
  | broken (f : Fault)
  deriving DecidableEq, Repr

/-- The fault of calling a value of some type. -/
def notCallable (type : String) : LevelWord :=
  .broken (.ofMessage .type s!"'{type}' object is not callable")

/-- The fault of calling something with what it does not take. -/
def badCall (message : String) : LevelWord := .broken (.ofMessage .type message)

/-- The fault of looking for a member that a logger does not have. -/
def noMember (name : Text) : LevelWord :=
  .broken ⟨.attribute, [.str (("'Logger' object has no attribute '" : Text) ++ name ++ ("'" : Text))]⟩

/-- What a word in lower case stands for when it is called with a message. -/
def LevelWord.ofWord (message : Text) (word : String) : LevelWord :=
  match word with
  | "debug" => .level .debug
  | "info" => .level .info
  | "warning" | "warn" => .level .warning
  | "error" | "exception" => .level .error
  | "critical" | "fatal" => .level .critical
  | "name" | "__module__" | "__doc__" => notCallable "str"
  | "level" => notCallable "int"
  | "handlers" | "filters" => notCallable "list"
  | "disabled" | "propagate" => notCallable "bool"
  | "manager" => notCallable "Manager"
  | "parent" => notCallable "Logger"
  | "root" => notCallable "RootLogger"
  | "_cache" | "__dict__" => notCallable "dict"
  | "__weakref__" => notCallable "NoneType"
  | "log" => badCall "Logger.log() missing 1 required positional argument: 'msg'"
  | "_log" => badCall "Logger._log() missing 2 required positional arguments: 'msg' and 'args'"
  | "__dir__" | "__getstate__" | "__init_subclass__" | "__sizeof__" =>
    badCall s!"Logger.{word}() takes no arguments (1 given)"
  | "__repr__" | "__reduce__" =>
    badCall s!"Logger.{word}() takes 1 positional argument but 2 were given"
  | "__hash__" | "__str__" => badCall "expected 0 arguments, got 1"
  | "__setattr__" => badCall " expected 2 arguments, got 1"
  | "__format__" => badCall "unsupported format string passed to Logger.__format__"
  | "__reduce_ex__" => badCall "'str' object cannot be interpreted as an integer"
  | "__new__" => badCall "object.__new__(X): X is not a type object (str)"
  | "__delattr__" | "__getattribute__" => noMember message
  | "handle" => .broken (.ofMessage .attribute "'str' object has no attribute 'levelno'")
  | "filter" | "__class__" | "__init__" | "__subclasshook__" | "__eq__" | "__ne__" | "__lt__"
  | "__le__" | "__gt__" | "__ge__" => .inert
  | _ => .level .info

/-- Logs an event at the level of a word. -/
def structured (source : Source) (word : String) (event : Text) (fields : List (Text × Json)) :
    List Entry × Option Fault :=
  let message := eventMessage event fields
  match LevelWord.ofWord message word.toLower with
  | .level l => ([⟨source, l, message⟩], none)
  | .inert => ([], none)
  | .broken f => ([], some f)

/-- What marks a text that was cut. -/
def truncationMark : List Char := "...[truncated]".toList

/-- The beginning of a text up to an index; a negative index counts from the end. -/
def cut (cs : List Char) (limit : Int) : List Char :=
  if 0 ≤ limit then cs.take limit.toNat else cs.take (cs.length - (-limit).toNat)

/-- A value, or the beginning of its JSON text if that is longer than `limit`. -/
def truncate (limit : Int) (j : Json) : Json :=
  let cs := Json.chars j
  if j = .null ∨ cs.length ≤ limit then j
  else .str ((cut cs limit ++ truncationMark).map .scalar)

/-- How much of a value is logged. -/
def truncationLimit : Int := 600

example : truncate 4 (.string "abcdef") = .string "\"abc...[truncated]" := by decide +kernel
example : truncate (-3) (.string "abcdef") = .string "\"abcd...[truncated]" := by decide +kernel

end CommandBridge.Log
