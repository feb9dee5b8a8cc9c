import CommandBridge.Json.Literal
import CommandBridge.Fault

/-!
# CommandBridge.Log.Level

The level names of the settings.  A name is recognised whatever its case, and
an unknown one counts as `INFO`.

The web server has loggers of its own, which `ServerLevels` keeps at the
bridge's level.  Its access log only speaks up from `WARNING` on, unless the
bridge runs at `DEBUG` or below, since every request is logged anyway.
-/

namespace CommandBridge.Log

/-- The names of levels. -/
inductive LevelName where
  | critical
  | fatal
  | error
  | warn
  | warning
  | info
  | debug
  | notset
  deriving DecidableEq, Repr

namespace LevelName

/-- All names. -/
def all : List LevelName := [.critical, .fatal, .error, .warn, .warning, .info, .debug, .notset]

/-- The text of a name. -/
def text : LevelName → String
  | .critical => "CRITICAL"
  | .fatal => "FATAL"
  | .error => "ERROR"
  | .warn => "WARN"
  | .warning => "WARNING"
  | .info => "INFO"
  | .debug => "DEBUG"
  | .notset => "NOTSET"

/-- The number of a level: entries below it are not shown. -/
def number : LevelName → Nat
  | .critical | .fatal => 50
  | .error => 40
  | .warn | .warning => 30
  | .info => 20
  | .debug => 10
  | .notset => 0

/-- The name with a text. -/
def ofText? (t : Text) : Option LevelName := all.find? fun n => t = (n.text : Text)

/-- The name of a number. -/
def ofNumber? (i : Int) : Option LevelName :=
  [critical, error, warning, info, debug, notset].find? fun n => i = n.number

end LevelName

/-- A code point in upper case, as far as level names are concerned: of the
characters outside ASCII only the dotless `ı` and the long `ſ` become ASCII letters. -/
def upperPoint : CodePoint → CodePoint
  | .scalar c =>
    if c = 'ı' then .scalar 'I' else if c = 'ſ' then .scalar 'S' else .scalar c.toUpper
  | p => p

/-- The level of a setting: the first of the given value, the configured one and
`INFO` that is not blank, if it is a level name. -/
def resolveLevel (given configured : Json) : LevelName :=
  let value := if !given.isBlank then given else if !configured.isBlank then configured
    else .string "INFO"
  (LevelName.ofText? (value.plain.map upperPoint)).getD .info

/-! ## The web server's loggers -/

/-- The levels of the web server's loggers. -/
structure ServerLevels where
  server : Nat := 0
  access : Nat := 0
  deriving DecidableEq, Repr

namespace ServerLevels

/-- The levels as the loggers' names give them. -/
def toJson (l : ServerLevels) : Json :=
  .object [("uvicorn", .nat l.server), ("uvicorn.error", .nat l.server),
    ("uvicorn.asgi", .nat l.server), ("uvicorn.access", .nat l.access)]

/-- The levels that go with a level of the bridge. -/
def aligned (level : LevelName) : ServerLevels where
  server := level.number
  access := if level.number ≤ LevelName.debug.number then level.number
    else max level.number LevelName.warning.number

/-- Puts the loggers on the level of a value.  A level number is taken for the
name it has, which serves as a level but cannot be compared with one, so the
access log stays as it was. -/
def align (levels : ServerLevels) (value : Json) : ServerLevels × Option Fault :=
  match value with
  | .arr _ => (levels, some (.ofMessage .type "unhashable type: 'list'"))
  | .obj _ => (levels, some (.ofMessage .type "unhashable type: 'dict'"))
  | .str t =>
    match LevelName.ofText? t with
    | some level => (aligned level, none)
    | none => (levels, some (unknown value))
  | _ =>
    match value.toInt?.bind LevelName.ofNumber? with
    | some level => ({ levels with server := level.number }, some incomparable)
    | none => (levels, some (unknown value))
where
  /-- The fault about a value that is no level. -/
  unknown (value : Json) : Fault :=
    ⟨.value, [.str (("Unknown level: " : Text)
      ++ ((Json.str (("Level " : Text) ++ value.plain)).literal : Text))]⟩
  /-- The fault about a level name that is compared with a number. -/
  incomparable : Fault :=
    .ofMessage .type "'<=' not supported between instances of 'str' and 'int'"

end ServerLevels

end CommandBridge.Log
