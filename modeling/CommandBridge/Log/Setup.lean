import CommandBridge.Log.Level
import CommandBridge.Text.Blank
import CommandBridge.Files.Path

/-!
# CommandBridge.Log.Setup

Setting up the log of the process.  It is done once: the root level is set,
handlers without a format get the bridge's, a console handler is added
where there is none, a rotating file is added where one is configured,
and the web server's loggers are put on the same level.
-/

namespace CommandBridge.Log

/-- The format of the bridge's log lines. -/
def lineFormat : String := "%(asctime)s - %(name)s - %(levelname)s - %(message)s"

/-- Where log lines go. -/
inductive HandlerKind where
  | null
  | console
  | rotatingFile (file : String) (maxBytes backupCount : Int)
  deriving DecidableEq, Repr

/-- A handler and the format of its lines, if it has one. -/
structure Handler where
  kind : HandlerKind
  format : Option String
  deriving DecidableEq, Repr

/-- The settings that concern the log. -/
structure LogSettings where
  level : Json := .string "INFO"
  file : Option String := none
  maxBytes : Int := 10485760
  backupCount : Int := 5
  deriving DecidableEq, Repr

/-- The log of the process. -/
structure Setup where
  rootLevel : Nat := 30
  handlers : List Handler := []
  serverLevels : ServerLevels := {}
  configured : Bool := false
  deriving DecidableEq, Repr

namespace Setup

/-- The handlers with a format each, a console handler if there are none. -/
def formatted : List Handler → List Handler
  | [] => [⟨.console, some lineFormat⟩]
  | hs => hs.map fun h => { h with format := some (h.format.getD lineFormat) }

/-- The handler of the configured file. -/
def fileHandlers (s : LogSettings) : List Handler :=
  let file := Blank.trim (s.file.getD "")
  if file.isEmpty then []
  else [⟨.rotatingFile (Path.ofString file).normalize.toString s.maxBytes s.backupCount,
    some lineFormat⟩]

/-- Sets the log up, unless that was done before. -/
def configure (settings : LogSettings) (s : Setup) : Setup :=
  if s.configured then s
  else
    let level := resolveLevel .null settings.level
    { rootLevel := level.number
      handlers := formatted s.handlers ++ fileHandlers settings
      serverLevels := ServerLevels.aligned level
      configured := true }

end Setup

end CommandBridge.Log
