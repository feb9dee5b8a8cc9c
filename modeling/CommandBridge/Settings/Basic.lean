import CommandBridge.Log.Setup
import CommandBridge.Schema.Validation
import CommandBridge.Settings.EnvFile
import CommandBridge.Settings.Number

/-!
# CommandBridge.Settings.Basic

The settings of the server and of the bridge.  A setting is taken from the
environment, else from the settings file, else it has its default; names match
whatever their case.
-/

namespace CommandBridge

/-- The settings of the server process. -/
structure ServerSettings where
  allowedOrigins : String := "*"
  host : String := "127.0.0.1"
  port : Int := 3100
  redisUrl : Option String := none
  log : Log.LogSettings := {}
  deriving DecidableEq, Repr

/-- The settings of the bridge. -/
structure BridgeSettings where
  serverName : String := "project-graph-bridge"
  serverVersion : String := "1.0.0"
  targetLabel : String := "main"
  toolAckDelayMs : Int := 100
  resultTtlSeconds : Int := 300
  maxTrackedResults : Int := 500
  heartbeatSeconds : Binary64 := .ofDecimal false ⟨30, 0⟩
  queueDir : String := ".mcp-queue"
  queuePollMs : Int := 50
  deriving DecidableEq, Repr

namespace Settings

/-- Milliseconds as a number of seconds, unless they are too many to be one. -/
def seconds? (ms : Int) : Option Binary64 := (Binary64.ofInt? ms).map (·.divNat 1000)

/-! ## Values by name -/

/-- Named values; a name has at most one. -/
abbrev Values := List (String × String)

/-- The values of an environment under lower-case names; the last one counts. -/
def ofEnvironment (environment : Values) : Values :=
  (environment.map fun e => (e.1.toLower, e.2)).reverse

/-- The values of a settings file under lower-case names; the last name counts,
also if it stands alone. -/
def ofFile (environment : Values) (text : String) : Values :=
  let vs := ((EnvFile.values environment text).map
    fun v => ((String.ofList v.1).toLower, v.2)).reverse
  vs.filterMap fun v =>
    match (vs.find? fun w => w.1 = v.1).bind (·.2) with
    | some x => some (v.1, String.ofList x)
    | none => none

/-- The values of the environment, and those of the settings file after them. -/
def sources (environment : Values) (file : Option String) : Values :=
  ofEnvironment environment ++ ((file.map (ofFile environment)).getD [])

/-! ## Fields -/

/-- Reads a setting out of the values. -/
def field {α : Type} (values : Values) (name : String) (read : String → Except Mismatch α)
    (fallback : α) : Validated α :=
  match values.find? fun v => v.1 = name.toLower with
  | none => .ok fallback
  | some (_, s) =>
    match read s with
    | .ok a => .ok a
    | .error m => .error [⟨[.name name], m, .string s⟩]

/-- Reads an integer setting. -/
def int (s : String) : Except Mismatch Int :=
  match integerParts? s with
  | none => .error .notIntText
  | some parts =>
    if isTooLong parts then .error .intTooLong
    else
      match integer? parts with
      | some i => .ok i
      | none => .error .notIntText

/-- Reads a number setting. -/
def number (s : String) : Except Mismatch Binary64 :=
  match readNumber? s with
  | some x => .ok x
  | none => .error .notFloatText

end Settings

namespace ServerSettings

open Settings in
/-- Reads the settings of the server process. -/
def ofValues (vs : Values) : Validated ServerSettings :=
  (Validated.seq (.ok fun origins host port redis level file maxBytes backups =>
      ({ allowedOrigins := origins, host := host, port := port, redisUrl := redis
         log := ⟨.string level, file, maxBytes, backups⟩ } : ServerSettings))
    (field vs "ALLOWED_ORIGINS" .ok "*"))
    |>.seq (field vs "MCP_HOST" .ok "127.0.0.1")
    |>.seq (field vs "MCP_PORT" Settings.int 3100)
    |>.seq (field vs "REDIS_URL" (fun s => .ok (some s)) none)
    |>.seq (field vs "MCP_LOG_LEVEL" .ok "INFO")
    |>.seq (field vs "MCP_LOG_FILE" (fun s => .ok (some s)) none)
    |>.seq (field vs "MCP_LOG_MAX_BYTES" Settings.int 10485760)
    |>.seq (field vs "MCP_LOG_BACKUP_COUNT" Settings.int 5)

/-- The settings by name. -/
def toJson (s : ServerSettings) : Json :=
  .object [("ALLOWED_ORIGINS", .string s.allowedOrigins), ("MCP_HOST", .string s.host),
    ("MCP_PORT", .int s.port), ("REDIS_URL", .ofOption (s.redisUrl.map .string)),
    ("MCP_LOG_LEVEL", s.log.level), ("MCP_LOG_FILE", .ofOption (s.log.file.map .string)),
    ("MCP_LOG_MAX_BYTES", .int s.log.maxBytes), ("MCP_LOG_BACKUP_COUNT", .int s.log.backupCount)]

end ServerSettings

namespace BridgeSettings

open Settings in
/-- Reads the settings of the bridge. -/
def ofValues (vs : Values) : Validated BridgeSettings :=
  (Validated.seq (.ok BridgeSettings.mk)
    (field vs "MCP_SERVER_NAME" .ok "project-graph-bridge"))
    |>.seq (field vs "MCP_SERVER_VERSION" .ok "1.0.0")
    |>.seq (field vs "MCP_TARGET_LABEL" .ok "main")
    |>.seq (field vs "MCP_TOOL_ACK_DELAY_MS" Settings.int 100)
    |>.seq (field vs "MCP_RESULT_TTL_SECONDS" Settings.int 300)
    |>.seq (field vs "MCP_MAX_TRACKED_RESULTS" Settings.int 500)
    |>.seq (field vs "MCP_SSE_HEARTBEAT_SECONDS" Settings.number (.ofDecimal false ⟨30, 0⟩))
    |>.seq (field vs "MCP_QUEUE_DIR" .ok ".mcp-queue")
    |>.seq (field vs "MCP_QUEUE_POLL_MS" Settings.int 50)

/-- The settings by name. -/
def toJson (s : BridgeSettings) : Json :=
  .object [("MCP_SERVER_NAME", .string s.serverName), ("MCP_SERVER_VERSION", .string s.serverVersion),
    ("MCP_TARGET_LABEL", .string s.targetLabel), ("MCP_TOOL_ACK_DELAY_MS", .int s.toolAckDelayMs),
    ("MCP_RESULT_TTL_SECONDS", .int s.resultTtlSeconds),
    ("MCP_MAX_TRACKED_RESULTS", .int s.maxTrackedResults),
    ("MCP_SSE_HEARTBEAT_SECONDS", .float s.heartbeatSeconds),
    ("MCP_QUEUE_DIR", .string s.queueDir), ("MCP_QUEUE_POLL_MS", .int s.queuePollMs)]

/-- The fault of a number of milliseconds that is too large. -/
def tooLarge : Fault := .ofMessage .overflow "int too large to convert to float"

/-- The acknowledgement delay of tool calls in seconds; a negative setting is none. -/
def toolAckDelay (s : BridgeSettings) : Except Fault Binary64 :=
  match Settings.seconds? (max s.toolAckDelayMs 0) with
  | some x => .ok x
  | none => .error tooLarge

/-- The interval at which response files are looked for, in seconds. -/
def queuePollInterval (s : BridgeSettings) : Except Fault Binary64 :=
  match Settings.seconds? s.queuePollMs with
  | some x => .ok x
  | none => .error tooLarge

end BridgeSettings

end CommandBridge
