import CommandBridge.Http.App
import CommandBridge.Lifecycle.Basic
import CommandBridge.Service.Setup

/-!
# CommandBridge.Main

A session with the bridge on standard input and output.  The settings come from the
environment and from the file `.env`.  Each line that is read is a request: a method, a
target and, after another blank, a body.  The answer is the status on a line of its own and
then the body; the log goes to standard error.
-/

namespace CommandBridge.Session

/-- The names of all settings. -/
def settingNames : List String :=
  ["ALLOWED_ORIGINS", "MCP_HOST", "MCP_PORT", "REDIS_URL", "MCP_LOG_LEVEL", "MCP_LOG_FILE",
    "MCP_LOG_MAX_BYTES", "MCP_LOG_BACKUP_COUNT", "MCP_SERVER_NAME", "MCP_SERVER_VERSION",
    "MCP_TARGET_LABEL", "MCP_TOOL_ACK_DELAY_MS", "MCP_RESULT_TTL_SECONDS",
    "MCP_MAX_TRACKED_RESULTS", "MCP_SSE_HEARTBEAT_SECONDS", "MCP_QUEUE_DIR", "MCP_QUEUE_POLL_MS"]

/-- The request that a line stands for. -/
def requestOfLine (line : String) : Option Http.Request :=
  match line.splitOn " " with
  | method :: target :: body =>
    some (.ofTarget method target
      [("host", "localhost"), ("content-type", "application/json")]
      (Utf8.encode (" ".intercalate body)))
  | _ => none

/-- The lines about what was logged. -/
def logLines (entries : List Log.Entry) : List String :=
  entries.map fun e =>
    e.source.name ++ " - " ++ e.level.name ++ " - " ++ (Text.toString? e.message).getD ""

/-- The service with the settings of some values, or what is wrong with them. -/
def serviceOf (values : Settings.Values) : Except String Service := do
  let report {α : Type} (name : String) (v : Validated α) : Except String α :=
    v.mapError (FieldError.reportAll name)
  let server ← report "Settings" (ServerSettings.ofValues values)
  let settings ← report "MCPSettings" (BridgeSettings.ofValues values)
  let options : ServiceOptions := {}
  (options.create server settings).mapError fun f => (Text.toString? f.text).getD ""

/-- Writes what was logged to standard error. -/
def showLog (entries : List Log.Entry) : IO Unit := (logLines entries).forM IO.eprintln

/-- Answers the requests of all lines. -/
partial def serve (s : Service) : IO Unit := do
  let line ← (← IO.getStdin).getLine
  if line.isEmpty then return
  match requestOfLine line.trimAscii.toString with
  | none => serve s
  | some r =>
    let now : Timestamp := ⟨(← IO.monoMsNow) * 1000⟩
    let o := (Service.perform now (Http.handle now r)).run s
    showLog o.log
    match o.answer with
    | .ok reply =>
      IO.println (toString reply.response.status)
      IO.println reply.response.body
    | .error e => IO.eprintln ((Text.toString? e.text).getD "")
    serve o.state

/-- The settings of the environment and of the settings file. -/
def readSettings : IO Settings.Values := do
  let found ← settingNames.filterMapM fun name => do
    return (← IO.getEnv name).map fun value => (name, value)
  let file ← try some <$> IO.FS.readFile ".env" catch _ => pure none
  return Settings.sources found file

end CommandBridge.Session

open CommandBridge Session in
/-- Runs a session. -/
def main : IO UInt32 := do
  match serviceOf (← readSettings) with
  | .error message =>
    IO.eprintln message
    return 1
  | .ok s =>
    let o := Service.attachDefault.run s
    showLog o.log
    endpointTable.forM fun e => IO.println (endpointLine e)
    serve o.state
    return 0
