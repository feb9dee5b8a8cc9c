import CommandBridge.Json.Writer

/-!
# CommandBridge.Log.Entry

Log entries.  Most of them are events: their message is the ASCII JSON text of
an object whose member `event` names what happened and whose other members
give the context.
-/

namespace CommandBridge.Log

/-- The levels of log entries. -/
inductive Level where
  | debug
  | info
  | warning
  | error
  | critical
  deriving DecidableEq, Repr

/-- The name of a level. -/
def Level.name : Level → String
  | .debug => "DEBUG"
  | .info => "INFO"
  | .warning => "WARNING"
  | .error => "ERROR"
  | .critical => "CRITICAL"

/-- The parts of the bridge that log, each under a name of its own. -/
inductive Source where
  | registry
  | callback
  | fileQueue
  | dispatch
  | results
  | http
  | lifecycle
  | named (name : String)
  deriving DecidableEq, Repr

/-- The name a part logs under. -/
def Source.name : Source → String
  | .registry => "graph_bridge.instances.registry"
  | .callback => "graph_bridge.instances.callback_instance"
  | .fileQueue => "graph_bridge.instances.file_queue_instance"
  | .dispatch => "graph_bridge.handlers.dispatch_handler"
  | .results => "graph_bridge.handlers.result_channel"
  | .http => "graph_bridge.server_http"
  | .lifecycle => "graph_bridge.lifecycle"
  | .named name => name

/-- A log entry. -/
structure Entry where
  source : Source
  level : Level
  message : Text
  deriving DecidableEq, Repr

/-- The message of an event: the fields follow the event's name, and a field
called `event` takes its place. -/
def eventMessage (event : Text) (fields : List (Text × Json)) : Text :=
  ((Json.write (.obj (Json.dedup ((("event" : Text), .str event) :: fields))) : String) : Text)

/-- The entry of an event. -/
def event (source : Source) (level : Level) (name : String) (fields : List (String × Json)) :
    Entry :=
  ⟨source, level, eventMessage name (fields.map fun f => ((f.1 : Text), f.2))⟩

end CommandBridge.Log
