import CommandBridge.Http.Cors
import CommandBridge.Http.Endpoints
import CommandBridge.Service.Clock

/-!
# CommandBridge.Http.App

The application: every request is counted, gets an id, is answered and is logged.

* The id is that of the request's own header, or a fresh one.  It is found again in
  the response, in the log and in the details of an error.
* A request whose answer fails is answered with status 500 all the same.  That answer
  has no headers but its content type, and the failure goes on to the server.
-/

namespace CommandBridge.Http

/-- What a client gets, and the failure that goes on to the server. -/
structure Reply where
  response : Response
  raised : Option Failure := none
  connection : Option Nat := none
  deriving DecidableEq, Repr

/-- The `n`-th fresh request id. -/
def requestIdOf (n : Nat) : String := "f" ++ hexId 31 n

/-- The header that carries request ids. -/
def idHeader : String := "x-request-id"

/-- Counts a request and answers with its id. -/
def receive (r : Request) : Op Service String := fun s =>
  let counted := { s.requests with received := s.requests.received + 1 }
  match (r.header? idHeader).filter (· ≠ "") with
  | some id => ⟨.ok id, { s with requests := counted }, []⟩
  | none =>
    ⟨.ok (requestIdOf (counted.identified + 1)),
      { s with requests := { counted with identified := counted.identified + 1 } }, []⟩

/-- Counts a request that was answered with a server error. -/
def countFailure : Op Service Unit :=
  Op.modify fun s => { s with requests := { s.requests with failed := s.requests.failed + 1 } }

/-- Logs what became of a request. -/
def logRequest (level : Log.Level) (name : String) (id : String) (r : Request) (status : Nat) :
    Op Service Unit :=
  Op.event .http level name
    [("request_id", .string id), ("method", .string r.method), ("path", .string r.reportedPath),
      ("status_code", .nat status), ("duration_ms", .int 0)]

/-- The answer to a request whose own answer failed. -/
def failureResponse (id : String) : Op Service Response :=
  refuse id 500 .internal "Unexpected internal server error" []

/-- Brings a request to its end. -/
def complete (id : String) (r : Request) : Except Failure Answer → Op Service Reply
  | .ok a => do
    if 500 ≤ a.response.status then countFailure
    logRequest .info "request_completed" id r a.response.status
    return ⟨a.response.setHeader idHeader id, none, a.connection⟩
  | .error e => do
    countFailure
    Op.log ⟨.http, .error, "Unhandled request exception"⟩
    logRequest .error "request_failed" id r 500
    return ⟨← failureResponse id, some e, none⟩

/-- The origins that may use a service. -/
def origins (s : Service) : Origins := .ofSetting s.server.allowedOrigins

/-- Answers a request as far as browsers are concerned. -/
def answerBrowser (now : Timestamp) (id : String) (r : Request) :
    Op Service (Progress Service Answer) := do
  let o := origins (← Op.get)
  if r.isPreflight then return .done ⟨preflight o r, none⟩
  else
    (answer now id r).andThen fun a => return { a with response := o.decorate r a.response }

/-- Handles a request.  The background has its turn before the answer is sent. -/
def handle (now : Timestamp) (r : Request) : Op Service (Progress Service Reply) := do
  let id ← receive r
  (answerBrowser now id r).onceOver fun answer => do
    Service.settle now
    complete id r answer

/-! ## The life of the application -/

/-- Starts the application: Redis is connected if it is configured, and the attached
instance is opened. -/
def start (store : Redis) : Op Service Unit := do
  let s ← Op.get
  Op.event .http .info "server_starting"
    [("server_name", .string s.settings.serverName), ("version", .string s.settings.serverVersion),
      ("target", .string s.bridge.label)]
  Service.onResults (ResultChannel.connectRedis s.server.redisUrl store)
  Service.onBridge Bridge.startup
  let s ← Op.get
  Op.event .http .info "catalog_loaded"
    ([("target_attached", .bool s.bridge.attached.isSome),
      ("result_backend", .string s.results.backend)] ++ s.bridge.catalog.summary)

/-- Stops the application. -/
def stop : Op Service Unit := do
  Op.event .http .info "server_shutdown" []
  Service.onBridge Bridge.shutdown

end CommandBridge.Http
