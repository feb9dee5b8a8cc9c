import CommandBridge.Http.Message

/-!
# CommandBridge.Http.Cors

Which origins may use the service from a browser.  Either every origin may, or those
that are listed.  A browser asks with a preflight request before it sends one that
needs permission; all other requests are answered, with headers that tell the browser
whether the origin may see the answer.
-/

namespace CommandBridge.Http

/-- The origins that are allowed. -/
inductive Origins where
  | all
  | listed (origins : List String)
  deriving DecidableEq, Repr

namespace Origins

/-- Reads the origins of a setting: a list between commas, or `*` for all. -/
def ofSetting (s : String) : Origins :=
  let parts := (s.toList.splitOn ',').map String.ofList
  if parts.contains "*" then .all else .listed parts

/-- Whether an origin is allowed. -/
def allows (o : Origins) (origin : String) : Bool :=
  match o with
  | .all => true
  | .listed origins => origins.contains origin

/-- What a browser is told about an origin in a plain response. -/
def simpleHeader? (o : Origins) (r : Request) : Option (String × String) :=
  match r.header? "origin", o with
  | none, _ => none
  | some origin, .all =>
    some ("access-control-allow-origin", if (r.header? "cookie").isSome then origin else "*")
  | some origin, .listed origins =>
    if origins.contains origin then some ("access-control-allow-origin", origin) else none

/-- The response to a plain request with what a browser is told. -/
def decorate (o : Origins) (request : Request) (r : Response) : Response :=
  let r := r.setHeader "vary" "Origin"
  match o.simpleHeader? request with
  | some h => r.setHeader h.1 h.2
  | none => r

end Origins

/-- Whether a request asks for the permission to send another. -/
def Request.isPreflight (r : Request) : Bool :=
  r.method = "OPTIONS" && (r.header? "origin").isSome
    && (r.header? "access-control-request-method").isSome

/-- The methods that a browser may ask for. -/
def allowedMethods : List String :=
  ["DELETE", "GET", "HEAD", "OPTIONS", "PATCH", "POST", "PUT", "QUERY"]

/-- What a preflight answer depends on. -/
def preflightVary : String :=
  "Origin, Access-Control-Request-Method, Access-Control-Request-Headers, "
    ++ "Access-Control-Request-Private-Network"

/-- What is not allowed about a preflight request. -/
def preflightFailures (o : Origins) (r : Request) : List String :=
  let origin := (r.header? "origin").getD ""
  let method := (r.header? "access-control-request-method").getD ""
  (if o.allows origin then [] else ["origin"])
    ++ (if allowedMethods.contains method then [] else ["method"])
    ++ (if (r.header? "access-control-request-private-network").isSome
      then ["private-network"] else [])

/-- The response to a preflight request. -/
def preflight (o : Origins) (r : Request) : Response :=
  let failures := preflightFailures o r
  let base := if failures.isEmpty then Response.plain 200 "OK"
    else Response.plain 400 ("Disallowed CORS " ++ ", ".intercalate failures)
  let origin : List (String × String) :=
    match o, r.header? "origin" with
    | .all, _ => [("access-control-allow-origin", "*")]
    | .listed origins, some origin =>
      if origins.contains origin then [("access-control-allow-origin", origin)] else []
    | .listed _, none => []
  let requested := match r.header? "access-control-request-headers" with
    | some names => [("access-control-allow-headers", names)]
    | none => []
  { base with headers := base.headers ++ origin ++ requested ++
      [("access-control-allow-methods", ", ".intercalate allowedMethods),
        ("access-control-max-age", "600"), ("vary", preflightVary)] }

end CommandBridge.Http
