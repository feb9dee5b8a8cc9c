import CommandBridge.Http.Message

/-!
# CommandBridge.Http.Route

The endpoints of the service and which of them a path leads to.

1. Routes are tried in order; the first one whose path and method fit is taken.
2. If only paths fit, the method is not allowed.
3. If no path fits, but one would without its trailing slashes or with a slash more,
   the client is sent there.

A line feed at the end of a path is overlooked, except in a name.

The pages that describe the service are left out: `/docs`, `/docs/oauth2-redirect`, `/redoc` and
`/openapi.json`.  They are generated from the routes and ask nothing of the bridge.  Their paths
lead nowhere here.
-/

namespace CommandBridge.Http

/-- The endpoints. -/
inductive Endpoint where
  | listResources
  | readResource (uri : String)
  | listTools
  | callTool (name : String)
  | listPrompts
  | getPrompt (name : String)
  | getResult (ticket : String)
  | publishResult (ticket : String)
  | events
  | health
  | metrics
  deriving DecidableEq, Repr

/-- The paths of a route: one path, a name after the path, or anything on one line after it. -/
inductive PathPattern where
  | exactly (path : String) (endpoint : Endpoint)
  | name (path : String) (endpoint : String → Endpoint)
  | rest (path : String) (endpoint : String → Endpoint)

/-- A list of characters without a line feed at its end. -/
def dropFinalBreak (cs : List Char) : List Char :=
  if cs.getLast? = some '\n' then cs.dropLast else cs

/-- What follows the first characters of a list, if these are the given ones. -/
def after? (first cs : List Char) : Option (List Char) :=
  if first.isPrefixOf cs then some (cs.drop first.length) else none

/-- The endpoint that a path leads to under a pattern. -/
def PathPattern.endpoint? (path : String) : PathPattern → Option Endpoint
  | .exactly p e =>
    if path.toList = p.toList || dropFinalBreak path.toList = p.toList then some e else none
  | .name p e =>
    match after? p.toList path.toList with
    | some cs => if cs = [] || cs.contains '/' then none else some (e (String.ofList cs))
    | none => none
  | .rest p e =>
    match after? p.toList path.toList with
    | some cs =>
      let line := dropFinalBreak cs
      if line.contains '\n' then none else some (e (String.ofList line))
    | none => none

/-- The start of the paths of resources. -/
def resourcePrefix : String := "/mcp/resources/"

/-- The routes, each with its method. -/
def routes : List (String × PathPattern) :=
  [("GET", .exactly "/mcp/resources" .listResources),
    ("GET", .rest resourcePrefix .readResource),
    ("GET", .exactly "/mcp/tools" .listTools),
    ("POST", .name "/mcp/tools/" .callTool),
    ("GET", .exactly "/mcp/prompts" .listPrompts),
    ("GET", .name "/mcp/prompts/" .getPrompt),
    ("GET", .name "/mcp/results/" .getResult),
    ("POST", .name "/mcp/results/" .publishResult),
    ("GET", .exactly "/mcp/events" .events),
    ("GET", .exactly "/health" .health),
    ("GET", .exactly "/metrics" .metrics)]

/-- Where a request leads. -/
inductive Destination where
  | endpoint (e : Endpoint)
  | otherMethod (allowed : String)
  | otherPath (path : String)
  | nowhere
  deriving DecidableEq, Repr

/-- The routes that a path fits, with the endpoints it leads to. -/
def fitting (path : String) : List (String × Endpoint) :=
  routes.filterMap fun r => (r.2.endpoint? path).map fun e => (r.1, e)

/-- A path without its trailing slashes or, if it has none, with a slash more. -/
def toggleSlash (path : String) : String :=
  let cs := path.toList
  if cs.getLast? = some '/' then String.ofList (cs.reverse.dropWhile (· = '/')).reverse
  else path ++ "/"

/-- Where a method and a path lead. -/
def destination (method path : String) : Destination :=
  let fits := fitting path
  match fits.find? fun r => r.1 = method with
  | some r => .endpoint r.2
  | none =>
    match fits with
    | r :: _ => .otherMethod r.1
    | [] =>
      if path ≠ "/" && !(fitting (toggleSlash path)).isEmpty then .otherPath (toggleSlash path)
      else .nowhere

/-- Characters that a location may hold unescaped. -/
def locationSafe : List Char := ":/%#?=@[]!$&'()*+,;".toList

/-- The location of another path on the same host, with the query of a request. -/
def location (r : Request) (path : String) : String :=
  Percent.encode locationSafe (r.url path ++ if r.query = "" then "" else "?" ++ r.query)

example : destination "GET" "/mcp/resources/a/b" = .endpoint (.readResource "a/b") := by
  decide +kernel
example : destination "GET" "/mcp/tools/x" = .otherMethod "POST" := by decide +kernel
example : destination "GET" "/health//" = .otherPath "/health" := by decide +kernel

end CommandBridge.Http
