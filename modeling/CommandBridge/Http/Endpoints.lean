import CommandBridge.Http.Answer
import CommandBridge.Http.Body
import CommandBridge.Http.Report
import CommandBridge.Http.Route
import CommandBridge.Service.Connection

/-!
# CommandBridge.Http.Endpoints

What each endpoint does.
-/

namespace CommandBridge.Http

/-- What follows the first place where `mark` is found, if it is found. -/
def textAfter? (mark : List Char) : List Char → Option (List Char)
  | [] => if mark = [] then some [] else none
  | c :: r =>
    if mark.isPrefixOf (c :: r) then some ((c :: r).drop mark.length) else textAfter? mark r

/-- The resource that a request asks for, with its escapes as they were sent.  `routed` is
the same with its escapes decoded, and counts where nothing better is known. -/
def resourceUri (r : Request) (routed : String) : String :=
  match r.rawPath with
  | none => routed
  | some raw =>
    match textAfter? resourcePrefix.toList (raw.toList.takeWhile (· ≠ '?')) with
    | some cs => String.ofList cs
    | none => routed

/-- An operation whose answer is sent as JSON. -/
def answering {α : Type} (id : String) (r : Request) (x : Op Service α) (body : α → Json) :
    Op Service Answer := do
  conclude id r body (← x.attempt)

/-- Calls a tool with the arguments in the body of a request. -/
def callTool (now : Timestamp) (id : String) (r : Request) (name : String) :
    Op Service (Progress Service Answer) := do
  match toolArguments (← Op.get).nesting r.body with
  | .error .notJson => Op.atOnce do
    return ⟨← refuse id 400 .inputNotJson "Invalid JSON body" [("tool", .string name)], none⟩
  | .error (.failure e) => Op.fail e
  | .ok args =>
    (Service.callTool now name args).onceOver (conclude id r CommandBridge.Response.toBody)

/-- Publishes the outcome in the body of a request. -/
def publishResult (now : Timestamp) (id : String) (r : Request) (ticket : String) :
    Op Service Answer := do
  match publication (← Op.get).nesting (r.header? "content-type") r.body with
  | .ok p =>
    answering id r
      (Service.onResults (ResultChannel.publishBody now ticket p.status p.result)) fun body => body
  | .error .unparsable =>
    return ⟨← refuseRequest id r 400 .internal "There was an error parsing the body", none⟩
  | .error (.invalid es) =>
    return ⟨← refuse id 400 .inputInvalid "Request validation failed"
      [("errors", (Json.arr (es.map FieldError.toJson)).shown)], none⟩
  | .error (.failure e) => Op.fail e

/-- Starts to send an event stream. -/
def openEvents : Op Service Answer := do
  let place ← Service.connect ((← Op.get).settings.heartbeatSeconds.scaled 1000000000)
  let body ← Service.takeUnread place
  return ⟨⟨200, [("cache-control", "no-cache"), ("connection", "keep-alive"),
    ("x-accel-buffering", "no"), ("content-type", "text/event-stream; charset=utf-8")], body⟩,
    some place⟩

/-- An answer with a part of the catalog. -/
def listing {α : Type} (name : String) (part : Catalog → List α) (toJson : α → Json) :
    Op Service Answer := do
  let s ← Op.get
  return ⟨← respond 200 (Json.object [(name, .arr ((part s.bridge.catalog).map toJson))]).shown,
    none⟩

/-- Serves an endpoint. -/
def serve (now : Timestamp) (id : String) (r : Request) (e : Endpoint) :
    Op Service (Progress Service Answer) :=
  match e with
  | .listResources =>
    Op.atOnce (listing "resources" Catalog.resources ResourceDescriptor.toJson)
  | .listTools => Op.atOnce (listing "tools" Catalog.tools ToolDescriptor.toJson)
  | .listPrompts => Op.atOnce (listing "prompts" Catalog.prompts PromptDescriptor.toJson)
  | .readResource uri =>
    Op.atOnce (answering id r (Service.onBridge (Bridge.readResource now (resourceUri r uri)))
      CommandBridge.Response.toBody)
  | .callTool name => callTool now id r name
  | .getPrompt name =>
    Op.atOnce (answering id r (Service.onBridge (Bridge.getPrompt now name))
      CommandBridge.Response.toBody)
  | .getResult ticket =>
    Op.atOnce (answering id r (Service.onResults (ResultChannel.getBody now ticket))
      fun body => body)
  | .publishResult ticket => Op.atOnce (publishResult now id r ticket)
  | .events => Op.atOnce openEvents
  | .health => Op.atOnce do return ⟨← respond 200 (health (← Op.get)), none⟩
  | .metrics => Op.atOnce do return ⟨.plain 200 (metricsText (← Op.get)), none⟩

/-- Answers a request that is not a preflight. -/
def answer (now : Timestamp) (id : String) (r : Request) : Op Service (Progress Service Answer) :=
  match destination r.method r.path with
  | .endpoint e => serve now id r e
  | .otherMethod allowed => Op.atOnce do
    let response ← refuseRequest id r 405 .routeMethod "Method Not Allowed"
    return ⟨response.setHeader "allow" allowed, none⟩
  | .otherPath path =>
    Op.atOnce do return ⟨⟨307, [("location", location r path)], ""⟩, none⟩
  | .nowhere => Op.atOnce do
    return ⟨← refuseRequest id r 404 .routeUnknown "Not Found", none⟩

end CommandBridge.Http
