import CommandBridge.Text.Percent
import CommandBridge.Json.Writer

/-!
# CommandBridge.Http.Message

Requests and responses.  Header names are in lower case; of several headers of one name
the first counts.
-/

namespace CommandBridge.Http

/-- A request.  `rawPath` is the path as it was sent, where that is known, and `path` is
the path with its escapes decoded. -/
structure Request where
  method : String
  path : String
  rawPath : Option String
  query : String := ""
  headers : List (String × String) := []
  body : List UInt8 := []
  deriving DecidableEq, Repr

namespace Request

/-- The path and the query of a target. -/
def splitTarget (target : String) : String × String :=
  let cs := target.toList
  (String.ofList (cs.takeWhile (· ≠ '?')), String.ofList ((cs.dropWhile (· ≠ '?')).drop 1))

/-- The request for a target. -/
def ofTarget (method target : String) (headers : List (String × String)) (body : List UInt8) :
    Request :=
  let (path, query) := splitTarget target
  ⟨method, Percent.decodeLossy path, some path, query, headers, body⟩

/-- The first header of a name. -/
def header? (r : Request) (name : String) : Option String :=
  (r.headers.find? fun h => h.1 = name).map (·.2)

/-- The host a request is sent to. -/
def host (r : Request) : String := (r.header? "host").getD ""

/-- The text of a URL that names the path of a request, without its query. -/
def url (r : Request) (path : String) : String :=
  "http://" ++ r.host ++ String.ofList (path.toList.flatMap escape)
where
  /-- What a character of a path becomes; those that end a path are escaped. -/
  escape : Char → List Char
    | '?' => ['%', '3', 'F']
    | '#' => ['%', '2', '3']
    | '\\' => ['%', '5', 'C']
    | c => [c]

/-- The path of a request as it is reported: the path of its URL. -/
def reportedPath (r : Request) : String :=
  let cs := (r.url r.path).toList.filter fun c => !(['\t', '\n', '\r'].contains c)
  let rest := (cs.drop "http://".length).dropWhile fun c => !(['/', '?', '#'].contains c)
  String.ofList (rest.takeWhile fun c => !(['?', '#'].contains c))

end Request

/-- A response. -/
structure Response where
  status : Nat
  headers : List (String × String) := []
  body : String := ""
  deriving DecidableEq, Repr

namespace Response

/-- A response with another header of a name, in place of the one it had. -/
def setHeader (name value : String) (r : Response) : Response :=
  { r with headers := (r.headers.filter fun h => h.1 ≠ name) ++ [(name, value)] }

/-- A response that is plain text. -/
def plain (status : Nat) (body : String) : Response :=
  ⟨status, [("content-type", "text/plain; charset=utf-8")], body⟩

/-- A response with a JSON body, if the value has a compact form. -/
def json? (status : Nat) (body : Json) : Except Json.Unwritable Response :=
  match body.writeCompact? with
  | .ok text => .ok ⟨status, [("content-type", "application/json")], text⟩
  | .error e => .error e

end Response

example : Request.splitTarget "/a?b?c" = ("/a", "b?c") := by decide +kernel
example : (Request.ofTarget "GET" "/a%3Fb" [("host", "h")] []).reportedPath = "/a%3Fb" := by cbv

end CommandBridge.Http
