import CommandBridge.Http.Message
import CommandBridge.Op

/-!
# CommandBridge.Http.Answer

Answers with JSON bodies.  A value that has no compact form cannot be sent, and trying to
do so is a failure like any other.  Every error has the same shape: an object `detail`
with a code, a message, advice, and details that name the request.
-/

namespace CommandBridge

namespace Json

/-- Whether a member is kept back. -/
def isKeptBack (name : Text) : Bool := ("_sa" : Text).isPrefixOf name

mutual

/-- A value as it is shown to clients: without members whose names begin with `_sa`. -/
def shown : Json → Json
  | .arr es => .arr (shownElements es)
  | .obj ms => .obj (shownMembers ms)
  | j => j

/-- Elements as they are shown to clients. -/
def shownElements : List Json → List Json
  | [] => []
  | j :: r => shown j :: shownElements r

/-- Members as they are shown to clients. -/
def shownMembers : List (Text × Json) → List (Text × Json)
  | [] => []
  | (k, j) :: r => if isKeptBack k then shownMembers r else (k, shown j) :: shownMembers r

end

end Json

namespace Http

/-- What a request is answered with, and the connection over which more will come. -/
structure Answer where
  response : Response
  connection : Option Nat := none
  deriving DecidableEq, Repr

/-- The failure of sending a value that has no compact form. -/
def unwritable : Json.Unwritable → Failure
  | .nonFinite => .fault (.ofMessage .value "Out of range float values are not JSON compliant")
  | .surrogate => .fault (.ofMessage .encoding "surrogates not allowed")

/-- A response with a JSON body. -/
def respond {σ : Type} (status : Nat) (body : Json) : Op σ Response :=
  Op.ofExcept ((Response.json? status body).mapError unwritable)

/-- The body of an error. -/
def errorBody (p : ErrorPayload) : Json := .object [("detail", p.toJson)]

/-- An error that was found before anything was asked of the bridge. -/
def refuse {σ : Type} (id : String) (status : Nat) (code : ErrorCode) (message : String)
    (details : Details) : Op σ Response :=
  respond status (errorBody (.build code message details (some id)))

/-- An error about the way a request was made. -/
def refuseRequest {σ : Type} (id : String) (r : Request) (status : Nat) (code : ErrorCode)
    (message : String) : Op σ Response :=
  refuse id status code message
    [("path", .string r.reportedPath), ("method", .string r.method)]

/-- The level of an error in the log. -/
def errorLevel (status : Nat) : Log.Level := if status < 500 then .warning else .error

/-- An error of the bridge. -/
def reject {σ : Type} (id : String) (r : Request) (e : BridgeError) : Op σ Response := do
  Op.event .http (errorLevel e.status) "request_rejected"
    [("request_id", .string id), ("path", .string r.reportedPath),
      ("error_code", .string e.code.text), ("message", .str e.message)]
  respond e.status (errorBody (e.payload (some id)))

/-- The response to a request whose answer or failure is known. -/
def conclude {σ α : Type} (id : String) (r : Request) (body : α → Json) :
    Except Failure α → Op σ Answer
  | .ok a => do return ⟨← respond 200 (body a).shown, none⟩
  | .error (.bridge e) => do return ⟨← reject id r e, none⟩
  | .error e => Op.fail e

end Http

end CommandBridge
