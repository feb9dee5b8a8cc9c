import CommandBridge.Json.Basic

/-!
# CommandBridge.Error.Catalog

The error codes that users of the bridge can meet, each with the message that stands
when an error brings none and with advice on what to do.  A code text that
is not in the catalog counts as the internal error.
-/

namespace CommandBridge

/-- The catalogued error codes. -/
inductive ErrorCode where
  | targetUnavailable
  | targetTaken
  | deliveryFailed
  | inputNotJson
  | inputInvalid
  | resultUnknown
  | routeUnknown
  | routeMethod
  | startupFailed
  | internal
  deriving DecidableEq, Repr

namespace ErrorCode

/-- All codes, in catalog order. -/
def all : List ErrorCode :=
  [.targetUnavailable, .targetTaken, .deliveryFailed, .inputNotJson, .inputInvalid,
    .resultUnknown, .routeUnknown, .routeMethod, .startupFailed, .internal]

/-- The text of a code. -/
def text : ErrorCode → String
  | .targetUnavailable => "MCP-TARGET-001"
  | .targetTaken => "MCP-TARGET-002"
  | .deliveryFailed => "MCP-DELIVERY-001"
  | .inputNotJson => "MCP-INPUT-001"
  | .inputInvalid => "MCP-INPUT-002"
  | .resultUnknown => "MCP-RESULT-001"
  | .routeUnknown => "MCP-ROUTE-001"
  | .routeMethod => "MCP-ROUTE-002"
  | .startupFailed => "MCP-STARTUP-001"
  | .internal => "MCP-INTERNAL-001"

/-- The message of an error that brings none. -/
def defaultMessage : ErrorCode → String
  | .targetUnavailable => "Target application instance is unavailable."
  | .targetTaken => "An application instance is already attached."
  | .deliveryFailed => "Command could not be delivered to the application instance."
  | .inputNotJson => "Request body is not valid JSON."
  | .inputInvalid => "Input parameter value is invalid."
  | .resultUnknown => "No dispatched command matches this ticket."
  | .routeUnknown => "Endpoint not found."
  | .routeMethod => "Method not allowed for this endpoint."
  | .startupFailed => "Bridge server could not start."
  | .internal => "Unexpected internal server error."

/-- What a user can do about an error. -/
def userAction : ErrorCode → String
  | .targetUnavailable => "Make sure the Project Graph application is running, then retry."
  | .targetTaken => "Detach the current instance before attaching another one."
  | .deliveryFailed => "Retry the request. If it keeps failing, check the application log."
  | .inputNotJson => "Send tool arguments as a JSON document and retry."
  | .inputInvalid => "Correct the invalid field value and retry."
  | .resultUnknown => "Use the ticket returned by the dispatch response. Old tickets expire."
  | .routeUnknown => "Check the endpoint list under /mcp and retry."
  | .routeMethod => "Use GET for listings and reads, POST for tool calls."
  | .startupFailed => "Free the configured port or set MCP_PORT, then restart."
  | .internal => "Retry the request. If the issue persists, report the request ID."

/-- The code of a text; a text that is no code counts as the internal error. -/
def ofText (s : String) : ErrorCode := (all.find? fun c => c.text = s).getD .internal

theorem mem_all (c : ErrorCode) : c ∈ all := by cases c <;> decide

/-- Every code is read back from its text. -/
theorem ofText_text (c : ErrorCode) : ofText c.text = c := by cases c <;> decide

/-- A catalogued message is never empty. -/
theorem defaultMessage_ne_empty (c : ErrorCode) : c.defaultMessage ≠ "" := by
  cases c <;> decide

end ErrorCode

/-- The members that tell more about an error. -/
abbrev Details := List (Text × Json)

/-- What a user is told about an error. -/
structure ErrorPayload where
  code : ErrorCode
  message : Text
  details : Details
  deriving DecidableEq, Repr

namespace ErrorPayload

/-- The payload of an error.  An empty message gives way to the catalogued
one, and a request id, unless empty, becomes a member of the details. -/
def build (code : ErrorCode) (message : Text) (details : Details) (requestId : Option String) :
    ErrorPayload where
  code := code
  message := if message.isEmpty then (code.defaultMessage : Text) else message
  details :=
    match requestId with
    | none => details
    | some id => if id.isEmpty then details else Json.insert "request_id" (.string id) details

/-- The JSON form of a payload. -/
def toJson (p : ErrorPayload) : Json :=
  .object [("code", .string p.code.text), ("message", .str p.message),
    ("user_action", .string p.code.userAction), ("details", .obj p.details)]

end ErrorPayload

end CommandBridge
