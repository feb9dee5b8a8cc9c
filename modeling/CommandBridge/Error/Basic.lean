import CommandBridge.Error.Catalog

/-!
# CommandBridge.Error.Basic

The errors of the bridge by cause.  Each has a catalog code, an HTTP status, a
message and details, which are functions of the cause.
-/

namespace CommandBridge

/-- The errors of the bridge. -/
inductive BridgeError where
  /-- An error with a code and nothing else known about it. -/
  | coded (message : Text) (code : ErrorCode) (details : Details)
  /-- No instance is attached under the label. -/
  | targetUnavailable (label : String)
  /-- A second instance was attached while one was registered. -/
  | alreadyAttached (label : String)
  /-- The instance refused a command, or failed to take it. -/
  | deliveryFailure (message : Text) (details : Details)
  /-- A parameter of a request is not acceptable. -/
  | invalidArgument (message : Text) (details : Details)
  /-- No tracked command has the ticket. -/
  | resultNotFound (ticket : String)
  /-- The server could not be started. -/
  | startupFailure (message : Text) (details : Details)
  deriving DecidableEq, Repr

namespace BridgeError

/-- The catalog code of an error. -/
def code : BridgeError → ErrorCode
  | .coded _ c _ => c
  | .targetUnavailable _ => .targetUnavailable
  | .alreadyAttached _ => .targetTaken
  | .deliveryFailure _ _ => .deliveryFailed
  | .invalidArgument _ _ => .inputInvalid
  | .resultNotFound _ => .resultUnknown
  | .startupFailure _ _ => .startupFailed

/-- The HTTP status of an error. -/
def status : BridgeError → Nat
  | .invalidArgument _ _ => 400
  | .resultNotFound _ => 404
  | _ => 500

/-- The message of an error. -/
def message : BridgeError → Text
  | .coded m _ _ => m
  | .targetUnavailable label => (s!"Target application instance '{label}' is unavailable" : String)
  | .alreadyAttached label =>
    (s!"An application instance is already attached as '{label}'" : String)
  | .deliveryFailure m _ => ("Delivery error: " : Text) ++ m
  | .invalidArgument m _ => m
  | .resultNotFound ticket => (s!"Unknown ticket: {ticket}" : String)
  | .startupFailure m _ => m

/-- The details of an error. -/
def details : BridgeError → Details
  | .coded _ _ d => d
  | .targetUnavailable label | .alreadyAttached label => [(("target" : Text), .string label)]
  | .deliveryFailure _ d | .invalidArgument _ d | .startupFailure _ d => d
  | .resultNotFound ticket => [(("ticket" : Text), .string ticket)]

/-- What a user is told about an error. -/
def payload (e : BridgeError) (requestId : Option String) : ErrorPayload :=
  .build e.code e.message e.details requestId

/-- The name of an error's class. -/
def name : BridgeError → String
  | .coded _ _ _ => "BridgeError"
  | .targetUnavailable _ => "TargetUnavailableError"
  | .alreadyAttached _ => "InstanceAlreadyAttachedError"
  | .deliveryFailure _ _ => "DeliveryFailureError"
  | .invalidArgument _ _ => "InvalidArgumentError"
  | .resultNotFound _ => "ResultNotFoundError"
  | .startupFailure _ _ => "StartupFailureError"

end BridgeError

end CommandBridge
