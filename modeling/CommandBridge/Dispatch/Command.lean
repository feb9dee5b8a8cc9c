import CommandBridge.Schema.Validation

/-!
# CommandBridge.Dispatch.Command

What goes between a caller, the bridge and an instance: commands, the answer
whether an instance accepts one, and the advisory response to the caller.

A command is known by its ticket.  Tickets are numbered: the `n`-th one is `n`
in 32 hexadecimal digits, so tickets drawn one after the other differ.
-/

namespace CommandBridge

/-- What a command asks for. -/
inductive DispatchKind where
  | readResource
  | callTool
  | getPrompt
  deriving DecidableEq, Repr

namespace DispatchKind

/-- The text of a kind. -/
def text : DispatchKind → String
  | .readResource => "read_resource"
  | .callTool => "call_tool"
  | .getPrompt => "get_prompt"

/-- All kinds. -/
def all : List DispatchKind := [.readResource, .callTool, .getPrompt]

/-- The kinds by their texts. -/
def table : List (String × DispatchKind) := all.map fun k => (k.text, k)

end DispatchKind

/-- A number in hexadecimal digits, padded with zeros to a width. -/
def hexId (width n : Nat) : String := String.ofList (Json.hexDigits width n)

/-- The `n`-th ticket. -/
def ticketOf (n : Nat) : String := hexId 32 n

/-- One bridged call. -/
structure Command where
  kind : DispatchKind
  target : String
  arguments : Json
  ticket : String
  issuedAt : String
  deriving DecidableEq, Repr

namespace Command

/-- Reads a command; `ticket` and `now` stand in for an absent ticket and time. -/
def ofJson (ticket now : String) (j : Json) : Validated Command :=
  readRecord "DispatchCommand" (j := j) fun ms =>
    (Validated.seq (.ok Command.mk) (readField ms ["kind"] (.choice DispatchKind.table) none))
      |>.seq (readField ms ["target"] .string none)
      |>.seq (readField ms ["arguments"] .any (some .null))
      |>.seq (readField ms ["ticket"] .string (some ticket))
      |>.seq (readField ms ["issued_at"] .string (some now))

/-- Whether reading a command takes the ticket that stands in for an absent one. -/
def drawsTicket : Json → Bool
  | .obj ms => (Json.lookup "ticket" ms).isNone
  | _ => false

/-- The members of a command. -/
def fields (c : Command) : List (Text × Json) :=
  [("kind", .string c.kind.text), ("target", .string c.target), ("arguments", c.arguments),
    ("ticket", .string c.ticket), ("issued_at", .string c.issuedAt)]

/-- The message that is sent to an instance in another process. -/
def toMessage (c : Command) : Json :=
  .object [("requestId", .string c.ticket), ("kind", .string c.kind.text),
    ("target", .string c.target), ("arguments", c.arguments), ("issuedAt", .string c.issuedAt)]

end Command

/-- Whether an instance accepts a command, and a word on why not. -/
structure Delivery where
  accepted : Bool := true
  detail : Option Text := none
  deriving DecidableEq, Repr

namespace Delivery

/-- A command that is accepted. -/
def accept : Delivery := {}

/-- A command that is refused. -/
def rejected (detail : Text) : Delivery := ⟨false, some detail⟩

/-- Reads a delivery. -/
def ofJson (j : Json) : Validated Delivery :=
  readRecord "DeliveryResult" (j := j) fun ms =>
    (Validated.seq (.ok Delivery.mk) (readField ms ["accepted"] .bool (some true)))
      |>.seq (readField ms ["detail"] (.optional .text) (some none))

/-- The members of a delivery. -/
def fields (d : Delivery) : List (Text × Json) :=
  [("accepted", .bool d.accepted), ("detail", .ofOption (d.detail.map .str))]

end Delivery

/-- What a caller is told at once about a dispatched command. -/
inductive ResponseStatus where
  | processing
  | success
  | error
  deriving DecidableEq, Repr

namespace ResponseStatus

/-- The text of a status. -/
def text : ResponseStatus → String
  | .processing => "processing"
  | .success => "success"
  | .error => "error"

/-- The statuses by their texts. -/
def table : List (String × ResponseStatus) :=
  [.processing, .success, .error].map fun s => (text s, s)

end ResponseStatus

/-- The advisory response to a dispatch. -/
structure Response where
  status : ResponseStatus
  payload : List (Text × Json) := []
  deriving DecidableEq, Repr

namespace Response

/-- Reads a response. -/
def ofJson (j : Json) : Validated Response :=
  readRecord "BridgeResponse" (j := j) fun ms =>
    (Validated.seq (.ok Response.mk)
      (readField ms ["status"] (.choice ResponseStatus.table) none))
      |>.seq (readField ms ["payload"] .object (some []))

/-- The members of a response. -/
def fields (r : Response) : List (Text × Json) :=
  [("status", .string r.status.text), ("payload", .obj r.payload)]

/-- The body of a response: the status, and the payload's members over it. -/
def toBody (r : Response) : Json :=
  .obj (Json.dedup ((("status" : Text), .string r.status.text) :: r.payload))

end Response

end CommandBridge
