import CommandBridge.Failure
import CommandBridge.Http.Message
import CommandBridge.Json.Bytes
import CommandBridge.Results.Record
import CommandBridge.Text.Blank

/-!
# CommandBridge.Http.Body

What the bodies of requests say.

* The body of a tool call is its arguments, whatever JSON value they are; a blank body
  stands for an empty object.
* The body of a publication is a record, and is read as JSON if its content type says so.
  What is wrong with it is reported field by field.

Bodies whose brackets are nested deeper than the reader goes (`nesting`) are not read.
-/

namespace CommandBridge.Http

/-- Whether a byte is ASCII white space. -/
def isBlankByte (b : UInt8) : Bool := b = 0x20 || (0x09 ≤ b && b ≤ 0x0D)

/-- Why the body of a tool call is not accepted: it is not JSON, or reading it fails. -/
inductive ToolBodyError where
  | notJson
  | failure (e : Failure)
  deriving DecidableEq, Repr

/-- The arguments of a tool call. -/
def toolArguments (nesting : Nat) (body : List UInt8) : Except ToolBodyError Json :=
  if body.all isBlankByte then .ok (.obj [])
  else
    match Json.readBytes nesting body with
    | .ok j => .ok j
    | .error (.unreadable (.tooDeep b)) => .error (.failure (.unreadable (.tooDeep b)))
    | .error _ => .error .notJson

/-! ## Publications -/

/-- Whether a content type stands for JSON. -/
def isJsonType (contentType : String) : Bool :=
  let cs := Blank.trimChars (contentType.toList.takeWhile (· ≠ ';'))
  match (cs.map Char.toLower).splitOn '/' with
  | [main, sub] =>
    main = "application".toList && (sub = "json".toList || "+json".toList.isSuffixOf sub)
  | _ => false

/-- Why the body of a publication is not accepted. -/
inductive PublishBodyError where
  | unparsable
  | invalid (errors : List FieldError)
  | failure (e : Failure)
  deriving DecidableEq, Repr

/-- The error of a whole body. -/
def bodyError (m : Mismatch) (input : Json) : PublishBodyError :=
  .invalid [⟨[.name "body"], m, input⟩]

/-- Reads a publication out of the value of a body. -/
def publicationOf (j : Json) : Except PublishBodyError PublishRequest :=
  match j with
  | .obj ms =>
    match PublishRequest.ofMembers ms with
    | .ok p => .ok p
    | .error es => .error (.invalid (es.map (FieldError.under (.name "body"))))
  | j => .error (bodyError .notFields j)

/-- Reads the body of a publication. -/
def publication (nesting : Nat) (contentType : Option String) (body : List UInt8) :
    Except PublishBodyError PublishRequest :=
  if body.isEmpty then .error (bodyError .missing .null)
  else if (contentType.map isJsonType).getD false then
    match Json.readBytes nesting body with
    | .ok j => publicationOf j
    | .error (.unreadable (.malformed f _ _ position)) =>
      .error (.invalid [⟨[.name "body", .index position], .notJson f.text, .obj []⟩])
    | .error _ => .error .unparsable
  else
    match Utf8.decode body with
    | .ok cs => .error (bodyError .notFields (.string (String.ofList cs)))
    | .error m => .error (.failure (.fault (.ofMessage .decoding m.message)))

example : isJsonType "Application/Vnd.x+JSON; charset=utf-8" = true := by cbv
example : toolArguments 9 [0x20, 0x0B] = .ok (.obj []) := by cbv

end CommandBridge.Http
