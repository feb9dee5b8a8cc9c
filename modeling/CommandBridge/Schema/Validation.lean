import CommandBridge.Json.Literal

/-!
# CommandBridge.Schema.Validation

Reading typed records out of JSON objects.  Every field is looked at, and all
failures are reported, in the order in which the fields are declared.

* A field may have several names; the first one present counts, and a failure
  is reported under the name that was present.
* A field that is absent takes its default, or is reported as missing.
* Members without a field are ignored.

Names, tickets and times are `String`s, so a text with a lone surrogate is none of them: a record
that has one there counts as not valid.  A field that is only passed on takes any text.
-/

namespace CommandBridge

/-! ## Failures -/

/-- Why a value does not fit. -/
inductive Mismatch where
  | missing
  | notString
  | notScalarText
  | notObject
  | notRecord (name : String)
  | notFields
  | notOneOf (choices : List String)
  | notBool
  | notBoolText
  | notIntText
  | intTooLong
  | notFloatText
  | notJson (message : String)
  | frozen
  deriving DecidableEq, Repr

namespace Mismatch

/-- Alternatives as they are listed in a message. -/
def listing : List String → String
  | [] => ""
  | [a] => s!"'{a}'"
  | [a, b] => s!"'{a}' or '{b}'"
  | a :: r => s!"'{a}', " ++ listing r

/-- The identifier of a mismatch. -/
def tag : Mismatch → String
  | .missing => "missing"
  | .notString => "string_type"
  | .notScalarText => "string_unicode"
  | .notObject => "dict_type"
  | .notRecord _ => "model_type"
  | .notFields => "model_attributes_type"
  | .notOneOf _ => "enum"
  | .notBool => "bool_type"
  | .notBoolText => "bool_parsing"
  | .notIntText => "int_parsing"
  | .intTooLong => "int_parsing_size"
  | .notFloatText => "float_parsing"
  | .notJson _ => "json_invalid"
  | .frozen => "frozen_instance"

/-- The message of a mismatch. -/
def message : Mismatch → String
  | .missing => "Field required"
  | .notString => "Input should be a valid string"
  | .notScalarText => "Input should be a valid string, unable to parse raw data as a unicode string"
  | .notObject => "Input should be a valid dictionary"
  | .notRecord name => s!"Input should be a valid dictionary or instance of {name}"
  | .notFields => "Input should be a valid dictionary or object to extract fields from"
  | .notOneOf choices => s!"Input should be {listing choices}"
  | .notBool => "Input should be a valid boolean"
  | .notBoolText => "Input should be a valid boolean, unable to interpret input"
  | .notIntText => "Input should be a valid integer, unable to parse string as an integer"
  | .intTooLong => "Unable to parse input string as an integer, exceeded maximum size"
  | .notFloatText => "Input should be a valid number, unable to parse string as a number"
  | .notJson _ => "JSON decode error"
  | .frozen => "Instance is frozen"

/-- What else is told about a mismatch. -/
def context : Mismatch → List (String × Json)
  | .notOneOf choices => [("expected", .string (listing choices))]
  | .notJson message => [("error", .string message)]
  | _ => []

end Mismatch

/-- A step on the way to a value. -/
inductive PathStep where
  | name (s : String)
  | index (n : Nat)
  deriving DecidableEq, Repr

/-- The JSON form of a step. -/
def PathStep.toJson : PathStep → Json
  | .name s => .string s
  | .index n => .nat n

/-- A value that does not fit, and where it was found. -/
structure FieldError where
  path : List PathStep
  mismatch : Mismatch
  input : Json
  deriving DecidableEq, Repr

namespace FieldError

/-- A failure seen from further out. -/
def under (step : PathStep) (e : FieldError) : FieldError := { e with path := step :: e.path }

/-- The JSON form of a failure. -/
def toJson (e : FieldError) : Json :=
  let base := [("type", .string e.mismatch.tag), ("loc", .arr (e.path.map PathStep.toJson)),
    ("msg", .string e.mismatch.message), ("input", e.input)]
  match e.mismatch.context with
  | [] => .object base
  | context => .object (base ++ [("ctx", .object context)])

/-- The name of a value's type in messages. -/
def typeName : Json → String
  | .null => "NoneType"
  | .bool _ => "bool"
  | .int _ => "int"
  | .float _ => "float"
  | .str _ => "str"
  | .arr _ => "list"
  | .obj _ => "dict"

/-- The longest prefix of at most `limit` UTF-8 bytes. -/
def bytePrefix : Nat → List Char → List Char
  | _, [] => []
  | limit, c :: r => if c.utf8Size ≤ limit then c :: bytePrefix (limit - c.utf8Size) r else []

/-- A literal in a message: one of more than fifty bytes is shown by its first
twenty-five and its last twenty-four. -/
def abbreviated (s : String) : String :=
  if s.utf8ByteSize ≤ 50 then s
  else
    String.ofList (bytePrefix 25 s.toList) ++ "..."
      ++ String.ofList (bytePrefix 24 s.toList.reverse).reverse

/-- The two lines about a failure in a report; a path comes before them. -/
def report (e : FieldError) : String :=
  let path := ".".intercalate (e.path.map fun
    | .name s => s
    | .index n => toString n)
  (if e.path.isEmpty then "" else "\n" ++ path)
    ++ s!"\n  {e.mismatch.message} [type={e.mismatch.tag}, "
    ++ s!"input_value={abbreviated e.input.literal}, input_type={typeName e.input}]"
    ++ s!"\n    For further information visit https://errors.pydantic.dev/2.14/v/{e.mismatch.tag}"

/-- The report about all failures of a record. -/
def reportAll (record : String) (errors : List FieldError) : String :=
  let n := errors.length
  s!"{n} validation error" ++ (if n = 1 then "" else "s") ++ s!" for {record}"
    ++ String.join (errors.map report)

end FieldError

/-! ## Reading fields -/

/-- A value, or everything that is wrong with it. -/
abbrev Validated (α : Type) := Except (List FieldError) α

/-- Reads one value. -/
abbrev Check (α : Type) := Json → Except Mismatch α

namespace Validated

/-- Applies a validated function; the failures of both sides are kept in order. -/
def seq {α β : Type} (f : Validated (α → β)) (x : Validated α) : Validated β :=
  match f, x with
  | .ok f, .ok a => .ok (f a)
  | .ok _, .error e => .error e
  | .error e, .ok _ => .error e
  | .error e, .error e' => .error (e ++ e')

end Validated

namespace Check

/-- Accepts everything. -/
def any : Check Json := .ok

/-- Accepts strings. -/
def text : Check Text
  | .str t => .ok t
  | _ => .error .notString

/-- Accepts strings without lone surrogates. -/
def string : Check String
  | .str t =>
    match t.toString? with
    | some s => .ok s
    | none => .error .notScalarText
  | _ => .error .notString

/-- Accepts null and what `check` accepts. -/
def optional {α : Type} (check : Check α) : Check (Option α)
  | .null => .ok none
  | j => (check j).map some

/-- Accepts objects. -/
def object : Check (List (Text × Json))
  | .obj ms => .ok ms
  | _ => .error .notObject

/-- Whether a value is a string with a lone surrogate. -/
def isBroken : Json → Bool
  | .str t => t.scalars?.isNone
  | _ => false

/-- Accepts the strings of a table. -/
def choice {α : Type} (table : List (String × α)) : Check α := fun j =>
  match table.find? fun row => j = .string row.1 with
  | some row => .ok row.2
  | none => .error (if isBroken j then .notScalarText else .notOneOf (table.map (·.1)))

/-- The truth value that a word stands for, whatever its case. -/
def truthWord? (t : Text) : Option Bool :=
  let lower := t.map fun
    | .scalar c => CodePoint.scalar c.toLower
    | p => p
  if ["1", "t", "true", "y", "yes", "on"].any (fun w => lower = (w : Text)) then some true
  else if ["0", "f", "false", "n", "no", "off"].any (fun w => lower = (w : Text)) then some false
  else none

/-- Accepts truth values, zero and one, and the words for them. -/
def bool : Check Bool
  | .bool b => .ok b
  | .int 0 => .ok false
  | .int 1 => .ok true
  | .int _ => .error .notBoolText
  | .float x =>
    match x.toInt? with
    | some 0 => .ok false
    | some 1 => .ok true
    | some _ => .error .notBoolText
    | none => .error .notBool
  | .str t =>
    match truthWord? t with
    | some b => .ok b
    | none => .error .notBoolText
  | _ => .error .notBool

end Check

/-- Reads a field of an object; `fallback` is its value when it is absent. -/
def readField {α : Type} (members : List (Text × Json)) (names : List String) (check : Check α)
    (fallback : Option α) : Validated α :=
  match names.findSome? fun n => (Json.lookup (Text.ofString n) members).map fun j => (n, j) with
  | some (n, j) =>
    match check j with
    | .ok a => .ok a
    | .error m => .error [⟨[.name n], m, j⟩]
  | none =>
    match fallback with
    | some a => .ok a
    | none => .error [⟨[.name (names.headD "")], .missing, .obj members⟩]

/-- Reads a record out of an object. -/
def readRecord {α : Type} (name : String) (fields : List (Text × Json) → Validated α) (j : Json) :
    Validated α :=
  match j with
  | .obj ms => fields ms
  | _ => .error [⟨[], .notRecord name, j⟩]

example : FieldError.reportAll "R" [⟨[.name "a"], .missing, .obj []⟩]
    = "1 validation error for R\na\n  Field required [type=missing, input_value=\x7b\x7d, "
      ++ "input_type=dict]\n    For further information visit "
      ++ "https://errors.pydantic.dev/2.14/v/missing" := by
  decide +kernel

end CommandBridge
