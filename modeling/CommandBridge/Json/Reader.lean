import CommandBridge.Json.Writer

/-!
# CommandBridge.Json.Reader

Reading JSON text.  The reader follows the usual grammar with these additions:

1. `NaN`, `Infinity` and `-Infinity` are numbers;
2. an escape may name a lone surrogate; an escaped high surrogate followed at
   once by an escaped low one is the character of the pair;
3. a number with a fraction or an exponent is a double, any other an integer of
   at most 4300 digits;
4. of several members with one name the last value counts, at the first place.

A failure is reported with the place of the code point it was noticed at.
Readers return what is left of the text, so a place is known by how much is
left; `position` turns that into an index, a line and a column.

`readNested` bounds the nesting of arrays and objects, as the stack of an interpreter does;
`read` leaves it to the length of the text, which no nesting exceeds.
-/

namespace CommandBridge.Json

/-! ## Failures -/

/-- What is wrong at some place of a text. -/
inductive SyntaxFault where
  | expectingValue
  | expectingName
  | expectingColon
  | expectingComma
  | unterminatedString
  | invalidControl
  | invalidEscape
  | invalidUnicodeEscape
  | extraData
  | byteOrderMark
  deriving DecidableEq, Repr

/-- What can be nested. -/
inductive Bracket where
  | array
  | object
  deriving DecidableEq, Repr

/-- What stops a reader; `left` code points are left at the place of a fault. -/
inductive Stop where
  | fault (f : SyntaxFault) (left : Nat)
  | tooManyDigits (count : Nat)
  | tooDeep (b : Bracket)
  deriving DecidableEq, Repr

/-- A reader takes a value off the front of a text. -/
abbrev Reader (α : Type) := Text → Except Stop (α × Text)

/-! ## Blanks, strings -/

/-- Whether a code point may stand between tokens. -/
def isBlankPoint : CodePoint → Bool
  | .scalar c => c = ' ' || c = '\t' || c = '\n' || c = '\r'
  | .surrogate _ => false

/-- A text without the blanks at its front. -/
def skipBlanks (t : Text) : Text := t.dropWhile isBlankPoint

/-- The value of a hexadecimal digit of either case. -/
def hexDigit? : CodePoint → Option Nat
  | .scalar c =>
    if '0' ≤ c ∧ c ≤ '9' then some (c.toNat - 0x30)
    else if 'a' ≤ c ∧ c ≤ 'f' then some (c.toNat - 0x61 + 10)
    else if 'A' ≤ c ∧ c ≤ 'F' then some (c.toNat - 0x41 + 10)
    else none
  | .surrogate _ => none

/-- The UTF-16 unit of four hexadecimal digits at the front of a text. -/
def hexUnit? : Text → Option Nat
  | a :: b :: c :: d :: _ => do
    return (((← hexDigit? a) * 16 + (← hexDigit? b)) * 16 + (← hexDigit? c)) * 16 + (← hexDigit? d)
  | _ => none

/-- The code point of a UTF-16 unit on its own. -/
def unitPoint (u : Nat) : CodePoint :=
  match CodePoint.ofNat? u with
  | some p => p
  | none => .scalar '\uFFFD'

/-- The code point of the escape whose text after the backslash is given, and
how many code points of it belong to the escape.  A Unicode escape has to be
followed by something, since the string is still open. -/
def readEscape (opened : Nat) (t : Text) : Except Stop (CodePoint × Nat) :=
  match t with
  | [] => .error (.fault .unterminatedString opened)
  | .scalar 'u' :: r =>
    if r.length < 5 then .error (.fault .invalidUnicodeEscape t.length)
    else
      match hexUnit? r with
      | none => .error (.fault .invalidUnicodeEscape t.length)
      | some u =>
        let rest := r.drop 4
        if 0xD800 ≤ u ∧ u < 0xDC00 ∧ 6 < rest.length ∧ rest.take 2 = ("\\u" : Text) then
          match hexUnit? (rest.drop 2) with
          | none => .error (.fault .invalidUnicodeEscape (rest.length - 1))
          | some v =>
            if 0xDC00 ≤ v ∧ v < 0xE000 then
              .ok (.scalar (Char.ofNat (0x10000 + (u - 0xD800) * 0x400 + (v - 0xDC00))), 11)
            else .ok (unitPoint u, 5)
        else .ok (unitPoint u, 5)
  | .scalar '"' :: _ => .ok (.scalar '"', 1)
  | .scalar '\\' :: _ => .ok (.scalar '\\', 1)
  | .scalar '/' :: _ => .ok (.scalar '/', 1)
  | .scalar 'b' :: _ => .ok (.scalar '\x08', 1)
  | .scalar 'f' :: _ => .ok (.scalar '\x0c', 1)
  | .scalar 'n' :: _ => .ok (.scalar '\n', 1)
  | .scalar 'r' :: _ => .ok (.scalar '\r', 1)
  | .scalar 't' :: _ => .ok (.scalar '\t', 1)
  | _ => .error (.fault .invalidEscape (t.length + 1))

/-- Reads a string up to its closing quote; `opened` tells the place of the
opening one. -/
def readString (opened : Nat) (t : Text) : Except Stop (Text × Text) :=
  match t with
  | [] => .error (.fault .unterminatedString opened)
  | p :: r =>
    if p = .scalar '"' then .ok ([], r)
    else if p = .scalar '\\' then
      match readEscape opened r with
      | .error e => .error e
      | .ok (q, used) =>
        match readString opened (r.drop used) with
        | .error e => .error e
        | .ok (s, rest) => .ok (q :: s, rest)
    else if p.toNat < 0x20 then .error (.fault .invalidControl t.length)
    else
      match readString opened r with
      | .error e => .error e
      | .ok (s, rest) => .ok (p :: s, rest)
termination_by t.length
decreasing_by all_goals simp only [List.length_drop, List.length_cons]; omega

/-! ## Numbers -/

/-- The value of a decimal digit. -/
def digit? : CodePoint → Option Nat
  | .scalar c => if '0' ≤ c ∧ c ≤ '9' then some (c.toNat - 0x30) else none
  | .surrogate _ => none

/-- The digits at the front of a text and what follows them. -/
def spanDigits : Text → List Nat × Text
  | [] => ([], [])
  | p :: r =>
    match digit? p with
    | none => ([], p :: r)
    | some d => let (ds, rest) := spanDigits r; (d :: ds, rest)

/-- The natural that digits spell. -/
def ofDigits (ds : List Nat) : Nat := ds.foldl (fun n d => 10 * n + d) 0

/-- The fraction of a number: a point and at least one digit. -/
def readFraction (t : Text) : List Nat × Text :=
  match t with
  | .scalar '.' :: r =>
    match spanDigits r with
    | ([], _) => ([], t)
    | (ds, rest) => (ds, rest)
  | _ => ([], t)

/-- The exponent of a number: a letter, perhaps a sign, and at least one digit. -/
def readExponent (t : Text) : Option Int × Text :=
  match t with
  | .scalar c :: r =>
    if c = 'e' ∨ c = 'E' then
      let (negative, digits) : Bool × Text :=
        match r with
        | .scalar '-' :: r => (true, r)
        | .scalar '+' :: r => (false, r)
        | _ => (false, r)
      match spanDigits digits with
      | ([], _) => (none, t)
      | (ds, rest) => (some (if negative then -(ofDigits ds : Int) else ofDigits ds), rest)
    else (none, t)
  | _ => (none, t)

/-- The most digits an integer may have. -/
def maxDigits : Nat := 4300

/-- The number with these integer digits whose text goes on with `t`. -/
def readTail (negative : Bool) (whole : List Nat) (t : Text) : Except Stop (Json × Text) :=
  match readFraction t with
  | (fraction, afterFraction) =>
    match readExponent afterFraction with
    | (exponent, rest) =>
      if fraction.isEmpty && exponent.isNone then
        if maxDigits < whole.length then .error (.tooManyDigits whole.length)
        else .ok (.int (if negative then -(ofDigits whole : Int) else ofDigits whole), rest)
      else
        .ok (.float (Binary64.ofDecimal negative
          ⟨ofDigits (whole ++ fraction), exponent.getD 0 - fraction.length⟩), rest)

/-- Reads a number without its sign; a leading zero stands alone before the point. -/
def readUnsigned (negative : Bool) (start : Nat) (t : Text) : Except Stop (Json × Text) :=
  match t with
  | .scalar '0' :: r => readTail negative [0] r
  | _ =>
    match spanDigits t with
    | ([], _) => .error (.fault .expectingValue start)
    | (ds, rest) => readTail negative ds rest

/-! ## Arrays and objects -/

/-- Reads the elements of an array that has some, up to its closing bracket. -/
def readElements (item : Reader Json) : Nat → Reader (List Json)
  | 0, t => .error (.fault .expectingValue t.length)
  | n + 1, t =>
    match item t with
    | .error e => .error e
    | .ok (j, rest) =>
      match skipBlanks rest with
      | .scalar ']' :: r => .ok ([j], r)
      | .scalar ',' :: r =>
        match readElements item n (skipBlanks r) with
        | .error e => .error e
        | .ok (js, r) => .ok (j :: js, r)
      | r => .error (.fault .expectingComma r.length)

/-- Reads the members of an object that has some, up to its closing brace. -/
def readMembers (item : Reader Json) : Nat → Reader (List (Text × Json))
  | 0, t => .error (.fault .expectingName t.length)
  | n + 1, t =>
    match t with
    | .scalar '"' :: r =>
      match readString t.length r with
      | .error e => .error e
      | .ok (name, rest) =>
        match skipBlanks rest with
        | .scalar ':' :: r =>
          match item (skipBlanks r) with
          | .error e => .error e
          | .ok (j, rest) =>
            match skipBlanks rest with
            | .scalar '}' :: r => .ok ([(name, j)], r)
            | .scalar ',' :: r =>
              match readMembers item n (skipBlanks r) with
              | .error e => .error e
              | .ok (ms, r) => .ok ((name, j) :: ms, r)
            | r => .error (.fault .expectingComma r.length)
        | r => .error (.fault .expectingColon r.length)
    | _ => .error (.fault .expectingName t.length)

/-- Reads an array or object with `inner` for what it holds. -/
def readBracketed (fuel : Nat) (inner : Reader Json) (b : Bracket) (t : Text) :
    Except Stop (Json × Text) :=
  match b, skipBlanks t with
  | .array, .scalar ']' :: r => .ok (.arr [], r)
  | .array, r => (readElements inner fuel r).map fun (js, rest) => (.arr js, rest)
  | .object, .scalar '}' :: r => .ok (.obj [], r)
  | .object, r => (readMembers inner fuel r).map fun (ms, rest) => (.obj (dedup ms), rest)

/-! ## Values -/

/-- The values that are words. -/
def words : List (Text × Json) :=
  [("null", .null), ("true", .bool true), ("false", .bool false), ("NaN", .float .nan),
    ("Infinity", .float (.infinite false)), ("-Infinity", .float (.infinite true))]

/-- The word at the front of a text. -/
def readWord? (t : Text) : Option (Json × Text) :=
  (words.find? fun w => w.1.isPrefixOf t).map fun w => (w.2, t.drop w.1.length)

/-- Reads a value whose brackets are nested at most `depth` deep; `fuel`
bounds the number of elements of one bracket. -/
def readValue (fuel : Nat) : Nat → Reader Json
  | depth, t =>
    match t with
    | .scalar '"' :: r => (readString t.length r).map fun (s, rest) => (.str s, rest)
    | .scalar '[' :: r =>
      match depth with
      | 0 => .error (.tooDeep .array)
      | depth + 1 => readBracketed fuel (readValue fuel depth) .array r
    | .scalar '{' :: r =>
      match depth with
      | 0 => .error (.tooDeep .object)
      | depth + 1 => readBracketed fuel (readValue fuel depth) .object r
    | _ =>
      match readWord? t with
      | some found => .ok found
      | none =>
        match t with
        | .scalar '-' :: r => readUnsigned true t.length r
        | _ => readUnsigned false t.length t

/-- Reads a text that is one value between blanks. -/
def readDocument (depth : Nat) (t : Text) : Except Stop Json :=
  match t with
  | .scalar '\uFEFF' :: _ => .error (.fault .byteOrderMark t.length)
  | _ =>
    match readValue (t.length + 1) depth (skipBlanks t) with
    | .error e => .error e
    | .ok (j, rest) =>
      match skipBlanks rest with
      | [] => .ok j
      | r => .error (.fault .extraData r.length)

/-! ## Errors as they are reported -/

/-- Why a text is not JSON. -/
inductive ReadError where
  | malformed (fault : SyntaxFault) (line column position : Nat)
  | tooManyDigits (count : Nat)
  | tooDeep (b : Bracket)
  deriving DecidableEq, Repr

/-- The line and the column, both counted from one, of an index into a text. -/
def lineColumn (t : Text) (position : Nat) : Nat × Nat :=
  let before := t.take position
  (before.count (.scalar '\n') + 1,
    (before.reverse.takeWhile (· != .scalar '\n')).length + 1)

/-- A failure with its place in the text that was read. -/
def Stop.located (t : Text) : Stop → ReadError
  | .fault f left =>
    let position := t.length - left
    let (line, column) := lineColumn t position
    .malformed f line column position
  | .tooManyDigits n => .tooManyDigits n
  | .tooDeep b => .tooDeep b

/-- Reads a text whose brackets are nested at most `depth` deep. -/
def readNested (depth : Nat) (t : Text) : Except ReadError Json :=
  (readDocument depth t).mapError (Stop.located t)

/-- Reads a text. -/
def read (t : Text) : Except ReadError Json := readNested t.length t

/-- How deep a text can usually be nested before a reader gives up.  It depends on the interpreter
and on where the reader is called, so this is only what is assumed where nothing else is said. -/
def usualNesting : Nat := 950

/-- The wording of a fault. -/
def SyntaxFault.text : SyntaxFault → String
  | .expectingValue => "Expecting value"
  | .expectingName => "Expecting property name enclosed in double quotes"
  | .expectingColon => "Expecting ':' delimiter"
  | .expectingComma => "Expecting ',' delimiter"
  | .unterminatedString => "Unterminated string starting at"
  | .invalidControl => "Invalid control character at"
  | .invalidEscape => "Invalid \\escape"
  | .invalidUnicodeEscape => "Invalid \\uXXXX escape"
  | .extraData => "Extra data"
  | .byteOrderMark => "Unexpected UTF-8 BOM (decode using utf-8-sig)"

/-- The message of an error. -/
def ReadError.message : ReadError → String
  | .malformed f line column position =>
    s!"{f.text}: line {line} column {column} (char {position})"
  | .tooManyDigits n =>
    s!"Exceeds the limit ({maxDigits} digits) for integer string conversion: value has {n} digits; use sys.set_int_max_str_digits() to increase the limit"
  | .tooDeep .array =>
    "maximum recursion depth exceeded while decoding a JSON array from a unicode string"
  | .tooDeep .object =>
    "maximum recursion depth exceeded while decoding a JSON object from a unicode string"

/-! ## Examples -/

example : read "[1, 1.0, \"\\ud83d\\ude00\"]" = .ok (.arr [.int 1,
    .float (Binary64.ofDecimal false ⟨1, 0⟩), .str "😀"]) := by cbv
example : read "\x7b\"a\": 1, \"b\": 2, \"a\": 3\x7d"
    = .ok (.object [("a", .int 3), ("b", .int 2)]) := by cbv
example : read "\x7b\"a\": 1,\x7d" = .error (.malformed .expectingName 1 9 8) := by cbv

end CommandBridge.Json
