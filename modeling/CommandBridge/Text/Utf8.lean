import CommandBridge.Text.CodePoint

/-!
# CommandBridge.Text.Utf8

UTF-8, written and read.  Reading goes one character at a time: `step` says
which character the bytes begin with, or which of the three ways they fail and
how many bytes belong to the failure.  The readers differ only in what they do
with a failure:

1. `decode` stops and reports it, with its position;
2. `decodeLossy` puts U+FFFD in its place;
3. `decodeText` lets the three bytes of a surrogate stand for that surrogate,
   and stops at every other failure.

A text with surrogates has no bytes; `unencodable?` finds the first of them.
-/

namespace CommandBridge.Utf8

/-- The UTF-8 bytes of a character. -/
def encodeChar (c : Char) : List UInt8 :=
  let n := c.toNat
  if n < 0x80 then [n.toUInt8]
  else if n < 0x800 then [(0xC0 + n / 0x40).toUInt8, (0x80 + n % 0x40).toUInt8]
  else if n < 0x10000 then
    [(0xE0 + n / 0x1000).toUInt8, (0x80 + n / 0x40 % 0x40).toUInt8, (0x80 + n % 0x40).toUInt8]
  else
    [(0xF0 + n / 0x40000).toUInt8, (0x80 + n / 0x1000 % 0x40).toUInt8,
      (0x80 + n / 0x40 % 0x40).toUInt8, (0x80 + n % 0x40).toUInt8]

/-- The UTF-8 bytes of a string. -/
def encode (s : String) : List UInt8 := s.toList.flatMap encodeChar

/-! ## One character -/

/-- Why bytes do not begin with a character. -/
inductive Fault where
  | invalidStart
  | invalidContinuation
  | unexpectedEnd
  deriving DecidableEq, Repr

/-- What bytes begin with: a character followed by `extra` more of its bytes,
or a failure that takes up `extra` bytes after its first. -/
inductive Step where
  | char (c : Char) (extra : Nat)
  | bad (fault : Fault) (extra : Nat)
  deriving DecidableEq, Repr

/-- Whether a byte continues a character. -/
def isContinuation (b : UInt8) : Bool := 0x80 ≤ b && b < 0xC0

/-- The payload of a continuation byte. -/
def payload (b : UInt8) : Nat := b.toNat % 0x40

/-- Reads a character whose first byte is `lead` and whose second byte has to
lie between `low` and `high`; `want` continuation bytes follow the second. -/
def stepMultibyte (lead : Nat) (low high : UInt8) (want : Nat) (rest : List UInt8) : Step :=
  match want, rest with
  | _, [] => .bad .unexpectedEnd 0
  | 0, b :: _ =>
    if low ≤ b ∧ b ≤ high then .char (Char.ofNat (lead * 0x40 + payload b)) 1
    else .bad .invalidContinuation 0
  | 1, b :: r =>
    if low ≤ b ∧ b ≤ high then
      match r with
      | [] => .bad .unexpectedEnd 1
      | c :: _ =>
        if isContinuation c then .char (Char.ofNat ((lead * 0x40 + payload b) * 0x40 + payload c)) 2
        else .bad .invalidContinuation 1
    else .bad .invalidContinuation 0
  | _, b :: r =>
    if low ≤ b ∧ b ≤ high then
      match r with
      | [] => .bad .unexpectedEnd 1
      | [c] => if isContinuation c then .bad .unexpectedEnd 2 else .bad .invalidContinuation 1
      | c :: d :: _ =>
        if isContinuation c then
          if isContinuation d then
            .char (Char.ofNat
              (((lead * 0x40 + payload b) * 0x40 + payload c) * 0x40 + payload d)) 3
          else .bad .invalidContinuation 2
        else .bad .invalidContinuation 1
    else .bad .invalidContinuation 0

/-- What the bytes `b :: rest` begin with.  Overlong forms, surrogates and
numbers from `0x110000` on are refused by the bounds on the second byte. -/
def step (b : UInt8) (rest : List UInt8) : Step :=
  if b < 0x80 then .char (Char.ofNat b.toNat) 0
  else if b < 0xC2 then .bad .invalidStart 0
  else if b < 0xE0 then stepMultibyte (b.toNat - 0xC0) 0x80 0xBF 0 rest
  else if b = 0xE0 then stepMultibyte 0 0xA0 0xBF 1 rest
  else if b = 0xED then stepMultibyte 0xD 0x80 0x9F 1 rest
  else if b < 0xF0 then stepMultibyte (b.toNat - 0xE0) 0x80 0xBF 1 rest
  else if b = 0xF0 then stepMultibyte 0 0x90 0xBF 2 rest
  else if b < 0xF4 then stepMultibyte (b.toNat - 0xF0) 0x80 0xBF 2 rest
  else if b = 0xF4 then stepMultibyte 4 0x80 0x8F 2 rest
  else .bad .invalidStart 0

/-! ## Whole sequences -/

/-- Where and why bytes are not UTF-8: the bytes concerned start at `position`,
`first` is the first of them and `extra` more follow. -/
structure Malformed where
  position : Nat
  first : UInt8
  extra : Nat
  fault : Fault
  deriving DecidableEq, Repr

/-- The same failure seen from `n` bytes earlier. -/
def Malformed.shift (n : Nat) (e : Malformed) : Malformed := { e with position := n + e.position }

/-- The characters of a UTF-8 sequence, or the first failure in it. -/
def decode : List UInt8 → Except Malformed (List Char)
  | [] => .ok []
  | b :: rest =>
    match step b rest with
    | .char c extra =>
      match decode (rest.drop extra) with
      | .ok cs => .ok (c :: cs)
      | .error e => .error (e.shift (extra + 1))
    | .bad fault extra => .error ⟨0, b, extra, fault⟩
termination_by bs => bs.length
decreasing_by simp only [List.length_drop, List.length_cons]; omega

/-- The characters of bytes, with U+FFFD for every failure. -/
def decodeLossy : List UInt8 → List Char
  | [] => []
  | b :: rest =>
    match step b rest with
    | .char c extra => c :: decodeLossy (rest.drop extra)
    | .bad _ extra => '\uFFFD' :: decodeLossy (rest.drop extra)
termination_by bs => bs.length
decreasing_by all_goals simp only [List.length_drop, List.length_cons]; omega

/-- The surrogate that the bytes `b :: rest` spell in the three-byte form. -/
def surrogate? (b : UInt8) (rest : List UInt8) : Option (Fin 0x800) :=
  match rest with
  | c :: d :: _ =>
    if b = 0xED ∧ 0xA0 ≤ c ∧ c < 0xC0 ∧ isContinuation d then
      some (Fin.ofNat 0x800 ((payload c - 0x20) * 0x40 + payload d))
    else none
  | _ => none

/-- The text of bytes in which a surrogate may be spelled like a character. -/
def decodeText : List UInt8 → Except Malformed Text
  | [] => .ok []
  | b :: rest =>
    match step b rest with
    | .char c extra =>
      match decodeText (rest.drop extra) with
      | .ok cs => .ok (.scalar c :: cs)
      | .error e => .error (e.shift (extra + 1))
    | .bad fault extra =>
      match surrogate? b rest with
      | some u =>
        match decodeText (rest.drop 2) with
        | .ok cs => .ok (.surrogate u :: cs)
        | .error e => .error (e.shift 3)
      | none => .error ⟨0, b, extra, fault⟩
termination_by bs => bs.length
decreasing_by all_goals simp only [List.length_drop, List.length_cons]; omega

/-! ## Texts without bytes -/

/-- Where a text cannot be written: surrogates start at `position`, `first` is the
first of them and `extra` more follow at once. -/
structure Unencodable where
  position : Nat
  first : Fin 0x800
  extra : Nat
  deriving DecidableEq, Repr

/-- The number of surrogates that a text begins with. -/
def leadingSurrogates : Text → Nat
  | .surrogate _ :: r => leadingSurrogates r + 1
  | _ => 0

/-- The first surrogates of a text, if it holds any. -/
def unencodable? : Text → Option Unencodable
  | [] => none
  | .scalar _ :: r => (unencodable? r).map fun e => { e with position := e.position + 1 }
  | .surrogate u :: r => some ⟨0, u, leadingSurrogates r⟩

/-! ## Wording -/

/-- The wording of a failure. -/
def Fault.text : Fault → String
  | .invalidStart => "invalid start byte"
  | .invalidContinuation => "invalid continuation byte"
  | .unexpectedEnd => "unexpected end of data"

/-- Two lower-case hexadecimal digits. -/
def hexByte (b : UInt8) : String :=
  let d (n : Nat) : Char := (Nat.digitChar n)
  String.ofList [d (b.toNat / 16), d (b.toNat % 16)]

/-- The message about bytes that are not UTF-8: one byte is shown, several are
given by their positions. -/
def Malformed.message (e : Malformed) : String :=
  if e.extra = 0 then
    s!"'utf-8' codec can't decode byte 0x{hexByte e.first} in position {e.position}: {e.fault.text}"
  else
    s!"'utf-8' codec can't decode bytes in position {e.position}-{e.position + e.extra}: {e.fault.text}"

/-- The message about a text that has no bytes: one surrogate is shown, several are
given by their positions. -/
def Unencodable.message (e : Unencodable) : String :=
  if e.extra = 0 then
    let code := String.ofList (Nat.toDigits 16 (0xD800 + e.first.val))
    s!"'utf-8' codec can't encode character '\\u{code}' in position {e.position}: surrogates not allowed"
  else
    s!"'utf-8' codec can't encode characters in position {e.position}-{e.position + e.extra}: surrogates not allowed"

/-! ## Examples -/

example : decode [0x63, 0xC3, 0xA9] = .ok ['c', 'é'] := by cbv
example : decode [0xE2, 0x82] = .error ⟨0, 0xE2, 1, .unexpectedEnd⟩ := by cbv
example : decode [0x41, 0xED, 0xA0, 0x80] = .error ⟨1, 0xED, 0, .invalidContinuation⟩ := by cbv
example : decodeLossy [0xFF, 0x41] = ['\uFFFD', 'A'] := by cbv
example : decodeText [0xED, 0xA0, 0x80] = .ok [.surrogate 0] := by cbv
example : (unencodable? [.scalar 'a', .surrogate 0, .surrogate 1]).map Unencodable.message
    = some "'utf-8' codec can't encode characters in position 1-2: surrogates not allowed" := by
  decide +kernel

end CommandBridge.Utf8
