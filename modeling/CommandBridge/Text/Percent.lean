import CommandBridge.Text.Utf8

/-!
# CommandBridge.Text.Percent

Percent-encoding of the text in request paths.

1. An escape is `%` and two hexadecimal digits of either case, and stands for a byte.
2. Every ASCII character stands for its own byte; other characters stand for themselves.
3. The bytes of each maximal run without such another character have to be UTF-8.

`decode` is strict: a text that breaks the rules is kept as it is and flagged.
`decodeLossy` is what a server does to a whole path before it routes it:
malformed escapes stay and bytes that are not UTF-8 become U+FFFD.
-/

namespace CommandBridge.Percent

/-- The value of a hexadecimal digit of either case. -/
def hexValue? (c : Char) : Option Nat :=
  if '0' ≤ c ∧ c ≤ '9' then some (c.toNat - '0'.toNat)
  else if 'a' ≤ c ∧ c ≤ 'f' then some (c.toNat - 'a'.toNat + 10)
  else if 'A' ≤ c ∧ c ≤ 'F' then some (c.toNat - 'A'.toNat + 10)
  else none

/-- The byte of an escape with these two digits. -/
def escaped? (h l : Char) : Option UInt8 :=
  match hexValue? h, hexValue? l with
  | some a, some b => some (16 * a + b).toUInt8
  | _, _ => none

/-- What a path text is made of: bytes, and characters outside ASCII. -/
inductive Piece where
  | byte (b : UInt8)
  | literal (c : Char)
  deriving DecidableEq, Repr

/-- The piece of a character that is no part of an escape. -/
def Piece.ofChar (c : Char) : Piece :=
  if c.toNat < 0x80 then .byte c.toNat.toUInt8 else .literal c

/-- The pieces of a text, if every `%` in it begins an escape. -/
def pieces? : List Char → Option (List Piece)
  | [] => some []
  | '%' :: h :: l :: r =>
    match escaped? h l with
    | some b => (pieces? r).map (.byte b :: ·)
    | none => none
  | c :: r => if c = '%' then none else (pieces? r).map (Piece.ofChar c :: ·)

/-- The pieces of a text in which a `%` that begins no escape stands for itself. -/
def pieces : List Char → List Piece
  | [] => []
  | '%' :: h :: l :: r =>
    match escaped? h l with
    | some b => .byte b :: pieces r
    | none => .byte 0x25 :: pieces (h :: l :: r)
  | c :: r => Piece.ofChar c :: pieces r

/-- The characters of pieces: each maximal run of bytes is read by `read`.
`run` holds the bytes of the run that is open. -/
def assemble {m : Type → Type} [Monad m] (read : List UInt8 → m (List Char))
    (run : List UInt8) : List Piece → m (List Char)
  | [] => read run
  | .byte b :: r => assemble read (run ++ [b]) r
  | .literal c :: r => do
    let before ← read run
    let after ← assemble read [] r
    return before ++ c :: after

/-- The characters that a text encodes, if it is a percent-encoding. -/
def decodeChars? (cs : List Char) : Option (List Char) :=
  match pieces? cs with
  | none => none
  | some ps => assemble (fun bs => (Utf8.decode bs).toOption) [] ps

/-- A decoded text; `exact` says whether it was a percent-encoding, and not
kept as it came. -/
structure Decoded where
  value : String
  exact : Bool
  deriving DecidableEq, Repr

/-- Decodes a text strictly: one that is no percent-encoding is kept and flagged. -/
def decode (raw : String) : Decoded :=
  match decodeChars? raw.toList with
  | some cs => ⟨String.ofList cs, true⟩
  | none => ⟨raw, false⟩

/-- Decodes a parameter that may be absent; an absent one is empty. -/
def decodeOptional : Option String → Decoded
  | none => ⟨"", true⟩
  | some raw => decode raw

/-- Decodes a text as far as it goes. -/
def decodeLossy (raw : String) : String :=
  String.ofList (Id.run (assemble (fun bs => pure (Utf8.decodeLossy bs)) [] (pieces raw.toList)))

/-- The escape of a byte, with upper-case digits. -/
def escapeByte (b : UInt8) : List Char :=
  let d (n : Nat) : Char := (Nat.digitChar n).toUpper
  ['%', d (b.toNat / 16), d (b.toNat % 16)]

/-- A text with the UTF-8 bytes of every character outside `safe` escaped;
letters, digits and `_.-~` are never escaped. -/
def encode (safe : List Char) (s : String) : String :=
  String.ofList <| s.toList.flatMap fun c =>
    if c.isAlphanum || safe.contains c || ['_', '.', '-', '~'].contains c then [c]
    else (Utf8.encodeChar c).flatMap escapeByte

/-! ## Examples -/

example : decode "caf%C3%A9" = ⟨"café", true⟩ := by cbv
example : decode "%" = ⟨"%", false⟩ := by cbv
example : decode "%C3é%A9" = ⟨"%C3é%A9", false⟩ := by cbv
example : decodeLossy "100%-%ff" = "100%-\uFFFD" := by cbv
example : encode ['/'] "/a é" = "/a%20%C3%A9" := by cbv

end CommandBridge.Percent
