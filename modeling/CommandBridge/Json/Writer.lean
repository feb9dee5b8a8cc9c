import CommandBridge.Json.Basic
import CommandBridge.Binary64.Decimal

/-!
# CommandBridge.Json.Writer

The two written forms of JSON values.

* `write` gives ASCII text with a blank after every `,` and `:`.  Logs, request
  files, stored records and event frames use it.  It can write everything:
  infinite numbers and NaN have words of their own, and a code point outside
  printable ASCII is written as the `\uXXXX` escapes of its UTF-16 units.
* `writeCompact?` gives the text of HTTP bodies: no blanks, and characters
  above `U+001F` as they are.  It has no form for an infinite number or NaN, and none for
  a lone surrogate, as that has no UTF-8 bytes.

Both write values of any depth.  An interpreter gives up on what is nested too deep for its stack
here as well; other than for the reader (`readNested`), that limit is left out.
-/

namespace CommandBridge.Json

/-! ## Escapes -/

/-- The escape of a UTF-16 unit. -/
def escapeUnit (n : Nat) : List Char :=
  ['\\', 'u', Nat.digitChar (n / 0x1000 % 16), Nat.digitChar (n / 0x100 % 16),
    Nat.digitChar (n / 0x10 % 16), Nat.digitChar (n % 16)]

/-- The short escape of a character that has one. -/
def shortEscape? : Char → Option (List Char)
  | '"' => some ['\\', '"']
  | '\\' => some ['\\', '\\']
  | '\n' => some ['\\', 'n']
  | '\r' => some ['\\', 'r']
  | '\t' => some ['\\', 't']
  | '\x08' => some ['\\', 'b']
  | '\x0c' => some ['\\', 'f']
  | _ => none

/-- A code point inside an ASCII string literal. -/
def escapePoint : CodePoint → List Char
  | .scalar c =>
    match shortEscape? c with
    | some e => e
    | none =>
      if 0x20 ≤ c.toNat ∧ c.toNat < 0x7F then [c]
      else if c.toNat < 0x10000 then escapeUnit c.toNat
      else
        escapeUnit (0xD800 + (c.toNat - 0x10000) / 0x400)
          ++ escapeUnit (0xDC00 + (c.toNat - 0x10000) % 0x400)
  | .surrogate u => escapeUnit (0xD800 + u.val)

/-- An ASCII string literal. -/
def quote (t : Text) : List Char := '"' :: t.flatMap escapePoint ++ ['"']

/-- A character inside a string literal that keeps every character above `U+001F`. -/
def escapeControl (c : Char) : List Char :=
  match shortEscape? c with
  | some e => e
  | none => if c.toNat < 0x20 then escapeUnit c.toNat else [c]

/-! ## Numbers -/

/-- The digits of an integer. -/
def intText (i : Int) : List Char :=
  (if i < 0 then ['-'] else []) ++ Nat.toDigits 10 i.natAbs

/-- The text of a double-precision number. -/
def floatText : Binary64 → List Char
  | .nan => ['N', 'a', 'N']
  | .infinite false => ['I', 'n', 'f', 'i', 'n', 'i', 't', 'y']
  | .infinite true => ['-', 'I', 'n', 'f', 'i', 'n', 'i', 't', 'y']
  | .finite negative m => Binary64.finiteText negative m

/-! ## ASCII form -/

mutual

/-- The characters of the ASCII form. -/
def chars : Json → List Char
  | .null => ['n', 'u', 'l', 'l']
  | .bool true => ['t', 'r', 'u', 'e']
  | .bool false => ['f', 'a', 'l', 's', 'e']
  | .int i => intText i
  | .float x => floatText x
  | .str t => quote t
  | .arr es => '[' :: charsElements es
  | .obj ms => '{' :: charsMembers ms

/-- The elements of an array and its closing bracket. -/
def charsElements : List Json → List Char
  | [] => [']']
  | [j] => chars j ++ [']']
  | j :: r => chars j ++ ',' :: ' ' :: charsElements r

/-- The members of an object and its closing brace. -/
def charsMembers : List (Text × Json) → List Char
  | [] => ['}']
  | [(k, j)] => quote k ++ ':' :: ' ' :: chars j ++ ['}']
  | (k, j) :: r => quote k ++ ':' :: ' ' :: chars j ++ ',' :: ' ' :: charsMembers r

end

/-- The ASCII form. -/
def write (j : Json) : String := String.ofList (chars j)

/-! ## Compact form -/

/-- Why a value has no compact form. -/
inductive Unwritable where
  | nonFinite
  | surrogate
  deriving DecidableEq, Repr

/-- The string literal of a text without surrogates. -/
def quoteCompact? (t : Text) : Except Unwritable (List Char) :=
  match t.scalars? with
  | some cs => .ok ('"' :: cs.flatMap escapeControl ++ ['"'])
  | none => .error .surrogate

/-- Of two failures to write a value an infinite number counts first, as
surrogates are only met when the text is turned into bytes. -/
def joinCompact (a b : Except Unwritable (List Char)) : Except Unwritable (List Char) :=
  match a, b with
  | .ok x, .ok y => .ok (x ++ y)
  | .error .nonFinite, _ => .error .nonFinite
  | _, .error .nonFinite => .error .nonFinite
  | _, _ => .error .surrogate

mutual

/-- The characters of the compact form. -/
def compact? : Json → Except Unwritable (List Char)
  | .float x => if x.isFinite then .ok (floatText x) else .error .nonFinite
  | .str t => quoteCompact? t
  | .arr es => joinCompact (.ok ['[']) (compactElements? es)
  | .obj ms => joinCompact (.ok ['{']) (compactMembers? ms)
  | .null => .ok ['n', 'u', 'l', 'l']
  | .bool true => .ok ['t', 'r', 'u', 'e']
  | .bool false => .ok ['f', 'a', 'l', 's', 'e']
  | .int i => .ok (intText i)

/-- The elements of an array and its closing bracket. -/
def compactElements? : List Json → Except Unwritable (List Char)
  | [] => .ok [']']
  | [j] => joinCompact (compact? j) (.ok [']'])
  | j :: r => joinCompact (compact? j) (joinCompact (.ok [',']) (compactElements? r))

/-- The members of an object and its closing brace. -/
def compactMembers? : List (Text × Json) → Except Unwritable (List Char)
  | [] => .ok ['}']
  | [(k, j)] =>
    joinCompact (quoteCompact? k) (joinCompact (.ok [':']) (joinCompact (compact? j) (.ok ['}'])))
  | (k, j) :: r =>
    joinCompact (quoteCompact? k)
      (joinCompact (.ok [':']) (joinCompact (compact? j)
        (joinCompact (.ok [',']) (compactMembers? r))))

end

/-- The compact form, if the value has one. -/
def writeCompact? (j : Json) : Except Unwritable String := (compact? j).map String.ofList

/-! ## Examples -/

example : write (.object [("a", .arr [.int 1, .null]), ("é", .bool true)])
    = "\x7b\"a\": [1, null], \"\\u00e9\": true\x7d" := by decide +kernel
example : writeCompact? (.object [("a", .arr [.int 1, .null]), ("é", .bool true)])
    = .ok "\x7b\"a\":[1,null],\"é\":true\x7d" := by cbv
example : writeCompact? (.arr [.str [.surrogate 0], .float .nan]) = .error .nonFinite := by cbv

end CommandBridge.Json
