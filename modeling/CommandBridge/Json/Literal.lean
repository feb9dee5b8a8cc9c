import CommandBridge.Json.Writer
import CommandBridge.Text.Printable

/-!
# CommandBridge.Json.Literal

The notation in which messages quote values.

1. A string is quoted with `'`, or with `"` if it holds a `'` and no `"`.
2. A backslash and the quote in use are escaped, as are line feed, carriage
   return and tab; a code point that is not printable is given by number, in
   two, four or eight digits.
3. The words are `None`, `True`, `False`, `nan` and `inf`; brackets hold their
   parts with `, ` between them.

`plain` is the same notation, except that a string stands without quotes.
-/

namespace CommandBridge.Json

/-- The lower-case hexadecimal digits of a number, padded to a width. -/
def hexDigits (width n : Nat) : List Char :=
  let ds := Nat.toDigits 16 n
  List.replicate (width - ds.length) '0' ++ ds

/-- A code point inside a literal that is quoted with `q`. -/
def literalPoint (q : Char) (p : CodePoint) : List Char :=
  let n := p.toNat
  match p with
  | .surrogate _ => '\\' :: 'u' :: hexDigits 4 n
  | .scalar c =>
    if c = q ∨ c = '\\' then ['\\', c]
    else if c = '\n' then ['\\', 'n']
    else if c = '\r' then ['\\', 'r']
    else if c = '\t' then ['\\', 't']
    else if Printable.isPrintable n then [c]
    else if n < 0x100 then '\\' :: 'x' :: hexDigits 2 n
    else if n < 0x10000 then '\\' :: 'u' :: hexDigits 4 n
    else '\\' :: 'U' :: hexDigits 8 n

/-- The quote of a literal. -/
def literalQuote (t : Text) : Char :=
  if t.contains (.scalar '\'') && !t.contains (.scalar '"') then '"' else '\''

/-- A text as a literal. -/
def literalText (t : Text) : List Char :=
  let q := literalQuote t
  q :: t.flatMap (literalPoint q) ++ [q]

mutual

/-- The characters of a literal. -/
def literalChars : Json → List Char
  | .null => "None".toList
  | .bool true => "True".toList
  | .bool false => "False".toList
  | .int i => intText i
  | .float .nan => "nan".toList
  | .float (.infinite false) => "inf".toList
  | .float (.infinite true) => "-inf".toList
  | .float (.finite negative m) => Binary64.finiteText negative m
  | .str t => literalText t
  | .arr es => '[' :: literalElements es
  | .obj ms => '{' :: literalMembers ms

/-- The elements of an array and its closing bracket. -/
def literalElements : List Json → List Char
  | [] => [']']
  | [j] => literalChars j ++ [']']
  | j :: r => literalChars j ++ ',' :: ' ' :: literalElements r

/-- The members of an object and its closing brace. -/
def literalMembers : List (Text × Json) → List Char
  | [] => ['}']
  | [(k, j)] => literalText k ++ ':' :: ' ' :: literalChars j ++ ['}']
  | (k, j) :: r => literalText k ++ ':' :: ' ' :: literalChars j ++ ',' :: ' ' :: literalMembers r

end

/-- A value as a literal. -/
def literal (j : Json) : String := String.ofList (literalChars j)

/-- A value as a text: a string is itself, anything else its literal. -/
def plain : Json → Text
  | .str t => t
  | j => (literal j : Text)

/-- Several values as one literal: nothing, or the values between parentheses. -/
def literalTuple (js : List Json) : String :=
  "(" ++ ", ".intercalate (js.map literal) ++ ")"

example : literal (.string "it's") = "\"it's\"" := by decide +kernel
example : literal (.arr [.null, .bool true, .string "é\n"]) = "[None, True, 'é\\n']" := by
  decide +kernel

end CommandBridge.Json
