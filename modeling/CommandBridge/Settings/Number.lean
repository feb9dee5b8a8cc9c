import CommandBridge.Json.Reader
import CommandBridge.Text.Blank

/-!
# CommandBridge.Settings.Number

Numbers as they are written in settings.

* An integer is a sign or none, digits, and perhaps a point with zeros after it. Between
  digits one underscore may stand; within leading zeros there may be more.
* A number is a sign or none, digits with or without a point, and perhaps an
  exponent; or `inf`, `infinity` or `nan` in any case.  Single underscores
  between its characters are dropped, but then there may be no blanks around it.
-/

namespace CommandBridge.Settings

/-- Whether a character may stand around a number: a blank that is no separator. -/
def isPadding (c : Char) : Bool := Blank.isBlank c && !Blank.isSeparator c

/-- Characters without the padding at either end. -/
def trimPadding (cs : List Char) : List Char := Blank.trimBy isPadding cs

/-- The sign at the front of a number, true for a minus, and what follows it. -/
def splitSign : List Char → Bool × List Char
  | '+' :: r => (false, r)
  | '-' :: r => (true, r)
  | cs => (false, cs)

/-- Characters without their underscores, if those stand between others and one
at a time. -/
def dropUnderscores? (cs : List Char) : Option (List Char) :=
  if cs.head? = some '_' ∨ cs.getLast? = some '_' ∨ (cs.zip cs.tail).contains ('_', '_') then none
  else some (cs.filter (· ≠ '_'))

/-- The natural that the characters spell, if all are decimal digits. -/
def natural? (cs : List Char) : Option Nat :=
  if cs.isEmpty ∨ !cs.all Char.isDigit then none
  else some (Json.ofDigits (cs.map fun c => c.toNat - '0'.toNat))

/-! ## Integers -/

/-- A number without its leading zeros; the last zero stays if nothing else does
or if a point follows it. -/
def dropLeadingZeros? : List Char → Option (List Char)
  | [] => none
  | '0' :: r => go '0' r
  | c :: r => if c.isDigit then some (c :: r) else none
where
  /-- Goes on after `previous`, which is a zero or an underscore. -/
  go (previous : Char) : List Char → Option (List Char)
    | [] => some [previous]
    | '.' :: r => some (previous :: '.' :: r)
    | c :: r =>
      if c = '0' ∨ c = '_' then go c r
      else if c.isDigit then some (c :: r)
      else none

/-- A number without a point and zeros at its end. -/
def dropZeroFraction? (cs : List Char) : Option (List Char) :=
  match cs.dropWhile (· ≠ '.') with
  | [] => some cs
  | _ :: fraction =>
    if fraction.isEmpty ∨ !fraction.all (· = '0') then none else some (cs.takeWhile (· ≠ '.'))

/-- The sign of an integer, true for a minus, and what should be its digits. -/
def integerParts? (s : String) : Option (Bool × List Char) := do
  let (negative, cs) := splitSign (trimPadding s.toList)
  return (negative, ← dropUnderscores? (← dropZeroFraction? (← dropLeadingZeros? cs)))

/-- How long an integer may be written. -/
def maxIntegerLength : Nat := 4300

/-- Whether an integer is written too long. -/
def isTooLong (parts : Bool × List Char) : Bool :=
  maxIntegerLength < parts.2.length + (if parts.1 then 1 else 0)

/-- The integer of a sign and digits. -/
def integer? (parts : Bool × List Char) : Option Int :=
  (natural? parts.2).map fun n => if parts.1 then -(n : Int) else n

/-- The integer that a text spells. -/
def readInt? (s : String) : Option Int := (integerParts? s).bind integer?

/-! ## Numbers with a fraction -/

/-- The exponent of a number, nothing being none. -/
def exponent? : List Char → Option Int
  | [] => some 0
  | c :: r =>
    if c = 'e' ∨ c = 'E' then
      let (negative, digits) := splitSign r
      (natural? digits).map fun n => if negative then -(n : Int) else n
    else none

/-- The number that unsigned characters spell. -/
def unsigned? (negative : Bool) (cs : List Char) : Option Binary64 :=
  let word := String.ofList (cs.map Char.toLower)
  if word = "inf" ∨ word = "infinity" then some (.infinite negative)
  else if word = "nan" then some .nan
  else
    let whole := cs.takeWhile Char.isDigit
    let rest := cs.dropWhile Char.isDigit
    let (fraction, rest) : List Char × List Char :=
      match rest with
      | '.' :: r => (r.takeWhile Char.isDigit, r.dropWhile Char.isDigit)
      | r => ([], r)
    match natural? (whole ++ fraction), exponent? rest with
    | some digits, some e => some (.ofDecimal negative ⟨digits, e - fraction.length⟩)
    | _, _ => none

/-- The number that characters spell. -/
def number? (cs : List Char) : Option Binary64 :=
  let (negative, cs) := splitSign cs
  unsigned? negative cs

/-- The number that a text spells. -/
def readNumber? (s : String) : Option Binary64 :=
  match number? (trimPadding s.toList) with
  | some x => some x
  | none => (dropUnderscores? s.toList).bind number?

example : readInt? " +1_000 " = some 1000 ∧ readInt? "007" = some 7 ∧ readInt? "12.0" = some 12
    ∧ readInt? "12." = none ∧ readInt? "1__0" = none ∧ readInt? "-0" = some 0 := by
  decide +kernel

end CommandBridge.Settings
