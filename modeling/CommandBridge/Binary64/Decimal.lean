import CommandBridge.Binary64.Basic

/-!
# CommandBridge.Binary64.Decimal

The decimal text of double-precision numbers.

1. `ofDecimal` reads a decimal as the number nearest to it.
2. `shortest` finds the decimal with the fewest digits that is read back as the
   number, the nearest of those; an exact tie goes to the even last digit.
3. `text` writes that decimal: positionally from `0.0001` up to sixteen digits
   before the point, with at least one digit after it, and otherwise as a
   mantissa and a signed exponent of at least two digits.
-/

namespace CommandBridge

/-- The decimal fraction `digits * 10 ^ exponent`. -/
structure Decimal where
  digits : Nat
  exponent : Int
  deriving DecidableEq, Repr

namespace Decimal

/-- How many digits a natural has; zero has one. -/
def width (n : Nat) : Nat := (Nat.toDigits 10 n).length

/-- A decimal as an exact quotient of two naturals. -/
def quotient (d : Decimal) : Nat × Nat :=
  if 0 ≤ d.exponent then (d.digits * Nat.pow 10 d.exponent.toNat, 1)
  else (d.digits, Nat.pow 10 (-d.exponent).toNat)

/-- The same decimal without zeros at the end of its digits. -/
def trim (d : Decimal) : Decimal := go (width d.digits) d
where
  /-- Drops at most `n` zeros. -/
  go : Nat → Decimal → Decimal
    | 0, d => d
    | n + 1, d =>
      if d.digits ≠ 0 ∧ d.digits % 10 = 0 then go n ⟨d.digits / 10, d.exponent + 1⟩ else d

end Decimal

namespace Binary64

/-- The number nearest to a decimal with a sign.  Decimals far outside the
range of the numbers are recognised by the place of their first digit. -/
def ofDecimal (negative : Bool) (d : Decimal) : Binary64 :=
  if d.digits = 0 then zero negative
  else if 400 < Decimal.width d.digits + d.exponent then .infinite negative
  else if Decimal.width d.digits + d.exponent < -400 then zero negative
  else let (a, b) := d.quotient; ofQuotient negative a b

/-! ## The shortest decimal -/

/-- The place of the first digit of the positive quotient `a / b`: it is at
least `10 ^ (place - 1)` and less than `10 ^ place`. -/
def leadingPlace (a b : Nat) : Int :=
  if b ≤ a then Decimal.width (a / b) else 1 - (Decimal.width ((b - 1) / a) : Int)

/-- The decimals of `count` digits next to `a / b` on either side, the nearer
one first and of two equally near ones the even one. -/
def neighbours (a b : Nat) (count : Nat) : List Decimal :=
  let exponent := leadingPlace a b - count
  let (n, d) :=
    if 0 ≤ exponent then (a, b * Nat.pow 10 exponent.toNat)
    else (a * Nat.pow 10 (-exponent).toNat, b)
  let low := n / d
  let nearest := roundHalfEven n d
  let other := if nearest = low then low + 1 else low
  [⟨nearest, exponent⟩, ⟨other, exponent⟩]

/-- The exact decimal of `a / b` for a power of two `b`. -/
def exactDecimal (a b : Nat) : Decimal :=
  let k := Nat.log2 b
  ⟨a * Nat.pow 5 k, -(k : Int)⟩

/-- The first decimal in order of digit count that is read back as the magnitude. -/
def shortest (m : Fin finiteCount) : Decimal :=
  let (a, b) := quotient m
  let candidates := (List.range 17).flatMap fun i => neighbours a b (i + 1)
  match candidates.find? fun d => ofDecimal false d = .finite false m with
  | some d => d.trim
  | none => exactDecimal a b

/-! ## Notation -/

/-- An exponent with its sign and at least two digits. -/
def exponentText (e : Int) : List Char :=
  let digits := Nat.toDigits 10 e.natAbs
  'e' :: (if e < 0 then '-' else '+') :: (if digits.length < 2 then '0' :: digits else digits)

/-- A decimal in positional or exponent notation. -/
def decimalText (d : Decimal) : List Char :=
  let digits := Nat.toDigits 10 d.digits
  let point : Int := digits.length + d.exponent
  if -4 < point ∧ point ≤ 16 then
    if point ≤ 0 then '0' :: '.' :: List.replicate (-point).toNat '0' ++ digits
    else if digits.length ≤ point then
      digits ++ List.replicate (point.toNat - digits.length) '0' ++ ['.', '0']
    else digits.take point.toNat ++ '.' :: digits.drop point.toNat
  else
    digits.take 1 ++ (if 1 < digits.length then '.' :: digits.drop 1 else [])
      ++ exponentText (point - 1)

/-- The text of a finite number. -/
def finiteText (negative : Bool) (m : Fin finiteCount) : List Char :=
  (if negative then ['-'] else []) ++ decimalText (if m.val = 0 then ⟨0, 0⟩ else shortest m)

/-! ## Examples -/

private def sample (digits : Nat) (exponent : Int) : String :=
  match ofDecimal false ⟨digits, exponent⟩ with
  | .finite n m => String.ofList (finiteText n m)
  | _ => ""

example : sample 1 (-1) = "0.1" := by decide +kernel
example : sample 5 (-324) = "5e-324" := by decide +kernel
example : sample 17976931348623157 292 = "1.7976931348623157e+308" := by decide +kernel
example : sample 1 16 = "1e+16" := by decide +kernel
example : sample 123456 0 = "123456.0" := by decide +kernel
example : sample 1 (-4) = "0.0001" := by decide +kernel

end Binary64

end CommandBridge
