/-!
# CommandBridge.Binary64.Basic

Double-precision numbers as plain data.  The finite magnitudes are counted
from zero upward, `2047 * 2 ^ 52` of them: magnitude `i` is `i * 2 ^ -1074` in
the first two binades, and in general the quotient and the remainder of `i` by
`2 ^ 52` are its exponent field and its fraction.  Counting makes every
number have one representation and makes "the next number" a successor.

`ofQuotient` rounds an exact quotient to the nearest number, a tie to the one
with the even fraction, and beyond the largest number to infinity.
-/

namespace CommandBridge

/-- How many finite magnitudes there are. -/
def Binary64.finiteCount : Nat := 2047 <<< 52

/-- A double-precision number; zero and infinity are signed, and there is one NaN. -/
inductive Binary64 where
  | nan
  | infinite (negative : Bool)
  | finite (negative : Bool) (magnitude : Fin Binary64.finiteCount)
  deriving DecidableEq, Repr

namespace Binary64

/-- Zero with a sign. -/
def zero (negative : Bool) : Binary64 := .finite negative ⟨0, by decide⟩

/-- The number at a place in the count of magnitudes, infinity beyond its end. -/
def ofMagnitude (negative : Bool) (i : Nat) : Binary64 :=
  if h : i < finiteCount then .finite negative ⟨i, h⟩ else .infinite negative

/-- Whether a number is neither infinite nor NaN. -/
def isFinite : Binary64 → Bool
  | .finite _ _ => true
  | _ => false

/-- Whether a number is greater than zero. -/
def isPositive : Binary64 → Bool
  | .nan => false
  | .infinite negative => !negative
  | .finite negative m => !negative && m.val != 0

/-- A magnitude as an exact quotient of two naturals, the second positive. -/
def quotient (m : Fin finiteCount) : Nat × Nat :=
  let exponent := m.val >>> 52
  let fraction := m.val % (1 <<< 52)
  if exponent = 0 then (fraction, 1 <<< 1074)
  else if exponent < 1075 then ((1 <<< 52) + fraction, 1 <<< (1075 - exponent))
  else (((1 <<< 52) + fraction) <<< (exponent - 1075), 1)

/-! ## Rounding -/

/-- The natural nearest to `num / den`, a tie going to the even one. -/
def roundHalfEven (num den : Nat) : Nat :=
  let q := num / den
  let r := num % den
  if 2 * r < den then q
  else if den < 2 * r then q + 1
  else if q % 2 = 0 then q else q + 1

/-- `num / den` divided by `2 ^ e`, as a quotient. -/
def scaleDown (num den : Nat) (e : Int) : Nat × Nat :=
  if 0 ≤ e then (num, den <<< e.toNat) else (num <<< (-e).toNat, den)

/-- The exponent of the spacing of the numbers around `num / den`: the quotient
has 53 binary digits before the point once divided by its power, and it is
never below that of the subnormal numbers. -/
def spacing (num den : Nat) : Int :=
  let e := max ((Nat.log2 num : Int) - Nat.log2 den - 53) (-1074)
  let (a, b) := scaleDown num den e
  if 1 <<< 53 ≤ a / b then e + 1 else e

/-- The number nearest to `num / den` with a sign; `den` is positive. -/
def ofQuotient (negative : Bool) (num den : Nat) : Binary64 :=
  if num = 0 then zero negative
  else
    let e := spacing num den
    let (a, b) := scaleDown num den e
    ofMagnitude negative (((e + 1074).toNat <<< 52) + roundHalfEven a b)

/-- The number nearest to an integer, unless that is infinite. -/
def ofInt? (i : Int) : Option Binary64 :=
  match ofQuotient (i < 0) i.natAbs 1 with
  | .infinite _ => none
  | x => some x

/-- A number divided by a positive natural. -/
def divNat (x : Binary64) (n : Nat) : Binary64 :=
  match x with
  | .finite negative m => let (a, b) := quotient m; ofQuotient negative a (b * n)
  | x => x

/-- The natural nearest to a number times `unit`; negative numbers give zero,
and infinity more than any span of time that is ever waited for. -/
def scaled (unit : Nat) : Binary64 → Nat
  | .finite false m => let (a, b) := quotient m; roundHalfEven (a * unit) b
  | .infinite false => unit * Nat.pow 10 30
  | _ => 0

/-- The integer a number is equal to. -/
def toInt? : Binary64 → Option Int
  | .finite negative m =>
    let (a, b) := quotient m
    if a % b = 0 then some (if negative then -(a / b : Nat) else (a / b : Nat)) else none
  | _ => none

end Binary64

end CommandBridge
