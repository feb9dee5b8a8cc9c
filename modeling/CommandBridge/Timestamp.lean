/-!
# CommandBridge.Timestamp

Readings of the wall clock and their text.  A reading is a number of
microseconds since the start of 1970, UTC; its text is

    YYYY-MM-DDThh:mm:ss.ffffff+00:00

where the fraction is left out when it is zero.  Years run from 1 to 9999;
an earlier reading counts as the start of year 1.
-/

namespace CommandBridge

/-- A wall clock reading in microseconds since the start of 1970, UTC. -/
structure Timestamp where
  micros : Int
  deriving DecidableEq, Repr, Inhabited

namespace Timestamp

/-! ## Calendar -/

/-- The number of days in the first `y` years, year 1 being the first. -/
def daysInYears (y : Nat) : Nat := 365 * y + y / 4 - y / 100 + y / 400

/-- The number of whole years in the first `d` days. -/
def yearsInDays (d : Nat) : Nat :=
  let q := 400 * d / 146097
  if d < daysInYears q then q - 1 else if daysInYears (q + 1) ≤ d then q + 1 else q

/-- The years counted by `yearsInDays` are exactly those that have passed. -/
theorem yearsInDays_bounds (d : Nat) :
    daysInYears (yearsInDays d) ≤ d ∧ d < daysInYears (yearsInDays d + 1) := by
  unfold yearsInDays daysInYears
  simp only
  split
  · omega
  · split <;> omega

/-- Whether a year has a leap day. -/
def isLeap (year : Nat) : Bool := year % 4 = 0 && (year % 100 ≠ 0 || year % 400 = 0)

/-- The lengths of the months of a year. -/
def monthLengths (year : Nat) : List Nat :=
  [31, if isLeap year then 29 else 28, 31, 30, 31, 30, 31, 31, 30, 31, 30, 31]

/-- The month and the day, both counted from one, of the `d`-th day of a year,
counted from zero. -/
def monthDay : List Nat → Nat → Nat × Nat
  | [], d => (1, d + 1)
  | n :: rest, d =>
    if d < n then (1, d + 1) else let (m, day) := monthDay rest (d - n); (m + 1, day)

/-! ## Text -/

/-- The digits of a number, padded with zeros to a width. -/
def padded (width n : Nat) : List Char :=
  let ds := Nat.toDigits 10 n
  List.replicate (width - ds.length) '0' ++ ds

/-- Microseconds from the start of year 1 to the start of 1970. -/
def epoch : Int := 62135596800000000

/-- Microseconds since the start of year 1. -/
def elapsed (t : Timestamp) : Nat := (t.micros + epoch).toNat

/-- The text of a date, given as a number of days since the start of year 1. -/
def dateChars (days : Nat) : List Char :=
  let years := yearsInDays days
  let (month, day) := monthDay (monthLengths (years + 1)) (days - daysInYears years)
  padded 4 (years + 1) ++ '-' :: padded 2 month ++ '-' :: padded 2 day

/-- The text of a time of day, given in seconds. -/
def clockChars (seconds : Nat) : List Char :=
  padded 2 (seconds / 3600) ++ ':' :: padded 2 (seconds / 60 % 60) ++ ':' :: padded 2 (seconds % 60)

/-- The text of a fraction of a second, given in microseconds. -/
def fractionChars (micros : Nat) : List Char :=
  if micros = 0 then [] else '.' :: padded 6 micros

/-- The characters of a reading's text. -/
def chars (t : Timestamp) : List Char :=
  let seconds := t.elapsed / 1000000
  dateChars (seconds / 86400) ++ 'T' :: clockChars (seconds % 86400)
    ++ fractionChars (t.elapsed % 1000000) ++ ['+', '0', '0', ':', '0', '0']

/-- The text of a reading. -/
def text (t : Timestamp) : String := String.ofList t.chars

example : text ⟨0⟩ = "1970-01-01T00:00:00+00:00" := by decide +kernel
example : text ⟨1709251199999999⟩ = "2024-02-29T23:59:59.999999+00:00" := by decide +kernel
example : text ⟨253402300799999999⟩ = "9999-12-31T23:59:59.999999+00:00" := by decide +kernel

end Timestamp

end CommandBridge
