import CommandBridge.Timestamp
import Mathlib.Data.Nat.Digits.Defs
import Mathlib.Data.String.Basic
import Mathlib.Order.Monotone.Basic
import Mathlib.Tactic.IntervalCases

/-!
# CommandBridge.Proofs.Timestamp

Readings of the clock sort as text: between the start of year 1 and the end of year 9999 the text of
a reading is less than that of another if the reading is (`Timestamp.text_lt_text_iff`).

A text is put together from fields, the most significant one first, and every field is written so
that its texts differ before they end (`Precedes`).  So what follows a field is looked at only where
the field is the same, which is how numbers with a quotient and a remainder are ordered
(`Ascending.lex`, `Ascending.divMod`).  Padded numbers are made up of digits in that way, times of
day of padded numbers, and dates of years and of days in a year.  The fraction is the one field
whose text may be missing; where it is, a plus sign stands in the place of its point, and is less.
-/

namespace CommandBridge

/-! ## Texts that differ before they end -/

/-- Two texts go on in different ways after a common front, the first one with the lesser
character. -/
def Precedes (s t : List Char) : Prop :=
  ∃ front c d rest rest', s = front ++ c :: rest ∧ t = front ++ d :: rest' ∧ c < d

namespace Precedes

variable {s t : List Char}

theorem of_lt {c d : Char} (h : c < d) (rest rest' : List Char) :
    Precedes (c :: rest) (d :: rest') := ⟨[], c, d, rest, rest', rfl, rfl, h⟩

/-- Where two texts differ, it does not matter what comes after them. -/
theorem append (h : Precedes s t) (u v : List Char) : Precedes (s ++ u) (t ++ v) := by
  obtain ⟨front, c, d, rest, rest', rfl, rfl, hlt⟩ := h
  exact ⟨front, c, d, rest ++ u, rest' ++ v, by simp, by simp, hlt⟩

theorem prepend (h : Precedes s t) (u : List Char) : Precedes (u ++ s) (u ++ t) := by
  obtain ⟨front, c, d, rest, rest', rfl, rfl, hlt⟩ := h
  exact ⟨u ++ front, c, d, rest, rest', by simp, by simp, hlt⟩

theorem lt (h : Precedes s t) : s < t := by
  obtain ⟨front, c, d, rest, rest', rfl, rfl, hlt⟩ := h
  exact List.Lex.append_left _ (.rel hlt) front

end Precedes

/-! ## Texts of numbers -/

/-- The texts of all numbers below a bound are ordered as the numbers are. -/
def Ascending (f : Nat → List Char) (bound : Nat) : Prop :=
  ∀ m n, m < n → n < bound → Precedes (f m) (f n)

namespace Ascending

variable {f g : Nat → List Char} {bound k : Nat}

theorem cons (hf : Ascending f bound) (c : Char) : Ascending (fun n => c :: f n) bound :=
  fun m n hlt hn => (hf m n hlt hn).prepend [c]

/-- A text of two fields, of which the second one counts where the first ones are the same. -/
theorem lex (part rest : Nat → Nat) {g : Nat → Nat → List Char} {limit : Nat → Nat} {total : Nat}
    (hf : Ascending f bound) (hg : ∀ q, Ascending (g q) (limit q))
    (hpart : ∀ n < total, part n < bound) (hrest : ∀ n < total, rest n < limit (part n))
    (hlex : ∀ m n, m < n → n < total → part m < part n ∨ part m = part n ∧ rest m < rest n) :
    Ascending (fun n => f (part n) ++ g (part n) (rest n)) total := by
  intro m n hlt hn
  rcases hlex m n hlt hn with hless | ⟨heq, hless⟩
  · exact (hf _ _ hless (hpart n hn)).append _ _
  · show Precedes (f (part m) ++ g (part m) (rest m)) _
    rw [heq]
    exact (hg _ _ _ hless (hrest n hn)).prepend _

/-- A text that begins with a quotient and goes on with the remainder. -/
theorem divMod (hf : Ascending f bound) (hg : Ascending g k) (hk : 0 < k) :
    Ascending (fun n => f (n / k) ++ g (n % k)) (bound * k) := by
  refine lex (· / k) (· % k) hf (fun _ => hg)
    (fun n hn => Nat.div_lt_of_lt_mul (by rwa [Nat.mul_comm])) (fun n _ => Nat.mod_lt n hk)
    fun m n hlt _ => ?_
  rcases (Nat.div_le_div_right hlt.le : m / k ≤ n / k).lt_or_eq with hless | heq
  · exact .inl hless
  · refine .inr ⟨heq, ?_⟩
    have hm := Nat.div_add_mod m k
    have hn := Nat.div_add_mod n k
    rw [heq] at hm
    omega

end Ascending

namespace Timestamp

/-! ## Padded numbers -/

theorem padded_one {n : Nat} (h : n < 10) : padded 1 n = [Nat.digitChar n] := by
  rw [padded, Nat.toDigits_of_lt_base h]
  rfl

/-- The last digit comes off the end of a padded number. -/
theorem padded_succ (w n : Nat) :
    padded (w + 2) n = padded (w + 1) (n / 10) ++ [Nat.digitChar (n % 10)] := by
  unfold padded
  rw [Nat.toDigits_eq_if (by decide)]
  split
  · next h =>
    rw [Nat.div_eq_of_lt h, Nat.mod_eq_of_lt h, Nat.toDigits_zero]
    show List.replicate (w + 1) '0' ++ _ = List.replicate w '0' ++ ['0'] ++ _
    rw [List.replicate_succ']
  · simp [List.append_assoc]

theorem digitChar_lt_digitChar {m n : Nat} (hlt : m < n) (hn : n < 10) :
    Nat.digitChar m < Nat.digitChar n := by
  rw [Char.lt_def, UInt32.lt_iff_toNat_lt]
  show (Nat.digitChar m).toNat < (Nat.digitChar n).toNat
  rw [Nat.toNat_digitChar_of_lt_ten (hlt.trans hn), Nat.toNat_digitChar_of_lt_ten hn]
  omega

theorem ascending_digit : Ascending (fun n => [Nat.digitChar n]) 10 :=
  fun _ _ hlt hn => .of_lt (digitChar_lt_digitChar hlt hn) [] []

/-- Numbers with as many digits as there is room for are ordered as their texts are. -/
theorem ascending_padded (w : Nat) : Ascending (padded (w + 1)) (10 ^ (w + 1)) := by
  induction w with
  | zero =>
      intro m n hlt hn
      rw [padded_one (hlt.trans hn), padded_one hn]
      exact ascending_digit m n hlt hn
  | succ w ih =>
      rw [funext (padded_succ w)]
      exact ih.divMod ascending_digit (by decide)

/-! ## Times of day -/

theorem ascending_clockChars : Ascending clockChars 86400 := by
  have htwo : ∀ n ≤ 100, Ascending (padded 2) n := fun n hn m k hlt hk =>
    ascending_padded 1 m k hlt (by omega)
  have hminutes : Ascending (fun n => padded 2 (n / 60) ++ ':' :: padded 2 (n % 60)) (24 * 60) :=
    (htwo 24 (by decide)).divMod ((htwo 60 (by decide)).cons ':') (by decide)
  have hseconds := hminutes.divMod ((htwo 60 (by decide)).cons ':') (by decide)
  intro m n hlt hn
  have hclock : ∀ s, clockChars s =
      (padded 2 (s / 60 / 60) ++ ':' :: padded 2 (s / 60 % 60)) ++ ':' :: padded 2 (s % 60) := by
    intro s
    rw [Nat.div_div_eq_div_mul]
    rfl
  rw [hclock, hclock]
  exact hseconds m n hlt hn

/-! ## Dates -/

theorem monthDay_bounds {lengths : List Nat} {d : Nat} (h : d < lengths.sum) :
    (monthDay lengths d).1 ≤ lengths.length ∧
      ∃ n ∈ lengths, (monthDay lengths d).2 ≤ n := by
  induction lengths generalizing d with
  | nil => simp at h
  | cons n rest ih =>
      rw [List.sum_cons] at h
      rw [monthDay, List.length_cons]
      split
      · next hlt => exact ⟨by simp, n, by simp, hlt⟩
      · next hge =>
        obtain ⟨hmonth, k, hk, hday⟩ := ih (d := d - n) (by omega)
        exact ⟨by simpa using hmonth, k, List.mem_cons_of_mem n hk, hday⟩

/-- A later day of a year is in a later month, or later in the same month. -/
theorem monthDay_lex {lengths : List Nat} {d e : Nat} (hlt : d < e) (he : e < lengths.sum) :
    (monthDay lengths d).1 < (monthDay lengths e).1 ∨
      (monthDay lengths d).1 = (monthDay lengths e).1 ∧
        (monthDay lengths d).2 < (monthDay lengths e).2 := by
  have hpos : ∀ (l : List Nat) d, 1 ≤ (monthDay l d).1 := by
    intro l d
    cases l with
    | nil => simp [monthDay]
    | cons n rest => rw [monthDay]; split <;> simp
  induction lengths generalizing d e with
  | nil => simp at he
  | cons n rest ih =>
      rw [List.sum_cons] at he
      rw [monthDay, monthDay]
      by_cases hd : d < n <;> by_cases he' : e < n
      · rw [if_pos hd, if_pos he']
        exact .inr ⟨rfl, Nat.succ_lt_succ hlt⟩
      · have := hpos rest (e - n)
        simp only [if_pos hd, if_neg he']
        omega
      · omega
      · have := ih (d := d - n) (e := e - n) (by omega) (by omega)
        simp only [if_neg hd, if_neg he']
        omega

theorem sum_monthLengths (year : Nat) :
    (monthLengths year).sum = 365 + if isLeap year then 1 else 0 := by
  rw [monthLengths]
  cases isLeap year <;> rfl

/-- A year is as long as its months are together. -/
theorem daysInYears_succ (y : Nat) :
    daysInYears (y + 1) = daysInYears y + (monthLengths (y + 1)).sum := by
  have hcenturies : y / 100 ≤ y / 4 := Nat.div_le_div_left (by decide) (by decide)
  have h100 : 100 ∣ y + 1 → 4 ∣ y + 1 := Nat.dvd_trans (by decide)
  have h400 : 400 ∣ y + 1 → 100 ∣ y + 1 := Nat.dvd_trans (by decide)
  have hleap : isLeap (y + 1) = decide (4 ∣ y + 1 ∧ (¬ 100 ∣ y + 1 ∨ 400 ∣ y + 1)) := by
    simp only [isLeap, Nat.dvd_iff_mod_eq_zero, Bool.decide_and, Bool.decide_or, ne_eq]
  rw [sum_monthLengths, hleap, daysInYears, daysInYears, Nat.succ_div, Nat.succ_div, Nat.succ_div]
  generalize y / 4 = fours, y / 100 = centuries, y / 400 = quads at *
  by_cases h4 : 4 ∣ y + 1 <;> by_cases hc : 100 ∣ y + 1 <;> by_cases hq : 400 ∣ y + 1 <;>
    simp_all <;> omega

theorem monotone_daysInYears : Monotone daysInYears :=
  monotone_nat_of_le_succ fun y => by rw [daysInYears_succ]; omega

theorem monotone_yearsInDays : Monotone yearsInDays := by
  intro m n hle
  obtain ⟨hm, -⟩ := yearsInDays_bounds m
  obtain ⟨-, hn⟩ := yearsInDays_bounds n
  by_contra hlt
  have := monotone_daysInYears (show yearsInDays n + 1 ≤ yearsInDays m by omega)
  omega

/-- The number of days until the end of year 9999. -/
def lastDay : Nat := daysInYears 9999

theorem yearsInDays_lt {d : Nat} (h : d < lastDay) : yearsInDays d < 9999 := by
  by_contra hge
  have hmono := monotone_daysInYears (show 9999 ≤ yearsInDays d by omega)
  have hle := (yearsInDays_bounds d).1
  rw [lastDay] at h
  omega

/-- The text of a day of a year, given by the lengths of its months. -/
def monthDayChars (lengths : List Nat) (d : Nat) : List Char :=
  padded 2 (monthDay lengths d).1 ++ '-' :: padded 2 (monthDay lengths d).2

theorem ascending_monthDayChars (year : Nat) :
    Ascending (monthDayChars (monthLengths year)) (monthLengths year).sum := by
  have hday : ∀ n ∈ monthLengths year, n < 100 := by
    rw [monthLengths]
    cases isLeap year <;> decide
  refine Ascending.lex (fun d => (monthDay (monthLengths year) d).1)
    (fun d => (monthDay (monthLengths year) d).2) (ascending_padded 1)
    (fun _ => (ascending_padded 1).cons '-') (fun d hd => ?_) (fun d hd => ?_)
    fun d e hlt he => monthDay_lex hlt he
  · exact (monthDay_bounds hd).1.trans_lt (by decide : 12 < 10 ^ 2)
  · obtain ⟨-, n, hn, hle⟩ := monthDay_bounds hd
    exact hle.trans_lt (hday n hn)

theorem ascending_dateChars : Ascending dateChars lastDay := by
  have hdate : dateChars = fun days => padded 4 (yearsInDays days + 1) ++
      '-' :: monthDayChars (monthLengths (yearsInDays days + 1))
        (days - daysInYears (yearsInDays days)) := by
    funext days
    simp [dateChars, monthDayChars]
  rw [hdate]
  have hyear : Ascending (fun y => padded 4 (y + 1)) 9999 := fun m n hlt hn =>
    ascending_padded 3 _ _ (Nat.succ_lt_succ hlt) (by omega)
  refine Ascending.lex yearsInDays (fun d => d - daysInYears (yearsInDays d)) hyear
    (fun y => (ascending_monthDayChars (y + 1)).cons '-') (fun d hd => yearsInDays_lt hd)
    (fun d _ => ?_) fun m n hlt _ => ?_
  · have hbounds := yearsInDays_bounds d
    rw [daysInYears_succ] at hbounds
    omega
  · rcases (monotone_yearsInDays hlt.le).lt_or_eq with hless | heq
    · exact .inl hless
    · have hstart := (yearsInDays_bounds m).1
      rw [heq] at hstart ⊢
      exact .inr ⟨rfl, by omega⟩

/-! ## Readings -/

/-- A reading between the start of year 1 and the end of year 9999. -/
def InCalendar (t : Timestamp) : Prop :=
  -epoch ≤ t.micros ∧ t.micros < 253402300800000000

instance (t : Timestamp) : Decidable t.InCalendar := inferInstanceAs (Decidable (_ ∧ _))

/-- Where the fraction is left out the text goes on with a plus sign, which is less than the point
of a fraction. -/
theorem ascending_fractionChars :
    Ascending (fun micros => fractionChars micros ++ ['+', '0', '0', ':', '0', '0']) 1000000 := by
  intro m n hlt hn
  simp only [fractionChars, if_neg (show n ≠ 0 by omega)]
  split
  · exact .of_lt (by decide) _ _
  · exact ((ascending_padded 5).cons '.' m n hlt hn).append _ _

/-- The text of a reading, given in microseconds since the start of year 1. -/
theorem ascending_chars :
    Ascending (fun e =>
        (dateChars (e / 1000000 / 86400) ++ 'T' :: clockChars (e / 1000000 % 86400)) ++
          (fractionChars (e % 1000000) ++ ['+', '0', '0', ':', '0', '0']))
      (lastDay * 86400 * 1000000) :=
  (ascending_dateChars.divMod (ascending_clockChars.cons 'T') (by decide)).divMod
    ascending_fractionChars (by decide)

theorem InCalendar.elapsed_lt {t : Timestamp} (ht : t.InCalendar) :
    t.elapsed < lastDay * 86400 * 1000000 := by
  have hlast : lastDay * 86400 * 1000000 = 315537897600000000 := by decide +kernel
  obtain ⟨-, hend⟩ := ht
  rw [hlast, elapsed, epoch]
  omega

theorem text_lt_text {a b : Timestamp} (ha : a.InCalendar) (hb : b.InCalendar)
    (h : a.micros < b.micros) : a.text < b.text := by
  have helapsed : a.elapsed < b.elapsed := by
    obtain ⟨hstart, -⟩ := ha
    rw [elapsed, elapsed]
    omega
  have hchars := ascending_chars a.elapsed b.elapsed helapsed hb.elapsed_lt
  rw [text, text, String.lt_iff_toList_lt, String.toList_ofList, String.toList_ofList, chars, chars]
  simpa using hchars.lt

/-- Different readings have different texts. -/
theorem text_injOn {a b : Timestamp} (ha : a.InCalendar) (hb : b.InCalendar)
    (h : a.text = b.text) : a = b := by
  rcases lt_trichotomy a.micros b.micros with hlt | heq | hgt
  · exact absurd h (text_lt_text ha hb hlt).ne
  · exact congrArg Timestamp.mk heq
  · exact absurd h (text_lt_text hb ha hgt).ne'

/-- Readings in the calendar are ordered as their texts are. -/
theorem text_lt_text_iff {a b : Timestamp} (ha : a.InCalendar) (hb : b.InCalendar) :
    a.text < b.text ↔ a.micros < b.micros := by
  refine ⟨fun h => ?_, text_lt_text ha hb⟩
  rcases lt_trichotomy a.micros b.micros with hlt | heq | hgt
  · exact hlt
  · rw [show a = b from congrArg Timestamp.mk heq] at h
    exact absurd h (lt_irrefl _)
  · exact absurd (h.trans (text_lt_text hb ha hgt)) (lt_irrefl _)

theorem text_le_text {a b : Timestamp} (ha : a.InCalendar) (hb : b.InCalendar)
    (h : a.micros ≤ b.micros) : a.text ≤ b.text := by
  by_contra hlt
  have := (text_lt_text_iff hb ha).mp (not_le.mp hlt)
  omega

/-! ## Clocks -/

/-- Readings of a clock that never goes back, until the end of year 9999. -/
structure Advancing (readings : List Timestamp) : Prop where
  inCalendar : ∀ t ∈ readings, t.InCalendar
  forward : readings.Pairwise fun t u => t.micros ≤ u.micros

/-- Their texts never go back either. -/
theorem Advancing.text_le {readings : List Timestamp} (h : Advancing readings) :
    readings.Pairwise fun t u => t.text ≤ u.text :=
  h.forward.imp_of_mem fun ht hu hle =>
    text_le_text (h.inCalendar _ ht) (h.inCalendar _ hu) hle

end Timestamp

end CommandBridge
