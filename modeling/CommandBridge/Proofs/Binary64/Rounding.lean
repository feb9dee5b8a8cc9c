import CommandBridge.Binary64.Decimal
import Mathlib.Algebra.Order.Field.Power
import Mathlib.Data.Int.Log
import Mathlib.Data.Rat.Floor
import Mathlib.Tactic.FieldSimp
import Mathlib.Tactic.GCongr
import Mathlib.Tactic.Positivity
import Mathlib.Tactic.Ring

/-!
# CommandBridge.Proofs.Binary64.Rounding

Rounding a quotient of naturals depends on its value only (`ofQuotient_mul`), and gives
every finite number back from its exact quotient (`ofQuotient_quotient`).

Both follow from `spacing_eq`: the spacing around a quotient is a function of the binary
logarithm of its value.
-/

namespace CommandBridge.Binary64

/-! ## The spacing of the numbers around a value -/

/-- A quotient lies between the powers that the logarithms of its parts give. -/
theorem log2_sub_bounds {a b : Nat} (ha : a ≠ 0) (hb : b ≠ 0) :
    (Nat.log2 a : Int) - Nat.log2 b - 1 ≤ Int.log 2 ((a : ℚ) / b) ∧
      Int.log 2 ((a : ℚ) / b) ≤ (Nat.log2 a : Int) - Nat.log2 b := by
  have ha₁ : (2 : ℚ) ^ Nat.log2 a ≤ a := by exact_mod_cast Nat.log2_self_le ha
  have ha₂ : (a : ℚ) < 2 ^ (Nat.log2 a + 1) := by exact_mod_cast Nat.lt_log2_self
  have hb₁ : (2 : ℚ) ^ Nat.log2 b ≤ b := by exact_mod_cast Nat.log2_self_le hb
  have hb₂ : (b : ℚ) < 2 ^ (Nat.log2 b + 1) := by exact_mod_cast Nat.lt_log2_self
  have ha₀ : (0 : ℚ) < a := by exact_mod_cast Nat.pos_of_ne_zero ha
  have hb₀ : (0 : ℚ) < b := by exact_mod_cast Nat.pos_of_ne_zero hb
  have hpos : (0 : ℚ) < (a : ℚ) / b := div_pos ha₀ hb₀
  constructor
  · rw [← Int.zpow_le_iff_le_log (by decide) hpos, le_div_iff₀ hb₀]
    calc ((2 : Nat) : ℚ) ^ ((Nat.log2 a : Int) - Nat.log2 b - 1) * b
        ≤ 2 ^ ((Nat.log2 a : Int) - Nat.log2 b - 1) * 2 ^ (Nat.log2 b + 1) := by
          push_cast
          gcongr
      _ = 2 ^ Nat.log2 a := by
          rw [← zpow_natCast, ← zpow_natCast, ← zpow_add₀ (by norm_num)]
          congr 1
          push_cast
          ring
      _ ≤ a := ha₁
  · rw [← Int.lt_add_one_iff, ← Int.lt_zpow_iff_log_lt (by decide) hpos, div_lt_iff₀ hb₀]
    calc (a : ℚ) < 2 ^ (Nat.log2 a + 1) := ha₂
      _ = 2 ^ ((Nat.log2 a : Int) - Nat.log2 b + 1) * 2 ^ Nat.log2 b := by
          rw [← zpow_natCast, ← zpow_natCast, ← zpow_add₀ (by norm_num)]
          congr 1
          push_cast
          ring
      _ ≤ ((2 : Nat) : ℚ) ^ ((Nat.log2 a : Int) - Nat.log2 b + 1) * b := by
          push_cast
          gcongr

/-- Scaling down divides the value by a power of two. -/
theorem scaleDown_div (a : Nat) {b : Nat} (hb : b ≠ 0) (e : Int) :
    (scaleDown a b e).2 ≠ 0 ∧
      ((scaleDown a b e).1 : ℚ) / (scaleDown a b e).2 = (a : ℚ) / b / 2 ^ e := by
  unfold scaleDown
  split
  · next he =>
    obtain ⟨n, rfl⟩ := Int.eq_ofNat_of_zero_le he
    simp only [Int.toNat_natCast, Nat.shiftLeft_eq, zpow_natCast]
    refine ⟨by positivity, ?_⟩
    push_cast
    rw [div_div]
  · next he =>
    obtain ⟨n, rfl⟩ : ∃ n : Nat, e = -n := ⟨(-e).toNat, by omega⟩
    simp only [neg_neg, Int.toNat_natCast, Nat.shiftLeft_eq, zpow_neg, zpow_natCast]
    refine ⟨hb, ?_⟩
    push_cast
    field_simp

/-- The spacing around a quotient: 52 binary digits below its first one, and never below that of
the subnormal numbers. -/
theorem spacing_eq {a b : Nat} (ha : a ≠ 0) (hb : b ≠ 0) :
    spacing a b = max (Int.log 2 ((a : ℚ) / b) - 52) (-1074) := by
  have hpos : (0 : ℚ) < (a : ℚ) / b := by positivity
  obtain ⟨hlow, hhigh⟩ := log2_sub_bounds ha hb
  let e : Int := max ((Nat.log2 a : Int) - Nat.log2 b - 53) (-1074)
  obtain ⟨hden, hvalue⟩ := scaleDown_div a hb e
  -- the quotient has a digit too many exactly if the logarithm says so
  have hdigit : 1 <<< 53 ≤ (scaleDown a b e).1 / (scaleDown a b e).2 ↔
      e + 53 ≤ Int.log 2 ((a : ℚ) / b) := by
    have hden' : (0 : ℚ) < (scaleDown a b e).2 := by exact_mod_cast Nat.pos_of_ne_zero hden
    have hpower : (0 : ℚ) < 2 ^ e := zpow_pos (by norm_num) e
    have hsplit : ((2 : Nat) : ℚ) ^ (e + 53) = 2 ^ 53 * 2 ^ e := by
      push_cast
      rw [zpow_add₀ (by norm_num), mul_comm]
      norm_cast
    rw [Nat.le_div_iff_mul_le (Nat.pos_of_ne_zero hden),
      ← Int.zpow_le_iff_le_log (by decide) hpos, hsplit, ← le_div_iff₀ hpower, ← hvalue,
      le_div_iff₀ hden']
    norm_cast
  have hspacing : spacing a b =
      if 1 <<< 53 ≤ (scaleDown a b e).1 / (scaleDown a b e).2 then e + 1 else e := rfl
  rw [hspacing]
  simp only [hdigit]
  have he : e = max ((Nat.log2 a : Int) - Nat.log2 b - 53) (-1074) := rfl
  split <;> omega

/-! ## Rounding -/

theorem roundHalfEven_mul {c : Nat} (hc : c ≠ 0) (a b : Nat) :
    roundHalfEven (a * c) (b * c) = roundHalfEven a b := by
  have hpos := Nat.pos_of_ne_zero hc
  have hquotient : a * c / (b * c) = a / b := Nat.mul_div_mul_right a b hpos
  have hremainder : a * c % (b * c) = a % b * c := Nat.mul_mod_mul_right c a b
  have hlow : 2 * (a % b * c) < b * c ↔ 2 * (a % b) < b := by
    rw [← Nat.mul_assoc]
    exact Nat.mul_lt_mul_right hpos
  have hhigh : b * c < 2 * (a % b * c) ↔ b < 2 * (a % b) := by
    rw [← Nat.mul_assoc]
    exact Nat.mul_lt_mul_right hpos
  simp only [roundHalfEven, hquotient, hremainder, hlow, hhigh]

theorem roundHalfEven_exact (n : Nat) {b : Nat} (hb : b ≠ 0) : roundHalfEven (n * b) b = n := by
  have hpos := Nat.pos_of_ne_zero hb
  simp [roundHalfEven, Nat.mul_div_cancel n hpos, hpos]

theorem scaleDown_mul (a b c : Nat) (e : Int) :
    scaleDown (a * c) (b * c) e = ((scaleDown a b e).1 * c, (scaleDown a b e).2 * c) := by
  unfold scaleDown
  split <;> simp only [Nat.shiftLeft_eq, Nat.mul_right_comm]

/-- Rounding a quotient does not depend on how it is written. -/
theorem ofQuotient_mul (negative : Bool) {a b c : Nat} (ha : a ≠ 0) (hb : b ≠ 0) (hc : c ≠ 0) :
    ofQuotient negative (a * c) (b * c) = ofQuotient negative a b := by
  have hac : a * c ≠ 0 := Nat.mul_ne_zero ha hc
  have hspacing : spacing (a * c) (b * c) = spacing a b := by
    have hc' : (c : ℚ) ≠ 0 := by exact_mod_cast hc
    rw [spacing_eq hac (Nat.mul_ne_zero hb hc), spacing_eq ha hb]
    push_cast
    rw [mul_div_mul_right _ _ hc']
  simp only [ofQuotient, if_neg hac, if_neg ha, hspacing, scaleDown_mul, roundHalfEven_mul hc]

/-- A value that is a multiple of the spacing around it is not rounded. -/
theorem ofQuotient_of_eq (negative : Bool) {a b n : Nat} {e : Int} (ha : a ≠ 0) (hb : b ≠ 0)
    (hvalue : (a : ℚ) / b = n * 2 ^ e) (hn : n < 2 ^ 53)
    (he : e = -1074 ∨ (-1074 ≤ e ∧ 2 ^ 52 ≤ n)) :
    ofQuotient negative a b = ofMagnitude negative (((e + 1074).toNat <<< 52) + n) := by
  have hpower : (0 : ℚ) < 2 ^ e := zpow_pos (by norm_num) e
  have hpos : (0 : ℚ) < (a : ℚ) / b := by positivity
  have hupper : Int.log 2 ((a : ℚ) / b) < e + 53 := by
    rw [← Int.lt_zpow_iff_log_lt (by decide) hpos, hvalue]
    push_cast
    rw [zpow_add₀ (by norm_num), mul_comm]
    gcongr
    exact_mod_cast hn
  have hspacing : spacing a b = e := by
    rw [spacing_eq ha hb]
    rcases he with rfl | ⟨he, hlow⟩
    · omega
    · have hlower : e + 52 ≤ Int.log 2 ((a : ℚ) / b) := by
        rw [← Int.zpow_le_iff_le_log (by decide) hpos, hvalue]
        push_cast
        rw [zpow_add₀ (by norm_num), mul_comm]
        gcongr
        exact_mod_cast hlow
      omega
  obtain ⟨hden, hscaled⟩ := scaleDown_div a hb e
  have hexact : (scaleDown a b e).1 = n * (scaleDown a b e).2 := by
    have hden' : ((scaleDown a b e).2 : ℚ) ≠ 0 := by exact_mod_cast hden
    rw [hvalue, mul_div_assoc, div_self hpower.ne', mul_one, div_eq_iff hden'] at hscaled
    exact_mod_cast hscaled
  simp only [ofQuotient, if_neg ha, hspacing]
  rw [hexact, roundHalfEven_exact n hden]

/-- A magnitude by its exponent and its fraction. -/
theorem magnitude_eq (m : Fin finiteCount) :
    m.val = 2 ^ 52 * (m.val >>> 52) + m.val % 2 ^ 52 ∧ m.val % 2 ^ 52 < 2 ^ 52 := by
  rw [Nat.shiftRight_eq_div_pow]
  exact ⟨(Nat.div_add_mod _ _).symm, Nat.mod_lt _ (by decide)⟩

theorem div_shiftLeft (n k : Nat) : (n : ℚ) / (1 <<< k : Nat) = n * 2 ^ (-(k : Int)) := by
  rw [Nat.shiftLeft_eq, zpow_neg, zpow_natCast, div_eq_mul_inv]
  push_cast
  rw [one_mul]

theorem shiftLeft_ne_zero (k : Nat) : 1 <<< k ≠ 0 := by
  rw [Nat.shiftLeft_eq, Nat.one_mul]
  exact pow_ne_zero k (by decide)

/-- The exact quotient of a magnitude as a multiple of the spacing around it. -/
theorem quotient_eq (m : Fin finiteCount) :
    (quotient m).2 ≠ 0 ∧ ∃ (n : Nat) (e : Int),
      ((quotient m).1 : ℚ) / (quotient m).2 = n * 2 ^ e ∧ n < 2 ^ 53 ∧
      (e = -1074 ∨ (-1074 ≤ e ∧ 2 ^ 52 ≤ n)) ∧ ((e + 1074).toNat <<< 52) + n = m.val := by
  obtain ⟨hm, hfraction⟩ := magnitude_eq m
  have hone : (1 <<< 52 : Nat) = 2 ^ 52 := rfl
  unfold quotient
  simp only [hone]
  by_cases hzero : m.val >>> 52 = 0
  · rw [if_pos hzero]
    refine ⟨shiftLeft_ne_zero 1074, m.val % 2 ^ 52, -((1074 : Nat) : Int), div_shiftLeft _ _,
      by omega, .inl rfl, ?_⟩
    simp only [Nat.shiftLeft_eq]; omega
  · rw [if_neg hzero]
    by_cases hsmall : m.val >>> 52 < 1075
    · rw [if_pos hsmall]
      refine ⟨shiftLeft_ne_zero _, 2 ^ 52 + m.val % 2 ^ 52,
        -((1075 - m.val >>> 52 : Nat) : Int), div_shiftLeft _ _, by omega,
        .inr ⟨by omega, by omega⟩, ?_⟩
      simp only [Nat.shiftLeft_eq]; omega
    · rw [if_neg hsmall]
      refine ⟨Nat.one_ne_zero, 2 ^ 52 + m.val % 2 ^ 52, ((m.val >>> 52 - 1075 : Nat) : Int),
        ?_, by omega, .inr ⟨by omega, by omega⟩, ?_⟩
      · rw [zpow_natCast, Nat.shiftLeft_eq]
        push_cast
        rw [div_one]
      · simp only [Nat.shiftLeft_eq]; omega

/-- Every positive finite number is the one nearest to its exact quotient. -/
theorem ofQuotient_quotient (negative : Bool) {m : Fin finiteCount} (hm : m.val ≠ 0) :
    (quotient m).1 ≠ 0 ∧ (quotient m).2 ≠ 0 ∧
      ofQuotient negative (quotient m).1 (quotient m).2 = .finite negative m := by
  obtain ⟨hden, n, e, hvalue, hn, he, hplace⟩ := quotient_eq m
  have hn₀ : n ≠ 0 := by
    rintro rfl
    rcases he with rfl | ⟨-, he⟩
    · have hplace' : ((0 : Nat) <<< 52) + 0 = m.val := hplace
      rw [Nat.zero_shiftLeft] at hplace'
      exact hm hplace'.symm
    · omega
  have hnum : (quotient m).1 ≠ 0 := by
    intro hzero
    rw [hzero] at hvalue
    have hpower : (0 : ℚ) < 2 ^ e := zpow_pos (by norm_num) e
    have hn' : (0 : ℚ) < n := by exact_mod_cast Nat.pos_of_ne_zero hn₀
    simp [hn₀, hpower.ne'] at hvalue
  refine ⟨hnum, hden, ?_⟩
  rw [ofQuotient_of_eq negative hnum hden hvalue hn he, hplace, ofMagnitude, dif_pos m.isLt]

end CommandBridge.Binary64
