import CommandBridge.Proofs.Binary64.Rounding

/-!
# CommandBridge.Proofs.Binary64.Shortest

The decimal that is written for a number is read back as the number (`ofDecimal_shortest`).

Most decimals are found by trying, so nothing has to be shown about them but that
dropping zeros at their end does not change what they are read as (`ofDecimal_trim`).  Where
no candidate is found the exact decimal is written, which is read back since the
number is nearest to its own value (`ofDecimal_exactDecimal`).
-/

namespace CommandBridge.Binary64

/-! ## Decimals of one value -/

theorem width_le_iff {n k : Nat} (hk : 0 < k) : Decimal.width n ≤ k ↔ n < 10 ^ k :=
  Nat.length_toDigits_le_iff (by decide) hk

theorem width_mul_ten {n : Nat} (hn : n ≠ 0) : Decimal.width (n * 10) = Decimal.width n + 1 := by
  rw [Decimal.width, Nat.toDigits_of_base_le (by decide) (by omega), List.length_append,
    Nat.mul_div_cancel n (by decide)]
  rfl

/-- A zero at the end of the digits counts like one in the exponent. -/
theorem ofDecimal_mul_ten (negative : Bool) {n : Nat} (hn : n ≠ 0) (e : Int) :
    ofDecimal negative ⟨n * 10, e⟩ = ofDecimal negative ⟨n, e + 1⟩ := by
  have hn' : n * 10 ≠ 0 := by omega
  have hwidth : (Decimal.width (n * 10) : Int) + e = Decimal.width n + (e + 1) := by
    rw [width_mul_ten hn]
    omega
  have hquotient : ofQuotient negative (Decimal.quotient ⟨n * 10, e⟩).1
        (Decimal.quotient ⟨n * 10, e⟩).2 =
      ofQuotient negative (Decimal.quotient ⟨n, e + 1⟩).1 (Decimal.quotient ⟨n, e + 1⟩).2 := by
    unfold Decimal.quotient
    by_cases he : 0 ≤ e
    · obtain ⟨k, rfl⟩ := Int.eq_ofNat_of_zero_le he
      have hk : ((k : Int) + 1).toNat = k + 1 := by omega
      simp only [he, if_true, Int.toNat_natCast, hk]
      rw [if_pos (by omega)]
      have hten : Nat.pow 10 (k + 1) = Nat.pow 10 k * 10 := rfl
      rw [hten, Nat.mul_assoc, Nat.mul_comm 10]
    · obtain ⟨k, rfl⟩ : ∃ k : Nat, e = -(k : Int) - 1 := ⟨(-e - 1).toNat, by omega⟩
      have hk : (-(-(k : Int) - 1)).toNat = k + 1 := by omega
      have hten : Nat.pow 10 (k + 1) = Nat.pow 10 k * 10 := rfl
      have hpow : Nat.pow 10 k ≠ 0 := (Nat.pow_pos (by decide)).ne'
      rw [if_neg he]
      simp only [hk, hten]
      rw [ofQuotient_mul negative hn hpow (by decide)]
      split
      · next hzero =>
        obtain rfl : k = 0 := by omega
        simp
      · next hneg =>
        have hk' : (-(-(k : Int) - 1 + 1)).toNat = k := by omega
        simp only [hk']
  unfold ofDecimal
  simp only [hwidth, if_neg hn, if_neg hn']
  rw [hquotient]

theorem ofDecimal_mul_pow (negative : Bool) {n : Nat} (hn : n ≠ 0) (k : Nat) (e : Int) :
    ofDecimal negative ⟨n * 10 ^ k, e⟩ = ofDecimal negative ⟨n, e + k⟩ := by
  induction k generalizing e with
  | zero => simp
  | succ k ih =>
      have hpow : n * 10 ^ k ≠ 0 := Nat.mul_ne_zero hn (pow_ne_zero k (by decide))
      rw [pow_succ, ← Nat.mul_assoc, ofDecimal_mul_ten negative hpow, ih]
      congr 2
      push_cast
      omega

/-- Zeros at the end of the digits do not matter. -/
theorem ofDecimal_trim (negative : Bool) (d : Decimal) :
    ofDecimal negative d.trim = ofDecimal negative d := by
  have hgo : ∀ n d, ofDecimal negative (Decimal.trim.go n d) = ofDecimal negative d := by
    intro n
    induction n with
    | zero => exact fun _ => rfl
    | succ n ih =>
        intro d
        rw [Decimal.trim.go]
        split
        · next hzero =>
          have hten : d.digits / 10 * 10 = d.digits := by omega
          rw [ih, ← ofDecimal_mul_ten negative (by omega), hten]
        · rfl
  exact hgo _ d

/-! ## The exact decimal -/

theorem two_pow_le_ten_pow {i j : Nat} (h : i ≤ 3 * j) : 2 ^ i ≤ 10 ^ j :=
  calc 2 ^ i ≤ 2 ^ (3 * j) := Nat.pow_le_pow_right (by decide) h
    _ = (2 ^ 3) ^ j := Nat.pow_mul 2 3 j
    _ ≤ 10 ^ j := Nat.pow_le_pow_left (by decide) j

theorem two_pow_le_five_pow {i j : Nat} (h : i ≤ 2 * j) : 2 ^ i ≤ 5 ^ j :=
  calc 2 ^ i ≤ 2 ^ (2 * j) := Nat.pow_le_pow_right (by decide) h
    _ = (2 ^ 2) ^ j := Nat.pow_mul 2 2 j
    _ ≤ 5 ^ j := Nat.pow_le_pow_left (by decide) j

theorem lt_two_pow_mul {n i j k : Nat} (hn : n < 2 ^ i) (hi : i ≤ j) : n < 2 ^ j * 2 ^ k :=
  calc n < 2 ^ i := hn
    _ ≤ 2 ^ j := Nat.pow_le_pow_right (by decide) hi
    _ ≤ 2 ^ j * 2 ^ k := Nat.le_mul_of_pos_right _ (Nat.two_pow_pos k)

/-- The exact quotient of a magnitude has a power of two below it, and is less than `2 ^ 1024`. -/
theorem exists_quotient_eq (m : Fin finiteCount) :
    ∃ k ≤ 1074, (quotient m).2 = 2 ^ k ∧ (quotient m).1 < 2 ^ 1024 * 2 ^ k := by
  have hfraction : m.val % 1 <<< 52 < 2 ^ 52 := Nat.mod_lt _ (by decide)
  have hexponent : m.val >>> 52 < 2047 := by
    rw [Nat.shiftRight_eq_div_pow]
    have hlt : m.val < 2047 * 2 ^ 52 := m.isLt
    omega
  have hsum : 1 <<< 52 + m.val % 1 <<< 52 < 2 ^ 53 := by
    have hone : (1 <<< 52 : Nat) = 2 ^ 52 := rfl
    omega
  have hshift : ∀ k : Nat, 1 <<< k = 2 ^ k := fun k => by rw [Nat.shiftLeft_eq, Nat.one_mul]
  unfold quotient
  simp only
  split
  · exact ⟨1074, le_rfl, hshift 1074, lt_two_pow_mul hfraction (by decide)⟩
  · split
    · exact ⟨1075 - m.val >>> 52, by omega, hshift _, lt_two_pow_mul hsum (by decide)⟩
    · refine ⟨0, by omega, rfl, lt_two_pow_mul (i := 53 + (m.val >>> 52 - 1075)) ?_ (by omega)⟩
      rw [Nat.shiftLeft_eq, Nat.pow_add]
      exact Nat.mul_lt_mul_of_pos_right hsum (Nat.two_pow_pos _)

/-- The exact decimal of a number begins at a place near the point. -/
theorem width_exact_le {a i j k : Nat} (ha : a < 2 ^ i * 2 ^ k) (hj : 0 < j) (hi : i ≤ 3 * j) :
    Decimal.width (a * 5 ^ k) ≤ j + k := by
  have hten : (10 : Nat) ^ k = 2 ^ k * 5 ^ k := by rw [← Nat.mul_pow]
  rw [width_le_iff (by omega), Nat.pow_add, hten, ← Nat.mul_assoc]
  calc a * 5 ^ k < 2 ^ i * 2 ^ k * 5 ^ k := Nat.mul_lt_mul_of_pos_right ha (by positivity)
    _ ≤ 10 ^ j * 2 ^ k * 5 ^ k :=
        Nat.mul_le_mul_right _ (Nat.mul_le_mul_right _ (two_pow_le_ten_pow hi))

theorem le_width_exact {a k : Nat} (ha : a ≠ 0) (hk : k ≤ 1074) :
    k ≤ Decimal.width (a * 5 ^ k) + 400 := by
  by_contra hshort
  have hpos : 0 < Decimal.width (a * 5 ^ k) := Nat.length_toDigits_pos
  have hlt : a * 5 ^ k < 10 ^ (k - 401) := by
    rw [← width_le_iff (by omega)]
    omega
  have hge : 10 ^ (k - 401) ≤ a * 5 ^ k :=
    calc 10 ^ (k - 401) = 2 ^ (k - 401) * 5 ^ (k - 401) := by rw [← Nat.mul_pow]
      _ ≤ 5 ^ 401 * 5 ^ (k - 401) := Nat.mul_le_mul_right _ (two_pow_le_five_pow (by omega))
      _ = 5 ^ k := by rw [← Nat.pow_add, Nat.add_sub_cancel' (by omega)]
      _ ≤ a * 5 ^ k := Nat.le_mul_of_pos_left _ (Nat.pos_of_ne_zero ha)
  omega

/-- The exact decimal of a number is read back as the number. -/
theorem ofDecimal_exactDecimal (negative : Bool) {m : Fin finiteCount} (hm : m.val ≠ 0) :
    ofDecimal negative (exactDecimal (quotient m).1 (quotient m).2) = .finite negative m := by
  obtain ⟨k, hk, hden, hlarge⟩ := exists_quotient_eq m
  obtain ⟨hnum, -, hround⟩ := ofQuotient_quotient negative hm
  have hdigits : (quotient m).1 * 5 ^ k ≠ 0 := Nat.mul_ne_zero hnum (pow_ne_zero k (by decide))
  have hupper := width_exact_le (j := 400) hlarge (by decide) (by decide)
  have hlower := le_width_exact hnum hk
  have hexact : exactDecimal (quotient m).1 (quotient m).2 =
      ⟨(quotient m).1 * 5 ^ k, -(k : Int)⟩ := by
    rw [exactDecimal, hden, Nat.log2_two_pow]
    rfl
  have hquotient : ofQuotient negative
      (⟨(quotient m).1 * 5 ^ k, -(k : Int)⟩ : Decimal).quotient.1
      (⟨(quotient m).1 * 5 ^ k, -(k : Int)⟩ : Decimal).quotient.2 = .finite negative m := by
    unfold Decimal.quotient
    by_cases hzero : k = 0
    · subst hzero
      simpa [hden] using hround
    · have hneg : ¬ (0 : Int) ≤ -(k : Int) := by omega
      have hten : Nat.pow 10 k = 2 ^ k * 5 ^ k := by
        show 10 ^ k = _
        rw [← Nat.mul_pow]
      simp only [if_neg hneg, neg_neg, Int.toNat_natCast]
      rw [hten, ofQuotient_mul negative hnum (pow_ne_zero k (by decide))
        (pow_ne_zero k (by decide)), ← hden, hround]
  rw [hexact, ofDecimal]
  simp only
  rw [if_neg hdigits, if_neg (by omega), if_neg (by omega)]
  exact hquotient

/-! ## The decimal that is written -/

theorem ofMagnitude_of_positive {i : Nat} {m : Fin finiteCount}
    (h : ofMagnitude false i = .finite false m) (negative : Bool) :
    ofMagnitude negative i = .finite negative m := by
  unfold ofMagnitude at h ⊢
  split at h
  · next hi =>
    obtain rfl : ⟨i, hi⟩ = m := (Binary64.finite.inj h).2
    rw [dif_pos hi]
  · simp at h

/-- A decimal is read alike with either sign. -/
theorem ofDecimal_of_positive {d : Decimal} {m : Fin finiteCount}
    (h : ofDecimal false d = .finite false m) (negative : Bool) :
    ofDecimal negative d = .finite negative m := by
  have hzero : ∀ {m : Fin finiteCount}, zero false = .finite false m →
      zero negative = .finite negative m := by
    intro m hm
    rw [← (Binary64.finite.inj hm).2]
    rfl
  unfold ofDecimal at h ⊢
  split
  · next hdigits => rw [if_pos hdigits] at h; exact hzero h
  · next hdigits =>
    rw [if_neg hdigits] at h
    split
    · next hlarge => rw [if_pos hlarge] at h; simp at h
    · next hlarge =>
      rw [if_neg hlarge] at h
      split
      · next hsmall => rw [if_pos hsmall] at h; exact hzero h
      · next hsmall =>
        rw [if_neg hsmall] at h
        simp only [ofQuotient] at h ⊢
        split
        · next hnum => rw [if_pos hnum] at h; exact hzero h
        · next hnum => rw [if_neg hnum] at h; exact ofMagnitude_of_positive h negative

/-- The decimal that is written for a number is read back as the number. -/
theorem ofDecimal_shortest (negative : Bool) {m : Fin finiteCount} (hm : m.val ≠ 0) :
    ofDecimal negative (shortest m) = .finite negative m := by
  unfold shortest
  simp only
  split
  · next d hfind =>
    have hd : ofDecimal false d = .finite false m := by simpa using List.find?_some hfind
    rw [ofDecimal_trim, ofDecimal_of_positive hd]
  · exact ofDecimal_exactDecimal negative hm

/-- Only zero is written without digits. -/
theorem shortest_digits_ne_zero {m : Fin finiteCount} (hm : m.val ≠ 0) :
    (shortest m).digits ≠ 0 := by
  intro hzero
  have h := ofDecimal_shortest false hm
  rw [ofDecimal, if_pos hzero] at h
  obtain ⟨-, rfl⟩ := Binary64.finite.inj h
  exact hm rfl

end CommandBridge.Binary64
