import CommandBridge.Text.Utf8
import Mathlib.Tactic.Common

/-!
# CommandBridge.Proofs.Text.Utf8

Strict reading is the inverse of writing (`decode_eq_ok_iff`): bytes are read as some characters if
and only if they are what those characters are written as.  So no overlong form, no surrogate and
no number from `0x110000` on is accepted, and no character is cut short.

Both directions go through one character: what is written for it is read as it
(`step_encodeChar`), and what is read as a character was written for it (`encodeChar_of_step`).
-/

namespace CommandBridge.Utf8

/-! ## Bytes as numbers -/

theorem toNat_toUInt8 {n : Nat} (h : n < 256) : n.toUInt8.toNat = n :=
  (UInt8.toNat_ofNat' (n := n)).trans (Nat.mod_eq_of_lt h)

/-- A byte is that of a number if it has its value. -/
theorem toUInt8_eq {n : Nat} {b : UInt8} (h : n = b.toNat) : n.toUInt8 = b := by
  rw [h]
  exact UInt8.ofNat_toNat

theorem toNat_ofNat {n : Nat} (h : n.isValidChar) : (Char.ofNat n).toNat = n := by
  rw [Char.ofNat, dif_pos h]
  rfl

theorem isContinuation_iff {b : UInt8} :
    isContinuation b = true ↔ 0x80 ≤ b.toNat ∧ b.toNat < 0xC0 := by
  simp [isContinuation, UInt8.le_iff_toNat_le, UInt8.lt_iff_toNat_lt]

/-! ## One character -/

section Multibyte

variable {lead : Nat} {low high : UInt8} {rest : List UInt8} {c : Char} {extra : Nat}

theorem stepMultibyte_zero_iff :
    stepMultibyte lead low high 0 rest = .char c extra ↔
      ∃ b r, rest = b :: r ∧ (low ≤ b ∧ b ≤ high) ∧
        c = Char.ofNat (lead * 0x40 + payload b) ∧ extra = 1 := by
  constructor
  · intro h
    match rest with
    | [] => simp [stepMultibyte] at h
    | b :: r =>
        simp only [stepMultibyte] at h
        split at h
        · next hb =>
          obtain ⟨rfl, rfl⟩ := Step.char.inj h
          exact ⟨b, r, rfl, hb, rfl, rfl⟩
        · simp at h
  · rintro ⟨b, r, rfl, hb, rfl, rfl⟩
    simp only [stepMultibyte, if_pos hb]

theorem stepMultibyte_one_iff :
    stepMultibyte lead low high 1 rest = .char c extra ↔
      ∃ b d r, rest = b :: d :: r ∧ (low ≤ b ∧ b ≤ high) ∧ isContinuation d = true ∧
        c = Char.ofNat ((lead * 0x40 + payload b) * 0x40 + payload d) ∧ extra = 2 := by
  constructor
  · intro h
    match rest with
    | [] => simp [stepMultibyte] at h
    | [b] => simp only [stepMultibyte] at h; split at h <;> simp at h
    | b :: d :: r =>
        simp only [stepMultibyte] at h
        split at h
        · next hb =>
          split at h
          · next hd =>
            obtain ⟨rfl, rfl⟩ := Step.char.inj h
            exact ⟨b, d, r, rfl, hb, hd, rfl, rfl⟩
          · simp at h
        · simp at h
  · rintro ⟨b, d, r, rfl, hb, hd, rfl, rfl⟩
    simp only [stepMultibyte, if_pos hb, if_pos hd]

theorem stepMultibyte_two_iff :
    stepMultibyte lead low high 2 rest = .char c extra ↔
      ∃ b d e r, rest = b :: d :: e :: r ∧ (low ≤ b ∧ b ≤ high) ∧ isContinuation d = true ∧
        isContinuation e = true ∧
        c = Char.ofNat (((lead * 0x40 + payload b) * 0x40 + payload d) * 0x40 + payload e) ∧
        extra = 3 := by
  constructor
  · intro h
    match rest with
    | [] => simp [stepMultibyte] at h
    | [b] => simp only [stepMultibyte] at h; split at h <;> simp at h
    | [b, d] =>
        simp only [stepMultibyte] at h
        split at h
        · split at h <;> simp at h
        · simp at h
    | b :: d :: e :: r =>
        simp only [stepMultibyte] at h
        split at h
        · next hb =>
          split at h
          · next hd =>
            split at h
            · next he =>
              obtain ⟨rfl, rfl⟩ := Step.char.inj h
              exact ⟨b, d, e, r, rfl, hb, hd, he, rfl, rfl⟩
            · simp at h
          · simp at h
        · simp at h
  · rintro ⟨b, d, e, r, rfl, hb, hd, he, rfl, rfl⟩
    simp only [stepMultibyte, if_pos hb, if_pos hd, if_pos he]

end Multibyte

/-! The first byte tells how many follow, and bounds the second. -/

section FirstByte

variable {b : UInt8}

theorem not_lt_of_le {d : UInt8} (h : d.toNat ≤ b.toNat) : ¬ b < d :=
  UInt8.not_lt.mpr (UInt8.le_iff_toNat_le.mpr h)

theorem ne_of_lt {d : UInt8} (h : d.toNat < b.toNat) : b ≠ d := by
  rintro rfl
  exact Nat.lt_irrefl _ h

theorem step_of_ascii (rest : List UInt8) (hb : b.toNat < 0x80) :
    step b rest = .char (Char.ofNat b.toNat) 0 := by
  rw [step, if_pos (UInt8.lt_iff_toNat_lt.mpr hb)]

theorem step_of_two (rest : List UInt8) (hb : 0xC2 ≤ b.toNat ∧ b.toNat < 0xE0) :
    step b rest = stepMultibyte (b.toNat - 0xC0) 0x80 0xBF 0 rest := by
  have h₁ : ¬ b < 0x80 := not_lt_of_le (Nat.le_trans (by decide) hb.1)
  have h₂ : ¬ b < 0xC2 := not_lt_of_le hb.1
  rw [step, if_neg h₁, if_neg h₂, if_pos (UInt8.lt_iff_toNat_lt.mpr hb.2)]

theorem step_of_three (rest : List UInt8) (hb : 0xE0 ≤ b.toNat ∧ b.toNat < 0xF0) :
    step b rest = stepMultibyte (b.toNat - 0xE0) (if b = 0xE0 then 0xA0 else 0x80)
      (if b = 0xED then 0x9F else 0xBF) 1 rest := by
  have h₁ : ¬ b < 0x80 := not_lt_of_le (Nat.le_trans (by decide) hb.1)
  have h₂ : ¬ b < 0xC2 := not_lt_of_le (Nat.le_trans (by decide) hb.1)
  have h₃ : ¬ b < 0xE0 := not_lt_of_le hb.1
  have h₄ : b < 0xF0 := UInt8.lt_iff_toNat_lt.mpr hb.2
  rw [step, if_neg h₁, if_neg h₂, if_neg h₃]
  by_cases hE0 : b = 0xE0
  · subst hE0
    rfl
  · by_cases hED : b = 0xED
    · subst hED
      rfl
    · simp only [if_neg hE0, if_neg hED, if_pos h₄]

theorem step_of_four (rest : List UInt8) (hb : 0xF0 ≤ b.toNat ∧ b.toNat < 0xF5) :
    step b rest = stepMultibyte (b.toNat - 0xF0) (if b = 0xF0 then 0x90 else 0x80)
      (if b = 0xF4 then 0x8F else 0xBF) 2 rest := by
  have h₁ : ¬ b < 0x80 := not_lt_of_le (Nat.le_trans (by decide) hb.1)
  have h₂ : ¬ b < 0xC2 := not_lt_of_le (Nat.le_trans (by decide) hb.1)
  have h₃ : ¬ b < 0xE0 := not_lt_of_le (Nat.le_trans (by decide) hb.1)
  have hE0 : b ≠ 0xE0 := ne_of_lt (Nat.lt_of_lt_of_le (by decide) hb.1)
  have hED : b ≠ 0xED := ne_of_lt (Nat.lt_of_lt_of_le (by decide) hb.1)
  have h₄ : ¬ b < 0xF0 := not_lt_of_le hb.1
  rw [step, if_neg h₁, if_neg h₂, if_neg h₃, if_neg hE0, if_neg hED, if_neg h₄]
  by_cases hF0 : b = 0xF0
  · subst hF0
    rfl
  · by_cases hF4 : b = 0xF4
    · subst hF4
      rfl
    · have hne : b.toNat ≠ 0xF4 := fun h => hF4 (UInt8.toNat_inj.mp h)
      have h₅ : b < 0xF4 := UInt8.lt_iff_toNat_lt.mpr (show b.toNat < 0xF4 by omega)
      simp only [if_neg hF0, if_neg hF4, if_pos h₅]

/-- No other byte begins a character. -/
theorem step_of_other (rest : List UInt8)
    (hb : 0x80 ≤ b.toNat ∧ b.toNat < 0xC2 ∨ 0xF5 ≤ b.toNat) :
    step b rest = .bad .invalidStart 0 := by
  rcases hb with hb | hb
  · have h₁ : ¬ b < 0x80 := not_lt_of_le hb.1
    rw [step, if_neg h₁, if_pos (UInt8.lt_iff_toNat_lt.mpr hb.2)]
  · have hlt : ∀ d : UInt8, d.toNat < 0xF5 → ¬ b < d :=
      fun d hd => not_lt_of_le (Nat.le_trans (Nat.le_of_lt hd) hb)
    have hne : ∀ d : UInt8, d.toNat < 0xF5 → b ≠ d :=
      fun d hd => ne_of_lt (Nat.lt_of_lt_of_le hd hb)
    simp only [step, if_neg (hlt 0x80 (by decide)), if_neg (hlt 0xC2 (by decide)),
      if_neg (hlt 0xE0 (by decide)), if_neg (hne 0xE0 (by decide)), if_neg (hne 0xED (by decide)),
      if_neg (hlt 0xF0 (by decide)), if_neg (hne 0xF0 (by decide)),
      if_neg (hlt 0xF4 (by decide)), if_neg (hne 0xF4 (by decide))]

/-- The second byte continues the character; after one first byte it is not too low, and after one
it is not too high. -/
theorem second_iff {x p q low high : UInt8} (hlow : 0x80 ≤ low.toNat) (hhigh : high.toNat < 0xC0) :
    ((if b = p then low else 0x80) ≤ x ∧ x ≤ (if b = q then high else 0xBF)) ↔
      isContinuation x = true ∧ (b.toNat = p.toNat → low.toNat ≤ x.toNat) ∧
        (b.toNat = q.toNat → x.toNat ≤ high.toNat) := by
  rw [isContinuation_iff, UInt8.le_iff_toNat_le, UInt8.le_iff_toNat_le, UInt8.toNat_inj,
    UInt8.toNat_inj]
  have h80 : (0x80 : UInt8).toNat = 0x80 := rfl
  have hBF : (0xBF : UInt8).toNat = 0xBF := rfl
  split <;> split <;> simp_all <;> omega

end FirstByte

/-! What is written for the numbers of two, three and four bytes. -/

section Written

variable {b x y z : UInt8}

theorem encodeChar_of_ascii (hb : b.toNat < 0x80) : encodeChar (Char.ofNat b.toNat) = [b] := by
  rw [encodeChar, toNat_ofNat (.inl (by omega)), if_pos hb, toUInt8_eq rfl]

theorem encodeChar_of_two (hb : 0xC2 ≤ b.toNat ∧ b.toNat < 0xE0) (hx : isContinuation x = true) :
    encodeChar (Char.ofNat ((b.toNat - 0xC0) * 0x40 + payload x)) = [b, x] := by
  rw [isContinuation_iff] at hx
  obtain ⟨n, hn⟩ : ∃ n, n = (b.toNat - 0xC0) * 0x40 + x.toNat % 0x40 := ⟨_, rfl⟩
  rw [payload, ← hn, encodeChar, toNat_ofNat (.inl (by omega)), if_neg (by omega),
    if_pos (by omega), toUInt8_eq (b := b) (by omega), toUInt8_eq (b := x) (by omega)]

theorem encodeChar_of_three (hb : 0xE0 ≤ b.toNat ∧ b.toNat < 0xF0) (hx : isContinuation x = true)
    (hlow : b.toNat = 0xE0 → 0xA0 ≤ x.toNat) (hhigh : b.toNat = 0xED → x.toNat ≤ 0x9F)
    (hy : isContinuation y = true) :
    encodeChar (Char.ofNat (((b.toNat - 0xE0) * 0x40 + payload x) * 0x40 + payload y)) =
      [b, x, y] := by
  rw [isContinuation_iff] at hx hy
  obtain ⟨n, hn⟩ : ∃ n, n = ((b.toNat - 0xE0) * 0x40 + x.toNat % 0x40) * 0x40 + y.toNat % 0x40 :=
    ⟨_, rfl⟩
  have hvalid : n.isValidChar := by
    rw [Nat.isValidChar]
    omega
  rw [payload, payload, ← hn, encodeChar, toNat_ofNat hvalid, if_neg (by omega),
    if_neg (by omega), if_pos (by omega), toUInt8_eq (b := b) (by omega),
    toUInt8_eq (b := x) (by omega), toUInt8_eq (b := y) (by omega)]

theorem encodeChar_of_four (hb : 0xF0 ≤ b.toNat ∧ b.toNat < 0xF5) (hx : isContinuation x = true)
    (hlow : b.toNat = 0xF0 → 0x90 ≤ x.toNat) (hhigh : b.toNat = 0xF4 → x.toNat ≤ 0x8F)
    (hy : isContinuation y = true) (hz : isContinuation z = true) :
    encodeChar (Char.ofNat ((((b.toNat - 0xF0) * 0x40 + payload x) * 0x40 + payload y) * 0x40 +
      payload z)) = [b, x, y, z] := by
  rw [isContinuation_iff] at hx hy hz
  obtain ⟨n, hn⟩ : ∃ n, n = (((b.toNat - 0xF0) * 0x40 + x.toNat % 0x40) * 0x40 +
    y.toNat % 0x40) * 0x40 + z.toNat % 0x40 := ⟨_, rfl⟩
  have hvalid : n.isValidChar := by
    rw [Nat.isValidChar]
    omega
  rw [payload, payload, payload, ← hn, encodeChar, toNat_ofNat hvalid, if_neg (by omega),
    if_neg (by omega), if_neg (by omega), toUInt8_eq (b := b) (by omega),
    toUInt8_eq (b := x) (by omega), toUInt8_eq (b := y) (by omega), toUInt8_eq (b := z) (by omega)]

end Written

/-- What is read as a character is what is written for it. -/
theorem encodeChar_of_step {b : UInt8} {rest : List UInt8} {c : Char} {extra : Nat}
    (h : step b rest = .char c extra) :
    extra ≤ rest.length ∧ encodeChar c = b :: rest.take extra := by
  rcases Nat.lt_or_ge b.toNat 0x80 with hascii | hascii
  · rw [step_of_ascii rest hascii] at h
    obtain ⟨rfl, rfl⟩ := Step.char.inj h
    exact ⟨Nat.zero_le _, encodeChar_of_ascii hascii⟩
  by_cases htwo : 0xC2 ≤ b.toNat ∧ b.toNat < 0xE0
  · rw [step_of_two rest htwo] at h
    obtain ⟨x, r, rfl, hx, rfl, rfl⟩ := stepMultibyte_zero_iff.mp h
    have hx' : isContinuation x = true := isContinuation_iff.mpr (by
      simp only [UInt8.le_iff_toNat_le] at hx
      exact ⟨hx.1, Nat.lt_succ_of_le hx.2⟩)
    exact ⟨Nat.succ_le_succ (Nat.zero_le _), encodeChar_of_two htwo hx'⟩
  by_cases hthree : 0xE0 ≤ b.toNat ∧ b.toNat < 0xF0
  · rw [step_of_three rest hthree] at h
    obtain ⟨x, y, r, rfl, hx, hy, rfl, rfl⟩ := stepMultibyte_one_iff.mp h
    obtain ⟨hx, hlow, hhigh⟩ := (second_iff (by decide) (by decide)).mp hx
    exact ⟨by simp, encodeChar_of_three hthree hx hlow hhigh hy⟩
  by_cases hfour : 0xF0 ≤ b.toNat ∧ b.toNat < 0xF5
  · rw [step_of_four rest hfour] at h
    obtain ⟨x, y, z, r, rfl, hx, hy, hz, rfl, rfl⟩ := stepMultibyte_two_iff.mp h
    obtain ⟨hx, hlow, hhigh⟩ := (second_iff (by decide) (by decide)).mp hx
    exact ⟨by simp, encodeChar_of_four hfour hx hlow hhigh hy hz⟩
  · rw [step_of_other rest (by omega)] at h
    simp at h

/-- A character is that of any number with its value. -/
theorem eq_ofNat {c : Char} {n : Nat} (h : n = c.toNat) : c = Char.ofNat n := by
  rw [h, Char.ofNat_toNat]

/-- What is written for a character is read as it, whatever follows. -/
theorem step_encodeChar (c : Char) (rest : List UInt8) :
    ∃ b tail, encodeChar c = b :: tail ∧ step b (tail ++ rest) = .char c tail.length := by
  have hvalid : c.toNat < 0xD800 ∨ 0xDFFF < c.toNat ∧ c.toNat < 0x110000 := c.valid
  have hcontinues : ∀ k, isContinuation (0x80 + k % 0x40).toUInt8 = true := by
    intro k
    rw [isContinuation_iff, toNat_toUInt8 (by omega)]
    omega
  have hpayload : ∀ k, payload (0x80 + k % 0x40).toUInt8 = k % 0x40 := by
    intro k
    rw [payload, toNat_toUInt8 (by omega)]
    omega
  have hsecond : ∀ k, (0x80 + k % 0x40).toUInt8.toNat = 0x80 + k % 0x40 :=
    fun k => toNat_toUInt8 (by omega)
  rw [encodeChar]
  split
  · next hascii =>
    have hb : c.toNat.toUInt8.toNat = c.toNat := toNat_toUInt8 (by omega)
    refine ⟨_, _, rfl, ?_⟩
    rw [step_of_ascii _ (by omega), hb, Char.ofNat_toNat]
    rfl
  split
  · next htwo =>
    have hb : (0xC0 + c.toNat / 0x40).toUInt8.toNat = 0xC0 + c.toNat / 0x40 :=
      toNat_toUInt8 (by omega)
    refine ⟨_, _, rfl, ?_⟩
    rw [step_of_two _ (by omega), hb]
    refine stepMultibyte_zero_iff.mpr ⟨_, rest, rfl, ?_, eq_ofNat ?_, rfl⟩
    · rw [UInt8.le_iff_toNat_le, UInt8.le_iff_toNat_le, hsecond]
      exact ⟨Nat.le_add_right _ _, show _ ≤ 0xBF by omega⟩
    · rw [hpayload]
      omega
  split
  · next hthree =>
    have hb : (0xE0 + c.toNat / 0x1000).toUInt8.toNat = 0xE0 + c.toNat / 0x1000 :=
      toNat_toUInt8 (by omega)
    refine ⟨_, _, rfl, ?_⟩
    rw [step_of_three _ (by omega), hb]
    refine stepMultibyte_one_iff.mpr ⟨_, _, rest, rfl, ?_, hcontinues _, eq_ofNat ?_, rfl⟩
    · rw [second_iff (by decide) (by decide), hb, hsecond]
      exact ⟨hcontinues _, fun h => show 0xA0 ≤ _ by
        simp at h; omega, fun h => show _ ≤ 0x9F by simp at h; omega⟩
    · rw [hpayload, hpayload]
      omega
  · have hb : (0xF0 + c.toNat / 0x40000).toUInt8.toNat = 0xF0 + c.toNat / 0x40000 :=
      toNat_toUInt8 (by omega)
    refine ⟨_, _, rfl, ?_⟩
    rw [step_of_four _ (by omega), hb]
    refine stepMultibyte_two_iff.mpr
      ⟨_, _, _, rest, rfl, ?_, hcontinues _, hcontinues _, eq_ofNat ?_, rfl⟩
    · rw [second_iff (by decide) (by decide), hb, hsecond]
      exact ⟨hcontinues _, fun h => show 0x90 ≤ _ by
        simp at h; omega, fun h => show _ ≤ 0x8F by simp at h; omega⟩
    · rw [hpayload, hpayload, hpayload]
      omega

/-! ## Whole sequences -/

/-- What is written for a character is read back before more characters. -/
theorem decode_encodeChar_append (c : Char) {bs : List UInt8} {cs : List Char}
    (h : decode bs = .ok cs) : decode (encodeChar c ++ bs) = .ok (c :: cs) := by
  obtain ⟨b, tail, hwritten, hstep⟩ := step_encodeChar c bs
  rw [hwritten, List.cons_append, decode, hstep]
  simp only [List.drop_left, h]

/-- Bytes are read as characters if and only if they are what is written for those. -/
theorem decode_eq_ok_iff {bs : List UInt8} {cs : List Char} :
    decode bs = .ok cs ↔ bs = cs.flatMap encodeChar := by
  constructor
  · intro h
    fun_induction decode bs generalizing cs with
    | case1 => simp_all
    | case2 b rest c extra hstep cs' hrest ih =>
        obtain ⟨hlength, hwritten⟩ := encodeChar_of_step hstep
        obtain rfl := Except.ok.inj h
        rw [List.flatMap_cons, hwritten, ← ih hrest, List.cons_append, List.take_append_drop]
    | case3 b rest c extra hstep e hrest ih => simp at h
    | case4 b rest fault extra hstep => simp at h
  · rintro rfl
    induction cs with
    | nil => rw [List.flatMap_nil, decode]
    | cons c cs ih => rw [List.flatMap_cons, decode_encodeChar_append c ih]

/-- Every byte of a character outside ASCII is outside ASCII. -/
theorem le_of_mem_encodeChar {c : Char} (hc : 0x80 ≤ c.toNat) {b : UInt8} (hb : b ∈ encodeChar c) :
    0x80 ≤ b.toNat := by
  have hvalid : c.toNat < 0xD800 ∨ 0xDFFF < c.toNat ∧ c.toNat < 0x110000 := c.valid
  have hbyte : ∀ n, 0x80 ≤ n → n < 0x100 → b = n.toUInt8 → 0x80 ≤ b.toNat := by
    rintro n hlow hhigh rfl
    rwa [toNat_toUInt8 hhigh]
  rw [encodeChar, if_neg (by omega)] at hb
  split at hb
  · simp only [List.mem_cons, List.not_mem_nil, or_false] at hb
    rcases hb with hb | hb <;> exact hbyte _ (by omega) (by omega) hb
  split at hb
  · simp only [List.mem_cons, List.not_mem_nil, or_false] at hb
    rcases hb with hb | hb | hb <;> exact hbyte _ (by omega) (by omega) hb
  · simp only [List.mem_cons, List.not_mem_nil, or_false] at hb
    rcases hb with hb | hb | hb | hb <;> exact hbyte _ (by omega) (by omega) hb

end CommandBridge.Utf8
