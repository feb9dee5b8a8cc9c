import CommandBridge.Json.Writer
import CommandBridge.Proofs.Binary64.Shortest
import CommandBridge.Proofs.Json.Strings

/-!
# CommandBridge.Proofs.Json.Numbers

Numbers are read back as they were written, whatever follows them that cannot be part of a
number: integers of up to `maxDigits` digits (`readUnsigned_toDigits`), and all doubles
(`readUnsigned_decimalText`), which keeps the two apart.
-/

namespace CommandBridge.Json

/-! ## Ends of numbers -/

/-- A text that does not go on with a part of a number. -/
def PastNumber (t : Text) : Prop :=
  ∀ p ∈ t.head?, digit? p = none ∧ p ≠ .scalar '.' ∧ p ≠ .scalar 'e' ∧ p ≠ .scalar 'E'

variable {t : Text} {negative : Bool}

theorem PastNumber.pastDigits (h : PastNumber t) : PastDigits t := fun p hp => (h p hp).1

theorem readFraction_of_pastNumber (h : PastNumber t) : readFraction t = ([], t) := by
  unfold readFraction
  split
  · exact absurd rfl (h _ rfl).2.1
  · rfl

theorem readExponent_of_pastNumber (h : PastNumber t) : readExponent t = (none, t) := by
  unfold readExponent
  split
  · next c r =>
    obtain ⟨-, -, hlower, hupper⟩ := h _ rfl
    have hc : ¬ (c = 'e' ∨ c = 'E') := by
      rintro (rfl | rfl)
      · exact hlower rfl
      · exact hupper rfl
    rw [if_neg hc]
  · rfl

/-! ## Parts of numbers -/

/-- Digits that can stand before the point: no zero leads any others. -/
structure Whole (cs : List Char) : Prop where
  nonempty : cs ≠ []
  digits : ∀ c ∈ cs, c.isDigit
  leading : cs.head? = some '0' → cs = ['0']

theorem spell_append (cs ds : List Char) : spell (cs ++ ds) = spell cs ++ spell ds :=
  List.map_append

theorem length_spell (cs : List Char) : (spell cs).length = cs.length := List.length_map _

/-- The digits before the point are read up to what follows them. -/
theorem readUnsigned_whole {cs : List Char} (hcs : Whole cs) (ht : PastDigits t) (start : Nat) :
    readUnsigned negative start (points cs ++ t) = readTail negative (spell cs) t := by
  obtain ⟨c, r, rfl⟩ := List.exists_cons_of_ne_nil hcs.nonempty
  by_cases hzero : c = '0'
  · subst hzero
    obtain rfl : r = [] := by simpa using hcs.leading rfl
    rfl
  · have hspan : spanDigits (points (c :: r) ++ t) = (spell (c :: r), t) :=
      spanDigits_append hcs.digits ht
    rw [points_cons, List.cons_append] at hspan ⊢
    unfold readUnsigned
    split
    · next heq => simp [hzero] at heq
    · rw [hspan]
      rfl

/-- An integer ends with its digits. -/
theorem readTail_integer {whole : List Nat} (hwhole : whole.length ≤ maxDigits)
    (ht : PastNumber t) :
    readTail negative whole t =
      .ok (.int (if negative then -(ofDigits whole : Int) else ofDigits whole), t) := by
  simp only [readTail, readFraction_of_pastNumber ht, readExponent_of_pastNumber ht]
  rw [if_pos (by rfl), if_neg (by omega)]

/-- An integer with too many digits is refused. -/
theorem readTail_tooManyDigits {whole : List Nat} (hwhole : maxDigits < whole.length)
    (ht : PastNumber t) :
    readTail negative whole t = .error (.tooManyDigits whole.length) := by
  simp only [readTail, readFraction_of_pastNumber ht, readExponent_of_pastNumber ht]
  rw [if_pos (by rfl), if_pos hwhole]

/-- A number with a fraction or an exponent is a double. -/
theorem readTail_double {whole fraction : List Nat} {exponent : Option Int}
    {afterFraction rest : Text}
    (hfraction : readFraction t = (fraction, afterFraction))
    (hexponent : readExponent afterFraction = (exponent, rest))
    (hdouble : fraction ≠ [] ∨ exponent ≠ none) :
    readTail negative whole t =
      .ok (.float (Binary64.ofDecimal negative
        ⟨ofDigits (whole ++ fraction), exponent.getD 0 - fraction.length⟩), rest) := by
  have hnot : ¬ (fraction.isEmpty && exponent.isNone) = true := by
    rw [Bool.and_eq_true, List.isEmpty_iff, Option.isNone_iff_eq_none]
    rintro ⟨h₁, h₂⟩
    rcases hdouble with h | h
    · exact h h₁
    · exact h h₂
  simp only [readTail, hfraction, hexponent]
  rw [if_neg hnot]

theorem readFraction_point {cs : List Char} (hne : cs ≠ []) (hcs : ∀ c ∈ cs, c.isDigit)
    (ht : PastDigits t) : readFraction (.scalar '.' :: (points cs ++ t)) = (spell cs, t) := by
  have hspan : spanDigits (points cs ++ t) = (spell cs, t) := spanDigits_append hcs ht
  obtain ⟨c, r, rfl⟩ := List.exists_cons_of_ne_nil hne
  simp only [readFraction, hspan]
  rfl

/-! ## Digits of naturals -/

theorem toDigits_eq_zero {n : Nat} (h : Nat.toDigits 10 n = ['0']) : n = 0 := by
  have hvalue := Nat.ofDigitChars_ten_toDigits (n := n)
  rw [h] at hvalue
  simpa [Nat.ofDigitChars] using hvalue.symm

/-- No zero leads the digits of a number that is not zero. -/
theorem head?_toDigits_ne {n : Nat} (hn : n ≠ 0) : (Nat.toDigits 10 n).head? ≠ some '0' := by
  induction n using Nat.strong_induction_on with
  | _ n ih =>
    intro hhead
    rw [Nat.toDigits_eq_if (by decide)] at hhead
    split at hhead
    · next hlt =>
      apply hn
      apply toDigits_eq_zero
      rw [Nat.toDigits_of_lt_base hlt]
      simpa using hhead
    · next hge =>
      rw [List.head?_append_of_ne_nil _ Nat.toDigits_ne_nil] at hhead
      exact ih (n / 10) (by omega) (by omega) hhead

theorem isDigit_replicate {c : Char} {n : Nat} (h : c ∈ List.replicate n '0') : c.isDigit := by
  rw [List.eq_of_mem_replicate h]
  rfl

theorem whole_toDigits (n : Nat) : Whole (Nat.toDigits 10 n) where
  nonempty := Nat.toDigits_ne_nil
  digits _ := isDigit_of_mem_toDigits
  leading hhead := by
    by_cases hn : n = 0
    · subst hn
      rfl
    · exact absurd hhead (head?_toDigits_ne hn)

/-- Digits that begin like those of a number other than zero can stand before the point. -/
theorem whole_of_head?_eq {n : Nat} (hn : n ≠ 0) {cs : List Char}
    (hhead : cs.head? = (Nat.toDigits 10 n).head?) (hcs : ∀ c ∈ cs, c.isDigit) : Whole cs where
  nonempty := by
    rintro rfl
    exact Nat.toDigits_ne_nil (List.head?_eq_none_iff.mp hhead.symm)
  digits := hcs
  leading h := absurd (hhead ▸ h) (head?_toDigits_ne hn)

theorem ofDigits_spell_append (cs ds : List Char) :
    ofDigits (spell cs ++ spell ds) = Nat.ofDigitChars 10 (cs ++ ds) 0 := by
  rw [← spell_append, ofDigits_spell]

/-- An integer is read back. -/
theorem readUnsigned_toDigits {n : Nat} (hn : (Nat.toDigits 10 n).length ≤ maxDigits)
    (ht : PastNumber t) (start : Nat) :
    readUnsigned negative start (points (Nat.toDigits 10 n) ++ t) =
      .ok (.int (if negative then -(n : Int) else n), t) := by
  rw [readUnsigned_whole (whole_toDigits n) ht.pastDigits,
    readTail_integer (by rwa [length_spell]) ht, ofDigits_spell_toDigits]

/-! ## Doubles -/

/-- An exponent is written as a sign and its digits. -/
theorem exists_exponentText (e : Int) :
    ∃ ds, ds ≠ [] ∧ (∀ c ∈ ds, c.isDigit) ∧ ofDigits (spell ds) = e.natAbs ∧
      Binary64.exponentText e = 'e' :: (if e < 0 then '-' else '+') :: ds := by
  let digits := Nat.toDigits 10 e.natAbs
  have hdigits : ∀ c ∈ digits, c.isDigit := fun _ => isDigit_of_mem_toDigits
  refine ⟨if digits.length < 2 then '0' :: digits else digits, ?_, ?_, ?_, rfl⟩
  · split
    · exact List.cons_ne_nil _ _
    · exact Nat.toDigits_ne_nil
  · split
    · exact List.forall_mem_cons.mpr ⟨rfl, hdigits⟩
    · exact hdigits
  · split
    · rw [ofDigits_spell, Nat.ofDigitChars_cons]
      exact Nat.ofDigitChars_ten_toDigits
    · exact ofDigits_spell_toDigits _

/-- A written exponent is read back. -/
theorem readExponent_exponentText (e : Int) (ht : PastDigits t) :
    readExponent (points (Binary64.exponentText e) ++ t) = (some e, t) := by
  obtain ⟨digits, hne, hdigits, hvalue, htext⟩ := exists_exponentText e
  have hspan : spanDigits (points digits ++ t) = (spell digits, t) := spanDigits_append hdigits ht
  obtain ⟨d, ds, hspell⟩ : ∃ d ds, spell digits = d :: ds :=
    List.exists_cons_of_ne_nil (by simpa [spell] using hne)
  rw [htext]
  by_cases he : e < 0
  · simp only [if_pos he, points_cons, List.cons_append, readExponent, true_or, if_true, hspan,
      hspell]
    rw [← hspell, hvalue]
    congr 2
    omega
  · simp only [if_neg he, points_cons, List.cons_append, readExponent, true_or, if_true, hspan,
      hspell]
    rw [← hspell, hvalue]
    congr 2
    simp
    omega

/-- Digits before a point and digits after it, read as a decimal. -/
theorem readUnsigned_point (negative : Bool) {cs ds : List Char} (hcs : Whole cs)
    (hne : ds ≠ []) (hds : ∀ c ∈ ds, c.isDigit) (ht : PastNumber t) (start : Nat) :
    readUnsigned negative start (points (cs ++ '.' :: ds) ++ t) =
      .ok (.float (Binary64.ofDecimal negative
        ⟨Nat.ofDigitChars 10 (cs ++ ds) 0, -(ds.length : Int)⟩), t) := by
  have hpoint : PastDigits (.scalar '.' :: (points ds ++ t)) := by
    intro p hp
    obtain rfl : CodePoint.scalar '.' = p := by simpa using hp
    rfl
  rw [points_append, points_cons, List.append_assoc, List.cons_append,
    readUnsigned_whole hcs hpoint,
    readTail_double (readFraction_point hne hds ht.pastDigits) (readExponent_of_pastNumber ht)
      (.inl (by simpa [spell] using hne)), ofDigits_spell_append, length_spell]
  simp

/-- Digits with a point after the first one, if there are more, and an exponent. -/
theorem readUnsigned_exponent (negative : Bool) {c : Char} {ds : List Char} (hc : Whole [c])
    (hds : ∀ c ∈ ds, c.isDigit) (e : Int) (ht : PastNumber t) (start : Nat) :
    readUnsigned negative start
        (points ([c] ++ (if ds = [] then [] else '.' :: ds) ++ Binary64.exponentText e) ++ t) =
      .ok (.float (Binary64.ofDecimal negative
        ⟨Nat.ofDigitChars 10 (c :: ds) 0, e - ds.length⟩), t) := by
  have hexponent : PastDigits (points (Binary64.exponentText e) ++ t) := by
    intro p hp
    obtain rfl : CodePoint.scalar 'e' = p := by simpa [Binary64.exponentText] using hp
    rfl
  have hread := readExponent_exponentText e ht.pastDigits
  by_cases hne : ds = []
  · subst hne
    have hnone : readFraction (points (Binary64.exponentText e) ++ t) =
        ([], points (Binary64.exponentText e) ++ t) := rfl
    rw [if_pos rfl, List.append_nil, points_append, List.append_assoc,
      readUnsigned_whole hc hexponent, readTail_double hnone hread (.inr (by simp)),
      List.append_nil, ofDigits_spell]
    rfl
  · have hpoint : PastDigits
        (.scalar '.' :: (points ds ++ (points (Binary64.exponentText e) ++ t))) := by
      intro p hp
      obtain rfl : CodePoint.scalar '.' = p := by simpa using hp
      rfl
    have hsplit : points ([c] ++ '.' :: ds ++ Binary64.exponentText e) ++ t =
        points [c] ++ (.scalar '.' :: (points ds ++ (points (Binary64.exponentText e) ++ t))) := by
      simp
    rw [if_neg hne, hsplit, readUnsigned_whole hc hpoint,
      readTail_double (readFraction_point hne hds hexponent) hread (.inr (by simp)),
      ofDigits_spell_append, length_spell]
    rfl

/-- How a decimal is written: with a point and digits on both sides of it, or with an exponent and
a point behind the first digit, if there are more.  In the first form the decimal may have got zeros
at its end. -/
inductive DecimalForm (d : Decimal) : List Char → Prop where
  | positional {cs ds : List Char} {zeros : Nat} (hcs : Whole cs) (hne : ds ≠ [])
      (hds : ∀ c ∈ ds, c.isDigit)
      (hvalue : Nat.ofDigitChars 10 (cs ++ ds) 0 = d.digits * 10 ^ zeros)
      (hexponent : -(ds.length : Int) + zeros = d.exponent) : DecimalForm d (cs ++ '.' :: ds)
  | scientific {c : Char} {ds : List Char} {e : Int} (hc : Whole [c]) (hds : ∀ c ∈ ds, c.isDigit)
      (hvalue : Nat.ofDigitChars 10 (c :: ds) 0 = d.digits)
      (hexponent : e - (ds.length : Int) = d.exponent) :
      DecimalForm d ([c] ++ (if ds = [] then [] else '.' :: ds) ++ Binary64.exponentText e)

/-- A decimal other than zero is written in one of the forms. -/
theorem decimalForm_decimalText {d : Decimal} (hd : d.digits ≠ 0) :
    DecimalForm d (Binary64.decimalText d) := by
  obtain ⟨n, e⟩ := d
  let digits := Nat.toDigits 10 n
  have hdigits : ∀ c ∈ digits, c.isDigit := fun _ => isDigit_of_mem_toDigits
  have hvalue : Nat.ofDigitChars 10 digits 0 = n := Nat.ofDigitChars_ten_toDigits
  have hlength : 0 < digits.length := Nat.length_toDigits_pos
  have hdef : Nat.toDigits 10 n = digits := rfl
  simp only [Binary64.decimalText, hdef]
  split
  · next hplain =>
    split
    · next hsmall =>
      -- zeros stand between the point and the digits
      let zeros := List.replicate (-((digits.length : Int) + e)).toNat '0'
      have hzeros : ∀ c ∈ zeros ++ digits, c.isDigit :=
        List.forall_mem_append.mpr ⟨fun _ => isDigit_replicate, hdigits⟩
      have hspelled : Nat.ofDigitChars 10 (['0'] ++ (zeros ++ digits)) 0 = n := by
        rw [Nat.ofDigitChars_append, Nat.ofDigitChars_append, Nat.ofDigitChars_replicate_zero]
        simpa [Nat.ofDigitChars] using hvalue
      have hexponent : -((zeros ++ digits).length : Int) + (0 : Nat) = e := by
        simp only [List.length_append, zeros, List.length_replicate]
        omega
      exact .positional (whole_toDigits 0) (by simp [digits]) hzeros
        (by rw [pow_zero, Nat.mul_one]; exact hspelled) hexponent
    · next hlarge =>
      split
      · next hint =>
        -- zeros stand between the digits and the point
        let zeros := List.replicate (((digits.length : Int) + e).toNat - digits.length) '0'
        have hcs : Whole (digits ++ zeros) := by
          apply whole_of_head?_eq hd
          · exact List.head?_append_of_ne_nil _ Nat.toDigits_ne_nil
          · exact List.forall_mem_append.mpr ⟨hdigits, fun _ => isDigit_replicate⟩
        have hrep : zeros ++ ['0'] = List.replicate (zeros.length + 1) '0' := by
          rw [List.replicate_succ']
          simp [zeros]
        have hspelled : Nat.ofDigitChars 10 (digits ++ zeros ++ ['0']) 0 =
            n * 10 ^ (zeros.length + 1) := by
          rw [List.append_assoc, hrep, Nat.ofDigitChars_append, hvalue,
            Nat.ofDigitChars_replicate_zero, Nat.mul_comm]
        have hexponent : -(['0'].length : Int) + (zeros.length + 1 : Nat) = e := by
          simp only [zeros, List.length_replicate, List.length_singleton]
          omega
        exact .positional hcs (List.cons_ne_nil '0' []) (by simp) hspelled hexponent
      · next hint =>
        -- the point stands among the digits
        have hcs : Whole (digits.take ((digits.length : Int) + e).toNat) := by
          apply whole_of_head?_eq hd
          · rw [List.head?_take, if_neg (by omega)]
          · exact fun c hc => hdigits c (List.mem_of_mem_take hc)
        have hne : digits.drop ((digits.length : Int) + e).toNat ≠ [] := by
          rw [Ne, List.drop_eq_nil_iff]
          omega
        have hexponent : -((digits.drop ((digits.length : Int) + e).toNat).length : Int) +
            (0 : Nat) = e := by
          rw [List.length_drop]
          omega
        exact .positional hcs hne (fun c hc => hdigits c (List.mem_of_mem_drop hc))
          (by rw [List.take_append_drop, hvalue, pow_zero, Nat.mul_one]) hexponent
  · next hscientific =>
    -- the point stands behind the first digit
    obtain ⟨c, ds, hcons⟩ := List.exists_cons_of_ne_nil (Nat.toDigits_ne_nil (n := n) (b := 10))
    have hcons' : digits = c :: ds := hcons
    have hc : Whole [c] := by
      apply whole_of_head?_eq hd
      · rw [hcons]; rfl
      · exact fun c' hc' => hdigits c' (by rw [hcons']; simp_all)
    have hds : ∀ c ∈ ds, c.isDigit := fun c hc => hdigits c (by rw [hcons']; simp [hc])
    have htext : digits.take 1 ++ (if 1 < digits.length then '.' :: digits.drop 1 else []) =
        [c] ++ (if ds = [] then [] else '.' :: ds) := by
      rw [hcons']
      cases ds <;> simp
    have hexponent : (digits.length : Int) + e - 1 - ds.length = e := by
      rw [hcons', List.length_cons]
      omega
    rw [htext]
    exact .scientific hc hds (hcons' ▸ hvalue) hexponent

/-- A written decimal is read as the double it stands for. -/
theorem readUnsigned_decimalText {d : Decimal} (hd : d.digits ≠ 0) (ht : PastNumber t)
    (start : Nat) :
    readUnsigned negative start (points (Binary64.decimalText d) ++ t) =
      .ok (.float (Binary64.ofDecimal negative d), t) := by
  have hform := decimalForm_decimalText hd
  generalize Binary64.decimalText d = cs at hform
  cases hform with
  | positional hcs hne hds hvalue hexponent =>
      rw [readUnsigned_point negative hcs hne hds ht, hvalue,
        Binary64.ofDecimal_mul_pow negative hd, hexponent]
  | scientific hc hds hvalue hexponent =>
      rw [readUnsigned_exponent negative hc hds _ ht, hvalue, hexponent]

end CommandBridge.Json
