import CommandBridge.Json.Writer
import CommandBridge.Proofs.Json.Digits

/-!
# CommandBridge.Proofs.Json.Strings

A string literal is read back as the text it was written for, but that two halves of a surrogate
pair that stand one after the other are one character then (`readString_literal`); in a text that is
made of scalar values there are none (`joinPairs_of_isScalar`).  The proof goes by code points: each
of the four ways to write one (`shortEscape?`, as it is, one escaped unit, a pair of them) is read
back as that code point, whatever follows.
-/

namespace CommandBridge.Json

/-! ## Characters as texts -/

/-- The text of some characters. -/
def points (cs : List Char) : Text := cs.map .scalar

@[simp] theorem points_nil : points [] = [] := rfl

@[simp] theorem points_cons (c : Char) (cs : List Char) :
    points (c :: cs) = .scalar c :: points cs := rfl

@[simp] theorem points_append (cs ds : List Char) : points (cs ++ ds) = points cs ++ points ds :=
  List.map_append

@[simp] theorem length_points (cs : List Char) : (points cs).length = cs.length :=
  List.length_map _

/-! ## Escapes -/

/-- The four digits of an escaped unit. -/
def unitDigits (n : Nat) : List Char :=
  [Nat.digitChar (n / 0x1000 % 16), Nat.digitChar (n / 0x100 % 16),
    Nat.digitChar (n / 0x10 % 16), Nat.digitChar (n % 16)]

@[simp] theorem length_unitDigits (n : Nat) : (unitDigits n).length = 4 := rfl

theorem escapeUnit_eq (n : Nat) : escapeUnit n = '\\' :: 'u' :: unitDigits n := rfl

theorem length_escapeUnit (n : Nat) : (escapeUnit n).length = 6 := rfl

/-- An escaped unit is read back. -/
theorem hexUnit?_unitDigits {n : Nat} (hn : n < 0x10000) (t : Text) :
    hexUnit? (points (unitDigits n) ++ t) = some n := by
  have hdigit : ∀ k, hexDigit? (.scalar (Nat.digitChar (k % 16))) = some (k % 16) :=
    fun k => hexDigit?_digitChar (Nat.mod_lt k (by decide))
  simp only [unitDigits, points_cons, points_nil, List.cons_append, List.nil_append, hexUnit?,
    hdigit, Option.bind_eq_bind, Option.bind_some, Option.pure_def, Option.some.injEq]
  omega

theorem unitPoint_toNat (c : Char) : unitPoint c.toNat = .scalar c := by
  have hvalid : c.toNat.isValidChar := c.valid
  have hrange : ¬ (0xD800 ≤ c.toNat ∧ c.toNat < 0xE000) := by
    rcases hvalid with h | h <;> omega
  rw [unitPoint, CodePoint.ofNat?, dif_neg hrange, dif_pos hvalid]
  show CodePoint.scalar _ = CodePoint.scalar c
  congr 1
  exact Char.ext UInt32.ofNat_toNat

/-- The escape of a unit that is not the first half of a pair. -/
theorem readEscape_unit (opened : Nat) {u : Nat} (hu : u < 0x10000)
    (hsingle : ¬ (0xD800 ≤ u ∧ u < 0xDC00)) {t : Text} (ht : t ≠ []) :
    readEscape opened (.scalar 'u' :: (points (unitDigits u) ++ t)) = .ok (unitPoint u, 5) := by
  have hlength : ¬ (points (unitDigits u) ++ t).length < 5 := by
    have hpos := List.length_pos_iff.mpr ht
    rw [List.length_append, length_points, length_unitDigits]
    omega
  have hnot : ¬ (0xD800 ≤ u ∧ u < 0xDC00 ∧ 6 < ((points (unitDigits u) ++ t).drop 4).length ∧
      ((points (unitDigits u) ++ t).drop 4).take 2 = ("\\u" : Text)) :=
    fun h => hsingle ⟨h.1, h.2.1⟩
  simp only [readEscape]
  rw [if_neg hlength, hexUnit?_unitDigits hu]
  simp only
  rw [if_neg hnot]

/-- A unit stands for itself, unless it is the first half of a pair and the second one follows. -/
theorem readEscape_alone (opened : Nat) {u : Nat} (hu : u < 0x10000) {t : Text} (ht : t ≠ [])
    (hnext : t.take 2 = ("\\u" : Text) →
      ∃ v, hexUnit? (t.drop 2) = some v ∧ ¬ (0xDC00 ≤ v ∧ v < 0xE000)) :
    readEscape opened (.scalar 'u' :: (points (unitDigits u) ++ t)) = .ok (unitPoint u, 5) := by
  have hpos := List.length_pos_iff.mpr ht
  have hlength : ¬ (points (unitDigits u) ++ t).length < 5 := by
    rw [List.length_append, length_points, length_unitDigits]
    omega
  have hrest : (points (unitDigits u) ++ t).drop 4 = t := by simp [unitDigits]
  simp only [readEscape]
  rw [if_neg hlength, hexUnit?_unitDigits hu]
  simp only [hrest]
  split
  · next hpair =>
    obtain ⟨v, hv, hlow⟩ := hnext hpair.2.2.2
    simp only [hv]
    rw [if_neg hlow]
  · rfl

/-- The escapes of a pair of units. -/
theorem readEscape_pair (opened : Nat) {u v : Nat} (hu : 0xD800 ≤ u ∧ u < 0xDC00)
    (hv : 0xDC00 ≤ v ∧ v < 0xE000) {t : Text} (ht : t ≠ []) :
    readEscape opened (.scalar 'u' :: (points (unitDigits u ++ escapeUnit v) ++ t)) =
      .ok (.scalar (Char.ofNat (0x10000 + (u - 0xD800) * 0x400 + (v - 0xDC00))), 11) := by
  have hpos := List.length_pos_iff.mpr ht
  have hlength : ¬ (points (unitDigits u ++ escapeUnit v) ++ t).length < 5 := by
    rw [List.length_append, length_points, List.length_append, length_unitDigits,
      length_escapeUnit]
    omega
  have hrest : (points (unitDigits u ++ escapeUnit v) ++ t).drop 4 =
      points (escapeUnit v) ++ t := by
    simp [unitDigits]
  have hhigh : hexUnit? (points (unitDigits u ++ escapeUnit v) ++ t) = some u := by
    rw [points_append, List.append_assoc, hexUnit?_unitDigits (by omega)]
  have hlow : hexUnit? ((points (escapeUnit v) ++ t).drop 2) = some v := by
    rw [escapeUnit_eq]
    exact hexUnit?_unitDigits (by omega) t
  have hpair : 0xD800 ≤ u ∧ u < 0xDC00 ∧ 6 < (points (escapeUnit v) ++ t).length ∧
      (points (escapeUnit v) ++ t).take 2 = ("\\u" : Text) := by
    refine ⟨hu.1, hu.2, ?_, rfl⟩
    rw [List.length_append, length_points, length_escapeUnit]
    omega
  simp only [readEscape]
  rw [if_neg hlength, hhigh]
  simp only [hrest]
  rw [if_pos hpair, hlow]
  simp only
  rw [if_pos hv]

/-! ## Literals -/

variable {opened : Nat} {s t rest : Text}

theorem readString_quoteMark (opened : Nat) (rest : Text) :
    readString opened (.scalar '"' :: rest) = .ok ([], rest) := by
  rw [readString, if_pos rfl]

theorem readString_of_escape {r : Text} {q : CodePoint} {used : Nat}
    (hq : readEscape opened r = .ok (q, used))
    (hs : readString opened (r.drop used) = .ok (s, rest)) :
    readString opened (.scalar '\\' :: r) = .ok (q :: s, rest) := by
  rw [readString, if_neg (by decide), if_pos rfl, hq]
  simp only
  rw [hs]

theorem readString_of_plain {c : Char} {r : Text} (hquote : c ≠ '"') (hslash : c ≠ '\\')
    (hcontrol : 0x20 ≤ c.toNat) (hs : readString opened r = .ok (s, rest)) :
    readString opened (.scalar c :: r) = .ok (.scalar c :: s, rest) := by
  have hlow : ¬ (CodePoint.scalar c).toNat < 0x20 := Nat.not_lt.mpr hcontrol
  rw [readString, if_neg (by simpa using hquote), if_neg (by simpa using hslash), if_neg hlow, hs]

/-- A code point that was written is read back, and what follows it is read as before. -/
theorem readString_escapePoint (c : Char) (hs : readString opened t = .ok (s, rest)) :
    readString opened (points (escapePoint (.scalar c)) ++ t) = .ok (.scalar c :: s, rest) := by
  have ht : t ≠ [] := by
    rintro rfl
    rw [readString] at hs
    simp at hs
  cases hshort : shortEscape? c with
  | some e =>
      simp only [escapePoint, hshort]
      unfold shortEscape? at hshort
      split at hshort
      all_goals first
        | (obtain rfl := Option.some.inj hshort; exact readString_of_escape rfl hs)
        | simp at hshort
  | none =>
      have hne : c ≠ '"' ∧ c ≠ '\\' := by
        constructor <;> (rintro rfl; simp [shortEscape?] at hshort)
      simp only [escapePoint, hshort]
      by_cases hplain : 0x20 ≤ c.toNat ∧ c.toNat < 0x7F
      · rw [if_pos hplain]
        exact readString_of_plain hne.1 hne.2 hplain.1 hs
      · rw [if_neg hplain]
        have hvalid : c.toNat.isValidChar := c.valid
        by_cases hunit : c.toNat < 0x10000
        · rw [if_pos hunit, escapeUnit_eq]
          have hsingle : ¬ (0xD800 ≤ c.toNat ∧ c.toNat < 0xDC00) := by
            rcases hvalid with h | h <;> omega
          have hescape := readEscape_unit opened hunit hsingle ht
          rw [unitPoint_toNat] at hescape
          exact readString_of_escape hescape hs
        · rw [if_neg hunit, escapeUnit_eq]
          have hu : 0xD800 ≤ 0xD800 + (c.toNat - 0x10000) / 0x400 ∧
              0xD800 + (c.toNat - 0x10000) / 0x400 < 0xDC00 := by
            rcases hvalid with h | h <;> omega
          have hv : 0xDC00 ≤ 0xDC00 + (c.toNat - 0x10000) % 0x400 ∧
              0xDC00 + (c.toNat - 0x10000) % 0x400 < 0xE000 := by omega
          have hescape := readEscape_pair opened hu hv ht
          have hc : Char.ofNat (0x10000 + (0xD800 + (c.toNat - 0x10000) / 0x400 - 0xD800) * 0x400 +
              (0xDC00 + (c.toNat - 0x10000) % 0x400 - 0xDC00)) = c := by
            rw [show 0x10000 + (0xD800 + (c.toNat - 0x10000) / 0x400 - 0xD800) * 0x400 +
              (0xDC00 + (c.toNat - 0x10000) % 0x400 - 0xDC00) = c.toNat by omega]
            exact Char.ofNat_toNat c
          rw [hc] at hescape
          exact readString_of_escape hescape hs

/-! ## Halves of pairs

A literal cannot tell two halves of a surrogate pair that stand one after the other from the
character of the pair. -/

/-- A text with every two halves of a pair that stand one after the other made one character. -/
def joinPairs : Text → Text
  | .surrogate a :: .surrogate b :: r =>
    if h : a.val < 0x400 ∧ 0x400 ≤ b.val then
      .scalar (CodePoint.joinSurrogates ⟨a.val, h.1⟩ ⟨b.val - 0x400, by omega⟩) :: joinPairs r
    else .surrogate a :: joinPairs (.surrogate b :: r)
  | p :: r => p :: joinPairs r
  | [] => []

theorem unitPoint_surrogate (u : Fin 0x800) : unitPoint (0xD800 + u.val) = .surrogate u := by
  have hrange : 0xD800 ≤ 0xD800 + u.val ∧ 0xD800 + u.val < 0xE000 := by omega
  rw [unitPoint, CodePoint.ofNat?, dif_pos hrange]
  simp

/-- A short escape is none of a unit. -/
theorem shortEscape?_ne_unit {c : Char} {e : List Char} (h : shortEscape? c = some e) :
    ∃ d, e = ['\\', d] ∧ d ≠ 'u' := by
  unfold shortEscape? at h
  split at h
  all_goals first
    | (obtain rfl := Option.some.inj h; exact ⟨_, rfl, by decide⟩)
    | simp at h

/-- If a character is written as escaped units, the first is not the second half of a pair. -/
theorem hexUnit?_escapePoint (c : Char) {t : Text}
    (h : (points (escapePoint (.scalar c)) ++ t).take 2 = ("\\u" : Text)) :
    ∃ v, hexUnit? ((points (escapePoint (.scalar c)) ++ t).drop 2) = some v ∧
      ¬ (0xDC00 ≤ v ∧ v < 0xE000) := by
  have hmark : ("\\u" : Text) = [.scalar '\\', .scalar 'u'] := rfl
  have hvalid : c.toNat.isValidChar := c.valid
  have hunit : ∀ {n : Nat} (ds : List Char), n < 0x10000 →
      hexUnit? ((points (escapeUnit n ++ ds) ++ t).drop 2) = some n := by
    intro n ds hn
    rw [escapeUnit_eq, points_append, List.append_assoc]
    exact hexUnit?_unitDigits hn _
  rw [hmark] at h
  cases hshort : shortEscape? c with
  | some e =>
      obtain ⟨d, rfl, hd⟩ := shortEscape?_ne_unit hshort
      simp [escapePoint, hshort, hd] at h
  | none =>
      simp only [escapePoint, hshort] at h ⊢
      split
      · next hplain =>
        have hslash : c ≠ '\\' := by rintro rfl; simp [shortEscape?] at hshort
        simp [if_pos hplain, hslash] at h
      · split
        · next hbasic =>
          refine ⟨c.toNat, by simpa using hunit [] hbasic, ?_⟩
          rcases hvalid with hv | hv <;> omega
        · refine ⟨_, hunit _ ?_, ?_⟩ <;> rcases hvalid with hv | hv <;> omega

/-- A first half that no second one follows is read back. -/
theorem readString_surrogate {opened : Nat} {a : Fin 0x800} {t s rest : Text}
    (hs : readString opened t = .ok (s, rest))
    (hnext : t.take 2 = ("\\u" : Text) →
      ∃ v, hexUnit? (t.drop 2) = some v ∧ ¬ (0xDC00 ≤ v ∧ v < 0xE000)) :
    readString opened (points (escapePoint (.surrogate a)) ++ t) =
      .ok (.surrogate a :: s, rest) := by
  have ht : t ≠ [] := by
    rintro rfl
    rw [readString] at hs
    simp at hs
  have hescape := readEscape_alone opened (u := 0xD800 + a.val) (by omega) ht hnext
  rw [unitPoint_surrogate] at hescape
  exact readString_of_escape hescape hs

/-- The characters of a literal are read up to the closing quote, with pairs joined. -/
theorem readString_literal (opened : Nat) (t rest : Text) :
    readString opened (points (t.flatMap escapePoint) ++ .scalar '"' :: rest) =
      .ok (joinPairs t, rest) := by
  induction t using joinPairs.induct with
  | case1 a b r hpair ih =>
      have hescape := readEscape_pair opened (u := 0xD800 + a.val) (v := 0xD800 + b.val)
        (by omega) (by omega) (t := points (r.flatMap escapePoint) ++ .scalar '"' :: rest) (by simp)
      have hjoined : Char.ofNat (0x10000 + (0xD800 + a.val - 0xD800) * 0x400 +
          (0xD800 + b.val - 0xDC00)) =
            CodePoint.joinSurrogates ⟨a.val, hpair.1⟩ ⟨b.val - 0x400, by omega⟩ := by
        have hsum : 0x10000 + (0xD800 + a.val - 0xD800) * 0x400 + (0xD800 + b.val - 0xDC00) =
            0x10000 + a.val * 0x400 + (b.val - 0x400) := by omega
        rw [hsum, CodePoint.joinSurrogates]
      have htext : points ((CodePoint.surrogate a :: CodePoint.surrogate b :: r).flatMap
          escapePoint) ++ .scalar '"' :: rest = .scalar '\\' :: .scalar 'u' ::
            (points (unitDigits (0xD800 + a.val) ++ escapeUnit (0xD800 + b.val)) ++
              (points (r.flatMap escapePoint) ++ .scalar '"' :: rest)) := by
        simp [escapePoint, escapeUnit_eq (0xD800 + a.val)]
      have hdrop : ∀ (u v : Nat) (t : Text),
          (CodePoint.scalar 'u' :: (points (unitDigits u ++ escapeUnit v) ++ t)).drop 11 = t := by
        intro u v t
        simp [unitDigits, escapeUnit]
      rw [htext, joinPairs, dif_pos hpair, ← hjoined]
      apply readString_of_escape hescape
      rw [hdrop]
      exact ih
  | case2 a b r hpair ih =>
      rw [joinPairs, dif_neg hpair, List.flatMap_cons, points_append, List.append_assoc]
      by_cases ha : a.val < 0x400
      · refine readString_surrogate ih fun _ => ⟨0xD800 + b.val, ?_, by omega⟩
        rw [List.flatMap_cons, points_append, List.append_assoc, escapePoint, escapeUnit_eq]
        exact hexUnit?_unitDigits (by omega) _
      · have hescape := readEscape_unit opened (u := 0xD800 + a.val) (by omega) (by omega)
          (t := points ((CodePoint.surrogate b :: r).flatMap escapePoint) ++ .scalar '"' :: rest)
          (by simp)
        rw [unitPoint_surrogate] at hescape
        exact readString_of_escape hescape ih
  | case3 p r hnot ih =>
      rw [joinPairs.eq_2 _ _ hnot, List.flatMap_cons, points_append, List.append_assoc]
      cases p with
      | scalar c => exact readString_escapePoint c ih
      | surrogate a =>
          refine readString_surrogate ih fun htake => ?_
          cases r with
          | nil =>
              have hmark : ("\\u" : Text) = [.scalar '\\', .scalar 'u'] := rfl
              simp [hmark] at htake
          | cons q r =>
              cases q with
              | surrogate b => exact absurd rfl (hnot a b r rfl)
              | scalar c =>
                  rw [List.flatMap_cons, points_append, List.append_assoc] at htake ⊢
                  exact hexUnit?_escapePoint c htake
  | case4 => exact readString_quoteMark opened rest

/-! ## Texts without surrogates -/

/-- Whether a text is made of scalar values. -/
def IsScalar (t : Text) : Prop := ∀ p ∈ t, ∃ c, p = .scalar c

theorem isScalar_ofString (s : String) : IsScalar (Text.ofString s) := by
  intro p hp
  obtain ⟨c, -, rfl⟩ := List.mem_map.mp hp
  exact ⟨c, rfl⟩

theorem joinPairs_of_isScalar (ht : IsScalar t) : joinPairs t = t := by
  induction t with
  | nil => rfl
  | cons p t ih =>
      obtain ⟨c, rfl⟩ := ht p List.mem_cons_self
      rw [joinPairs.eq_2 _ _ (by simp), ih fun q hq => ht q (List.mem_cons_of_mem _ hq)]

end CommandBridge.Json
