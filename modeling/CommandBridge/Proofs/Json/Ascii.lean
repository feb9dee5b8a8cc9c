import CommandBridge.Proofs.Json.Digits
import CommandBridge.Proofs.Text.Utf8

/-!
# CommandBridge.Proofs.Json.Ascii

The ASCII form of a value is made of printable ASCII characters (`plain_chars`), whatever characters
and lone surrogates its strings hold.  So each of its bytes is that of a printable character
(`byte_of_mem_encode_write`): there is no line break among them, and they say the same in every
encoding that keeps ASCII.  Written as bytes and decoded, it is there again (`decode_encode_write`).
-/

namespace CommandBridge.Json

/-! ## Printable ASCII characters -/

/-- The printable ASCII characters. -/
def IsPlain (c : Char) : Prop := 0x20 ≤ c.toNat ∧ c.toNat < 0x7F

instance : DecidablePred IsPlain := fun c =>
  inferInstanceAs (Decidable (0x20 ≤ c.toNat ∧ c.toNat < 0x7F))

/-- Characters that are all printable ASCII. -/
def Plain (cs : List Char) : Prop := ∀ c ∈ cs, IsPlain c

instance : DecidablePred Plain := List.decidableBAll IsPlain

@[simp] theorem plain_nil : Plain [] := by simp [Plain]

@[simp] theorem plain_cons {c : Char} {cs : List Char} :
    Plain (c :: cs) ↔ IsPlain c ∧ Plain cs := List.forall_mem_cons

@[simp] theorem plain_append {cs ds : List Char} : Plain (cs ++ ds) ↔ Plain cs ∧ Plain ds :=
  List.forall_mem_append

theorem Plain.take {cs : List Char} (h : Plain cs) (n : Nat) : Plain (cs.take n) :=
  fun c hc => h c (List.mem_of_mem_take hc)

theorem Plain.drop {cs : List Char} (h : Plain cs) (n : Nat) : Plain (cs.drop n) :=
  fun c hc => h c (List.mem_of_mem_drop hc)

theorem Plain.notMem {cs : List Char} (h : Plain cs) {c : Char} (hc : ¬ IsPlain c) : c ∉ cs :=
  fun hmem => hc (h c hmem)

theorem plain_replicate {c : Char} (h : IsPlain c) (n : Nat) : Plain (List.replicate n c) := by
  intro d hd
  rw [List.eq_of_mem_replicate hd]
  exact h

theorem isPlain_of_isDigit {c : Char} (h : c.isDigit) : IsPlain c := by
  have hrange : 0x30 ≤ c.toNat ∧ c.toNat ≤ 0x39 := by
    simpa [Char.isDigit, UInt32.le_iff_toNat_le] using h
  exact ⟨by omega, by omega⟩

theorem plain_toDigits (n : Nat) : Plain (Nat.toDigits 10 n) :=
  fun _ hc => isPlain_of_isDigit (isDigit_of_mem_toDigits hc)

theorem isPlain_digitChar (n : Nat) : IsPlain (Nat.digitChar (n % 16)) := by
  have hall : ∀ d < 16, IsPlain (Nat.digitChar d) := by decide
  exact hall _ (Nat.mod_lt n (by decide))

/-! ## Strings -/

theorem plain_escapeUnit (n : Nat) : Plain (escapeUnit n) := by
  have hmark : IsPlain '\\' ∧ IsPlain 'u' := by decide
  simp [escapeUnit, isPlain_digitChar, hmark]

theorem plain_of_shortEscape? {c : Char} {e : List Char} (h : shortEscape? c = some e) :
    Plain e := by
  unfold shortEscape? at h
  split at h
  all_goals first
    | (obtain rfl := Option.some.inj h; decide)
    | simp at h

theorem plain_escapePoint (p : CodePoint) : Plain (escapePoint p) := by
  cases p with
  | surrogate u => exact plain_escapeUnit _
  | scalar c =>
      cases hshort : shortEscape? c with
      | some e =>
          simp only [escapePoint, hshort]
          exact plain_of_shortEscape? hshort
      | none =>
          simp only [escapePoint, hshort]
          split
          · next hplain => exact plain_cons.mpr ⟨hplain, plain_nil⟩
          · split
            · exact plain_escapeUnit _
            · exact plain_append.mpr ⟨plain_escapeUnit _, plain_escapeUnit _⟩

theorem plain_quote (t : Text) : Plain (quote t) := by
  have hmark : IsPlain '"' := by decide
  have hinside : Plain (t.flatMap escapePoint) := by
    intro c hc
    obtain ⟨p, -, hp⟩ := List.mem_flatMap.mp hc
    exact plain_escapePoint p c hp
  simp [quote, hmark, hinside]

/-! ## Numbers -/

theorem plain_intText (i : Int) : Plain (intText i) := by
  have hsign : Plain (if i < 0 then ['-'] else []) := by split <;> decide
  exact plain_append.mpr ⟨hsign, plain_toDigits _⟩

theorem plain_exponentText (e : Int) : Plain (Binary64.exponentText e) := by
  have hsign : IsPlain (if e < 0 then '-' else '+') := by split <;> decide
  have hdigits : Plain (if (Nat.toDigits 10 e.natAbs).length < 2
      then '0' :: Nat.toDigits 10 e.natAbs else Nat.toDigits 10 e.natAbs) := by
    split
    · exact plain_cons.mpr ⟨by decide, plain_toDigits _⟩
    · exact plain_toDigits _
  exact plain_cons.mpr ⟨by decide, plain_cons.mpr ⟨hsign, hdigits⟩⟩

/-- Both notations consist of the digits, a point, zeros and an exponent. -/
theorem plain_decimalText (d : Decimal) : Plain (Binary64.decimalText d) := by
  have hdigits := plain_toDigits d.digits
  have hzero : IsPlain '0' := by decide
  have hpoint : IsPlain '.' := by decide
  rw [Binary64.decimalText]
  split
  · split
    · simp [hzero, hpoint, hdigits, plain_replicate]
    · split
      · simp [hzero, hpoint, hdigits, plain_replicate]
      · simp [hpoint, hdigits.take, hdigits.drop]
  · have hfraction : Plain (if 1 < (Nat.toDigits 10 d.digits).length
        then '.' :: (Nat.toDigits 10 d.digits).drop 1 else []) := by
      split
      · exact plain_cons.mpr ⟨hpoint, hdigits.drop 1⟩
      · exact plain_nil
    simp only [plain_append]
    exact ⟨⟨hdigits.take 1, hfraction⟩, plain_exponentText _⟩

theorem plain_floatText (x : Binary64) : Plain (floatText x) := by
  cases x with
  | nan => decide
  | infinite negative => cases negative <;> decide
  | finite negative m =>
      have hsign : Plain (if negative then ['-'] else []) := by split <;> decide
      exact plain_append.mpr ⟨hsign, plain_decimalText _⟩

/-! ## Values -/

mutual

/-- The ASCII form is made of printable ASCII characters. -/
theorem plain_chars : ∀ j : Json, Plain (chars j)
  | .null | .bool true | .bool false => by rw [chars]; decide
  | .int i => by rw [chars]; exact plain_intText i
  | .float x => by rw [chars]; exact plain_floatText x
  | .str t => by rw [chars]; exact plain_quote t
  | .arr es => by rw [chars]; exact plain_cons.mpr ⟨by decide, plain_charsElements es⟩
  | .obj ms => by rw [chars]; exact plain_cons.mpr ⟨by decide, plain_charsMembers ms⟩

theorem plain_charsElements : ∀ es : List Json, Plain (charsElements es)
  | [] => by rw [charsElements]; decide
  | [j] => by
    have hclose : Plain [']'] := by decide
    simp only [charsElements, plain_append]
    exact ⟨plain_chars j, hclose⟩
  | j :: j' :: r => by
    have hcomma : IsPlain ',' ∧ IsPlain ' ' := by decide
    simp only [charsElements, plain_append, plain_cons]
    exact ⟨plain_chars j, hcomma.1, hcomma.2, plain_charsElements (j' :: r)⟩

theorem plain_charsMembers : ∀ ms : List (Text × Json), Plain (charsMembers ms)
  | [] => by rw [charsMembers]; decide
  | [(k, j)] => by
    have hcolon : IsPlain ':' ∧ IsPlain ' ' := by decide
    have hclose : IsPlain '}' := by decide
    simp only [charsMembers, plain_append, plain_cons]
    exact ⟨⟨plain_quote k, hcolon.1, hcolon.2, plain_chars j⟩, hclose, plain_nil⟩
  | (k, j) :: m :: r => by
    have hcolon : IsPlain ':' ∧ IsPlain ' ' := by decide
    have hcomma : IsPlain ',' := by decide
    simp only [charsMembers, plain_append, plain_cons]
    exact ⟨⟨plain_quote k, hcolon.1, hcolon.2, plain_chars j⟩, hcomma, hcolon.2,
      plain_charsMembers (m :: r)⟩

end

/-! ## Bytes -/

theorem encode_write (j : Json) : Utf8.encode j.write = (chars j).flatMap Utf8.encodeChar := by
  rw [Utf8.encode, write, String.toList_ofList]

theorem encodeChar_of_isPlain {c : Char} (h : IsPlain c) :
    Utf8.encodeChar c = [c.toNat.toUInt8] := by
  have hascii : c.toNat < 0x80 := Nat.lt_trans h.2 (by decide)
  rw [Utf8.encodeChar, if_pos hascii]

/-- Each byte of the ASCII form is that of a printable character. -/
theorem byte_of_mem_encode_write {j : Json} {b : UInt8} (hb : b ∈ Utf8.encode j.write) :
    0x20 ≤ b.toNat ∧ b.toNat < 0x7F := by
  rw [encode_write] at hb
  obtain ⟨c, hc, hb⟩ := List.mem_flatMap.mp hb
  have hplain := plain_chars j c hc
  rw [encodeChar_of_isPlain hplain, List.mem_singleton] at hb
  have hbyte : b.toNat = c.toNat := by
    rw [hb]
    exact Utf8.toNat_toUInt8 (Nat.lt_trans hplain.2 (by decide))
  rw [hbyte]
  exact hplain

/-- The bytes of the ASCII form are read as its characters. -/
theorem decode_encode_write (j : Json) : Utf8.decode (Utf8.encode j.write) = .ok (chars j) :=
  Utf8.decode_eq_ok_iff.mpr (encode_write j)

end CommandBridge.Json
