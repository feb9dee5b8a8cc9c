import CommandBridge.Text.Percent
import CommandBridge.Proofs.Text.Utf8
import Mathlib.Data.List.Forall2

/-!
# CommandBridge.Proofs.Text.Percent

Strict decoding inverts percent-encoding (`decode_inverts_encodes`).  The encodings of a text are
a relation, `Encodes`, and not a function: each character but `%` may stand for itself, and any
character may stand as the escapes of its UTF-8 bytes, in digits of either case.

The decoder works in two layers, and so do the proofs:

1. `pieces?` cuts a text into bytes and other characters (`Written`, `pieces?_eq_some_iff`);
2. `assemble` reads the characters off the pieces (`Made`, `assemble_eq_some_iff`).
-/

namespace CommandBridge.Percent

/-! ## The encodings of a text -/

/-- `d` is the hexadecimal digit of `n`, in one of its two cases. -/
def IsDigit (n : Nat) (d : Char) : Prop := d = Nat.digitChar n ∨ d = (Nat.digitChar n).toUpper

instance (n : Nat) (d : Char) : Decidable (IsDigit n d) :=
  inferInstanceAs (Decidable (_ ∨ _))

/-- `w` is an escape of the byte `b`. -/
def IsEscape (b : UInt8) (w : List Char) : Prop :=
  ∃ h l, IsDigit (b.toNat / 16) h ∧ IsDigit (b.toNat % 16) l ∧ w = ['%', h, l]

/-- What may stand for the character `c`: itself, unless it is `%`, or one escape for each of its
UTF-8 bytes. -/
inductive Spells (c : Char) : List Char → Prop
  | plain (hc : c ≠ '%') : Spells c [c]
  | escaped {es : List (List Char)} (hes : List.Forall₂ IsEscape (Utf8.encodeChar c) es) :
      Spells c es.flatten

/-- `raw` is a percent-encoding of the characters `cs`. -/
inductive Encodes : (cs raw : List Char) → Prop
  | nil : Encodes [] []
  | cons {c : Char} {cs w raw : List Char} (hw : Spells c w) (hraw : Encodes cs raw) :
      Encodes (c :: cs) (w ++ raw)

/-! ## Escapes -/

/-- What holds of the ASCII characters, checked one by one, holds of any character below `0x80`. -/
theorem forall_ascii {P : Char → Prop} (h : ∀ n < 0x80, P (Char.ofNat n)) {c : Char}
    (hc : c.toNat < 0x80) : P c := by
  have hP := h c.toNat hc
  rwa [Char.ofNat_toNat] at hP

theorem ascii_of_hexValue? {n : Nat} {d : Char} (h : hexValue? d = some n) : d.toNat < 0x80 := by
  have hle : ∀ {a : Char}, d ≤ a → a.toNat < 0x80 → d.toNat < 0x80 :=
    fun hda ha => Nat.lt_of_le_of_lt hda ha
  rw [hexValue?] at h
  split at h
  · next hd => exact hle hd.2 (by decide)
  split at h
  · next hd => exact hle hd.2 (by decide)
  split at h
  · next hd => exact hle hd.2 (by decide)
  · simp at h

theorem hexValue?_eq_some_iff {n : Nat} {d : Char} :
    hexValue? d = some n ↔ n < 16 ∧ IsDigit n d := by
  constructor
  · have hascii : ∀ k < 0x80, ∀ n ∈ hexValue? (Char.ofNat k),
        n < 16 ∧ IsDigit n (Char.ofNat k) := by decide
    intro h
    exact forall_ascii (P := fun c => ∀ n ∈ hexValue? c, n < 16 ∧ IsDigit n c) hascii
      (ascii_of_hexValue? h) n h
  · have hboth : ∀ k < 16, hexValue? (Nat.digitChar k) = some k ∧
        hexValue? (Nat.digitChar k).toUpper = some k := by decide
    rintro ⟨hn, rfl | rfl⟩
    · exact (hboth n hn).1
    · exact (hboth n hn).2

theorem IsDigit.ne_percent {n : Nat} {d : Char} (hn : n < 16) (hd : IsDigit n d) : d ≠ '%' := by
  rintro rfl
  have h := hexValue?_eq_some_iff.mpr ⟨hn, hd⟩
  exact absurd h (by simp [show hexValue? '%' = none from by decide])

theorem escaped?_eq_some_iff {h l : Char} {b : UInt8} :
    escaped? h l = some b ↔ IsDigit (b.toNat / 16) h ∧ IsDigit (b.toNat % 16) l := by
  have hb : b.toNat < 256 := b.toNat_lt
  rw [escaped?]
  constructor
  · intro hbyte
    split at hbyte
    · next x y hx hy =>
      obtain ⟨hx16, hx⟩ := hexValue?_eq_some_iff.mp hx
      obtain ⟨hy16, hy⟩ := hexValue?_eq_some_iff.mp hy
      obtain rfl := Option.some.inj hbyte
      have hvalue : (16 * x + y).toUInt8.toNat = 16 * x + y := Utf8.toNat_toUInt8 (by omega)
      rw [hvalue, show (16 * x + y) / 16 = x by omega, show (16 * x + y) % 16 = y by omega]
      exact ⟨hx, hy⟩
    · simp at hbyte
  · rintro ⟨hh, hl⟩
    rw [hexValue?_eq_some_iff.mpr ⟨by omega, hh⟩, hexValue?_eq_some_iff.mpr ⟨by omega, hl⟩]
    exact congrArg some (Utf8.toUInt8_eq (by omega))

/-! ## A text and its pieces -/

/-- `raw` spells the pieces `ps`: an escape for a byte, or a character other than `%`. -/
inductive Written : (ps : List Piece) → (raw : List Char) → Prop
  | nil : Written [] []
  | escape {b : UInt8} {w raw : List Char} {ps : List Piece} (hw : IsEscape b w)
      (hraw : Written ps raw) : Written (.byte b :: ps) (w ++ raw)
  | plain {c : Char} {raw : List Char} {ps : List Piece} (hc : c ≠ '%') (hraw : Written ps raw) :
      Written (.ofChar c :: ps) (c :: raw)

theorem written_of_pieces? {raw : List Char} {ps : List Piece} (h : pieces? raw = some ps) :
    Written ps raw := by
  fun_induction pieces? raw generalizing ps with
  | case1 =>
      obtain rfl := Option.some.inj h
      exact .nil
  | case2 h' l r b hb ih =>
      obtain ⟨ps', hps', rfl⟩ := Option.map_eq_some_iff.mp h
      obtain ⟨hh, hl⟩ := escaped?_eq_some_iff.mp hb
      exact .escape ⟨h', l, hh, hl, rfl⟩ (ih hps')
  | case3 => simp at h
  | case4 => simp at h
  | case5 c r hshort hc ih =>
      obtain ⟨ps', hps', rfl⟩ := Option.map_eq_some_iff.mp h
      exact .plain hc (ih hps')

theorem pieces?_of_written {raw : List Char} {ps : List Piece} (h : Written ps raw) :
    pieces? raw = some ps := by
  induction h with
  | nil => rfl
  | escape hw hraw ih =>
      obtain ⟨h, l, hh, hl, rfl⟩ := hw
      simp [pieces?, escaped?_eq_some_iff.mpr ⟨hh, hl⟩, ih]
  | plain hc hraw ih =>
      rw [pieces?, if_neg hc, ih, Option.map_some]
      exact fun _ _ _ hpercent _ => hc hpercent

theorem pieces?_eq_some_iff {raw : List Char} {ps : List Piece} :
    pieces? raw = some ps ↔ Written ps raw :=
  ⟨written_of_pieces?, pieces?_of_written⟩

/-- Every `%` of a text that spells pieces begins an escape. -/
theorem Written.escape_of_percent {ps : List Piece} {before after : List Char}
    (h : Written ps (before ++ '%' :: after)) :
    ∃ b h l r, IsEscape b ['%', h, l] ∧ after = h :: l :: r := by
  generalize hraw : before ++ '%' :: after = raw at h
  induction h generalizing before with
  | nil => simp at hraw
  | @escape b w raw ps hw _ ih =>
      obtain ⟨h, l, hh, hl, rfl⟩ := hw
      have hb : b.toNat < 256 := b.toNat_lt
      -- `%` is no digit, so it stands first in the escape or after it
      match before with
      | [] =>
          simp only [List.nil_append, List.cons_append, List.cons.injEq, true_and] at hraw
          exact ⟨b, h, l, raw, ⟨h, l, hh, hl, rfl⟩, hraw⟩
      | [_] =>
          simp only [List.cons_append, List.nil_append, List.cons.injEq] at hraw
          exact absurd hraw.2.1.symm (hh.ne_percent (by omega))
      | [_, _] =>
          simp only [List.cons_append, List.nil_append, List.cons.injEq] at hraw
          exact absurd hraw.2.2.1.symm (hl.ne_percent (by omega))
      | _ :: _ :: _ :: before' =>
          simp only [List.cons_append, List.nil_append, List.cons.injEq] at hraw
          exact ih hraw.2.2.2
  | plain hc _ ih =>
      cases before with
      | nil =>
          simp only [List.nil_append, List.cons.injEq] at hraw
          exact absurd hraw.1.symm hc
      | cons _ before' =>
          simp only [List.cons_append, List.cons.injEq] at hraw
          exact ih hraw.2

/-! ## Pieces and their characters -/

/-- The pieces `ps` are made of the characters `cs`: of a character stands either itself or its
UTF-8 bytes. -/
inductive Made : (cs : List Char) → (ps : List Piece) → Prop
  | nil : Made [] []
  | literal {c : Char} {cs : List Char} {ps : List Piece} (hps : Made cs ps) :
      Made (c :: cs) (.literal c :: ps)
  | bytes {c : Char} {cs : List Char} {ps : List Piece} (hps : Made cs ps) :
      Made (c :: cs) ((Utf8.encodeChar c).map .byte ++ ps)

theorem Made.flatMap_bytes {cs : List Char} {ps : List Piece} (done : List Char)
    (h : Made cs ps) : Made (done ++ cs) ((done.flatMap Utf8.encodeChar).map .byte ++ ps) := by
  induction done with
  | nil => exact h
  | cons c done ih =>
      rw [List.flatMap_cons, List.map_append, List.append_assoc]
      exact .bytes ih

/-- The strict reader of a run. -/
def read? (bs : List UInt8) : Option (List Char) := (Utf8.decode bs).toOption

theorem read?_eq_some_iff {bs : List UInt8} {cs : List Char} :
    read? bs = some cs ↔ bs = cs.flatMap Utf8.encodeChar := by
  rw [← Utf8.decode_eq_ok_iff, read?]
  cases Utf8.decode bs with
  | error e => simp [Except.toOption]
  | ok cs' => simp [Except.toOption]

theorem assemble_bytes (bs run : List UInt8) (ps : List Piece) :
    assemble read? run (bs.map .byte ++ ps) = assemble read? (run ++ bs) ps := by
  induction bs generalizing run with
  | nil => rw [List.map_nil, List.nil_append, List.append_nil]
  | cons b bs ih =>
      rw [List.map_cons, List.cons_append, assemble, ih, List.append_assoc, List.singleton_append]

theorem made_of_assemble {run : List UInt8} {ps : List Piece} {cs : List Char}
    (h : assemble read? run ps = some cs) : Made cs (run.map .byte ++ ps) := by
  induction ps generalizing run cs with
  | nil =>
      rw [assemble, read?_eq_some_iff] at h
      rw [h, ← List.append_nil cs]
      simpa using Made.nil.flatMap_bytes cs
  | cons p ps ih =>
      cases p with
      | byte b =>
          have hmade := ih h
          rwa [List.map_append, List.append_assoc] at hmade
      | literal c =>
          simp only [assemble, Option.bind_eq_bind, Option.bind_eq_some_iff, Option.pure_def,
            Option.some.injEq] at h
          obtain ⟨front, hfront, back, hback, rfl⟩ := h
          obtain rfl := read?_eq_some_iff.mp hfront
          exact (Made.literal (ih hback)).flatMap_bytes front

/-- `done` holds the characters of the open run. -/
theorem assemble_of_made {cs : List Char} {ps : List Piece} (h : Made cs ps) (done : List Char) :
    assemble read? (done.flatMap Utf8.encodeChar) ps = some (done ++ cs) := by
  induction h generalizing done with
  | nil => rw [assemble, read?_eq_some_iff, List.append_nil]
  | literal hps ih =>
      have hrest := ih []
      rw [List.flatMap_nil, List.nil_append] at hrest
      rw [assemble, read?_eq_some_iff.mpr rfl, hrest]
      rfl
  | @bytes c cs ps hps ih =>
      have hrest := ih (done ++ [c])
      rw [List.flatMap_append, List.flatMap_singleton, List.append_assoc] at hrest
      rw [assemble_bytes, hrest, List.singleton_append]

theorem assemble_eq_some_iff {ps : List Piece} {cs : List Char} :
    assemble read? [] ps = some cs ↔ Made cs ps :=
  ⟨made_of_assemble, fun h => assemble_of_made h []⟩

/-! ## A text and its characters -/

theorem Written.escapes {bs : List UInt8} {es : List (List Char)} {ps : List Piece}
    {raw : List Char} (hes : List.Forall₂ IsEscape bs es) (hraw : Written ps raw) :
    Written (bs.map .byte ++ ps) (es.flatten ++ raw) := by
  induction hes with
  | nil => exact hraw
  | cons he _ ih =>
      rw [List.flatten_cons, List.append_assoc]
      exact .escape he ih

/-- What spells a byte is its escape or, for an ASCII byte, its character. -/
theorem Written.byte_cases {b : UInt8} {ps : List Piece} {raw : List Char}
    (h : Written (.byte b :: ps) raw) :
    ∃ w raw', raw = w ++ raw' ∧ Written ps raw' ∧
      (IsEscape b w ∨ ∃ c : Char, c ≠ '%' ∧ w = [c] ∧ c.toNat < 0x80 ∧ b = c.toNat.toUInt8) := by
  generalize hps : Piece.byte b :: ps = qs at h
  cases h with
  | nil => simp at hps
  | escape hw hraw =>
      obtain ⟨hbyte, rfl⟩ := List.cons.inj hps
      obtain rfl := Piece.byte.inj hbyte
      exact ⟨_, _, rfl, hraw, .inl hw⟩
  | @plain c raw ps' hc hraw =>
      obtain ⟨hbyte, rfl⟩ := List.cons.inj hps
      rw [Piece.ofChar] at hbyte
      split at hbyte
      · next hascii => exact ⟨[c], raw, rfl, hraw, .inr ⟨c, hc, rfl, hascii, Piece.byte.inj hbyte⟩⟩
      · simp at hbyte

/-- Bytes outside ASCII are spelt by escapes only. -/
theorem Written.escapes_of_bytes {bs : List UInt8} (hbs : ∀ b ∈ bs, 0x80 ≤ b.toNat)
    {ps : List Piece} {raw : List Char} (h : Written (bs.map .byte ++ ps) raw) :
    ∃ es raw', raw = es.flatten ++ raw' ∧ List.Forall₂ IsEscape bs es ∧ Written ps raw' := by
  induction bs generalizing raw with
  | nil => exact ⟨[], raw, rfl, .nil, h⟩
  | cons b bs ih =>
      obtain ⟨w, raw', rfl, hraw', hw⟩ := Written.byte_cases h
      obtain ⟨es, rest, rfl, hes, hrest⟩ := ih (fun x hx => hbs x (List.mem_cons_of_mem b hx)) hraw'
      have hescape : IsEscape b w := by
        refine hw.resolve_right ?_
        rintro ⟨c, -, -, hascii, rfl⟩
        have hb := hbs _ List.mem_cons_self
        rw [Utf8.toNat_toUInt8 (by omega)] at hb
        omega
      exact ⟨w :: es, rest, by rw [List.flatten_cons, List.append_assoc], .cons hescape hes, hrest⟩

/-- The bytes of one character are spelt by the character or by escapes. -/
theorem Written.spells_of_bytes {c : Char} {ps : List Piece} {raw : List Char}
    (h : Written ((Utf8.encodeChar c).map .byte ++ ps) raw) :
    ∃ w raw', raw = w ++ raw' ∧ Spells c w ∧ Written ps raw' := by
  rcases Nat.lt_or_ge c.toNat 0x80 with hascii | hother
  · have hbyte : Utf8.encodeChar c = [c.toNat.toUInt8] := by rw [Utf8.encodeChar, if_pos hascii]
    rw [hbyte] at h
    obtain ⟨w, raw', rfl, hraw', hw⟩ := Written.byte_cases h
    refine ⟨w, raw', rfl, ?_, hraw'⟩
    rcases hw with hw | ⟨d, hd, rfl, hdascii, hcd⟩
    · have hspelt : Spells c [w].flatten := .escaped (by rw [hbyte]; exact .cons hw .nil)
      simpa using hspelt
    · have hnat := congrArg UInt8.toNat hcd
      rw [Utf8.toNat_toUInt8 (by omega), Utf8.toNat_toUInt8 (by omega)] at hnat
      obtain rfl : c = d := Char.toNat_inj.mp hnat
      exact .plain hd
  · obtain ⟨es, raw', rfl, hes, hraw'⟩ :=
      Written.escapes_of_bytes (fun b hb => Utf8.le_of_mem_encodeChar hother hb) h
    exact ⟨es.flatten, raw', rfl, .escaped hes, hraw'⟩

theorem encodes_of_made {cs : List Char} {ps : List Piece} (hmade : Made cs ps) {raw : List Char}
    (hwritten : Written ps raw) : Encodes cs raw := by
  induction hmade generalizing raw with
  | nil =>
      cases hwritten
      exact .nil
  | @literal c cs ps _ ih =>
      generalize hqs : Piece.literal c :: ps = qs at hwritten
      cases hwritten with
      | nil => simp at hqs
      | escape => simp at hqs
      | @plain d raw ps' hd hraw =>
          obtain ⟨hpiece, rfl⟩ := List.cons.inj hqs
          rw [Piece.ofChar] at hpiece
          split at hpiece
          · simp at hpiece
          · obtain rfl := Piece.literal.inj hpiece
            exact .cons (.plain hd) (ih hraw)
  | bytes _ ih =>
      obtain ⟨w, raw', rfl, hw, hraw'⟩ := hwritten.spells_of_bytes
      exact .cons hw (ih hraw')

theorem exists_made_of_encodes {cs raw : List Char} (h : Encodes cs raw) :
    ∃ ps, Written ps raw ∧ Made cs ps := by
  induction h with
  | nil => exact ⟨[], .nil, .nil⟩
  | @cons c cs w raw hw _ ih =>
      obtain ⟨ps, hwritten, hmade⟩ := ih
      cases hw with
      | plain hc =>
          refine ⟨.ofChar c :: ps, .plain hc hwritten, ?_⟩
          rw [Piece.ofChar]
          split
          · next hascii =>
            have hbyte : Utf8.encodeChar c = [c.toNat.toUInt8] := by
              rw [Utf8.encodeChar, if_pos hascii]
            simpa [hbyte] using Made.bytes (c := c) hmade
          · exact .literal hmade
      | escaped hes => exact ⟨_, hwritten.escapes hes, .bytes hmade⟩

theorem decodeChars?_eq_some_iff {raw cs : List Char} :
    decodeChars? raw = some cs ↔ Encodes cs raw := by
  rw [decodeChars?]
  constructor
  · intro h
    split at h
    · simp at h
    · next ps hps => exact encodes_of_made (assemble_eq_some_iff.mp h) (pieces?_eq_some_iff.mp hps)
  · intro h
    obtain ⟨ps, hwritten, hmade⟩ := exists_made_of_encodes h
    rw [pieces?_eq_some_iff.mpr hwritten]
    exact assemble_eq_some_iff.mpr hmade

/-- A `%` of an encoding is followed by the two digits of a byte. -/
theorem Encodes.escape_of_percent {cs before after : List Char}
    (h : Encodes cs (before ++ '%' :: after)) :
    ∃ b h l r, IsEscape b ['%', h, l] ∧ after = h :: l :: r := by
  obtain ⟨ps, hwritten, -⟩ := exists_made_of_encodes h
  exact hwritten.escape_of_percent

/-- Strict decoding accepts exactly the percent-encodings and inverts them: a text decodes to `s` if
it is an encoding of `s`, and is kept and flagged if it is an encoding of no text. In particular
each `%` of a text that decodes begins an escape. -/
theorem decode_inverts_encodes (raw : String) :
    (∀ s : String, decode raw = ⟨s, true⟩ ↔ Encodes s.toList raw.toList) ∧
      (decode raw = ⟨raw, false⟩ ↔ ∀ s : String, ¬ Encodes s.toList raw.toList) ∧
      (∀ before after, raw.toList = before ++ '%' :: after →
        (¬ ∃ b h l r, IsEscape b ['%', h, l] ∧ after = h :: l :: r) →
        decode raw = ⟨raw, false⟩) := by
  have haccepts : ∀ s : String, decode raw = ⟨s, true⟩ ↔ Encodes s.toList raw.toList := by
    intro s
    rw [← decodeChars?_eq_some_iff, decode]
    cases decodeChars? raw.toList with
    | none => simp
    | some cs =>
        have hlist : String.ofList cs = s ↔ cs = s.toList := by
          constructor
          · rintro rfl
            exact String.toList_ofList.symm
          · rintro rfl
            exact String.ofList_toList
        simp [hlist]
  have hrefuses : decode raw = ⟨raw, false⟩ ↔ ∀ s : String, ¬ Encodes s.toList raw.toList := by
    constructor
    · intro hkept s hs
      rw [(haccepts s).mpr hs] at hkept
      simp at hkept
    · intro hnone
      cases hchars : decodeChars? raw.toList with
      | none => simp only [decode, hchars]
      | some cs =>
          have hdecoded : decode raw = ⟨String.ofList cs, true⟩ := by simp only [decode, hchars]
          exact absurd ((haccepts _).mp hdecoded) (hnone _)
  refine ⟨haccepts, hrefuses, ?_⟩
  intro before after hraw hbad
  refine hrefuses.mpr fun s hs => hbad ?_
  rw [hraw] at hs
  exact hs.escape_of_percent

theorem decode_inverts_encodes_stray_percent :
    decode "caf%C3%A9%" = ⟨"caf%C3%A9%", false⟩ :=
  (decode_inverts_encodes "caf%C3%A9%").2.2 "caf%C3%A9".toList [] rfl (by simp)

/-! A character whose bytes are broken up, an overlong form, and mixed cases. -/

example : decode "%C3A%A9" = ⟨"%C3A%A9", false⟩ := by cbv
example : decode "%C0%AF" = ⟨"%C0%AF", false⟩ := by cbv
example : decode "%c3%A9é%25" = ⟨"éé%", true⟩ := by cbv

end CommandBridge.Percent
