import CommandBridge.Proofs.Json.RoundTrip

/-!
# CommandBridge.Proofs.Json.Strict

The strict grammar of JSON texts, which has no words for NaN and the infinite numbers, and the
values whose written texts keep to it.  The grammar is given on its own, without the writer and the
reader.

Just the values whose numbers are all finite have a strict text (`value_chars_iff`).  That they have
one follows the value; each part of the grammar has a lemma about the part of the writer that writes
it.  That no others have one follows the text: outside of its strings a strict text never shows the
letters with which the words for NaN and the infinite numbers begin.
-/

namespace CommandBridge.Json.Strict

/-! ## The grammar -/

/-- What may stand between tokens. -/
def Blank (cs : List Char) : Prop := ∀ c ∈ cs, c ∈ [' ', '\t', '\n', '\r']

/-- One digit or more. -/
def Digits (cs : List Char) : Prop := cs ≠ [] ∧ ∀ c ∈ cs, c.isDigit

/-- The fraction of a number, which may be left out. -/
inductive Fraction : List Char → Prop where
  | absent : Fraction []
  | point {ds : List Char} (h : Digits ds) : Fraction ('.' :: ds)

/-- The exponent of a number, which may be left out. -/
inductive Exponent : List Char → Prop where
  | absent : Exponent []
  | mark {c : Char} {sign ds : List Char} (hc : c ∈ ['e', 'E']) (hsign : sign ∈ [[], ['+'], ['-']])
      (h : Digits ds) : Exponent (c :: (sign ++ ds))

/-- Numbers. -/
inductive Number : List Char → Prop where
  | mk {sign whole fraction exponent : List Char} (hsign : sign ∈ [[], ['-']])
      (hwhole : Whole whole) (hfraction : Fraction fraction) (hexponent : Exponent exponent) :
      Number (sign ++ (whole ++ (fraction ++ exponent)))

/-- What stands for one UTF-16 unit or one character in a string. -/
inductive Letter : List Char → Prop where
  | plain {c : Char} (h : 0x20 ≤ c.toNat) (hc : c ∉ ['"', '\\']) : Letter [c]
  | short {c : Char} (h : c ∈ ['"', '\\', '/', 'b', 'f', 'n', 'r', 't']) : Letter ['\\', c]
  | unit {a b c d : Char} (h : ∀ x ∈ [a, b, c, d], (hexDigit? (.scalar x)).isSome) :
      Letter ['\\', 'u', a, b, c, d]

/-- What stands between the quotes of a string. -/
inductive Letters : List Char → Prop where
  | nil : Letters []
  | cons {l cs : List Char} (hl : Letter l) (h : Letters cs) : Letters (l ++ cs)

mutual

/-- Values. -/
inductive Value : List Char → Prop where
  | null : Value ['n', 'u', 'l', 'l']
  | true : Value ['t', 'r', 'u', 'e']
  | false : Value ['f', 'a', 'l', 's', 'e']
  | number {cs : List Char} (h : Number cs) : Value cs
  | string {cs : List Char} (h : Letters cs) : Value ('"' :: (cs ++ ['"']))
  | emptyArray {b : List Char} (h : Blank b) : Value ('[' :: (b ++ [']']))
  | array {cs : List Char} (h : Elements cs) : Value ('[' :: (cs ++ [']']))
  | emptyObject {b : List Char} (h : Blank b) : Value ('{' :: (b ++ ['}']))
  | object {cs : List Char} (h : Members cs) : Value ('{' :: (cs ++ ['}']))

/-- Values between blanks. -/
inductive Element : List Char → Prop where
  | mk {b cs b' : List Char} (hb : Blank b) (h : Value cs) (hb' : Blank b') :
      Element (b ++ (cs ++ b'))

/-- One element or more. -/
inductive Elements : List Char → Prop where
  | one {e : List Char} (h : Element e) : Elements e
  | more {e cs : List Char} (h : Element e) (hcs : Elements cs) : Elements (e ++ ',' :: cs)

/-- Names with their values. -/
inductive Member : List Char → Prop where
  | mk {b name b' e : List Char} (hb : Blank b) (hname : Letters name) (hb' : Blank b')
      (h : Element e) : Member (b ++ '"' :: (name ++ '"' :: (b' ++ ':' :: e)))

/-- One member or more. -/
inductive Members : List Char → Prop where
  | one {m : List Char} (h : Member m) : Members m
  | more {m cs : List Char} (h : Member m) (hcs : Members cs) : Members (m ++ ',' :: cs)

end

theorem blank_nil : Blank [] := by simp [Blank]

/-- A value with nothing around it. -/
theorem Value.element {cs : List Char} (h : Value cs) : Element cs := by
  have helement := Element.mk blank_nil h blank_nil
  rwa [List.nil_append, List.append_nil] at helement

theorem Blank.space {cs : List Char} (h : Blank cs) : Blank (' ' :: cs) :=
  List.forall_mem_cons.mpr ⟨by simp, h⟩

/-- A blank may stand in front of an element. -/
theorem Element.space {cs : List Char} (h : Element cs) : Element (' ' :: cs) := by
  cases h with
  | mk hb h hb' => exact .mk hb.space h hb'

theorem Elements.space {cs : List Char} (h : Elements cs) : Elements (' ' :: cs) := by
  cases h with
  | one h => exact .one h.space
  | more h hcs => exact .more h.space hcs

/-- A blank may stand in front of a member. -/
theorem Member.space {cs : List Char} (h : Member cs) : Member (' ' :: cs) := by
  cases h with
  | mk hb hname hb' h => exact .mk hb.space hname hb' h

theorem Members.space {cs : List Char} (h : Members cs) : Members (' ' :: cs) := by
  cases h with
  | one h => exact .one h.space
  | more h hcs => exact .more h.space hcs

/-! ## Numbers -/

theorem number_intText (i : Int) : Number (intText i) := by
  have hsign : (if i < 0 then ['-'] else []) ∈ [[], ['-']] := by split <;> simp
  have hnumber := Number.mk hsign (whole_toDigits i.natAbs) .absent .absent
  rwa [List.append_nil, List.append_nil] at hnumber

theorem exponent_exponentText (e : Int) : Exponent (Binary64.exponentText e) := by
  obtain ⟨ds, hne, hds, -, htext⟩ := exists_exponentText e
  have hsign : [if e < 0 then '-' else '+'] ∈ [[], ['+'], ['-']] := by split <;> simp
  rw [htext]
  exact .mark (by simp) hsign ⟨hne, hds⟩

/-- A decimal in either form is a number, whatever its sign. -/
theorem number_of_decimalForm {d : Decimal} {cs sign : List Char} (h : DecimalForm d cs)
    (hsign : sign ∈ [[], ['-']]) : Number (sign ++ cs) := by
  cases h with
  | positional hcs hne hds =>
      have hnumber := Number.mk hsign hcs (.point ⟨hne, hds⟩) .absent
      rwa [List.append_nil] at hnumber
  | @scientific c ds e hc hds =>
      have hfraction : Fraction (if ds = [] then [] else '.' :: ds) := by
        split
        · exact .absent
        · next hne => exact .point ⟨hne, hds⟩
      rw [List.append_assoc]
      exact .mk hsign hc hfraction (exponent_exponentText e)

theorem number_floatText {x : Binary64} (h : x.isFinite) : Number (floatText x) := by
  cases x with
  | nan => simp [Binary64.isFinite] at h
  | infinite negative => simp [Binary64.isFinite] at h
  | finite negative m =>
      have hsign : (if negative then ['-'] else []) ∈ [[], ['-']] := by split <;> simp
      rw [floatText, Binary64.finiteText]
      by_cases hm : m.val = 0
      · have hzero : Binary64.decimalText ⟨0, 0⟩ = ['0'] ++ (['.', '0'] ++ []) := by decide
        rw [if_pos hm, hzero]
        exact .mk hsign (whole_toDigits 0) (.point ⟨List.cons_ne_nil _ _, by simp⟩) .absent
      · rw [if_neg hm]
        exact number_of_decimalForm
          (decimalForm_decimalText (Binary64.shortest_digits_ne_zero hm)) hsign

/-! ## Strings -/

theorem letter_escapeUnit (n : Nat) : Letter (escapeUnit n) := by
  have hdigit : ∀ k, (hexDigit? (.scalar (Nat.digitChar (k % 16)))).isSome := by
    intro k
    rw [hexDigit?_digitChar (Nat.mod_lt k (by decide))]
    rfl
  exact .unit (by simp [hdigit])

theorem letter_of_shortEscape? {c : Char} {e : List Char} (h : shortEscape? c = some e) :
    Letter e := by
  unfold shortEscape? at h
  split at h
  all_goals first
    | (obtain rfl := Option.some.inj h; exact .short (by decide))
    | simp at h

theorem Letter.letters {l : List Char} (h : Letter l) : Letters l := by
  have hletters := Letters.cons h .nil
  rwa [List.append_nil] at hletters

theorem Letters.append {cs ds : List Char} (hcs : Letters cs) (hds : Letters ds) :
    Letters (cs ++ ds) := by
  induction hcs with
  | nil => exact hds
  | cons hl _ ih => rw [List.append_assoc]; exact .cons hl ih

theorem letters_escapePoint (p : CodePoint) : Letters (escapePoint p) := by
  cases p with
  | surrogate u => exact (letter_escapeUnit _).letters
  | scalar c =>
      cases hshort : shortEscape? c with
      | some e =>
          simp only [escapePoint, hshort]
          exact (letter_of_shortEscape? hshort).letters
      | none =>
          -- the quote and the backslash have short escapes
          have hc : c ∉ ['"', '\\'] := by
            rintro hmem
            simp only [List.mem_cons, List.not_mem_nil, or_false] at hmem
            rcases hmem with rfl | rfl <;> simp [shortEscape?] at hshort
          simp only [escapePoint, hshort]
          split
          · next hplain => exact (Letter.plain hplain.1 hc).letters
          · split
            · exact (letter_escapeUnit _).letters
            · exact (letter_escapeUnit _).letters.append (letter_escapeUnit _).letters

theorem letters_flatMap_escapePoint (t : Text) : Letters (t.flatMap escapePoint) := by
  induction t with
  | nil => exact .nil
  | cons p t ih => rw [List.flatMap_cons]; exact (letters_escapePoint p).append ih

/-! ## Values -/

/-- A name and its value, as an object shows them. -/
theorem member_quote (k : Text) {cs : List Char} (h : Value cs) :
    Member (quote k ++ ':' :: ' ' :: cs) := by
  have hmember := Member.mk blank_nil (letters_flatMap_escapePoint k) blank_nil h.element.space
  simpa [quote] using hmember

mutual

/-- The text of a value is strict once numbers that are not finite have been replaced. -/
theorem value_chars_finiteOnly : ∀ j : Json, Value (chars j.finiteOnly)
  | .null => .null
  | .bool true => .true
  | .bool false => .false
  | .int i => .number (number_intText i)
  | .float x => by
    rw [finiteOnly]
    split
    · next h => rw [chars]; exact .number (number_floatText h)
    · exact .null
  | .str t => .string (letters_flatMap_escapePoint t)
  | .arr [] => .emptyArray blank_nil
  | .arr (j :: r) => by
    obtain ⟨cs, htext, hcs⟩ := elements_charsElements (j :: r) (List.cons_ne_nil j r)
    rw [finiteOnly, chars, htext]
    exact .array hcs
  | .obj [] => .emptyObject blank_nil
  | .obj (m :: r) => by
    obtain ⟨cs, htext, hcs⟩ := members_charsMembers (m :: r) (List.cons_ne_nil m r)
    rw [finiteOnly, chars, htext]
    exact .object hcs

theorem elements_charsElements : ∀ es : List Json, es ≠ [] →
    ∃ cs, charsElements (finiteOnlyElements es) = cs ++ [']'] ∧ Elements cs
  | [], hes => absurd rfl hes
  | [j], _ => ⟨chars j.finiteOnly, rfl, .one (value_chars_finiteOnly j).element⟩
  | j :: j' :: r, _ => by
    obtain ⟨cs, htext, hcs⟩ := elements_charsElements (j' :: r) (List.cons_ne_nil j' r)
    refine ⟨chars j.finiteOnly ++ ',' :: ' ' :: cs, ?_,
      .more (value_chars_finiteOnly j).element hcs.space⟩
    rw [finiteOnlyElements, finiteOnlyElements, charsElements_cons, ← finiteOnlyElements, htext]
    simp

theorem members_charsMembers : ∀ ms : List (Text × Json), ms ≠ [] →
    ∃ cs, charsMembers (finiteOnlyMembers ms) = cs ++ ['}'] ∧ Members cs
  | [], hms => absurd rfl hms
  | [(k, j)], _ => ⟨quote k ++ ':' :: ' ' :: chars j.finiteOnly, rfl,
      .one (member_quote k (value_chars_finiteOnly j))⟩
  | (k, j) :: (k', j') :: r, _ => by
    obtain ⟨cs, htext, hcs⟩ := members_charsMembers ((k', j') :: r) (List.cons_ne_nil _ r)
    refine ⟨quote k ++ ':' :: ' ' :: chars j.finiteOnly ++ ',' :: ' ' :: cs, ?_,
      .more (member_quote k (value_chars_finiteOnly j)) hcs.space⟩
    rw [finiteOnlyMembers, finiteOnlyMembers, charsMembers_cons, ← finiteOnlyMembers, htext]
    simp

end

/-- The text of a value whose numbers are all finite is strict. -/
theorem value_chars {j : Json} (h : j.finiteOnly = j) : Value (chars j) := by
  rw [← h]
  exact value_chars_finiteOnly j

/-! ## Words for numbers that are not finite

A strict text has the letters `N` and `I` in its strings only, and the words for NaN and the
infinite numbers have them outside of strings. -/

/-- Where in a text one is. -/
inductive Place where
  | outside
  | inside
  | escaped
  deriving DecidableEq

/-- Where one is behind a character. -/
def Place.next : Place → Char → Place
  | .outside, c => if c = '"' then .inside else .outside
  | .inside, c => if c = '"' then .outside else if c = '\\' then .escaped else .inside
  | .escaped, _ => .inside

/-- Whether one of the letters stands outside of the strings of a text. -/
def showsWord : Place → List Char → Bool
  | _, [] => Bool.false
  | p, c :: t => p = .outside && (c = 'N' || c = 'I') || showsWord (p.next c) t

/-- A text that begins and ends outside of strings and has none of the letters there. -/
def Passes (cs : List Char) : Prop := ∀ t, showsWord .outside (cs ++ t) = showsWord .outside t

theorem passes_of_notMem {cs : List Char} (h : ∀ c ∈ cs, c ∉ ['"', 'N', 'I']) : Passes cs := by
  intro t
  induction cs with
  | nil => rfl
  | cons c cs ih =>
      have hc := h c List.mem_cons_self
      simp only [List.mem_cons, List.not_mem_nil, or_false, not_or] at hc
      rw [List.cons_append, showsWord]
      simp [Place.next, hc, ih fun d hd => h d (List.mem_cons_of_mem c hd)]

theorem Passes.append {cs ds : List Char} (hcs : Passes cs) (hds : Passes ds) :
    Passes (cs ++ ds) := by
  intro t
  rw [List.append_assoc, hcs, hds]

theorem Passes.cons {c : Char} {cs : List Char} (hcs : Passes cs) (hc : c ∉ ['"', 'N', 'I']) :
    Passes (c :: cs) := by
  have hone : Passes [c] := passes_of_notMem (by simpa using hc)
  exact hone.append hcs

theorem showsWord_inside {c : Char} (h : c ∉ ['"', '\\']) (t : List Char) :
    showsWord .inside (c :: t) = showsWord .inside t := by
  simp only [List.mem_cons, List.not_mem_nil, or_false, not_or] at h
  simp [showsWord, Place.next, h]

theorem Letter.showsWord_append {l : List Char} (h : Letter l) (t : List Char) :
    showsWord .inside (l ++ t) = showsWord .inside t := by
  cases h with
  | plain _ hc => exact showsWord_inside hc t
  | short _ => rfl
  | @unit a b c d h =>
      have hdigit : ∀ x ∈ [a, b, c, d], x ∉ ['"', '\\'] := by
        intro x hx hmem
        have hsome := h x hx
        simp only [List.mem_cons, List.not_mem_nil, or_false] at hmem
        rcases hmem with rfl | rfl <;> exact absurd hsome (by decide)
      have hu : showsWord .inside ('\\' :: 'u' :: a :: b :: c :: d :: t) =
          showsWord .inside (a :: b :: c :: d :: t) := rfl
      rw [List.cons_append, List.cons_append, List.cons_append, List.cons_append, List.cons_append,
        List.cons_append, List.nil_append, hu, showsWord_inside (hdigit a (by simp)),
        showsWord_inside (hdigit b (by simp)), showsWord_inside (hdigit c (by simp)),
        showsWord_inside (hdigit d (by simp))]

theorem Letters.showsWord_append {cs : List Char} (h : Letters cs) (t : List Char) :
    showsWord .inside (cs ++ t) = showsWord .inside t := by
  induction h with
  | nil => rfl
  | cons hl _ ih => rw [List.append_assoc, hl.showsWord_append, ih]

theorem Letters.passes {cs : List Char} (h : Letters cs) : Passes ('"' :: (cs ++ ['"'])) := by
  intro t
  have hopen : showsWord .outside ('"' :: (cs ++ '"' :: t)) =
      showsWord .inside (cs ++ '"' :: t) := rfl
  rw [List.cons_append, List.append_assoc, List.singleton_append, hopen, h.showsWord_append]
  rfl

theorem passes_digits {cs : List Char} (h : ∀ c ∈ cs, c.isDigit) : Passes cs := by
  refine passes_of_notMem fun c hc hmem => ?_
  have hdigit := h c hc
  simp only [List.mem_cons, List.not_mem_nil, or_false] at hmem
  rcases hmem with rfl | rfl | rfl <;> exact absurd hdigit (by decide)

theorem Fraction.passes {cs : List Char} (h : Fraction cs) : Passes cs := by
  cases h with
  | absent => exact passes_of_notMem (by simp)
  | point h => exact (passes_digits h.2).cons (by decide)

theorem Exponent.passes {cs : List Char} (h : Exponent cs) : Passes cs := by
  cases h with
  | absent => exact passes_of_notMem (by simp)
  | mark hc hsign h =>
      have hmark : ∀ c ∈ ['e', 'E'], c ∉ ['"', 'N', 'I'] := by simp
      have hsigns : ∀ s ∈ [[], ['+'], ['-']], ∀ c ∈ s, c ∉ ['"', 'N', 'I'] := by simp
      exact ((passes_of_notMem (hsigns _ hsign)).append (passes_digits h.2)).cons (hmark _ hc)

theorem Number.passes {cs : List Char} (h : Number cs) : Passes cs := by
  cases h with
  | mk hsign hwhole hfraction hexponent =>
      have hsigns : ∀ s ∈ [[], ['-']], ∀ c ∈ s, c ∉ ['"', 'N', 'I'] := by simp
      exact (passes_of_notMem (hsigns _ hsign)).append ((passes_digits hwhole.digits).append
        (hfraction.passes.append hexponent.passes))

theorem Blank.passes {cs : List Char} (h : Blank cs) : Passes cs := by
  have hall : ∀ c ∈ [' ', '\t', '\n', '\r'], c ∉ ['"', 'N', 'I'] := by simp
  exact passes_of_notMem fun c hc => hall c (h c hc)

/-- What brackets enclose passes with them. -/
theorem Passes.enclosed {cs : List Char} {a b : Char} (h : Passes cs)
    (ha : a ∉ ['"', 'N', 'I']) (hb : b ∉ ['"', 'N', 'I']) : Passes (a :: (cs ++ [b])) :=
  (h.append (passes_of_notMem (by simpa using hb))).cons ha

mutual

/-- A strict text has the letters in its strings only. -/
theorem Value.passes : ∀ {cs : List Char}, Value cs → Passes cs
  | _, .null => passes_of_notMem (by simp)
  | _, .true => passes_of_notMem (by simp)
  | _, .false => passes_of_notMem (by simp)
  | _, .number h => h.passes
  | _, .string h => h.passes
  | _, .emptyArray h => h.passes.enclosed (by decide) (by decide)
  | _, .array h => h.passes.enclosed (by decide) (by decide)
  | _, .emptyObject h => h.passes.enclosed (by decide) (by decide)
  | _, .object h => h.passes.enclosed (by decide) (by decide)

theorem Element.passes : ∀ {cs : List Char}, Element cs → Passes cs
  | _, .mk hb h hb' => hb.passes.append (h.passes.append hb'.passes)

theorem Elements.passes : ∀ {cs : List Char}, Elements cs → Passes cs
  | _, .one h => h.passes
  | _, .more h hcs => h.passes.append (hcs.passes.cons (by decide))

theorem Member.passes : ∀ {cs : List Char}, Member cs → Passes cs
  | _, .mk hb hname hb' h => by
    have hvalue : Passes (':' :: _) := h.passes.cons (by decide)
    have hmember := hb.passes.append (hname.passes.append (hb'.passes.append hvalue))
    simpa using hmember

theorem Members.passes : ∀ {cs : List Char}, Members cs → Passes cs
  | _, .one h => h.passes
  | _, .more h hcs => h.passes.append (hcs.passes.cons (by decide))

end

theorem passes_comma : Passes [',', ' '] := passes_of_notMem (by simp)

/-- A name passes, with the colon that follows it. -/
theorem passes_name (k : Text) : Passes (quote k ++ [':', ' ']) :=
  (letters_flatMap_escapePoint k).passes.append (passes_of_notMem (by simp))

mutual

/-- The text of a value in which some number is not finite shows a word outside of its strings. -/
theorem showsWord_chars : ∀ j : Json, j.finiteOnly ≠ j →
    ∀ t, showsWord .outside (chars j ++ t) = Bool.true
  | .null, h, _ => absurd rfl h
  | .bool _, h, _ => absurd rfl h
  | .int _, h, _ => absurd rfl h
  | .float .nan, _, _ => rfl
  | .float (.infinite Bool.true), _, _ => rfl
  | .float (.infinite Bool.false), _, _ => rfl
  | .float (.finite _ _), h, _ => absurd rfl h
  | .str _, h, _ => absurd rfl h
  | .arr es, h, t => by
    have hes : finiteOnlyElements es ≠ es := fun heq => h (by rw [finiteOnly, heq])
    rw [chars, List.cons_append, showsWord]
    exact showsWord_charsElements es hes t
  | .obj ms, h, t => by
    have hms : finiteOnlyMembers ms ≠ ms := fun heq => h (by rw [finiteOnly, heq])
    rw [chars, List.cons_append, showsWord]
    exact showsWord_charsMembers ms hms t

theorem showsWord_charsElements : ∀ es : List Json, finiteOnlyElements es ≠ es →
    ∀ t, showsWord .outside (charsElements es ++ t) = Bool.true
  | [], h, _ => absurd rfl h
  | [j], h, t => by
    have hj : j.finiteOnly ≠ j := fun heq => h (by rw [finiteOnlyElements, heq]; rfl)
    rw [charsElements_singleton, List.append_assoc]
    exact showsWord_chars j hj _
  | j :: j' :: r, h, t => by
    rw [charsElements_cons, List.append_assoc]
    by_cases hj : j.finiteOnly = j
    · have hr : finiteOnlyElements (j' :: r) ≠ j' :: r :=
        fun heq => h (by rw [finiteOnlyElements, hj, heq])
      have hcomma := passes_comma (charsElements (j' :: r) ++ t)
      rw [(value_chars hj).passes]
      exact hcomma.trans (showsWord_charsElements (j' :: r) hr t)
    · exact showsWord_chars j hj _

theorem showsWord_charsMembers : ∀ ms : List (Text × Json), finiteOnlyMembers ms ≠ ms →
    ∀ t, showsWord .outside (charsMembers ms ++ t) = Bool.true
  | [], h, _ => absurd rfl h
  | [(k, j)], h, t => by
    have hj : j.finiteOnly ≠ j := fun heq => h (by rw [finiteOnlyMembers, heq]; rfl)
    have hname := passes_name k (chars j ++ '}' :: t)
    rw [charsMembers_singleton]
    simp only [List.append_assoc, List.cons_append, List.nil_append] at hname ⊢
    exact hname.trans (showsWord_chars j hj _)
  | (k, j) :: m :: r, h, t => by
    have hname := passes_name k (chars j ++ ',' :: ' ' :: (charsMembers (m :: r) ++ t))
    rw [charsMembers_cons]
    simp only [List.append_assoc, List.cons_append, List.nil_append] at hname ⊢
    rw [hname]
    by_cases hj : j.finiteOnly = j
    · have hr : finiteOnlyMembers (m :: r) ≠ m :: r :=
        fun heq => h (by rw [finiteOnlyMembers, hj, heq])
      have hcomma := passes_comma (charsMembers (m :: r) ++ t)
      rw [(value_chars hj).passes]
      exact hcomma.trans (showsWord_charsMembers (m :: r) hr t)
    · exact showsWord_chars j hj _

end

/-- Just the values whose numbers are all finite have a strict text. -/
theorem value_chars_iff (j : Json) : Value (chars j) ↔ j.finiteOnly = j := by
  refine ⟨fun h => ?_, value_chars⟩
  by_contra hj
  have hpasses := h.passes []
  rw [showsWord_chars j hj] at hpasses
  simp [showsWord] at hpasses

end CommandBridge.Json.Strict
