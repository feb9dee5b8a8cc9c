import CommandBridge.Proofs.Json.Numbers

/-!
# CommandBridge.Proofs.Json.RoundTrip

Written values are read back (`readNested_write`), if they are `Readable`: their strings are
made of scalar values, their integers have at most `maxDigits` digits, their objects
have each name once, and they are nested no deeper than the reader goes.  There is no condition
on doubles; NaN and the infinite ones are read back too.

For all other values within the limits of the reader it is known as what they are read: as the same
but that halves of pairs are joined (`readNested_write_joined`).

The reader is followed through a value that stands before any text which cannot be part of a number
(`readValue_chars`), by induction on how the value is `Within` the limits.
-/

namespace CommandBridge.Json

/-- Values nested at most `depth` deep that the reader gives back. -/
inductive Readable : Nat → Json → Prop where
  | null {depth : Nat} : Readable depth .null
  | bool {depth : Nat} (b : Bool) : Readable depth (.bool b)
  | int {depth : Nat} {i : Int} (h : (Nat.toDigits 10 i.natAbs).length ≤ maxDigits) :
      Readable depth (.int i)
  | float {depth : Nat} (x : Binary64) : Readable depth (.float x)
  | str {depth : Nat} {t : Text} (h : IsScalar t) : Readable depth (.str t)
  | arr {depth : Nat} {es : List Json} (h : ∀ j ∈ es, Readable depth j) :
      Readable (depth + 1) (.arr es)
  | obj {depth : Nat} {ms : List (Text × Json)} (hnames : (ms.map Prod.fst).Nodup)
      (hscalar : ∀ m ∈ ms, IsScalar m.1) (h : ∀ m ∈ ms, Readable depth m.2) :
      Readable (depth + 1) (.obj ms)

/-- Values nested at most `depth` deep whose integers the reader takes. -/
inductive Within : Nat → Json → Prop where
  | null {depth : Nat} : Within depth .null
  | bool {depth : Nat} (b : Bool) : Within depth (.bool b)
  | int {depth : Nat} {i : Int} (h : (Nat.toDigits 10 i.natAbs).length ≤ maxDigits) :
      Within depth (.int i)
  | float {depth : Nat} (x : Binary64) : Within depth (.float x)
  | str {depth : Nat} (t : Text) : Within depth (.str t)
  | arr {depth : Nat} {es : List Json} (h : ∀ j ∈ es, Within depth j) :
      Within (depth + 1) (.arr es)
  | obj {depth : Nat} {ms : List (Text × Json)} (h : ∀ m ∈ ms, Within depth m.2) :
      Within (depth + 1) (.obj ms)

/-! ## Pairs

What a written value is read as: the halves of pairs are joined in its strings and names, and of
names that are the same then the last one counts. -/

mutual

/-- A value with the halves of pairs joined. -/
def joined : Json → Json
  | .null => .null
  | .bool b => .bool b
  | .int i => .int i
  | .float x => .float x
  | .str t => .str (joinPairs t)
  | .arr es => .arr (joinedElements es)
  | .obj ms => .obj (dedup (joinedMembers ms))

/-- `joined` on every element. -/
def joinedElements : List Json → List Json
  | [] => []
  | j :: r => joined j :: joinedElements r

/-- `joined` on every member, and the halves of pairs joined in its name. -/
def joinedMembers : List (Text × Json) → List (Text × Json)
  | [] => []
  | (k, j) :: r => (joinPairs k, joined j) :: joinedMembers r

end

/-- Values in whose texts no first half of a pair stands before a second one, and whose objects have
each name once. -/
inductive Unsplit : Json → Prop where
  | null : Unsplit .null
  | bool (b : Bool) : Unsplit (.bool b)
  | int (i : Int) : Unsplit (.int i)
  | float (x : Binary64) : Unsplit (.float x)
  | str {t : Text} (h : joinPairs t = t) : Unsplit (.str t)
  | arr {es : List Json} (h : ∀ j ∈ es, Unsplit j) : Unsplit (.arr es)
  | obj {ms : List (Text × Json)} (hnames : (ms.map Prod.fst).Nodup)
      (hunsplit : ∀ m ∈ ms, joinPairs m.1 = m.1) (h : ∀ m ∈ ms, Unsplit m.2) : Unsplit (.obj ms)

theorem joinedElements_eq_map (es : List Json) : joinedElements es = es.map joined := by
  induction es with
  | nil => rw [joinedElements, List.map_nil]
  | cons j r ih => rw [joinedElements, ih, List.map_cons]

theorem joinedMembers_eq_map (ms : List (Text × Json)) :
    joinedMembers ms = ms.map fun m => (joinPairs m.1, joined m.2) := by
  induction ms with
  | nil => rw [joinedMembers, List.map_nil]
  | cons m r ih => rw [joinedMembers, ih, List.map_cons]

/-! ## How values begin -/

/-- The characters with which a value can begin. -/
def StartsValue (c : Char) : Prop :=
  c.isDigit ∨ c ∈ ['n', 't', 'f', 'N', 'I', '-', '"', '[', '{']

theorem isDigit_head_toDigits {n : Nat} {c : Char} {cs : List Char}
    (h : Nat.toDigits 10 n = c :: cs) : c.isDigit :=
  isDigit_of_mem_toDigits (n := n) (by rw [h]; exact List.mem_cons_self)

/-- A written decimal begins with a digit. -/
theorem exists_decimalText_cons (d : Decimal) :
    ∃ c cs, Binary64.decimalText d = c :: cs ∧ c.isDigit := by
  obtain ⟨c, cs, hcons⟩ :=
    List.exists_cons_of_ne_nil (Nat.toDigits_ne_nil (n := d.digits) (b := 10))
  have hc := isDigit_head_toDigits hcons
  simp only [Binary64.decimalText, hcons]
  split
  · split
    · exact ⟨'0', _, rfl, rfl⟩
    · next hpoint =>
      split
      · exact ⟨c, _, rfl, hc⟩
      · obtain ⟨k, hk⟩ : ∃ k, (((c :: cs).length : Int) + d.exponent).toNat = k + 1 :=
          ⟨(((c :: cs).length : Int) + d.exponent).toNat - 1, by omega⟩
        rw [hk]
        exact ⟨c, _, rfl, hc⟩
  · exact ⟨c, _, rfl, hc⟩

theorem exists_intText_cons (i : Int) : ∃ c cs, intText i = c :: cs ∧ StartsValue c := by
  obtain ⟨c, cs, hcons⟩ :=
    List.exists_cons_of_ne_nil (Nat.toDigits_ne_nil (n := i.natAbs) (b := 10))
  have hc := isDigit_head_toDigits hcons
  rw [intText, hcons]
  split
  · exact ⟨'-', _, rfl, .inr (by decide)⟩
  · exact ⟨c, _, rfl, .inl hc⟩

/-- A written value begins with one of the characters for that. -/
theorem exists_chars_cons (j : Json) : ∃ c cs, chars j = c :: cs ∧ StartsValue c := by
  cases j with
  | null => exact ⟨'n', _, by rw [chars], .inr (by decide)⟩
  | bool b =>
      cases b with
      | true => exact ⟨'t', _, by rw [chars], .inr (by decide)⟩
      | false => exact ⟨'f', _, by rw [chars], .inr (by decide)⟩
  | int i => rw [chars]; exact exists_intText_cons i
  | float x =>
      rw [chars]
      cases x with
      | nan => exact ⟨'N', _, rfl, .inr (by decide)⟩
      | infinite negative =>
          cases negative with
          | true => exact ⟨'-', _, rfl, .inr (by decide)⟩
          | false => exact ⟨'I', _, rfl, .inr (by decide)⟩
      | finite negative m =>
          cases negative with
          | true => exact ⟨'-', _, rfl, .inr (by decide)⟩
          | false =>
              obtain ⟨c, cs, hcons, hc⟩ := exists_decimalText_cons
                (if m.val = 0 then ⟨0, 0⟩ else Binary64.shortest m)
              exact ⟨c, cs, hcons, .inl hc⟩
  | str t => exact ⟨'"', _, by rw [chars]; rfl, .inr (by decide)⟩
  | arr es => exact ⟨'[', _, by rw [chars], .inr (by decide)⟩
  | obj ms => exact ⟨'{', _, by rw [chars], .inr (by decide)⟩

theorem StartsValue.ne {c d : Char} (hc : StartsValue c) (hdigit : d.isDigit = false)
    (hd : d ∉ ['n', 't', 'f', 'N', 'I', '-', '"', '[', '{']) : c ≠ d := by
  rintro rfl
  rcases hc with hc | hc
  · simp [hdigit] at hc
  · exact hd hc

theorem StartsValue.not_blank {c : Char} (hc : StartsValue c) :
    isBlankPoint (.scalar c) = false := by
  have h₁ := hc.ne (d := ' ') rfl (by decide)
  have h₂ := hc.ne (d := '\t') rfl (by decide)
  have h₃ := hc.ne (d := '\n') rfl (by decide)
  have h₄ := hc.ne (d := '\r') rfl (by decide)
  simp [isBlankPoint, h₁, h₂, h₃, h₄]

/-- No blanks stand before a written value. -/
theorem skipBlanks_chars (j : Json) (t : Text) :
    skipBlanks (points (chars j) ++ t) = points (chars j) ++ t := by
  obtain ⟨c, cs, hchars, hc⟩ := exists_chars_cons j
  rw [hchars, points_cons, List.cons_append, skipBlanks, List.dropWhile_cons_of_neg]
  rw [hc.not_blank]
  decide

/-! ## Values without brackets -/

variable {fuel depth : Nat} {t : Text}

theorem pastNumber_cons {c : Char} (hc : c ∈ [',', ']', '}']) (t : Text) :
    PastNumber (.scalar c :: t) := by
  intro p hp
  obtain rfl : CodePoint.scalar c = p := by simpa using hp
  simp only [List.mem_cons, List.not_mem_nil, or_false] at hc
  rcases hc with rfl | rfl | rfl <;> decide

/-- A word is read as its value. -/
theorem readValue_word {cs : List Char} {j : Json} {c : Char} {ds : List Char} (hcs : cs = c :: ds)
    (hc : c ∉ ['"', '[', '{']) (hword : readWord? (points cs ++ t) = some (j, t)) :
    readValue fuel depth (points cs ++ t) = .ok (j, t) := by
  subst hcs
  simp only [List.mem_cons, List.not_mem_nil, or_false, not_or] at hc
  rw [points_cons, List.cons_append] at hword ⊢
  by_cases hminus : c = '-'
  · subst hminus
    rw [readValue]
    simp only [hword]
  · rw [readValue]
    · simp only [hword]
    all_goals simp [hc, hminus]

/-- A number is none of the words. -/
theorem readWord?_digit {c : Char} (hc : c.isDigit) (r : Text) :
    readWord? (.scalar c :: r) = none ∧ readWord? (.scalar '-' :: .scalar c :: r) = none := by
  have hne : ∀ d : Char, d.isDigit = false → d ≠ c := by
    rintro d hd rfl
    simp [hd] at hc
  have hwords : words = [(points ['n', 'u', 'l', 'l'], .null),
      (points ['t', 'r', 'u', 'e'], .bool true),
      (points ['f', 'a', 'l', 's', 'e'], .bool false), (points ['N', 'a', 'N'], .float .nan),
      (points ['I', 'n', 'f', 'i', 'n', 'i', 't', 'y'], .float (.infinite false)),
      (points ['-', 'I', 'n', 'f', 'i', 'n', 'i', 't', 'y'], .float (.infinite true))] := rfl
  have hn := hne 'n' rfl
  have ht := hne 't' rfl
  have hf := hne 'f' rfl
  have hN := hne 'N' rfl
  have hI := hne 'I' rfl
  have hm := hne '-' rfl
  rw [readWord?, readWord?, hwords]
  simp [hn, ht, hf, hN, hI, hm]

/-- A number is read without its sign. -/
theorem readValue_number {negative : Bool} {cs : List Char} {found : Except Stop (Json × Text)}
    {c : Char} {ds : List Char} (hcs : cs = c :: ds) (hc : c.isDigit)
    (hread : ∀ start, readUnsigned negative start (points cs ++ t) = found) :
    readValue fuel depth (points ((if negative then ['-'] else []) ++ cs) ++ t) = found := by
  subst hcs
  obtain ⟨hword, hword'⟩ := readWord?_digit hc (points ds ++ t)
  have hne : ∀ d : Char, d.isDigit = false → c ≠ d := by
    rintro d hd rfl
    simp [hd] at hc
  cases negative with
  | true =>
      rw [points_cons, List.cons_append] at hread
      simp only [if_true, points_cons, List.cons_append]
      rw [readValue]
      simp only [List.nil_append, points_cons, List.cons_append, hword', hread]
  | false =>
      rw [points_cons, List.cons_append] at hread
      simp only [Bool.false_eq_true, if_false, List.nil_append, points_cons, List.cons_append]
      rw [readValue]
      · simp only [hword, hread]
      all_goals simp [hne '"' rfl, hne '[' rfl, hne '{' rfl, hne '-' rfl]

theorem chars_int (i : Int) : chars (.int i) =
    (if decide (i < 0) = true then ['-'] else []) ++ Nat.toDigits 10 i.natAbs := by
  rw [chars, intText]
  simp only [decide_eq_true_eq]

/-- An integer is read back. -/
theorem readValue_int {i : Int} (hi : (Nat.toDigits 10 i.natAbs).length ≤ maxDigits)
    (ht : PastNumber t) :
    readValue fuel depth (points (chars (.int i)) ++ t) = .ok (.int i, t) := by
  obtain ⟨c, ds, hcons⟩ :=
    List.exists_cons_of_ne_nil (Nat.toDigits_ne_nil (n := i.natAbs) (b := 10))
  have hc := isDigit_head_toDigits hcons
  rw [chars_int]
  apply readValue_number hcons hc
  intro start
  rw [readUnsigned_toDigits hi ht]
  congr 3
  by_cases hneg : i < 0
  · simp only [hneg, decide_true, if_true]; omega
  · simp only [hneg, decide_false, Bool.false_eq_true, if_false]; omega

/-- The text of a magnitude is read as the number it belongs to. -/
theorem readUnsigned_magnitude {negative : Bool} {m : Fin Binary64.finiteCount}
    (ht : PastNumber t) (start : Nat) :
    readUnsigned negative start
        (points (Binary64.decimalText (if m.val = 0 then ⟨0, 0⟩ else Binary64.shortest m)) ++ t) =
      .ok (.float (.finite negative m), t) := by
  by_cases hm : m.val = 0
  · have hzero : Binary64.finite negative m = Binary64.zero negative := by
      rw [Binary64.zero]
      congr 1
      exact Fin.ext hm
    have hread := readUnsigned_point negative (whole_toDigits 0) (List.cons_ne_nil '0' [])
      (by simp) ht start
    rw [if_pos hm, hzero]
    exact hread
  · rw [if_neg hm, readUnsigned_decimalText (Binary64.shortest_digits_ne_zero hm) ht,
      Binary64.ofDecimal_shortest negative hm]

/-- A double is read back. -/
theorem readValue_float (x : Binary64) (ht : PastNumber t) :
    readValue fuel depth (points (chars (.float x)) ++ t) = .ok (.float x, t) := by
  rw [chars]
  cases x with
  | nan => exact readValue_word rfl (by decide) rfl
  | infinite negative =>
      cases negative with
      | true => exact readValue_word rfl (by decide) rfl
      | false => exact readValue_word rfl (by decide) rfl
  | finite negative m =>
      obtain ⟨c, ds, hcons, hc⟩ := exists_decimalText_cons
        (if m.val = 0 then ⟨0, 0⟩ else Binary64.shortest m)
      exact readValue_number hcons hc fun start => readUnsigned_magnitude ht start

/-- A string is read with its pairs joined. -/
theorem readValue_str (s t : Text) :
    readValue fuel depth (points (chars (.str s)) ++ t) = .ok (.str (joinPairs s), t) := by
  have htext : points (chars (.str s)) ++ t =
      .scalar '"' :: (points (s.flatMap escapePoint) ++ .scalar '"' :: t) := by
    rw [chars]
    simp [quote]
  rw [htext, readValue, readString_literal]
  rfl

/-! ## Arrays and objects -/

/-- A reader that takes a written value for `found`, whatever follows it. -/
def ReadsTo (item : Reader Json) (j found : Json) : Prop :=
  ∀ t, PastNumber t → item (points (chars j) ++ t) = .ok (found, t)

/-- A reader that gives a written value back. -/
def Reads (item : Reader Json) (j : Json) : Prop := ReadsTo item j j

theorem skipBlanks_cons {c : Char} (hc : isBlankPoint (.scalar c) = false) (t : Text) :
    skipBlanks (.scalar c :: t) = .scalar c :: t := by
  rw [skipBlanks, List.dropWhile_cons_of_neg]
  simp [hc]

theorem skipBlanks_blank (t : Text) : skipBlanks (.scalar ' ' :: t) = skipBlanks t := by
  rw [skipBlanks, List.dropWhile_cons_of_pos (by decide), skipBlanks]

theorem charsElements_singleton (j : Json) : charsElements [j] = chars j ++ [']'] := by
  rw [charsElements]

theorem charsElements_cons (j j' : Json) (r : List Json) :
    charsElements (j :: j' :: r) = chars j ++ ',' :: ' ' :: charsElements (j' :: r) := by
  rw [charsElements]
  exact List.cons_ne_nil j' r

/-- The elements of an array begin like the first of them. -/
theorem exists_charsElements_cons {es : List Json} (hes : es ≠ []) (t : Text) :
    ∃ c r, points (charsElements es) ++ t = .scalar c :: r ∧ StartsValue c := by
  cases es with
  | nil => exact absurd rfl hes
  | cons j r =>
      obtain ⟨c, cs, hcons, hc⟩ := exists_chars_cons j
      cases r with
      | nil => exact ⟨c, _, by rw [charsElements_singleton, hcons]; rfl, hc⟩
      | cons j' r => exact ⟨c, _, by rw [charsElements_cons, hcons]; rfl, hc⟩

theorem skipBlanks_charsElements {es : List Json} (hes : es ≠ []) (t : Text) :
    skipBlanks (points (charsElements es) ++ t) = points (charsElements es) ++ t := by
  obtain ⟨c, r, hcons, hc⟩ := exists_charsElements_cons hes t
  rw [hcons, skipBlanks_cons hc.not_blank]

/-- Elements are read one by one up to the closing bracket. -/
theorem readElements_charsElements {item : Reader Json} {f : Json → Json} {es : List Json}
    (hes : es ≠ []) (hitem : ∀ j ∈ es, ReadsTo item j (f j)) {n : Nat} (hn : es.length ≤ n)
    (t : Text) : readElements item n (points (charsElements es) ++ t) = .ok (es.map f, t) := by
  induction es generalizing n with
  | nil => exact absurd rfl hes
  | cons j r ih =>
      obtain ⟨n, rfl⟩ : ∃ k, n = k + 1 := Nat.exists_eq_add_one.mpr
        (Nat.lt_of_lt_of_le (Nat.succ_pos _) hn)
      have hj := hitem j List.mem_cons_self
      cases r with
      | nil =>
          have htext : points (charsElements [j]) ++ t =
              points (chars j) ++ (.scalar ']' :: t) := by
            simp [charsElements_singleton]
          rw [htext, readElements, hj _ (pastNumber_cons (by decide) t)]
          simp only [skipBlanks_cons (c := ']') rfl t, List.map_cons, List.map_nil]
      | cons j' r =>
          have htext : points (charsElements (j :: j' :: r)) ++ t = points (chars j) ++
              (.scalar ',' :: .scalar ' ' :: (points (charsElements (j' :: r)) ++ t)) := by
            simp [charsElements_cons]
          have hrest := ih (List.cons_ne_nil j' r)
            (fun x hx => hitem x (List.mem_cons_of_mem j hx)) (n := n)
            (by simpa using hn)
          rw [htext, readElements, hj _ (pastNumber_cons (by decide) _)]
          simp only [skipBlanks_cons (c := ',') rfl, skipBlanks_blank,
            skipBlanks_charsElements (List.cons_ne_nil j' r), hrest, List.map_cons]

theorem charsMembers_singleton (m : Text × Json) :
    charsMembers [m] = quote m.1 ++ ':' :: ' ' :: chars m.2 ++ ['}'] := by
  rw [charsMembers]

theorem charsMembers_cons (m m' : Text × Json) (r : List (Text × Json)) :
    charsMembers (m :: m' :: r) =
      quote m.1 ++ ':' :: ' ' :: chars m.2 ++ ',' :: ' ' :: charsMembers (m' :: r) := by
  rw [charsMembers]
  exact List.cons_ne_nil m' r

/-- The text of a member, and what follows it. -/
def memberText (m : Text × Json) (t : Text) : Text :=
  .scalar '"' :: (points (m.1.flatMap escapePoint) ++
    .scalar '"' :: .scalar ':' :: .scalar ' ' :: (points (chars m.2) ++ t))

theorem points_charsMembers_singleton (m : Text × Json) (t : Text) :
    points (charsMembers [m]) ++ t = memberText m (.scalar '}' :: t) := by
  simp [charsMembers_singleton, memberText, quote]

theorem points_charsMembers_cons (m m' : Text × Json) (r : List (Text × Json)) (t : Text) :
    points (charsMembers (m :: m' :: r)) ++ t =
      memberText m (.scalar ',' :: .scalar ' ' :: (points (charsMembers (m' :: r)) ++ t)) := by
  simp [charsMembers_cons, memberText, quote]

/-- The members of an object begin with a quote. -/
theorem exists_charsMembers_cons {ms : List (Text × Json)} (hms : ms ≠ []) (t : Text) :
    ∃ r, points (charsMembers ms) ++ t = .scalar '"' :: r := by
  cases ms with
  | nil => exact absurd rfl hms
  | cons m r =>
      cases r with
      | nil => exact ⟨_, points_charsMembers_singleton m t⟩
      | cons m' r => exact ⟨_, points_charsMembers_cons m m' r t⟩

/-- Members are read one by one up to the closing brace. -/
theorem readMembers_charsMembers {item : Reader Json} {f : Json → Json} {ms : List (Text × Json)}
    (hms : ms ≠ []) (hitem : ∀ m ∈ ms, ReadsTo item m.2 (f m.2)) {n : Nat} (hn : ms.length ≤ n)
    (t : Text) : readMembers item n (points (charsMembers ms) ++ t) =
      .ok (ms.map fun m => (joinPairs m.1, f m.2), t) := by
  induction ms generalizing n with
  | nil => exact absurd rfl hms
  | cons m r ih =>
      obtain ⟨n, rfl⟩ : ∃ k, n = k + 1 := Nat.exists_eq_add_one.mpr
        (Nat.lt_of_lt_of_le (Nat.succ_pos _) hn)
      obtain ⟨k, j⟩ := m
      have hj := hitem (k, j) List.mem_cons_self
      have hname := fun opened => readString_literal opened k
      cases r with
      | nil =>
          rw [points_charsMembers_singleton, memberText, readMembers]
          simp only [hname, skipBlanks_cons (c := ':') rfl, skipBlanks_blank, skipBlanks_chars,
            hj _ (pastNumber_cons (c := '}') (by decide) t), skipBlanks_cons (c := '}') rfl,
            List.map_cons, List.map_nil]
      | cons m' r =>
          have hrest := ih (List.cons_ne_nil m' r)
            (fun x hx => hitem x (List.mem_cons_of_mem _ hx)) (n := n) (by simpa using hn)
          obtain ⟨q, hq⟩ := exists_charsMembers_cons (List.cons_ne_nil m' r) t
          rw [points_charsMembers_cons, memberText, readMembers]
          rw [hq] at hrest ⊢
          simp only [hname, skipBlanks_cons (c := ':') rfl, skipBlanks_blank, skipBlanks_chars,
            hj _ (pastNumber_cons (c := ',') (by decide) _), skipBlanks_cons (c := ',') rfl,
            skipBlanks_cons (c := '"') rfl, hrest, List.map_cons]

/-! ## Names that occur once -/

theorem insert_of_notMem {name : Text} {ms : List (Text × Json)} (h : name ∉ ms.map Prod.fst)
    (j : Json) : insert name j ms = ms ++ [(name, j)] := by
  induction ms with
  | nil => rfl
  | cons m r ih =>
      obtain ⟨k, v⟩ := m
      rw [List.map_cons, List.mem_cons, not_or] at h
      rw [insert, if_neg (Ne.symm h.1), ih h.2, List.cons_append]

/-- Members with different names are kept as they are. -/
theorem dedup_eq_self {ms : List (Text × Json)} (h : (ms.map Prod.fst).Nodup) : dedup ms = ms := by
  have hfold : ∀ (rest acc : List (Text × Json)), ((acc ++ rest).map Prod.fst).Nodup →
      rest.foldl (fun acc m => insert m.1 m.2 acc) acc = acc ++ rest := by
    intro rest
    induction rest with
    | nil => intro acc _; rw [List.foldl_nil, List.append_nil]
    | cons m r ih =>
        intro acc hacc
        have hnew : m.1 ∉ acc.map Prod.fst := by
          intro hmem
          rw [List.map_append, List.nodup_append] at hacc
          exact hacc.2.2 m.1 hmem m.1 (by simp) rfl
        rw [List.foldl_cons, insert_of_notMem hnew, ih _ (by simpa using hacc)]
        simp
  exact hfold ms [] h

/-! ## Lengths, which bound the number of elements -/

theorem length_chars_pos (j : Json) : 0 < (chars j).length := by
  obtain ⟨c, cs, hcons, -⟩ := exists_chars_cons j
  rw [hcons]
  exact Nat.succ_pos _

theorem length_charsElements (es : List Json) :
    es.length ≤ (charsElements es).length ∧
      ∀ j ∈ es, (chars j).length ≤ (charsElements es).length := by
  induction es with
  | nil => simp
  | cons j r ih =>
      have hj := length_chars_pos j
      have htext : (chars j).length + (if r = [] then 0 else (charsElements r).length) <
          (charsElements (j :: r)).length := by
        cases r with
        | nil => simp [charsElements_singleton]
        | cons j' r =>
            rw [if_neg (List.cons_ne_nil j' r), charsElements_cons, List.length_append,
              List.length_cons, List.length_cons]
            omega
      constructor
      · split at htext
        · next hr => subst hr; simp only [List.length_singleton]; omega
        · simp only [List.length_cons]; omega
      · intro x hx
        rcases List.mem_cons.mp hx with rfl | hx
        · omega
        · have hr : r ≠ [] := List.ne_nil_of_mem hx
          rw [if_neg hr] at htext
          have := ih.2 x hx
          omega

theorem length_charsMembers (ms : List (Text × Json)) :
    ms.length ≤ (charsMembers ms).length ∧
      ∀ m ∈ ms, (chars m.2).length ≤ (charsMembers ms).length := by
  induction ms with
  | nil => simp
  | cons m r ih =>
      obtain ⟨k, j⟩ := m
      have hj := length_chars_pos j
      have htext : (chars j).length + (if r = [] then 0 else (charsMembers r).length) <
          (charsMembers ((k, j) :: r)).length := by
        cases r with
        | nil =>
            rw [if_pos rfl, charsMembers_singleton]
            simp only [List.length_append, List.length_cons]
            omega
        | cons m' r =>
            rw [if_neg (List.cons_ne_nil m' r), charsMembers_cons]
            simp only [List.length_append, List.length_cons]
            omega
      constructor
      · split at htext
        · next hr => subst hr; simp only [List.length_singleton]; omega
        · simp only [List.length_cons]; omega
      · intro x hx
        rcases List.mem_cons.mp hx with rfl | hx
        · simp only; omega
        · have hr : r ≠ [] := List.ne_nil_of_mem hx
          rw [if_neg hr] at htext
          have := ih.2 x hx
          omega

/-! ## Values and documents -/

theorem readBracketed_array {inner : Reader Json} {c : Char} {r : Text}
    (h : skipBlanks t = .scalar c :: r) (hc : c ≠ ']') :
    readBracketed fuel inner .array t =
      (readElements inner fuel (skipBlanks t)).map fun (js, rest) => (.arr js, rest) := by
  rw [h]
  unfold readBracketed
  rw [h]
  split
  all_goals simp_all

theorem readBracketed_object {inner : Reader Json} {c : Char} {r : Text}
    (h : skipBlanks t = .scalar c :: r) (hc : c ≠ '}') :
    readBracketed fuel inner .object t =
      (readMembers inner fuel (skipBlanks t)).map fun (ms, rest) => (.obj (dedup ms), rest) := by
  rw [h]
  unfold readBracketed
  rw [h]
  split
  all_goals simp_all

/-- A written value is read with its pairs joined, whatever follows it. -/
theorem readValue_chars {j : Json} (h : Within depth j) {fuel : Nat}
    (hfuel : (chars j).length ≤ fuel) : ReadsTo (readValue fuel depth) j j.joined := by
  induction h with
  | null => intro t _; rw [chars, joined]; exact readValue_word rfl (by decide) rfl
  | bool b =>
      intro t _
      cases b with
      | true => rw [chars, joined]; exact readValue_word rfl (by decide) rfl
      | false => rw [chars, joined]; exact readValue_word rfl (by decide) rfl
  | int hi => intro t ht; rw [joined]; exact readValue_int hi ht
  | float x => intro t ht; rw [joined]; exact readValue_float x ht
  | str s => intro t _; rw [joined]; exact readValue_str s t
  | @arr depth es hes ih =>
      intro t ht
      rw [chars, List.length_cons] at hfuel
      obtain ⟨hlength, hinner⟩ := length_charsElements es
      have hitem : ∀ j ∈ es, ReadsTo (readValue fuel depth) j j.joined :=
        fun j hj => ih j hj (by have := hinner j hj; omega)
      rw [chars, points_cons, List.cons_append, readValue, joined, joinedElements_eq_map]
      cases es with
      | nil => rfl
      | cons j r =>
          have hread := readElements_charsElements (List.cons_ne_nil j r) hitem (n := fuel)
            (by omega) t
          have hblank := skipBlanks_charsElements (List.cons_ne_nil j r) t
          obtain ⟨c, q, hq, hc⟩ := exists_charsElements_cons (List.cons_ne_nil j r) t
          rw [readBracketed_array (hblank.trans hq) (hc.ne rfl (by decide)), hblank, hread]
          rfl
  | @obj depth ms hms ih =>
      intro t ht
      rw [chars, List.length_cons] at hfuel
      obtain ⟨hlength, hinner⟩ := length_charsMembers ms
      have hitem : ∀ m ∈ ms, ReadsTo (readValue fuel depth) m.2 m.2.joined :=
        fun m hm => ih m hm (by have := hinner m hm; omega)
      rw [chars, points_cons, List.cons_append, readValue, joined, joinedMembers_eq_map]
      cases ms with
      | nil => rfl
      | cons m r =>
          have hread := readMembers_charsMembers (List.cons_ne_nil m r) hitem (n := fuel)
            (by omega) t
          obtain ⟨q, hq⟩ := exists_charsMembers_cons (List.cons_ne_nil m r) t
          have hblank : skipBlanks (points (charsMembers (m :: r)) ++ t) = .scalar '"' :: q := by
            rw [hq, skipBlanks_cons rfl]
          rw [readBracketed_object hblank (by decide), hblank, ← hq, hread]
          rfl

/-- A written value is read from its text with its pairs joined. -/
theorem readDocument_chars {j : Json} (h : Within depth j) :
    readDocument depth (points (chars j)) = .ok j.joined := by
  have hfuel : (chars j).length ≤ (points (chars j)).length + 1 := by
    rw [length_points]
    exact Nat.le_succ _
  have hread := readValue_chars h hfuel [] (by intro p hp; simp at hp)
  have hblank := skipBlanks_chars j []
  rw [List.append_nil] at hread hblank
  unfold readDocument
  split
  · next heq =>
    -- no value begins with a byte order mark
    obtain ⟨c, cs, hcons, hc⟩ := exists_chars_cons j
    have hmark : c = '\uFEFF' := by
      rw [hcons] at heq
      simpa using (List.cons.inj heq).1
    exact absurd hmark (hc.ne (by decide) (by decide))
  · rw [hblank, hread]
    rfl

theorem ofString_write (j : Json) : ((write j : String) : Text) = points (chars j) := by
  rw [Text.ofString, write, String.toList_ofList, points]

/-- A written value is read with its pairs joined. -/
theorem readNested_write_joined {j : Json} (h : Within depth j) :
    readNested depth (write j) = .ok j.joined := by
  rw [readNested, ofString_write, readDocument_chars h]
  rfl

/-- No value is nested deeper than its text is long. -/
theorem Within.of_length_le {j : Json} (h : Within depth j) {d : Nat}
    (hd : (chars j).length ≤ d) : Within d j := by
  induction h generalizing d with
  | null => exact .null
  | bool b => exact .bool b
  | int hi => exact .int hi
  | float x => exact .float x
  | str t => exact .str t
  | @arr depth es hes ih =>
      rw [chars, List.length_cons] at hd
      obtain ⟨d, rfl⟩ := Nat.exists_eq_add_one.mpr (Nat.lt_of_lt_of_le (Nat.succ_pos _) hd)
      have hinner := (length_charsElements es).2
      exact .arr fun j hj => ih j hj (by have := hinner j hj; omega)
  | @obj depth ms hms ih =>
      rw [chars, List.length_cons] at hd
      obtain ⟨d, rfl⟩ := Nat.exists_eq_add_one.mpr (Nat.lt_of_lt_of_le (Nat.succ_pos _) hd)
      have hinner := (length_charsMembers ms).2
      exact .obj fun m hm => ih m hm (by have := hinner m hm; omega)

/-! ## Values that are read back -/

theorem Readable.within {j : Json} (h : Readable depth j) : Within depth j := by
  induction h with
  | null => exact .null
  | bool b => exact .bool b
  | int hi => exact .int hi
  | float x => exact .float x
  | str hs => exact .str _
  | arr hes ih => exact .arr ih
  | obj hnames hscalar hms ih => exact .obj ih

theorem Readable.unsplit {j : Json} (h : Readable depth j) : Unsplit j := by
  induction h with
  | null => exact .null
  | bool b => exact .bool b
  | int hi => exact .int _
  | float x => exact .float x
  | str hs => exact .str (joinPairs_of_isScalar hs)
  | arr hes ih => exact .arr ih
  | obj hnames hscalar hms ih =>
      exact .obj hnames (fun m hm => joinPairs_of_isScalar (hscalar m hm)) ih

/-- What is not split has nothing to join. -/
theorem Unsplit.joined_eq {j : Json} (h : Unsplit j) : j.joined = j := by
  induction h with
  | null => rw [joined]
  | bool b => rw [joined]
  | int i => rw [joined]
  | float x => rw [joined]
  | str hs => rw [joined, hs]
  | arr hes ih => rw [joined, joinedElements_eq_map, List.map_congr_left ih, List.map_id']
  | @obj ms hnames hunsplit hms ih =>
      have hsame : ∀ m ∈ ms, (joinPairs m.1, m.2.joined) = m := by
        intro m hm
        rw [hunsplit m hm, ih m hm]
      rw [joined, joinedMembers_eq_map, List.map_congr_left hsame, List.map_id',
        dedup_eq_self hnames]

/-- A written value is read back, whatever follows it. -/
theorem Readable.reads {j : Json} (h : Readable depth j) {fuel : Nat}
    (hfuel : (chars j).length ≤ fuel) : Reads (readValue fuel depth) j := by
  have hread := readValue_chars h.within hfuel
  rwa [h.unsplit.joined_eq] at hread

/-- A written value is read back. -/
theorem readNested_write {j : Json} (h : Readable depth j) :
    readNested depth (write j) = .ok j := by
  rw [readNested_write_joined h.within, h.unsplit.joined_eq]

/-- A written value is read back, however deep it is nested. -/
theorem read_write {j : Json} (h : Readable depth j) : read (write j) = .ok j := by
  have hdeep : Within ((write j : String) : Text).length j :=
    h.within.of_length_le (by rw [ofString_write, length_points])
  rw [read, readNested_write_joined hdeep, h.unsplit.joined_eq]

/-! ## Numbers that no strict document can hold -/

theorem finiteOnlyElements_eq_map (es : List Json) : finiteOnlyElements es = es.map finiteOnly := by
  induction es with
  | nil => rw [finiteOnlyElements, List.map_nil]
  | cons j r ih => rw [finiteOnlyElements, ih, List.map_cons]

theorem finiteOnlyMembers_eq_map (ms : List (Text × Json)) :
    finiteOnlyMembers ms = ms.map fun m => (m.1, finiteOnly m.2) := by
  induction ms with
  | nil => rw [finiteOnlyMembers, List.map_nil]
  | cons m r ih => rw [finiteOnlyMembers, ih, List.map_cons]

/-- A value stays readable with null in the place of numbers that are not finite. -/
theorem Readable.finiteOnly {j : Json} (h : Readable depth j) : Readable depth j.finiteOnly := by
  induction h with
  | null => exact .null
  | bool b => exact .bool b
  | int hi => exact .int hi
  | float x =>
      rw [Json.finiteOnly]
      split
      · exact .float x
      · exact .null
  | str hs => exact .str hs
  | arr hes ih =>
      rw [Json.finiteOnly, finiteOnlyElements_eq_map]
      apply Readable.arr
      intro j hj
      obtain ⟨x, hx, rfl⟩ := List.mem_map.mp hj
      exact ih x hx
  | @obj depth ms hnames hscalar hms ih =>
      rw [Json.finiteOnly, finiteOnlyMembers_eq_map]
      have hsame : (ms.map fun m => (m.1, m.2.finiteOnly)).map Prod.fst = ms.map Prod.fst := by
        rw [List.map_map]
        rfl
      apply Readable.obj
      · rwa [hsame]
      · intro m hm
        obtain ⟨x, hx, rfl⟩ := List.mem_map.mp hm
        exact hscalar x hx
      · intro m hm
        obtain ⟨x, hx, rfl⟩ := List.mem_map.mp hm
        exact ih x hx

mutual

/-- Numbers that are not finite are replaced once. -/
theorem finiteOnly_finiteOnly : ∀ j : Json, j.finiteOnly.finiteOnly = j.finiteOnly
  | .null => rfl
  | .bool _ => rfl
  | .int _ => rfl
  | .float x => by
    cases x <;> rfl
  | .str _ => rfl
  | .arr es => by
    rw [finiteOnly, finiteOnly, finiteOnlyElements_finiteOnlyElements es]
  | .obj ms => by
    rw [finiteOnly, finiteOnly, finiteOnlyMembers_finiteOnlyMembers ms]

theorem finiteOnlyElements_finiteOnlyElements :
    ∀ es : List Json, finiteOnlyElements (finiteOnlyElements es) = finiteOnlyElements es
  | [] => rfl
  | j :: r => by
    rw [finiteOnlyElements, finiteOnlyElements, finiteOnly_finiteOnly j,
      finiteOnlyElements_finiteOnlyElements r]

theorem finiteOnlyMembers_finiteOnlyMembers : ∀ ms : List (Text × Json),
    finiteOnlyMembers (finiteOnlyMembers ms) = finiteOnlyMembers ms
  | [] => rfl
  | (k, j) :: r => by
    rw [finiteOnlyMembers, finiteOnlyMembers, finiteOnly_finiteOnly j,
      finiteOnlyMembers_finiteOnlyMembers r]

end

end CommandBridge.Json
