import CommandBridge.Proofs.Json.Limits

/-!
# CommandBridge.Proofs.Json.Extent

How far a written value is read.  Not every value is read: integers can be too long and brackets too
deep.  Still the reader takes the text of the value and no more, if
it takes the value at all (`passes_readValue`).  So what is around a value is not affected by it:
the members of a written object are read one for one (`exists_of_readNested_write`).
-/

namespace CommandBridge.Json

/-! ## Values without brackets -/

variable {item : Reader Json} {j : Json} {fuel depth : Nat}

/-- A reader that takes the text of a value and no more, if it takes the value. -/
def Passes (item : Reader Json) (j : Json) : Prop :=
  ∀ t, PastNumber t → ∀ found rest,
    item (points (chars j) ++ t) = .ok (found, rest) → rest = t

theorem Reads.passes (h : Reads item j) : Passes item j := by
  intro t ht found rest hread
  rw [h t ht] at hread
  exact (Prod.mk.inj (Except.ok.inj hread)).2.symm

theorem passes_int (i : Int) : Passes (readValue fuel depth) (.int i) := by
  by_cases hi : (Nat.toDigits 10 i.natAbs).length ≤ maxDigits
  · exact Reads.passes fun t ht => readValue_int hi ht
  · intro t ht found rest hread
    obtain ⟨c, ds, hcons⟩ :=
      List.exists_cons_of_ne_nil (Nat.toDigits_ne_nil (n := i.natAbs) (b := 10))
    have hrefused : ∀ start, readUnsigned (decide (i < 0)) start
        (points (Nat.toDigits 10 i.natAbs) ++ t) =
          .error (.tooManyDigits (spell (Nat.toDigits 10 i.natAbs)).length) := by
      intro start
      rw [readUnsigned_whole (whole_toDigits _) ht.pastDigits,
        readTail_tooManyDigits (by rw [length_spell]; omega) ht]
    rw [chars_int, readValue_number hcons (isDigit_head_toDigits hcons) hrefused] at hread
    simp at hread

theorem passes_str (s : Text) : Passes (readValue fuel depth) (.str s) := by
  intro t ht found rest hread
  rw [readValue_str] at hread
  exact (Prod.mk.inj (Except.ok.inj hread)).2.symm

/-! ## Arrays and objects -/

/-- Elements are read up to the closing bracket. -/
theorem rest_of_readElements {es : List Json} (hes : es ≠ []) (hitem : ∀ j ∈ es, Passes item j)
    {n : Nat} {t rest : Text} {found : List Json}
    (h : readElements item n (points (charsElements es) ++ t) = .ok (found, rest)) : rest = t := by
  induction es generalizing n found with
  | nil => exact absurd rfl hes
  | cons j r ih =>
      cases n with
      | zero => simp [readElements] at h
      | succ n =>
          have hj := hitem j List.mem_cons_self
          rw [readElements] at h
          cases r with
          | nil =>
              have htext : points (charsElements [j]) ++ t =
                  points (chars j) ++ (.scalar ']' :: t) := by
                simp [charsElements_singleton]
              rw [htext] at h
              cases hread : item (points (chars j) ++ (.scalar ']' :: t)) with
              | error e => simp [hread] at h
              | ok first =>
                  obtain ⟨j', rest'⟩ := first
                  obtain rfl := hj _ (pastNumber_cons (by decide) t) _ _ hread
                  simp only [hread, skipBlanks_cons (c := ']') rfl t] at h
                  exact (Prod.mk.inj (Except.ok.inj h)).2.symm
          | cons k r =>
              have htext : points (charsElements (j :: k :: r)) ++ t = points (chars j) ++
                  (.scalar ',' :: .scalar ' ' :: (points (charsElements (k :: r)) ++ t)) := by
                simp [charsElements_cons]
              rw [htext] at h
              cases hread : item (points (chars j) ++
                  (.scalar ',' :: .scalar ' ' :: (points (charsElements (k :: r)) ++ t))) with
              | error e => simp [hread] at h
              | ok first =>
                  obtain ⟨j', rest'⟩ := first
                  obtain rfl := hj _ (pastNumber_cons (by decide) _) _ _ hread
                  simp only [hread, skipBlanks_cons (c := ',') rfl, skipBlanks_blank,
                    skipBlanks_charsElements (List.cons_ne_nil k r)] at h
                  split at h
                  · simp at h
                  · next hmore =>
                    obtain ⟨-, rfl⟩ := Prod.mk.inj (Except.ok.inj h)
                    exact ih (List.cons_ne_nil k r)
                      (fun x hx => hitem x (List.mem_cons_of_mem j hx)) hmore

/-- A member that is read where `m` was written: with its name, if that is made of scalar
values, and with its value, if that is one that is read back. -/
structure ReadAs (item : Reader Json) (m found : Text × Json) : Prop where
  name : IsScalar m.1 → found.1 = m.1
  value : Reads item m.2 → found.2 = m.2

/-- A member is read up to what follows it, and more members only after a comma. -/
theorem exists_readAs {m : Text × Json} (hitem : Passes item m.2) {n : Nat} {t rest : Text}
    (ht : PastNumber t) {found : List (Text × Json)}
    (h : readMembers item (n + 1) (memberText m t) = .ok (found, rest)) :
    ∃ f ms, found = f :: ms ∧ ReadAs item m f ∧
      (ms = [] ∧ skipBlanks t = .scalar '}' :: rest ∨
        ∃ r, skipBlanks t = .scalar ',' :: r ∧
          readMembers item n (skipBlanks r) = .ok (ms, rest)) := by
  obtain ⟨k, j⟩ := m
  have hname := fun opened => readString_literal opened k
  rw [memberText, readMembers, ← memberText] at h
  simp only [hname, skipBlanks_cons (c := ':') rfl, skipBlanks_blank, skipBlanks_chars] at h
  cases hread : item (points (chars j) ++ t) with
  | error e => simp [hread] at h
  | ok first =>
      obtain ⟨j', rest'⟩ := first
      obtain rfl := hitem t ht _ _ hread
      have hvalue : Reads item j → j' = j := by
        intro hreads
        rw [hreads _ ht] at hread
        exact (Prod.mk.inj (Except.ok.inj hread)).1.symm
      simp only [hread] at h
      split at h
      · next hend =>
        obtain ⟨rfl, rfl⟩ := Prod.mk.inj (Except.ok.inj h)
        exact ⟨_, _, rfl, ⟨joinPairs_of_isScalar, hvalue⟩, .inl ⟨rfl, hend⟩⟩
      · next hcomma =>
        split at h
        · simp at h
        · next hmore =>
          obtain ⟨rfl, rfl⟩ := Prod.mk.inj (Except.ok.inj h)
          exact ⟨_, _, rfl, ⟨joinPairs_of_isScalar, hvalue⟩, .inr ⟨_, hcomma, hmore⟩⟩
      · simp at h

/-- Members are read one for one, up to the closing brace. -/
theorem forall₂_of_readMembers {ms : List (Text × Json)} (hms : ms ≠ [])
    (hitem : ∀ m ∈ ms, Passes item m.2) {n : Nat} {t rest : Text} {found : List (Text × Json)}
    (h : readMembers item n (points (charsMembers ms) ++ t) = .ok (found, rest)) :
    List.Forall₂ (ReadAs item) ms found ∧ rest = t := by
  induction ms generalizing n found with
  | nil => exact absurd rfl hms
  | cons m r ih =>
      cases n with
      | zero => simp [readMembers] at h
      | succ n =>
          have hm := hitem m List.mem_cons_self
          cases r with
          | nil =>
              rw [points_charsMembers_singleton] at h
              obtain ⟨f, ms, rfl, hf, ⟨rfl, hend⟩ | ⟨r, hcomma, -⟩⟩ :=
                exists_readAs hm (pastNumber_cons (by decide) t) h
              · rw [skipBlanks_cons rfl] at hend
                exact ⟨.cons hf .nil, (List.cons.inj hend).2.symm⟩
              · simp [skipBlanks_cons (c := '}') rfl] at hcomma
          | cons m' r =>
              rw [points_charsMembers_cons] at h
              obtain ⟨f, ms, rfl, hf, ⟨rfl, hend⟩ | ⟨q, hcomma, hmore⟩⟩ :=
                exists_readAs hm (pastNumber_cons (by decide) _) h
              · simp [skipBlanks_cons (c := ',') rfl] at hend
              · rw [skipBlanks_cons rfl] at hcomma
                obtain rfl := (List.cons.inj hcomma).2
                obtain ⟨q, hq⟩ := exists_charsMembers_cons (List.cons_ne_nil m' r) t
                rw [skipBlanks_blank, hq, skipBlanks_cons rfl, ← hq] at hmore
                obtain ⟨hall, hrest⟩ := ih (List.cons_ne_nil m' r)
                  (fun x hx => hitem x (List.mem_cons_of_mem m hx)) hmore
                exact ⟨.cons hf hall, hrest⟩

/-! ## Values -/

/-- The text of an array is passed, if the texts of its elements are. -/
theorem passes_arr (hitem : ∀ j, Passes (readValue fuel depth) j) (es : List Json) :
    Passes (readValue fuel (depth + 1)) (.arr es) := by
  intro t ht found rest hread
  rw [chars, points_cons, List.cons_append, readValue] at hread
  cases es with
  | nil => exact (Prod.mk.inj (Except.ok.inj hread)).2.symm
  | cons j r =>
      have hblank := skipBlanks_charsElements (List.cons_ne_nil j r) t
      obtain ⟨c, q, hq, hc⟩ := exists_charsElements_cons (List.cons_ne_nil j r) t
      rw [readBracketed_array (hblank.trans hq) (hc.ne rfl (by decide)), hblank] at hread
      obtain ⟨⟨js, rest'⟩, helements, heq⟩ := exists_of_map_eq_ok hread
      obtain ⟨-, rfl⟩ := Prod.mk.inj heq
      exact rest_of_readElements (List.cons_ne_nil j r) (fun j _ => hitem j) helements

/-- The members of a written object are read one for one. -/
theorem exists_of_readValue_obj (hitem : ∀ j, Passes (readValue fuel depth) j)
    {ms : List (Text × Json)} {t rest : Text} {found : Json}
    (h : readValue fuel (depth + 1) (points (chars (.obj ms)) ++ t) = .ok (found, rest)) :
    ∃ fs, found = .obj (dedup fs) ∧ List.Forall₂ (ReadAs (readValue fuel depth)) ms fs ∧
      rest = t := by
  rw [chars, points_cons, List.cons_append, readValue] at h
  cases ms with
  | nil =>
      obtain ⟨rfl, rfl⟩ := Prod.mk.inj (Except.ok.inj h)
      exact ⟨[], rfl, .nil, rfl⟩
  | cons m r =>
      obtain ⟨q, hq⟩ := exists_charsMembers_cons (List.cons_ne_nil m r) t
      have hblank : skipBlanks (points (charsMembers (m :: r)) ++ t) = .scalar '"' :: q := by
        rw [hq, skipBlanks_cons rfl]
      rw [readBracketed_object hblank (by decide), hblank, ← hq] at h
      obtain ⟨⟨fs, rest'⟩, hmembers, heq⟩ := exists_of_map_eq_ok h
      obtain ⟨rfl, rfl⟩ := Prod.mk.inj heq
      obtain ⟨hall, hrest⟩ :=
        forall₂_of_readMembers (List.cons_ne_nil m r) (fun m _ => hitem m.2) hmembers
      exact ⟨fs, rfl, hall, hrest⟩

/-- The texts of values without brackets are passed at every depth. -/
theorem passes_of_brackets (harr : ∀ es, Passes (readValue fuel depth) (.arr es))
    (hobj : ∀ ms, Passes (readValue fuel depth) (.obj ms)) (j : Json) :
    Passes (readValue fuel depth) j := by
  have hword : ∀ {j : Json} (c : Char) (ds : List Char), chars j = c :: ds →
      c ∉ ['"', '[', '{'] → (∀ t, readWord? (points (c :: ds) ++ t) = some (j, t)) →
      Passes (readValue fuel depth) j := by
    intro j c ds hchars hc hread
    refine Reads.passes fun t _ => ?_
    rw [hchars]
    exact readValue_word rfl hc (hread t)
  cases j with
  | null => exact hword 'n' _ (by rw [chars]) (by decide) fun _ => rfl
  | bool b =>
      cases b with
      | true => exact hword 't' _ (by rw [chars]) (by decide) fun _ => rfl
      | false => exact hword 'f' _ (by rw [chars]) (by decide) fun _ => rfl
  | int i => exact passes_int i
  | float x => exact Reads.passes fun t ht => readValue_float x ht
  | str s => exact passes_str s
  | arr es => exact harr es
  | obj ms => exact hobj ms

/-- Where no bracket may be opened, no object is read. -/
theorem readValue_obj_zero (fuel : Nat) (ms : List (Text × Json)) (t : Text) :
    readValue fuel 0 (points (chars (.obj ms)) ++ t) = .error (.tooDeep .object) := by
  rw [chars, points_cons, List.cons_append, readValue]

/-- The reader takes the text of a written value and no more, if it takes the value. -/
theorem passes_readValue (fuel depth : Nat) (j : Json) : Passes (readValue fuel depth) j := by
  induction depth generalizing j with
  | zero =>
      apply passes_of_brackets
      · intro es t ht found rest h
        rw [chars, points_cons, List.cons_append, readValue] at h
        simp at h
      · intro ms t ht found rest h
        simp [readValue_obj_zero] at h
  | succ depth ih =>
      refine passes_of_brackets (passes_arr ih) (fun ms t ht found rest h => ?_) j
      obtain ⟨fs, -, -, hrest⟩ := exists_of_readValue_obj ih h
      exact hrest

/-- Of a written object that is read, the members are read one for one. -/
theorem exists_of_readNested_write {ms : List (Text × Json)} {found : Json}
    (h : readNested depth ((Json.obj ms).write : String) = .ok found) :
    ∃ inner fuel fs, found = .obj (dedup fs) ∧ (chars (.obj ms)).length ≤ fuel ∧
      List.Forall₂ (ReadAs (readValue fuel inner)) ms fs := by
  rw [readNested, ofString_write] at h
  have hblank := skipBlanks_chars (.obj ms) []
  rw [List.append_nil] at hblank
  cases hread : readDocument depth (points (chars (.obj ms))) with
  | error e => simp [hread, Except.mapError] at h
  | ok j =>
      simp only [hread, Except.mapError] at h
      obtain rfl := Except.ok.inj h
      unfold readDocument at hread
      split at hread
      · simp at hread
      · rw [hblank] at hread
        split at hread
        · simp at hread
        · next j' rest hvalue =>
          rw [← List.append_nil (points (chars (.obj ms)))] at hvalue
          cases depth with
          | zero =>
              rw [readValue_obj_zero] at hvalue
              simp at hvalue
          | succ inner =>
              obtain ⟨fs, rfl, hall, -⟩ := exists_of_readValue_obj (passes_readValue _ inner) hvalue
              split at hread
              · obtain rfl := Except.ok.inj hread
                exact ⟨inner, _, fs, rfl, by simp [length_points], hall⟩
              · simp at hread

end CommandBridge.Json
