import CommandBridge.Proofs.Json.RoundTrip

/-!
# CommandBridge.Proofs.Json.Limits

What is read keeps within the limits of the reader (`bounded_of_readNested`): its integers have at
most `maxDigits` digits, its objects have each name once, and it is nested no deeper than the reader
goes.  If its strings hold no lone surrogates, it can be written and read again
(`Bounded.readable`), so the conditions of `Readable` exclude nothing else that comes in as JSON.
-/

namespace CommandBridge.Json

/-- Values within the limits of a reader. -/
inductive Bounded : Nat → Json → Prop where
  | null {depth : Nat} : Bounded depth .null
  | bool {depth : Nat} (b : Bool) : Bounded depth (.bool b)
  | int {depth : Nat} {i : Int} (h : (Nat.toDigits 10 i.natAbs).length ≤ maxDigits) :
      Bounded depth (.int i)
  | float {depth : Nat} (x : Binary64) : Bounded depth (.float x)
  | str {depth : Nat} (t : Text) : Bounded depth (.str t)
  | arr {depth : Nat} {es : List Json} (h : ∀ j ∈ es, Bounded depth j) :
      Bounded (depth + 1) (.arr es)
  | obj {depth : Nat} {ms : List (Text × Json)} (hnames : (ms.map Prod.fst).Nodup)
      (h : ∀ m ∈ ms, Bounded depth m.2) : Bounded (depth + 1) (.obj ms)

/-- Values whose strings are made of scalar values. -/
inductive Scalar : Json → Prop where
  | null : Scalar .null
  | bool (b : Bool) : Scalar (.bool b)
  | int (i : Int) : Scalar (.int i)
  | float (x : Binary64) : Scalar (.float x)
  | str {t : Text} (h : IsScalar t) : Scalar (.str t)
  | arr {es : List Json} (h : ∀ j ∈ es, Scalar j) : Scalar (.arr es)
  | obj {ms : List (Text × Json)} (hnames : ∀ m ∈ ms, IsScalar m.1)
      (h : ∀ m ∈ ms, Scalar m.2) : Scalar (.obj ms)

/-- Values within the limits can be read back, if their strings hold no lone surrogates. -/
theorem Bounded.readable {depth : Nat} {j : Json} (h : Bounded depth j) (hj : Scalar j) :
    Readable depth j := by
  induction h with
  | null => exact .null
  | bool b => exact .bool b
  | int hi => exact .int hi
  | float x => exact .float x
  | str t =>
      cases hj with
      | str ht => exact .str ht
  | arr hes ih =>
      cases hj with
      | arr hscalar => exact .arr fun j hmem => ih j hmem (hscalar j hmem)
  | obj hnodup hms ih =>
      cases hj with
      | obj hnames hscalar => exact .obj hnodup hnames fun m hmem => ih m hmem (hscalar m hmem)

/-! ## Members -/

theorem mem_insert {name : Text} {value : Json} {ms : List (Text × Json)} {m : Text × Json}
    (h : m ∈ insert name value ms) : m = (name, value) ∨ m ∈ ms := by
  induction ms with
  | nil => exact .inl (List.mem_singleton.mp h)
  | cons head rest ih =>
      rw [insert] at h
      split at h
      · next hname =>
        rcases List.mem_cons.mp h with h | h
        · exact .inl (by rw [h, hname])
        · exact .inr (List.mem_cons_of_mem _ h)
      · rcases List.mem_cons.mp h with h | h
        · exact .inr (by rw [h]; exact List.mem_cons_self)
        · exact (ih h).imp_right (List.mem_cons_of_mem _)

theorem nodup_insert {name : Text} {value : Json} {ms : List (Text × Json)}
    (h : (ms.map Prod.fst).Nodup) : ((insert name value ms).map Prod.fst).Nodup := by
  induction ms with
  | nil => simp [insert]
  | cons head rest ih =>
      rw [List.map_cons, List.nodup_cons] at h
      rw [insert]
      split
      · rw [List.map_cons, List.nodup_cons]
        exact h
      · next hname =>
        rw [List.map_cons, List.nodup_cons]
        refine ⟨?_, ih h.2⟩
        intro hmem
        obtain ⟨m, hm, heq⟩ := List.mem_map.mp hmem
        rcases mem_insert hm with rfl | hm
        · exact hname heq.symm
        · exact h.1 (List.mem_map.mpr ⟨m, hm, heq⟩)

/-- Removing repeated names leaves each name once, and no members but those that were there. -/
theorem dedup_spec (ms : List (Text × Json)) :
    ((dedup ms).map Prod.fst).Nodup ∧ ∀ m ∈ dedup ms, m ∈ ms := by
  have hfold : ∀ rest acc : List (Text × Json), (acc.map Prod.fst).Nodup →
      (((rest.foldl (fun acc m => insert m.1 m.2 acc) acc).map Prod.fst).Nodup ∧
        ∀ m ∈ rest.foldl (fun acc m => insert m.1 m.2 acc) acc, m ∈ acc ∨ m ∈ rest) := by
    intro rest
    induction rest with
    | nil => intro acc hacc; exact ⟨hacc, fun m hm => .inl hm⟩
    | cons head rest ih =>
        intro acc hacc
        obtain ⟨hnodup, hmem⟩ := ih (insert head.1 head.2 acc) (nodup_insert hacc)
        refine ⟨hnodup, ?_⟩
        intro m hm
        rcases hmem m hm with hm | hm
        · rcases mem_insert hm with rfl | hm
          · exact .inr List.mem_cons_self
          · exact .inl hm
        · exact .inr (List.mem_cons_of_mem _ hm)
  obtain ⟨hnodup, hmem⟩ := hfold ms [] (by simp)
  exact ⟨hnodup, fun m hm => (hmem m hm).resolve_left (by simp)⟩

/-! ## Numbers -/

variable {t rest : Text} {j : Json}

theorem digit_lt_of_mem_spanDigits {d : Nat} (h : d ∈ (spanDigits t).1) : d < 10 := by
  induction t with
  | nil => simp [spanDigits] at h
  | cons p r ih =>
      rw [spanDigits] at h
      cases hp : digit? p with
      | none => simp [hp] at h
      | some e =>
          simp only [hp, List.mem_cons] at h
          rcases h with rfl | h
          · cases p with
            | surrogate u => simp [digit?] at hp
            | scalar c =>
                simp only [digit?] at hp
                split at hp
                · next hc =>
                  have hle : c.toNat ≤ '9'.toNat := hc.2
                  have hnine : '9'.toNat = 0x39 := rfl
                  obtain rfl := Option.some.inj hp
                  omega
                · simp at hp
          · exact ih h

/-- Digits spell a number that is not longer than they are. -/
theorem ofDigits_lt {ds : List Nat} (h : ∀ d ∈ ds, d < 10) : ofDigits ds < 10 ^ ds.length := by
  induction ds using List.reverseRecOn with
  | nil => decide
  | append_singleton ds d ih =>
      have hlow := ih fun e he => h e (List.mem_append_left _ he)
      have hd := h d (by simp)
      rw [ofDigits, List.foldl_append, List.foldl_cons, List.foldl_nil, List.length_append,
        List.length_singleton, Nat.pow_succ]
      rw [ofDigits] at hlow
      omega

/-- A number has no more digits than the reader takes. -/
theorem bounded_of_readTail {negative : Bool} {whole : List Nat} {depth : Nat}
    (hdigits : ∀ d ∈ whole, d < 10)
    (h : readTail negative whole t = .ok (j, rest)) : Bounded depth j := by
  unfold readTail at h
  split at h
  split at h
  split at h
  · split at h
    · exact absurd h (by simp)
    · next hlength =>
      obtain ⟨rfl, -⟩ := Prod.mk.inj (Except.ok.inj h)
      have habs : (if negative then -(ofDigits whole : Int) else ofDigits whole).natAbs =
          ofDigits whole := by
        split <;> simp
      apply Bounded.int
      rw [habs, Nat.length_toDigits_le_iff (by decide) (by decide)]
      calc ofDigits whole < 10 ^ whole.length := ofDigits_lt hdigits
        _ ≤ 10 ^ maxDigits := Nat.pow_le_pow_right (by decide) (Nat.le_of_not_lt hlength)
  · obtain ⟨rfl, -⟩ := Prod.mk.inj (Except.ok.inj h)
    exact .float _

theorem bounded_of_readUnsigned {negative : Bool} {start depth : Nat}
    (h : readUnsigned negative start t = .ok (j, rest)) : Bounded depth j := by
  unfold readUnsigned at h
  split at h
  · exact bounded_of_readTail (by simp) h
  · split at h
    · exact absurd h (by simp)
    · next ds r _ hspan =>
      apply bounded_of_readTail _ h
      intro d hd
      apply digit_lt_of_mem_spanDigits (t := t)
      rwa [hspan]

theorem bounded_of_readWord? {depth : Nat} (h : readWord? t = some (j, rest)) :
    Bounded depth j := by
  obtain ⟨w, hw, hj⟩ := Option.map_eq_some_iff.mp h
  have hmem := List.mem_of_find?_eq_some hw
  obtain ⟨rfl, -⟩ := Prod.mk.inj hj
  simp only [words, List.mem_cons, List.not_mem_nil, or_false] at hmem
  rcases hmem with rfl | rfl | rfl | rfl | rfl | rfl
  · exact .null
  · exact .bool true
  · exact .bool false
  · exact .float _
  · exact .float _
  · exact .float _

/-! ## What brackets hold -/

/-- A mapped answer is the image of an answer. -/
theorem exists_of_map_eq_ok {ε α β : Type} {f : α → β} {x : Except ε α} {b : β}
    (h : x.map f = .ok b) : ∃ a, x = .ok a ∧ f a = b := by
  cases x with
  | error e => exact absurd h (by simp [Except.map])
  | ok a => exact ⟨a, rfl, Except.ok.inj h⟩

variable {item : Reader Json}

/-- Every element was read by the reader of elements. -/
theorem exists_read_of_mem_elements {n : Nat} {js : List Json}
    (h : readElements item n t = .ok (js, rest)) :
    ∀ j ∈ js, ∃ t rest, item t = .ok (j, rest) := by
  induction n generalizing t js rest with
  | zero => simp [readElements] at h
  | succ n ih =>
      rw [readElements] at h
      cases hitem : item t with
      | error e => simp [hitem] at h
      | ok first =>
          obtain ⟨j, r⟩ := first
          simp only [hitem] at h
          split at h
          · obtain ⟨rfl, -⟩ := Prod.mk.inj (Except.ok.inj h)
            intro j' hj'
            rw [List.mem_singleton.mp hj']
            exact ⟨t, r, hitem⟩
          · split at h
            · exact absurd h (by simp)
            · next js' r' hmore =>
              obtain ⟨rfl, -⟩ := Prod.mk.inj (Except.ok.inj h)
              intro j' hj'
              rcases List.mem_cons.mp hj' with rfl | hj'
              · exact ⟨t, r, hitem⟩
              · exact ih hmore j' hj'
          · exact absurd h (by simp)

/-- The value of every member was read by the reader of values. -/
theorem exists_read_of_mem_members {n : Nat} {ms : List (Text × Json)}
    (h : readMembers item n t = .ok (ms, rest)) :
    ∀ m ∈ ms, ∃ t rest, item t = .ok (m.2, rest) := by
  induction n generalizing t ms rest with
  | zero => simp [readMembers] at h
  | succ n ih =>
      rw [readMembers.eq_def] at h
      simp only at h
      split at h
      · split at h
        · exact absurd h (by simp)
        · split at h
          · next name _ _ value _ =>
            cases hitem : item (skipBlanks value) with
            | error e => simp [hitem] at h
            | ok first =>
                obtain ⟨j, r⟩ := first
                simp only [hitem] at h
                split at h
                · obtain ⟨rfl, -⟩ := Prod.mk.inj (Except.ok.inj h)
                  intro m hm
                  rw [List.mem_singleton.mp hm]
                  exact ⟨_, r, hitem⟩
                · split at h
                  · exact absurd h (by simp)
                  · next ms' r' hmore =>
                    obtain ⟨rfl, -⟩ := Prod.mk.inj (Except.ok.inj h)
                    intro m hm
                    rcases List.mem_cons.mp hm with rfl | hm
                    · exact ⟨_, r, hitem⟩
                    · exact ih hmore m hm
                · exact absurd h (by simp)
          · exact absurd h (by simp)
      · exact absurd h (by simp)

/-- What is in brackets is one level deeper. -/
theorem bounded_of_readBracketed {fuel depth : Nat} {b : Bracket}
    (hitem : ∀ {t j rest}, item t = .ok (j, rest) → Bounded depth j)
    (h : readBracketed fuel item b t = .ok (j, rest)) : Bounded (depth + 1) j := by
  unfold readBracketed at h
  split at h
  · obtain ⟨rfl, -⟩ := Prod.mk.inj (Except.ok.inj h)
    exact .arr (by simp)
  · obtain ⟨⟨js, r⟩, hread, heq⟩ := exists_of_map_eq_ok h
    obtain ⟨rfl, -⟩ := Prod.mk.inj heq
    apply Bounded.arr
    intro j hmem
    obtain ⟨_, _, hone⟩ := exists_read_of_mem_elements hread j hmem
    exact hitem hone
  · obtain ⟨rfl, -⟩ := Prod.mk.inj (Except.ok.inj h)
    exact .obj (by simp) (by simp)
  · obtain ⟨⟨ms, r⟩, hread, heq⟩ := exists_of_map_eq_ok h
    obtain ⟨rfl, -⟩ := Prod.mk.inj heq
    obtain ⟨hnodup, hsub⟩ := dedup_spec ms
    apply Bounded.obj hnodup
    intro m hmem
    obtain ⟨_, _, hone⟩ := exists_read_of_mem_members hread m (hsub m hmem)
    exact hitem hone

/-! ## Values -/

/-- A value that is read is nested no deeper than the reader goes. -/
theorem bounded_of_readValue {fuel depth : Nat}
    (h : readValue fuel depth t = .ok (j, rest)) : Bounded depth j := by
  induction depth using Nat.strong_induction_on generalizing t j rest with
  | _ depth ih =>
    unfold readValue at h
    split at h
    · obtain ⟨⟨s, r⟩, -, heq⟩ := exists_of_map_eq_ok h
      obtain ⟨rfl, -⟩ := Prod.mk.inj heq
      exact .str s
    · cases depth with
      | zero => exact absurd h (by simp)
      | succ depth =>
          exact bounded_of_readBracketed (fun h' => ih depth (Nat.lt_succ_self depth) h') h
    · cases depth with
      | zero => exact absurd h (by simp)
      | succ depth =>
          exact bounded_of_readBracketed (fun h' => ih depth (Nat.lt_succ_self depth) h') h
    · split at h
      · next found hword =>
        obtain rfl := Except.ok.inj h
        exact bounded_of_readWord? hword
      · split at h
        · exact bounded_of_readUnsigned h
        · exact bounded_of_readUnsigned h

/-- What is read is within the limits of the reader. -/
theorem bounded_of_readNested {depth : Nat} (h : readNested depth t = .ok j) :
    Bounded depth j := by
  rw [readNested] at h
  cases hread : readDocument depth t with
  | error e => simp [hread, Except.mapError] at h
  | ok j' =>
      simp only [hread, Except.mapError] at h
      obtain rfl := Except.ok.inj h
      unfold readDocument at hread
      split at hread
      · exact absurd hread (by simp)
      · split at hread
        · exact absurd hread (by simp)
        · next j' r hvalue =>
          split at hread
          · obtain rfl := Except.ok.inj hread
            exact bounded_of_readValue hvalue
          · exact absurd hread (by simp)

end CommandBridge.Json
