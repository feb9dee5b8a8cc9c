import CommandBridge.Http.Answer
import CommandBridge.Proofs.Json.Limits

/-!
# CommandBridge.Proofs.Json.Compact

Which values can be the body of a response: those whose numbers are finite and whose strings hold no
lone surrogates have a compact form (`isOk_writeCompact?`), and no others.

An object has one if and only if its members have (`sendable_obj`).  What clients are shown of it
(`shown_obj`) can have one even if it has none itself.
-/

namespace CommandBridge.Json

/-- A value that can be sent: its strings are made of scalar values, and its numbers are finite. -/
structure Sendable (j : Json) : Prop where
  scalar : Scalar j
  finite : j.finiteOnly = j

/-- A list is left alone by a function that leaves its elements alone, and by no other. -/
theorem map_eq_self {α : Type} {f : α → α} {as : List α} : as.map f = as ↔ ∀ a ∈ as, f a = a := by
  conv_lhs => rw [← List.map_id as, List.map_map]
  exact List.map_inj_left

@[simp] theorem sendable_string (s : String) : Sendable (.string s) :=
  ⟨.str (isScalar_ofString s), rfl⟩

@[simp] theorem sendable_bool (b : Bool) : Sendable (.bool b) := ⟨.bool b, rfl⟩

theorem sendable_arr {es : List Json} : Sendable (.arr es) ↔ ∀ j ∈ es, Sendable j := by
  have hfinite : (Json.arr es).finiteOnly = .arr es ↔ ∀ j ∈ es, j.finiteOnly = j := by
    rw [finiteOnly, finiteOnlyElements_eq_map, Json.arr.injEq, map_eq_self]
  constructor
  · rintro ⟨hscalar, h⟩ j hj
    cases hscalar with
    | arr hes => exact ⟨hes j hj, hfinite.mp h j hj⟩
  · intro h
    exact ⟨.arr fun j hj => (h j hj).scalar, hfinite.mpr fun j hj => (h j hj).finite⟩

theorem sendable_obj {ms : List (Text × Json)} :
    Sendable (.obj ms) ↔ ∀ m ∈ ms, IsScalar m.1 ∧ Sendable m.2 := by
  have hfinite : (Json.obj ms).finiteOnly = .obj ms ↔ ∀ m ∈ ms, m.2.finiteOnly = m.2 := by
    rw [finiteOnly, finiteOnlyMembers_eq_map, Json.obj.injEq, map_eq_self]
    exact forall₂_congr fun m _ => by simp [Prod.ext_iff]
  constructor
  · rintro ⟨hscalar, h⟩ m hm
    cases hscalar with
    | obj hnames hms => exact ⟨hnames m hm, hms m hm, hfinite.mp h m hm⟩
  · intro h
    exact ⟨.obj (fun m hm => (h m hm).1) fun m hm => (h m hm).2.scalar,
      hfinite.mpr fun m hm => (h m hm).2.finite⟩

/-- An object with plain names can be sent if its members can. -/
theorem sendable_object {ms : List (String × Json)} :
    Sendable (.object ms) ↔ ∀ m ∈ ms, Sendable m.2 := by
  rw [object, sendable_obj, List.forall_mem_map]
  exact forall₂_congr fun m _ => and_iff_right (isScalar_ofString m.1)

/-! ## The compact form -/

theorem isOk_scalars? (t : Text) : t.scalars?.isSome = true ↔ IsScalar t := by
  induction t with
  | nil => simp [Text.scalars?, IsScalar]
  | cons p t ih =>
      cases p with
      | scalar c => simpa [Text.scalars?, IsScalar] using ih
      | surrogate u => simp [Text.scalars?, IsScalar]

theorem isOk_quoteCompact? (t : Text) : (quoteCompact? t).isOk = true ↔ IsScalar t := by
  rw [← isOk_scalars?, quoteCompact?]
  cases t.scalars? <;> simp [Except.isOk, Except.toBool]

@[simp] theorem isOk_joinCompact (a b : Except Unwritable (List Char)) :
    (joinCompact a b).isOk = (a.isOk && b.isOk) := by
  rcases a with (_ | _) | _ <;> rcases b with (_ | _) | _ <;> rfl

@[simp] theorem isOk_ok {ε α : Type} (a : α) : (Except.ok a : Except ε α).isOk = true := rfl

@[simp] theorem isOk_error {ε α : Type} (e : ε) : (Except.error e : Except ε α).isOk = false := rfl

mutual

/-- A value has a compact form if and only if it can be sent. -/
theorem isOk_compact? : ∀ j : Json, (compact? j).isOk = true ↔ Sendable j
  | .null => by simpa [compact?] using ⟨.null, rfl⟩
  | .bool true => by simp [compact?]
  | .bool false => by simp [compact?]
  | .int i => by simpa [compact?] using ⟨.int i, rfl⟩
  | .float x => by
      by_cases hx : x.isFinite = true
      · simpa [compact?, hx] using ⟨.float x, by simp [finiteOnly, hx]⟩
      · have hnot : ¬ Sendable (.float x) := fun h => by
          have hfinite := h.finite
          simp [finiteOnly, hx] at hfinite
        simp [compact?, hx, hnot]
  | .str t => by
      rw [compact?, isOk_quoteCompact?]
      refine ⟨fun h => ⟨.str h, rfl⟩, fun h => ?_⟩
      cases h.scalar with
      | str ht => exact ht
  | .arr es => by simp [compact?, isOk_compactElements? es, sendable_arr]
  | .obj ms => by simp [compact?, isOk_compactMembers? ms, sendable_obj]

theorem isOk_compactElements? : ∀ es : List Json,
    (compactElements? es).isOk = true ↔ ∀ j ∈ es, Sendable j
  | [] => by simp [compactElements?]
  | [j] => by simp [compactElements?, isOk_compact? j]
  | j :: j' :: r => by
      simp [compactElements?, isOk_compact? j, isOk_compactElements? (j' :: r)]

theorem isOk_compactMembers? : ∀ ms : List (Text × Json),
    (compactMembers? ms).isOk = true ↔ ∀ m ∈ ms, IsScalar m.1 ∧ Sendable m.2
  | [] => by simp [compactMembers?]
  | [(k, j)] => by simp [compactMembers?, isOk_compact? j, isOk_quoteCompact? k]
  | (k, j) :: m :: r => by
      simp [compactMembers?, isOk_compact? j, isOk_quoteCompact? k, isOk_compactMembers? (m :: r),
        and_assoc]

end

/-- A value can be written for a response if and only if it can be sent. -/
theorem isOk_writeCompact? (j : Json) : (writeCompact? j).isOk = true ↔ Sendable j := by
  rw [← isOk_compact?, writeCompact?]
  cases compact? j <;> rfl

/-! ## What a value cannot be written for -/

/-- What keeps a value from being written, if anything does. -/
def unwritable? {α : Type} : Except Unwritable α → Option Unwritable
  | .ok _ => none
  | .error e => some e

/-- What keeps two parts from being written one after the other. -/
def worse : Option Unwritable → Option Unwritable → Option Unwritable
  | some .nonFinite, _ => some .nonFinite
  | _, some .nonFinite => some .nonFinite
  | none, b => b
  | a, none => a
  | some .surrogate, some .surrogate => some .surrogate

@[simp] theorem worse_none (a : Option Unwritable) : worse a none = a := by
  rcases a with _ | _ | _ <;> rfl

@[simp] theorem none_worse (a : Option Unwritable) : worse none a = a := by
  rcases a with _ | _ | _ <;> rfl

@[simp] theorem unwritable?_ok {α : Type} (a : α) : unwritable? (.ok a) = none := rfl

@[simp] theorem unwritable?_joinCompact (a b : Except Unwritable (List Char)) :
    unwritable? (joinCompact a b) = worse (unwritable? a) (unwritable? b) := by
  rcases a with (_ | _) | _ <;> rcases b with (_ | _) | _ <;> rfl

theorem unwritable?_obj (ms : List (Text × Json)) :
    unwritable? (compact? (.obj ms)) = unwritable? (compactMembers? ms) := by
  simp [compact?]

theorem unwritable?_members_cons (m : Text × Json) (ms : List (Text × Json)) :
    unwritable? (compactMembers? (m :: ms)) =
      worse (unwritable? (quoteCompact? m.1))
        (worse (unwritable? (compact? m.2)) (unwritable? (compactMembers? ms))) := by
  obtain ⟨k, j⟩ := m
  cases ms with
  | nil => simp [compactMembers?]
  | cons m ms => simp [compactMembers?]

/-- A member keeps an object from being written for what it is itself. -/
theorem unwritable?_insert {name : Text} {j j' : Json}
    (h : unwritable? (compact? j) = unwritable? (compact? j')) (ms : List (Text × Json)) :
    unwritable? (compactMembers? (insert name j ms)) =
      unwritable? (compactMembers? (insert name j' ms)) := by
  induction ms with
  | nil => simp only [insert, unwritable?_members_cons, h]
  | cons m ms ih =>
      obtain ⟨k, v⟩ := m
      rw [insert, insert]
      split
      · simp only [unwritable?_members_cons, h]
      · simp only [unwritable?_members_cons, ih]

/-! ## What is shown of a value -/

@[simp] theorem shown_string (s : String) : (Json.string s).shown = .string s := rfl

@[simp] theorem shown_bool (b : Bool) : (Json.bool b).shown = .bool b := rfl

/-- Members are shown unless they are kept back. -/
theorem shownMembers_eq (ms : List (Text × Json)) :
    shownMembers ms = (ms.filter fun m => !isKeptBack m.1).map fun m => (m.1, m.2.shown) := by
  induction ms with
  | nil => rfl
  | cons m ms ih =>
      obtain ⟨k, j⟩ := m
      by_cases hk : isKeptBack k = true
      · simp [shownMembers, hk, ih]
      · simp [shownMembers, hk, ih]

theorem shown_obj (ms : List (Text × Json)) : (Json.obj ms).shown =
    .obj ((ms.filter fun m => !isKeptBack m.1).map fun m => (m.1, m.2.shown)) := by
  rw [shown, shownMembers_eq]

/-- The members of an object with plain names are shown, unless one of the names is kept back. -/
theorem shown_object {ms : List (String × Json)} (h : ∀ m ∈ ms, isKeptBack m.1 = false) :
    (Json.object ms).shown = .object (ms.map fun m => (m.1, m.2.shown)) := by
  have hfilter : ((ms.map fun m => ((m.1 : Text), m.2)).filter fun m => !isKeptBack m.1) =
      ms.map fun m => ((m.1 : Text), m.2) := by
    rw [List.filter_eq_self, List.forall_mem_map]
    intro m hm
    simp [h m hm]
  rw [object, shown_obj, hfilter, object, List.map_map, List.map_map]
  rfl

mutual

/-- What is kept back does not depend on which numbers are finite. -/
theorem shown_finiteOnly : ∀ j : Json, j.finiteOnly.shown = j.shown.finiteOnly
  | .null | .bool _ | .int _ | .str _ => rfl
  | .float x => by
      by_cases hx : x.isFinite = true
      · simp [finiteOnly, shown, hx]
      · simp [finiteOnly, shown, hx]
  | .arr es => by simp [finiteOnly, shown, shownElements_finiteOnlyElements es]
  | .obj ms => by simp [finiteOnly, shown, shownMembers_finiteOnlyMembers ms]

theorem shownElements_finiteOnlyElements : ∀ es : List Json,
    shownElements (finiteOnlyElements es) = finiteOnlyElements (shownElements es)
  | [] => rfl
  | j :: r => by
      simp [finiteOnlyElements, shownElements, shown_finiteOnly j,
        shownElements_finiteOnlyElements r]

theorem shownMembers_finiteOnlyMembers : ∀ ms : List (Text × Json),
    shownMembers (finiteOnlyMembers ms) = finiteOnlyMembers (shownMembers ms)
  | [] => rfl
  | (k, j) :: r => by
      by_cases hk : isKeptBack k = true
      · simp [finiteOnlyMembers, shownMembers, hk, shownMembers_finiteOnlyMembers r]
      · simp [finiteOnlyMembers, shownMembers, hk, shown_finiteOnly j,
          shownMembers_finiteOnlyMembers r]

end

/-- Numbers hold no surrogates. -/
theorem scalar_finiteOnly : ∀ j : Json, Scalar j.finiteOnly ↔ Scalar j
  | .null | .bool _ | .int _ | .str _ => Iff.rfl
  | .float x => by
      by_cases hx : x.isFinite = true
      · simp [finiteOnly, hx]
      · simpa [finiteOnly, hx] using ⟨fun _ => .float x, fun _ => .null⟩
  | .arr es => by
      have ih : ∀ j ∈ es, Scalar j.finiteOnly ↔ Scalar j := fun j _ => scalar_finiteOnly j
      rw [finiteOnly, finiteOnlyElements_eq_map]
      constructor
      · rintro ⟨⟩
        next h => exact .arr fun j hj => (ih j hj).mp (h _ (List.mem_map_of_mem hj))
      · rintro ⟨⟩
        next h =>
          exact .arr fun j' hj' => by
            obtain ⟨j, hj, rfl⟩ := List.mem_map.mp hj'
            exact (ih j hj).mpr (h j hj)
  | .obj ms => by
      have ih : ∀ m ∈ ms, Scalar m.2.finiteOnly ↔ Scalar m.2 := fun m hm =>
        scalar_finiteOnly m.2
      rw [finiteOnly, finiteOnlyMembers_eq_map]
      constructor
      · rintro ⟨⟩
        next hnames h =>
          exact .obj (fun m hm => hnames (m.1, m.2.finiteOnly) (List.mem_map.mpr ⟨m, hm, rfl⟩))
            fun m hm => (ih m hm).mp (h (m.1, m.2.finiteOnly) (List.mem_map.mpr ⟨m, hm, rfl⟩))
      · rintro ⟨⟩
        next hnames h =>
          refine .obj ?_ ?_
          · intro m' hm'
            obtain ⟨m, hm, rfl⟩ := List.mem_map.mp hm'
            exact hnames m hm
          · intro m' hm'
            obtain ⟨m, hm, rfl⟩ := List.mem_map.mp hm'
            exact (ih m hm).mpr (h m hm)
termination_by j => sizeOf j
decreasing_by
  · have hlt := List.sizeOf_lt_of_mem ‹j ∈ es›
    rw [Json.arr.sizeOf_spec]
    omega
  · have hlt := List.sizeOf_lt_of_mem hm
    rw [Json.obj.sizeOf_spec]
    obtain ⟨k, j⟩ := m
    rw [Prod.mk.sizeOf_spec] at hlt
    dsimp only
    omega

end CommandBridge.Json
