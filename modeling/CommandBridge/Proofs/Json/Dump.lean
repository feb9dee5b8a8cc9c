import CommandBridge.Json.Dump
import CommandBridge.Proofs.Json.RoundTrip

/-!
# CommandBridge.Proofs.Json.Dump

Which values can be dumped.  A value can be dumped if it is nested no deeper than the dump goes and
the names of its members are made of scalar values (`dumpFault?_arr_eq_none`,
`dumpFault?_obj_eq_none`); numbers that are not finite make no difference
(`dumpFault?_finiteOnly`).

So a dump bounds the nesting: of the values that a reader without a limit would give back, those
that can be dumped are given back by one that goes as deep as the dump (`Readable.of_dumpFault?`).
-/

namespace CommandBridge.Json

variable {depth : Nat} {j : Json}

/-! ## Names -/

theorem unencodable?_eq_none (t : Text) : Utf8.unencodable? t = none ↔ IsScalar t := by
  induction t with
  | nil => simp [Utf8.unencodable?, IsScalar]
  | cons p r ih =>
      cases p with
      | scalar c => simpa [Utf8.unencodable?, IsScalar] using ih
      | surrogate u => simp [Utf8.unencodable?, IsScalar]

theorem nameFault?_eq_none (name : Text) : nameFault? name = none ↔ IsScalar name := by
  rw [nameFault?, Option.map_eq_none_iff, unencodable?_eq_none]

/-! ## Values -/

/-- Nothing can be dumped where no value is kept track of. -/
theorem dumpFault?_zero (j : Json) : dumpFault? 0 j = some tooDeepToDump := by
  cases j <;> rfl

theorem dumpFaultElements?_eq_none (es : List Json) :
    dumpFaultElements? depth es = none ↔ ∀ j ∈ es, dumpFault? depth j = none := by
  induction es with
  | nil => simp [dumpFaultElements?]
  | cons j r ih => rw [dumpFaultElements?, Option.or_eq_none_iff, ih, List.forall_mem_cons]

theorem dumpFaultMembers?_eq_none (ms : List (Text × Json)) :
    dumpFaultMembers? depth ms = none ↔
      ∀ m ∈ ms, IsScalar m.1 ∧ dumpFault? depth m.2 = none := by
  induction ms with
  | nil => simp [dumpFaultMembers?]
  | cons m r ih =>
      rw [dumpFaultMembers?, Option.or_eq_none_iff, Option.or_eq_none_iff, ih, nameFault?_eq_none,
        List.forall_mem_cons, and_assoc]

/-- An array takes up one level. -/
theorem dumpFault?_arr_eq_none (es : List Json) :
    dumpFault? (depth + 1) (.arr es) = none ↔ ∀ j ∈ es, dumpFault? depth j = none := by
  rw [dumpFault?, dumpFaultElements?_eq_none]

/-- An object takes up one level, and its names have to be made of scalar values. -/
theorem dumpFault?_obj_eq_none (ms : List (Text × Json)) :
    dumpFault? (depth + 1) (.obj ms) = none ↔
      ∀ m ∈ ms, IsScalar m.1 ∧ dumpFault? depth m.2 = none := by
  rw [dumpFault?, dumpFaultMembers?_eq_none]

/-- A reason for a failure can always be dumped. -/
theorem dumpable_error (detail : Text) : Dumpable (.object [("error", .str detail)]) := by
  refine (@dumpFault?_obj_eq_none 254 _).mpr fun m hm => ?_
  obtain rfl := List.mem_singleton.mp hm
  exact ⟨isScalar_ofString _, rfl⟩

/-- An array in itself, a number of times. -/
def nested (n : Nat) (j : Json) : Json := (fun j => Json.arr [j])^[n] j

/-! ## Numbers that are not finite -/

mutual

/-- Numbers make no difference to a dump. -/
theorem dumpFault?_finiteOnly :
    ∀ (depth : Nat) (j : Json), dumpFault? depth j.finiteOnly = dumpFault? depth j
  | 0, j => by rw [dumpFault?_zero, dumpFault?_zero]
  | _ + 1, .null => rfl
  | _ + 1, .bool _ => rfl
  | _ + 1, .int _ => rfl
  | _ + 1, .float x => by cases x <;> rfl
  | _ + 1, .str _ => rfl
  | depth + 1, .arr es => by
    rw [finiteOnly, dumpFault?, dumpFault?, dumpFaultElements?_finiteOnly depth es]
  | depth + 1, .obj ms => by
    rw [finiteOnly, dumpFault?, dumpFault?, dumpFaultMembers?_finiteOnly depth ms]

theorem dumpFaultElements?_finiteOnly : ∀ (depth : Nat) (es : List Json),
    dumpFaultElements? depth (finiteOnlyElements es) = dumpFaultElements? depth es
  | _, [] => rfl
  | depth, j :: r => by
    rw [finiteOnlyElements, dumpFaultElements?, dumpFaultElements?, dumpFault?_finiteOnly depth j,
      dumpFaultElements?_finiteOnly depth r]

theorem dumpFaultMembers?_finiteOnly : ∀ (depth : Nat) (ms : List (Text × Json)),
    dumpFaultMembers? depth (finiteOnlyMembers ms) = dumpFaultMembers? depth ms
  | _, [] => rfl
  | depth, (k, j) :: r => by
    rw [finiteOnlyMembers, dumpFaultMembers?, dumpFaultMembers?, dumpFault?_finiteOnly depth j,
      dumpFaultMembers?_finiteOnly depth r]

end

/-! ## Nesting -/

/-- What can be read back at all, and be dumped, can be read back by a reader that goes as deep as
the dump. -/
theorem Readable.of_dumpFault? {n : Nat} (h : Readable n j) (hdump : dumpFault? depth j = none) :
    Readable depth j := by
  induction h generalizing depth with
  | null => exact .null
  | bool b => exact .bool b
  | int hi => exact .int hi
  | float x => exact .float x
  | str ht => exact .str ht
  | arr _ ih =>
      cases depth with
      | zero => simp [dumpFault?_zero] at hdump
      | succ depth =>
          rw [dumpFault?_arr_eq_none] at hdump
          exact .arr fun j hj => ih j hj (hdump j hj)
  | obj hnames hscalar _ ih =>
      cases depth with
      | zero => simp [dumpFault?_zero] at hdump
      | succ depth =>
          rw [dumpFault?_obj_eq_none] at hdump
          exact .obj hnames hscalar fun m hm => ih m hm (hdump m hm).2

/-- A reader that goes deeper reads more. -/
theorem Readable.mono {n : Nat} (h : Readable n j) (hle : n ≤ depth) : Readable depth j := by
  induction h generalizing depth with
  | null => exact .null
  | bool b => exact .bool b
  | int hi => exact .int hi
  | float x => exact .float x
  | str ht => exact .str ht
  | arr _ ih =>
      obtain ⟨depth, rfl⟩ : ∃ d, depth = d + 1 := ⟨depth - 1, by omega⟩
      exact .arr fun j hj => ih j hj (by omega)
  | obj hnames hscalar _ ih =>
      obtain ⟨depth, rfl⟩ : ∃ d, depth = d + 1 := ⟨depth - 1, by omega⟩
      exact .obj hnames hscalar fun m hm => ih m hm (by omega)

/-- A value that comes back from its text: it can be dumped, and it would be read back by a reader
that goes deep enough. -/
structure Restorable (j : Json) : Prop where
  exists_readable : ∃ n, Readable n j
  dumpable : j.Dumpable

theorem Restorable.readable (h : Restorable j) : Readable dumpLimit j := by
  obtain ⟨n, hn⟩ := h.exists_readable
  exact hn.of_dumpFault? h.dumpable

end CommandBridge.Json
