import CommandBridge.Text.CodePoint
import CommandBridge.Binary64.Basic

/-!
# CommandBridge.Json.Basic

JSON values.  Integers have arbitrary size and stay apart from the
double-precision numbers (`1` is not `1.0`), strings may hold lone
surrogates, and an object keeps its members in order.

An object written by `Json.object` has each name once: `insert` replaces the value
of a name in place and adds a new name at the end.
-/

namespace CommandBridge

/-- A JSON value. -/
inductive Json where
  | null
  | bool (b : Bool)
  | int (i : Int)
  | float (x : Binary64)
  | str (t : Text)
  | arr (elements : List Json)
  | obj (members : List (Text × Json))
  deriving Repr, Inhabited

namespace Json

/-! ## Equality -/

mutual

/-- Equality of values, member order included. -/
def beq : Json → Json → Bool
  | .null, .null => true
  | .bool a, .bool b => a == b
  | .int a, .int b => a == b
  | .float a, .float b => a == b
  | .str a, .str b => a == b
  | .arr a, .arr b => beqElements a b
  | .obj a, .obj b => beqMembers a b
  | _, _ => false

/-- Equality of element lists. -/
def beqElements : List Json → List Json → Bool
  | [], [] => true
  | a :: as, b :: bs => beq a b && beqElements as bs
  | _, _ => false

/-- Equality of member lists. -/
def beqMembers : List (Text × Json) → List (Text × Json) → Bool
  | [], [] => true
  | (k, a) :: as, (l, b) :: bs => k == l && beq a b && beqMembers as bs
  | _, _ => false

end

mutual

theorem eq_of_beq : ∀ {a b : Json}, beq a b = true → a = b
  | .null, b, h => by cases b <;> simp_all [beq]
  | .bool _, b, h => by cases b <;> simp_all [beq]
  | .int _, b, h => by cases b <;> simp_all [beq]
  | .float _, b, h => by cases b <;> simp_all [beq]
  | .str _, b, h => by cases b <;> simp_all [beq]
  | .arr as, b, h => by
    cases b <;> simp_all [beq]
    exact eq_of_beqElements h
  | .obj as, b, h => by
    cases b <;> simp_all [beq]
    exact eq_of_beqMembers h

theorem eq_of_beqElements : ∀ {as bs : List Json}, beqElements as bs = true → as = bs
  | [], bs, h => by cases bs <;> simp_all [beqElements]
  | a :: as, bs, h => by
    cases bs with
    | nil => simp [beqElements] at h
    | cons b bs =>
      simp only [beqElements, Bool.and_eq_true] at h
      rw [eq_of_beq h.1, eq_of_beqElements h.2]

theorem eq_of_beqMembers : ∀ {as bs : List (Text × Json)}, beqMembers as bs = true → as = bs
  | [], bs, h => by cases bs <;> simp_all [beqMembers]
  | (k, a) :: as, bs, h => by
    cases bs with
    | nil => simp [beqMembers] at h
    | cons b bs =>
      obtain ⟨l, b⟩ := b
      simp only [beqMembers, Bool.and_eq_true, beq_iff_eq] at h
      rw [h.1.1, eq_of_beq h.1.2, eq_of_beqMembers h.2]

end

mutual

theorem beq_refl : ∀ a : Json, beq a a = true
  | .null => rfl
  | .bool _ => by simp [beq]
  | .int _ => by simp [beq]
  | .float _ => by simp [beq]
  | .str _ => by simp [beq]
  | .arr as => by simp [beq, beqElements_refl as]
  | .obj as => by simp [beq, beqMembers_refl as]

theorem beqElements_refl : ∀ as : List Json, beqElements as as = true
  | [] => rfl
  | a :: as => by simp [beqElements, beq_refl a, beqElements_refl as]

theorem beqMembers_refl : ∀ as : List (Text × Json), beqMembers as as = true
  | [] => rfl
  | (k, a) :: as => by simp [beqMembers, beq_refl a, beqMembers_refl as]

end

instance : DecidableEq Json := fun a b =>
  if h : beq a b = true then isTrue (eq_of_beq h)
  else isFalse fun e => h (e ▸ beq_refl a)

/-! ## Members -/

/-- The value of a name in a member list. -/
def lookup (name : Text) (members : List (Text × Json)) : Option Json :=
  (members.find? fun m => m.1 = name).map (·.2)

/-- Sets a name: in place if it is there, at the end otherwise. -/
def insert (name : Text) (value : Json) : List (Text × Json) → List (Text × Json)
  | [] => [(name, value)]
  | (k, v) :: r => if k = name then (k, value) :: r else (k, v) :: insert name value r

/-- The members of a list in which the last value of a name counts and the
first place of a name is its place. -/
def dedup (members : List (Text × Json)) : List (Text × Json) :=
  members.foldl (fun acc m => insert m.1 m.2 acc) []

/-- A member of an object. -/
def get? (name : String) : Json → Option Json
  | .obj members => lookup name members
  | _ => none

/-! ## Building values -/

/-- A string value. -/
def string (s : String) : Json := .str s

/-- An object with plain names. -/
def object (members : List (String × Json)) : Json :=
  .obj (members.map fun m => ((m.1 : Text), m.2))

/-- A value or null. -/
def ofOption : Option Json → Json
  | none => .null
  | some j => j

/-- A natural number value. -/
def nat (n : Nat) : Json := .int n

/-- The integer that a value is equal to, truth values counting as one and zero. -/
def toInt? : Json → Option Int
  | .int i => some i
  | .bool b => some (if b then 1 else 0)
  | .float x => x.toInt?
  | _ => none

/-- Whether a value counts as absent where a value is optional: null, false,
zero, and everything empty. -/
def isBlank : Json → Bool
  | .null => true
  | .bool b => !b
  | .int i => i == 0
  | .float x => x == Binary64.zero false || x == Binary64.zero true
  | .str t => t.isEmpty
  | .arr es => es.isEmpty
  | .obj ms => ms.isEmpty

/-! ## Numbers that no strict document can hold -/

mutual

/-- The value with null in the place of every infinite number and NaN. -/
def finiteOnly : Json → Json
  | .float x => if x.isFinite then .float x else .null
  | .arr es => .arr (finiteOnlyElements es)
  | .obj ms => .obj (finiteOnlyMembers ms)
  | j => j

/-- `finiteOnly` on every element. -/
def finiteOnlyElements : List Json → List Json
  | [] => []
  | j :: r => finiteOnly j :: finiteOnlyElements r

/-- `finiteOnly` on every member. -/
def finiteOnlyMembers : List (Text × Json) → List (Text × Json)
  | [] => []
  | (k, j) :: r => (k, finiteOnly j) :: finiteOnlyMembers r

end

end Json

end CommandBridge
