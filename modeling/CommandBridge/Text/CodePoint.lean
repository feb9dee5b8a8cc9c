/-!
# CommandBridge.Text.CodePoint

Code points and the texts made of them.  A JSON document can name half of a
surrogate pair on its own (`"\ud800"`), and such a string travels through
the bridge unchanged, so the text inside JSON values is a list of code points
rather than a `String`.  Everything the bridge itself writes is made of
scalar values; `ofString` embeds those and `toString?` says when a text is one.
-/

namespace CommandBridge

/-- A Unicode code point: a scalar value, or one of the 2048 surrogates. -/
inductive CodePoint where
  | scalar (c : Char)
  | surrogate (offset : Fin 0x800)
  deriving DecidableEq, Repr, Inhabited

namespace CodePoint

/-- The number of a code point. -/
def toNat : CodePoint → Nat
  | .scalar c => c.toNat
  | .surrogate u => 0xD800 + u.val

/-- The code point of a number: numbers from `0x110000` on have none. -/
def ofNat? (n : Nat) : Option CodePoint :=
  if h : 0xD800 ≤ n ∧ n < 0xE000 then
    some (.surrogate ⟨n - 0xD800, by omega⟩)
  else if h' : n.isValidChar then
    some (.scalar ⟨n.toUInt32, by
      rcases h' with h' | h' <;>
        simp [UInt32.isValidChar, Nat.isValidChar, Nat.toUInt32] <;> omega⟩)
  else none

/-- The scalar value that a high and a low surrogate stand for together. -/
def joinSurrogates (high low : Fin 0x400) : Char :=
  Char.ofNat (0x10000 + high.val * 0x400 + low.val)

end CodePoint

/-- A text is a sequence of code points. -/
abbrev Text := List CodePoint

namespace Text

/-- A string seen as a text. -/
def ofString (s : String) : Text := s.toList.map .scalar

/-- The scalar values of a text, if it holds no surrogate. -/
def scalars? : Text → Option (List Char)
  | [] => some []
  | .scalar c :: r => (scalars? r).map (c :: ·)
  | .surrogate _ :: _ => none

/-- A text as a string, if it holds no surrogate. -/
def toString? (t : Text) : Option String := (scalars? t).map String.ofList

instance : Coe String Text := ⟨ofString⟩

theorem scalars?_map_scalar (cs : List Char) : scalars? (cs.map .scalar) = some cs := by
  induction cs with
  | nil => rfl
  | cons c cs ih => simp [scalars?, ih]

/-- Every string is read back from its text. -/
theorem toString?_ofString (s : String) : toString? (ofString s) = some s := by
  simp [toString?, ofString, scalars?_map_scalar]

theorem ofString_injective {s t : String} (h : ofString s = ofString t) : s = t := by
  have hread := congrArg toString? h
  rw [toString?_ofString, toString?_ofString] at hread
  exact Option.some.inj hread

end Text

end CommandBridge
