/-!
# CommandBridge.Files.Path

Relative paths.  A path is its list of parts; empty parts and `.` are dropped
when a path is read, and `..` is kept, since it need not lead back.
-/

namespace CommandBridge

/-- A relative path by its parts. -/
structure Path where
  parts : List String
  deriving DecidableEq, Repr, Inhabited

namespace Path

/-- The parts of a text between slashes. -/
def split (cs : List Char) : List (List Char) := cs.splitOn '/'

/-- Reads a path. -/
def ofString (s : String) : Path :=
  ⟨((split s.toList).map String.ofList).filter fun p => p ≠ "" && p ≠ "."⟩

/-- The text of a path; the empty path is `.`. -/
def toString (p : Path) : String :=
  if p.parts.isEmpty then "." else "/".intercalate p.parts

/-- A path inside a directory. -/
def child (p : Path) (name : String) : Path := ⟨p.parts ++ (ofString name).parts⟩

/-- The last part of a path. -/
def name (p : Path) : String := p.parts.getLast?.getD ""

/-- The directory of a path. -/
def parent (p : Path) : Path := ⟨p.parts.dropLast⟩

/-- The path that remains when every `..` takes back the part before it. -/
def normalize (p : Path) : Path :=
  ⟨(p.parts.foldl step []).reverse⟩
where
  /-- Adds a part to the reversed parts before it. -/
  step : List String → String → List String
    | before, ".." =>
      match before with
      | [] => [".."]
      | ".." :: r => ".." :: ".." :: r
      | _ :: r => r
    | before, part => part :: before

/-- The place of the dot before the last suffix of a name: neither the first
nor the last character counts. -/
def suffixStart? (name : List Char) : Option Nat :=
  match (name.reverse.takeWhile (· ≠ '.')).length with
  | n => if n = 0 ∨ name.length ≤ n + 1 then none else some (name.length - n - 1)

/-- A name without its last suffix. -/
def stemOf (name : String) : String :=
  match suffixStart? name.toList with
  | some n => String.ofList (name.toList.take n)
  | none => name

/-- A path whose last suffix is replaced, or that gets one if it has none. -/
def withSuffix (p : Path) (suffix : String) : Path :=
  ⟨p.parts.dropLast ++ [stemOf p.name ++ suffix]⟩

example : (ofString "./y/../z.log").normalize.toString = "z.log" := by decide +kernel
example : stemOf "a.b.json" = "a.b" ∧ stemOf ".json" = ".json" ∧ stemOf "t." = "t." := by
  decide +kernel

end Path

end CommandBridge
