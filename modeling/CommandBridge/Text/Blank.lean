/-!
# CommandBridge.Text.Blank

The blank characters: those that Unicode calls white space, and the four
information separators.
-/

namespace CommandBridge.Blank

/-- The ranges of blank characters, both ends included. -/
def ranges : List (Nat × Nat) :=
  [(0x09, 0x0D), (0x1C, 0x20), (0x85, 0x85), (0xA0, 0xA0), (0x1680, 0x1680), (0x2000, 0x200A),
    (0x2028, 0x2029), (0x202F, 0x202F), (0x205F, 0x205F), (0x3000, 0x3000)]

/-- Whether a character is blank. -/
def isBlank (c : Char) : Bool := ranges.any fun r => r.1 ≤ c.toNat && c.toNat ≤ r.2

/-- Whether a character is one of the information separators. -/
def isSeparator (c : Char) : Bool := 0x1C ≤ c.toNat && c.toNat ≤ 0x1F

/-- Characters without those at their end that `p` holds for. -/
def trimEnd (p : Char → Bool) (cs : List Char) : List Char := (cs.reverse.dropWhile p).reverse

/-- Characters without those at either end that `p` holds for. -/
def trimBy (p : Char → Bool) (cs : List Char) : List Char := trimEnd p (cs.dropWhile p)

/-- Characters without the blanks at either end. -/
def trimChars (cs : List Char) : List Char := trimBy isBlank cs

/-- A string without the blanks at either end. -/
def trim (s : String) : String := String.ofList (trimChars s.toList)

/-- Every character that core calls white space is blank. -/
theorem isBlank_of_isWhitespace {c : Char} (h : c.isWhitespace = true) : isBlank c = true := by
  simp only [Char.isWhitespace, Bool.or_eq_true, decide_eq_true_eq] at h
  rcases h with ((h | h) | h) | h <;> subst h <;> decide

example : trim " \u00a0a b\n" = "a b" := by decide +kernel

end CommandBridge.Blank
