import CommandBridge.Json.Literal
import CommandBridge.Json.Reader
import Mathlib.Tactic.IntervalCases

/-!
# CommandBridge.Proofs.Json.Digits

Digits are read back as the numbers they were written for.

* hexadecimal digits: `hexValue_hexDigits`, so numbers written with padding to one width differ;
* decimal digits: `spanDigits_append` takes a run of them off the front of a text, and
  `ofDigits_spell_toDigits` gives the number.
-/

namespace CommandBridge.Json

/-! ## Hexadecimal digits -/

theorem hexDigit?_digitChar {d : Nat} (h : d < 16) :
    hexDigit? (.scalar (Nat.digitChar d)) = some d := by
  interval_cases d <;> decide

/-- The number that hexadecimal digits spell. -/
def hexValue (cs : List Char) : Nat :=
  cs.foldl (fun n c => 16 * n + (hexDigit? (.scalar c)).getD 0) 0

theorem hexValue_concat (cs : List Char) (c : Char) :
    hexValue (cs ++ [c]) = 16 * hexValue cs + (hexDigit? (.scalar c)).getD 0 := by
  rw [hexValue, List.foldl_append, List.foldl_cons, List.foldl_nil, hexValue]

theorem hexValue_toDigits (n : Nat) : hexValue (Nat.toDigits 16 n) = n := by
  induction n using Nat.strong_induction_on with
  | _ n ih =>
    rw [Nat.toDigits_eq_if (by decide)]
    split
    · next h =>
      rw [← List.nil_append [n.digitChar], hexValue_concat, hexDigit?_digitChar h]
      simp [hexValue]
    · next h =>
      rw [hexValue_concat, ih (n / 16) (by omega), hexDigit?_digitChar (Nat.mod_lt n (by decide)),
        Option.getD_some]
      omega

/-- Padding does not change what digits spell. -/
theorem hexValue_hexDigits (width n : Nat) : hexValue (hexDigits width n) = n := by
  have hpad : ∀ k, List.foldl (fun n c => 16 * n + (hexDigit? (.scalar c)).getD 0) 0
      (List.replicate k '0') = 0 := by
    intro k
    induction k with
    | zero => rfl
    | succ k ih => rw [List.replicate_succ, List.foldl_cons]; exact ih
  rw [hexDigits, hexValue, List.foldl_append, hpad]
  exact hexValue_toDigits n

/-- A number is written in hexadecimal digits. -/
theorem isSome_hexDigit?_of_mem_hexDigits {width n : Nat} {c : Char} (h : c ∈ hexDigits width n) :
    (hexDigit? (.scalar c)).isSome = true := by
  have hdigit : ∀ k, (hexDigit? (.scalar (Nat.digitChar (k % 16)))).isSome = true := by
    intro k
    rw [hexDigit?_digitChar (Nat.mod_lt k (by decide)), Option.isSome_some]
  have hdigits : ∀ n, ∀ c ∈ Nat.toDigits 16 n, (hexDigit? (.scalar c)).isSome = true := by
    intro n
    induction n using Nat.strong_induction_on with
    | _ n ih =>
      intro c hc
      rw [Nat.toDigits_eq_if (by decide)] at hc
      split at hc
      · next hlt =>
        rw [List.mem_singleton.mp hc, ← Nat.mod_eq_of_lt hlt]
        exact hdigit n
      · rcases List.mem_append.mp hc with hc | hc
        · exact ih (n / 16) (by omega) c hc
        · rw [List.mem_singleton.mp hc]
          exact hdigit n
  rcases List.mem_append.mp h with h | h
  · rw [List.eq_of_mem_replicate h]
    decide
  · exact hdigits n c h

/-- Numbers written to one width differ. -/
theorem hexDigits_injective (width : Nat) : Function.Injective (hexDigits width) := by
  intro a b h
  rw [← hexValue_hexDigits width a, h, hexValue_hexDigits]

/-! ## Decimal digits -/

/-- The values of digit characters. -/
def spell (cs : List Char) : List Nat := cs.map fun c => c.toNat - 0x30

/-- A text that does not go on with a digit. -/
def PastDigits (t : Text) : Prop := ∀ p ∈ t.head?, digit? p = none

theorem digit?_of_isDigit {c : Char} (h : c.isDigit) :
    digit? (.scalar c) = some (c.toNat - 0x30) := by
  have h' : '0' ≤ c ∧ c ≤ '9' := by
    simpa [Char.isDigit, Char.le_def] using h
  rw [digit?, if_pos h']

theorem spanDigits_of_pastDigits {t : Text} (h : PastDigits t) : spanDigits t = ([], t) := by
  cases t with
  | nil => rfl
  | cons p r => simp [spanDigits, h p (by simp)]

/-- The digits at the front of a text are those that were written there. -/
theorem spanDigits_append {cs : List Char} {t : Text} (hcs : ∀ c ∈ cs, c.isDigit)
    (ht : PastDigits t) : spanDigits (cs.map .scalar ++ t) = (spell cs, t) := by
  induction cs with
  | nil => exact spanDigits_of_pastDigits ht
  | cons c cs ih =>
      rw [List.map_cons, List.cons_append, spanDigits,
        digit?_of_isDigit (hcs c List.mem_cons_self),
        ih fun d hd => hcs d (List.mem_cons_of_mem c hd)]
      rfl

theorem ofDigits_spell (cs : List Char) : ofDigits (spell cs) = Nat.ofDigitChars 10 cs 0 := by
  rw [ofDigits, spell, List.foldl_map, Nat.ofDigitChars_eq_foldl]
  rfl

/-- The decimal digits of a number are read back as the number. -/
theorem ofDigits_spell_toDigits (n : Nat) : ofDigits (spell (Nat.toDigits 10 n)) = n := by
  rw [ofDigits_spell, Nat.ofDigitChars_ten_toDigits]

theorem isDigit_of_mem_toDigits {n : Nat} {c : Char} (h : c ∈ Nat.toDigits 10 n) : c.isDigit :=
  Nat.isDigit_of_mem_toDigits (by decide) (by decide) h

end CommandBridge.Json
