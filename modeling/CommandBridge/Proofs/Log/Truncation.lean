import CommandBridge.Log.Structured
import CommandBridge.Proofs.Json.Ascii
import CommandBridge.Proofs.Json.Limits

/-!
# CommandBridge.Proofs.Log.Truncation

What is logged of a value that may be large.  A value that gives way to the beginning of its text is
written as a string literal of that text, so each of its characters may have to be escaped once
more.  As the text is printable ASCII, only quotes and backslashes are, and the literal is at most
twice as long (`length_flatMap_le`), wherever the text was cut.

The whole of it is `truncation_bounds_what_is_logged`.
-/

namespace CommandBridge.Log

open Json

/-! ## Texts that are written once more -/

/-- A printable character is written as one or two characters. -/
theorem length_escapePoint_le {c : Char} (h : IsPlain c) :
    (escapePoint (.scalar c)).length ≤ 2 := by
  cases hshort : shortEscape? c with
  | some e =>
      obtain ⟨d, rfl, -⟩ := shortEscape?_ne_unit hshort
      simp only [escapePoint, hshort]
      exact Nat.le_refl 2
  | none =>
      have hplain : 0x20 ≤ c.toNat ∧ c.toNat < 0x7F := h
      simp only [escapePoint, hshort, if_pos hplain]
      exact Nat.le_succ 1

theorem length_flatMap_le {cs : List Char} (h : Plain cs) :
    ((points cs).flatMap escapePoint).length ≤ 2 * cs.length := by
  induction cs with
  | nil => exact Nat.le_refl 0
  | cons c cs ih =>
      rw [plain_cons] at h
      have hc := length_escapePoint_le h.1
      have hcs := ih h.2
      rw [points_cons, List.flatMap_cons, List.length_append, List.length_cons]
      omega

/-- The mark of a cut text is written as it is. -/
theorem flatMap_truncationMark :
    (points truncationMark).flatMap escapePoint = truncationMark := by
  decide +kernel

/-! ## Values that are cut, and values that are not -/

variable {n : Nat} {v : Json}

/-- Whether a value is logged as it is. -/
def Fits (n : Nat) (v : Json) : Prop := v = .null ∨ (chars v).length ≤ n

theorem truncate_of_fits (h : Fits n v) : truncate n v = v := by
  have hshort : v = .null ∨ ((chars v).length : Int) ≤ n := h.imp_right Int.ofNat_le.mpr
  rw [truncate, if_pos hshort]

theorem truncate_of_not_fits (h : ¬ Fits n v) :
    truncate n v = .str (points ((chars v).take n ++ truncationMark)) := by
  have hlong : ¬ (v = .null ∨ ((chars v).length : Int) ≤ n) :=
    fun hv => h (hv.imp_right Int.ofNat_le.mp)
  have hcut : cut (chars v) n = (chars v).take n := by
    rw [cut, if_pos (Int.natCast_nonneg n), Int.toNat_natCast]
  rw [truncate, if_neg hlong, hcut, points]

/-- What is logged of a value is short. -/
theorem length_chars_truncate_le (n : Nat) (v : Json) :
    (chars (truncate n v)).length ≤ 2 * n + 16 := by
  by_cases h : Fits n v
  · rw [truncate_of_fits h]
    rcases h with rfl | hshort
    · have hnull : (chars .null).length = 4 := by rw [chars]; rfl
      omega
    · omega
  · have hplain : Plain ((chars v).take n) := (plain_chars v).take n
    have hcut := length_flatMap_le hplain
    have htake : ((chars v).take n).length ≤ n := List.length_take_le n _
    have hmark : truncationMark.length = 14 := rfl
    rw [truncate_of_not_fits h, chars, quote, points_append, List.flatMap_append,
      flatMap_truncationMark]
    simp only [List.length_cons, List.length_append, List.length_nil]
    omega

/-! ## What stands in a message -/

theorem mem_insert_self (name : Text) (value : Json) (ms : List (Text × Json)) :
    (name, value) ∈ Json.insert name value ms := by
  induction ms with
  | nil => exact List.mem_cons_self
  | cons m ms ih =>
      rw [Json.insert]
      split
      · next hname => rw [hname]; exact List.mem_cons_self
      · exact List.mem_cons_of_mem _ ih

theorem mem_insert_of_ne {name : Text} {value : Json} {ms : List (Text × Json)} {m : Text × Json}
    (h : m ∈ ms) (hne : m.1 ≠ name) : m ∈ Json.insert name value ms := by
  induction ms with
  | nil => simp at h
  | cons m' ms ih =>
      rw [Json.insert]
      rcases List.mem_cons.mp h with rfl | h
      · rw [if_neg hne]
        exact List.mem_cons_self
      · split
        · exact List.mem_cons_of_mem _ h
        · exact List.mem_cons_of_mem _ (ih h)

/-- A member whose name no later member has stays. -/
theorem mem_dedup {m f : Text × Json} {ms : List (Text × Json)}
    (hnames : (ms.map Prod.fst).Nodup) (hm : m ∈ ms) : m ∈ dedup (f :: ms) := by
  have hfold : ∀ (rest acc : List (Text × Json)), (rest.map Prod.fst).Nodup →
      (m ∈ rest ∨ m ∈ acc ∧ m.1 ∉ rest.map Prod.fst) →
      m ∈ rest.foldl (fun acc m => Json.insert m.1 m.2 acc) acc := by
    intro rest
    induction rest with
    | nil => intro acc _ h; simpa using h
    | cons k rest ih =>
        intro acc hnodup h
        rw [List.map_cons, List.nodup_cons] at hnodup
        rw [List.foldl_cons]
        apply ih _ hnodup.2
        rcases h with h | ⟨hacc, hnot⟩
        · rcases List.mem_cons.mp h with rfl | h
          · exact .inr ⟨mem_insert_self _ _ _, hnodup.1⟩
          · exact .inl h
        · rw [List.map_cons, List.mem_cons, not_or] at hnot
          exact .inr ⟨mem_insert_of_ne hacc hnot.1, hnot.2⟩
  exact hfold ms _ hnames (.inl hm)

/-- The text of an object shows each of its members. -/
theorem infix_charsMembers {m : Text × Json} {ms : List (Text × Json)} (h : m ∈ ms) :
    quote m.1 ++ ':' :: ' ' :: chars m.2 <:+: charsMembers ms := by
  induction ms with
  | nil => simp at h
  | cons k ms ih =>
      cases ms with
      | nil =>
          obtain rfl := List.mem_singleton.mp h
          rw [charsMembers_singleton]
          exact (List.prefix_append _ _).isInfix
      | cons k' ms =>
          rw [charsMembers_cons]
          rcases List.mem_cons.mp h with rfl | h
          · exact (List.prefix_append _ _).isInfix
          · exact (ih h).trans ((List.suffix_cons _ _).trans
              ((List.suffix_cons _ _).trans (List.suffix_append _ _))).isInfix

/-- The message of an event shows each of its fields. -/
theorem infix_eventMessage (event : Text) {fields : List (Text × Json)} {k : Text} {j : Json}
    (hnames : (fields.map Prod.fst).Nodup) (h : (k, j) ∈ fields) :
    points (quote k ++ ':' :: ' ' :: chars j) <:+: eventMessage event fields := by
  have hshown := infix_charsMembers (mem_dedup (f := ("event", .str event)) hnames h)
  rw [eventMessage, ofString_write, chars, points_cons]
  exact (hshown.map CodePoint.scalar).trans (List.suffix_cons _ _).isInfix

theorem infix_message {source : Source} {word : String} {event : Text}
    {fields : List (Text × Json)} {k : Text} {j : Json} (hnames : (fields.map Prod.fst).Nodup)
    (h : (k, j) ∈ fields) {e : Entry} (he : e ∈ (structured source word event fields).1) :
    points (quote k ++ ':' :: ' ' :: chars j) <:+: e.message := by
  have hshown := infix_eventMessage event hnames h
  simp only [structured] at he
  split at he
  · rw [List.mem_singleton.mp he]
    exact hshown
  · simp at he
  · simp at he

/-! ## All about truncation -/

/-- Truncation bounds what is logged.  Take any value and any limit `n`.  The text that is logged of
the value has at most `2 * n + 16` characters, all of them in ASCII from the blank on, and every
event that has it for a field shows it under the name of the field.  Null, and a value whose text
has at most `n` characters, is logged as it is; of any other value, a string of `n + 14` characters
is logged that begins with the first `n` of its text.  What is logged as it is can be read again:
from its text comes the value with the halves of surrogate pairs joined, which is the value itself
unless it holds a pair in two halves. -/
theorem truncation_bounds_what_is_logged (n : Nat) (v : Json) :
    (chars (truncate n v)).length ≤ 2 * n + 16 ∧
    (∀ c ∈ chars (truncate n v), 0x20 ≤ c.toNat ∧ c.toNat ≤ 0x7F) ∧
    (∀ (source : Source) (word : String) (event : Text) (fields : List (Text × Json)) (name : Text),
      (fields.map Prod.fst).Nodup → (name, truncate n v) ∈ fields →
        ∀ e ∈ (structured source word event fields).1,
          points (quote name ++ ':' :: ' ' :: chars (truncate n v)) <:+: e.message) ∧
    (Fits n v → truncate n v = v) ∧
    (¬ Fits n v → ∃ s : String, truncate n v = .string s ∧ s.length = n + 14 ∧
      s.toList.take n <+: chars v) ∧
    (Fits n v → ∀ depth, Within depth v →
      readNested depth (write (truncate n v)) = .ok v.joined) ∧
    (Unsplit v → v.joined = v) := by
  have hplain : ∀ c ∈ chars (truncate n v), 0x20 ≤ c.toNat ∧ c.toNat ≤ 0x7F :=
    fun c hc => (plain_chars _ c hc).imp_right Nat.le_of_lt
  refine ⟨length_chars_truncate_le n v, hplain,
    fun _ _ _ _ _ hnames hfield _ he => infix_message hnames hfield he, truncate_of_fits,
    fun hlong => ?_, fun hfits depth hwithin => ?_, Unsplit.joined_eq⟩
  · have hlength : n ≤ (chars v).length := by
      unfold Fits at hlong
      omega
    have htake : ((chars v).take n).length = n := List.length_take_of_le hlength
    refine ⟨String.ofList ((chars v).take n ++ truncationMark), ?_, ?_, ?_⟩
    · rw [truncate_of_not_fits hlong, string, Text.ofString, String.toList_ofList, points]
    · rw [String.length_ofList, List.length_append, htake]
      rfl
    · rw [String.toList_ofList, List.take_append_of_le_length htake.ge, List.take_take,
        Nat.min_self]
      exact List.take_prefix n _
  · rw [truncate_of_fits hfits]
    exact readNested_write_joined hwithin

end CommandBridge.Log
