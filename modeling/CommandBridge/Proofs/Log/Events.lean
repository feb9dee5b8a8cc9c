import CommandBridge.Log.Entry
import CommandBridge.Proofs.Json.RoundTrip

/-!
# CommandBridge.Proofs.Log.Events

Reading events back from the log.  The message of an event begins with the event's name, so an entry
tells which event it is (`Entry.event?`); other entries, whose messages are plain text, are no
events.  A field called `event` would take the name's place, so an event is only read back if it
has no such field (`event?_event`).
-/

namespace CommandBridge.Log

open Json

/-- How the message of an event begins. -/
def opening : Text := "\x7b\"event\": \""

/-- The name of the event that an entry is, as it stands in the message. -/
def Entry.event? (e : Entry) : Option Text :=
  if opening <+: e.message then
    some ((e.message.drop opening.length).takeWhile (· ≠ .scalar '"'))
  else none

/-- A name that is written without escapes. -/
def PlainName (name : String) : Prop :=
  (name : Text).flatMap escapePoint = name.toList ∧ '"' ∉ name.toList

instance (name : String) : Decidable (PlainName name) :=
  inferInstanceAs (Decidable (_ ∧ _))

/-- Of members in which no other has the name of the first, the first stays where it is. -/
theorem exists_dedup_cons {m : Text × Json} {ms : List (Text × Json)} (h : ∀ n ∈ ms, n.1 ≠ m.1) :
    ∃ rest, dedup (m :: ms) = m :: rest := by
  have hfold : ∀ acc : List (Text × Json),
      ∃ rest, ms.foldl (fun acc n => insert n.1 n.2 acc) (m :: acc) = m :: rest := by
    induction ms with
    | nil => exact fun acc => ⟨acc, rfl⟩
    | cons n ms ih =>
        intro acc
        have hskip : insert n.1 n.2 (m :: acc) = m :: insert n.1 n.2 acc := by
          rw [Json.insert, if_neg (h n List.mem_cons_self).symm]
        rw [List.foldl_cons, hskip]
        exact ih (fun k hk => h k (List.mem_cons_of_mem n hk)) _
  exact hfold []

/-- The message of an object begins with its first member. -/
theorem exists_chars_obj_cons (m : Text × Json) (ms : List (Text × Json)) :
    ∃ rest, chars (.obj (m :: ms)) = '\x7b' :: quote m.1 ++ ':' :: ' ' :: chars m.2 ++ rest := by
  cases ms with
  | nil => exact ⟨['}'], by rw [chars, charsMembers_singleton]; simp⟩
  | cons n ms => exact ⟨',' :: ' ' :: charsMembers (n :: ms), by
      rw [chars, charsMembers_cons]; simp⟩

/-- An event is read back from its entry. -/
theorem event?_event (source : Source) (level : Level) {name : String}
    {fields : List (String × Json)} (hname : PlainName name)
    (hfields : ∀ f ∈ fields, f.1 ≠ "event") :
    (event source level name fields).event? = some name := by
  have hothers : ∀ n ∈ fields.map fun f => ((f.1 : Text), f.2), n.1 ≠ ("event" : Text) := by
    simp only [List.mem_map]
    rintro _ ⟨f, hf, rfl⟩ heq
    exact hfields f hf (Text.ofString_injective heq)
  obtain ⟨members, hmembers⟩ := exists_dedup_cons (m := (("event" : Text), .str name)) hothers
  obtain ⟨rest, hrest⟩ := exists_chars_obj_cons (("event" : Text), .str name) members
  have hmessage : (event source level name fields).message =
      opening ++ ((name : Text) ++ .scalar '"' :: points rest) := by
    have hopening : opening = points ('\x7b' :: quote "event" ++ [':', ' ', '"']) := by
      decide +kernel
    have hescaped : points ((name : Text).flatMap escapePoint) = name := by
      rw [hname.1]
      rfl
    show points (String.ofList (chars _)).toList = _
    rw [hmembers, hrest, hopening]
    simp [chars, quote, hescaped]
  have hplain : ∀ p ∈ (name : Text), decide (p ≠ CodePoint.scalar '"') = true := by
    intro p hp
    obtain ⟨c, hc, rfl⟩ := List.mem_map.mp hp
    have hne : c ≠ '"' := fun heq => hname.2 (heq ▸ hc)
    simpa using hne
  rw [Entry.event?, hmessage, if_pos (List.prefix_append _ _), List.drop_left,
    List.takeWhile_append_of_pos hplain]
  simp

/-- A message that does not begin as an event's is no event. -/
theorem event?_eq_none {e : Entry} (h : e.message.head? ≠ some (.scalar '\x7b')) :
    e.event? = none := by
  rw [Entry.event?, if_neg]
  rintro ⟨rest, hrest⟩
  exact h (by rw [← hrest]; rfl)

/-! ## Entries of one kind -/

/-- An entry is an event of a part of the bridge, and has one of these names. -/
def Entry.IsOneOf (source : Source) (names : List String) (e : Entry) : Prop :=
  e.source = source ∧ ∃ name ∈ names, e.event? = some (name : Text)

instance (source : Source) (names : List String) (e : Entry) :
    Decidable (e.IsOneOf source names) := inferInstanceAs (Decidable (_ ∧ _))

theorem not_isOneOf_of_source {source : Source} {names : List String} {e : Entry}
    (h : e.source ≠ source) : ¬ e.IsOneOf source names := fun hone => h hone.1

theorem not_isOneOf_of_message {source : Source} {names : List String} {e : Entry}
    (h : e.message.head? ≠ some (.scalar '\x7b')) : ¬ e.IsOneOf source names := by
  rintro ⟨-, name, -, hevent⟩
  rw [event?_eq_none h] at hevent
  cases hevent

/-- Which of some kind an event is, is told by its name. -/
theorem isOneOf_event {source : Source} {level : Level} {name : String} {names : List String}
    {fields : List (String × Json)} (hname : PlainName name)
    (hfields : ∀ f ∈ fields, f.1 ≠ "event") :
    (event source level name fields).IsOneOf source names ↔ name ∈ names := by
  rw [Entry.IsOneOf, event?_event source level hname hfields]
  constructor
  · rintro ⟨-, other, hother, heq⟩
    rwa [Text.ofString_injective (Option.some.inj heq)]
  · exact fun h => ⟨rfl, name, h, rfl⟩

section

variable {source : Source} {names : List String} {l : List Entry}

theorem filter_isOneOf_eq_nil (h : ∀ e ∈ l, ¬ e.IsOneOf source names) :
    l.filter (·.IsOneOf source names) = [] := List.filter_eq_nil_iff.mpr (by simpa using h)

theorem filter_isOneOf_eq_self (h : ∀ e ∈ l, e.IsOneOf source names) :
    l.filter (·.IsOneOf source names) = l := List.filter_eq_self.mpr (by simpa using h)

end

end CommandBridge.Log
