import CommandBridge.Catalog.Descriptor
import CommandBridge.Proofs.Log.Events
import CommandBridge.Proofs.Results.StoredText

/-!
# CommandBridge.Proofs.Catalog.Spellings

Descriptors and the objects they are read from.  A descriptor is read back from its wire form and
from its members under the plain field names, and it makes no difference how an object spells a
field that it holds once, nor what it holds besides (`descriptors_survive_wire_form`).

All readers of descriptors are made of `readField`, which looks at an object only to find a field
under one of its names (`found?`).  So two objects that hold the same under each field are read
alike, and if one of them spells a field otherwise, its failures are told under the other name
(`ReadsBy`).
-/

namespace CommandBridge

variable {α β : Type}

/-! ## What is told about an object -/

/-- What was read, or where something is wrong and what. -/
abbrev Verdict (α : Type) := Except (List (List PathStep × Mismatch)) α

/-- What a reader says, but for the values that it quotes with its failures. -/
def Validated.verdict (v : Validated α) : Verdict α :=
  v.mapError (List.map fun e => (e.path, e.mismatch))

/-- A step whose name is another. -/
def PathStep.rename (ρ : String → String) : PathStep → PathStep
  | .name s => .name (ρ s)
  | .index n => .index n

/-- A verdict that names the fields otherwise. -/
def Verdict.rename (ρ : String → String) (v : Verdict α) : Verdict α :=
  v.mapError (List.map fun e => (e.1.map (PathStep.rename ρ), e.2))

theorem PathStep.rename_id : PathStep.rename id = id := by
  funext step
  cases step <;> rfl

theorem Verdict.rename_id (v : Verdict α) : v.rename id = v := by
  have hid : (fun e : List PathStep × Mismatch => (e.1.map (PathStep.rename id), e.2)) = id := by
    funext e
    simp [PathStep.rename_id]
  cases v with
  | ok a => rfl
  | error es => simp [Verdict.rename, Except.mapError, hid]

/-- The failures of both sides are told in order, whatever the fields are called. -/
theorem Validated.verdict_seq {ρ : String → String} {f f' : Validated (α → β)}
    {x x' : Validated α} (hf : f'.verdict = f.verdict.rename ρ)
    (hx : x'.verdict = x.verdict.rename ρ) : (f'.seq x').verdict = (f.seq x).verdict.rename ρ := by
  cases f <;> cases f' <;> cases x <;> cases x' <;>
    simp_all [Validated.seq, Validated.verdict, Verdict.rename, Except.mapError]

/-! ## Finding a field -/

/-- The value of a field, and the first of its names that is there. -/
def found? (names : List String) (ms : List (Text × Json)) : Option (String × Json) :=
  names.findSome? fun n => (Json.lookup (Text.ofString n) ms).map fun j => (n, j)

/-- Whether there is a member of a name. -/
def Holds (name : String) (ms : List (Text × Json)) : Prop :=
  Text.ofString name ∈ ms.map Prod.fst

theorem ofString_eq_iff {s t : String} : Text.ofString s = Text.ofString t ↔ s = t :=
  ⟨Text.ofString_injective, congrArg _⟩

theorem lookup_nil (name : Text) : Json.lookup name [] = none := rfl

theorem lookup_cons (name k : Text) (j : Json) (ms : List (Text × Json)) :
    Json.lookup name ((k, j) :: ms) = if k = name then some j else Json.lookup name ms := by
  rw [Json.lookup, List.find?_cons]
  by_cases h : k = name
  · simp [h]
  · simp [h, Json.lookup]

theorem lookup_eq_none_iff {name : String} {ms : List (Text × Json)} :
    Json.lookup (Text.ofString name) ms = none ↔ ¬ Holds name ms := by
  simp only [Json.lookup, Option.map_eq_none_iff, List.find?_eq_none, decide_eq_true_eq, Holds,
    List.mem_map, not_exists, not_and]

/-- Of several names for a field only one is there. -/
theorem found?_of_only {names : List String} {ms : List (Text × Json)} {n : String}
    (hn : n ∈ names) (hothers : ∀ n' ∈ names, n' ≠ n → ¬ Holds n' ms) :
    found? names ms = (Json.lookup (Text.ofString n) ms).map fun j => (n, j) := by
  have hagain : ∀ names : List String, (∀ n' ∈ names, n' ≠ n → ¬ Holds n' ms) →
      Json.lookup (Text.ofString n) ms = none → found? names ms = none := by
    intro names hnames hnone
    rw [found?, List.findSome?_eq_none_iff]
    intro n' hn'
    by_cases heq : n' = n
    · rw [heq, hnone, Option.map_none]
    · rw [lookup_eq_none_iff.mpr (hnames n' hn' heq), Option.map_none]
  induction names with
  | nil => simp at hn
  | cons first rest ih =>
      have hrest := fun n' hn' => hothers n' (List.mem_cons_of_mem first hn')
      rw [found?, List.findSome?_cons]
      by_cases heq : first = n
      · subst heq
        cases hlookup : Json.lookup (Text.ofString first) ms with
        | some j => rfl
        | none => exact hagain rest hrest hlookup
      · rw [lookup_eq_none_iff.mpr (hothers first List.mem_cons_self heq)]
        exact ih ((List.mem_cons.mp hn).resolve_left (Ne.symm heq)) hrest

theorem found?_congr {names : List String} {ms ms' : List (Text × Json)}
    (h : ∀ n ∈ names, Json.lookup (Text.ofString n) ms' = Json.lookup (Text.ofString n) ms) :
    found? names ms' = found? names ms := by
  induction names with
  | nil => rfl
  | cons first rest ih =>
      rw [found?, found?, List.findSome?_cons, List.findSome?_cons, h first List.mem_cons_self]
      have hrest := ih fun n hn => h n (List.mem_cons_of_mem first hn)
      rw [found?, found?] at hrest
      rw [hrest]

theorem mem_of_found? {names : List String} {ms : List (Text × Json)} {n : String} {j : Json}
    (h : found? names ms = some (n, j)) : n ∈ names := by
  obtain ⟨n', hn', hfound⟩ := List.exists_of_findSome?_eq_some h
  obtain ⟨_, -, heq⟩ := Option.map_eq_some_iff.mp hfound
  rw [← (Prod.mk.inj heq).1]
  exact hn'

/-- A field is read from what is found under its names. -/
theorem readField_of_found {names : List String} {ms : List (Text × Json)} {n : String} {j : Json}
    {check : Check α} {fallback : Option α} {a : α} (hfound : found? names ms = some (n, j))
    (hcheck : check j = .ok a) : readField ms names check fallback = .ok a := by
  rw [found?] at hfound
  simp only [readField, hfound, hcheck]

theorem readField_string {names : List String} {ms : List (Text × Json)} {n s : String}
    {fallback : Option String} (hfound : found? names ms = some (n, .string s)) :
    readField ms names .string fallback = .ok s :=
  readField_of_found hfound (Check.string_string s)

/-! ## Readers that look at their fields only -/

/-- The second object holds under each field what the first one holds, and spells it as `ρ` says. -/
structure Respelled (ρ : String → String) (fields : List (List String))
    (ms ms' : List (Text × Json)) : Prop where
  found : ∀ names ∈ fields, found? names ms' = (found? names ms).map (Prod.map ρ id)
  missing : ∀ names ∈ fields, found? names ms = none → ρ (names.headD "") = names.headD ""

/-- A reader of objects that looks at nothing but what it finds under its fields. -/
def ReadsBy (fields : List (List String)) (read : List (Text × Json) → Validated α) : Prop :=
  ∀ ⦃ρ : String → String⦄ ⦃ms ms' : List (Text × Json)⦄, Respelled ρ fields ms ms' →
    (read ms').verdict = (read ms).verdict.rename ρ

namespace ReadsBy

theorem ok (a : α) : ReadsBy [] fun _ => .ok a := fun _ _ _ _ => rfl

theorem readField (names : List String) (check : Check α) (fallback : Option α) :
    ReadsBy [names] fun ms => CommandBridge.readField ms names check fallback := by
  intro ρ ms ms' h
  have hfound := h.found names List.mem_cons_self
  have hmissing := h.missing names List.mem_cons_self
  simp only [CommandBridge.readField]
  rw [← found?, ← found?, hfound]
  cases hm : found? names ms with
  | none =>
      cases fallback with
      | some a => rfl
      | none =>
          simp only [Option.map_none, Validated.verdict, Verdict.rename, Except.mapError,
            List.map_cons, List.map_nil, PathStep.rename, hmissing hm]
  | some found =>
      obtain ⟨n, j⟩ := found
      simp only [Option.map_some, Prod.map, id]
      cases check j <;> rfl

theorem seq {fields fields' : List (List String)} {f : List (Text × Json) → Validated (α → β)}
    {x : List (Text × Json) → Validated α} (hf : ReadsBy fields f) (hx : ReadsBy fields' x) :
    ReadsBy (fields ++ fields') fun ms => (f ms).seq (x ms) := by
  intro ρ ms ms' h
  apply Validated.verdict_seq
  · exact hf ⟨fun names hn => h.found names (List.mem_append_left _ hn),
      fun names hn => h.missing names (List.mem_append_left _ hn)⟩
  · exact hx ⟨fun names hn => h.found names (List.mem_append_right _ hn),
      fun names hn => h.missing names (List.mem_append_right _ hn)⟩

end ReadsBy

/-! ## Spelling a field otherwise -/

/-- A name, or another one in its place. -/
def anew (old new n : String) : String := if n = old then new else n

/-- An object in which the members of one name have another. -/
def respell (old new : String) (ms : List (Text × Json)) : List (Text × Json) :=
  ms.map fun m => if m.1 = Text.ofString old then (Text.ofString new, m.2) else m

/-- An object without the members of a name. -/
def without (name : String) (ms : List (Text × Json)) : List (Text × Json) :=
  ms.filter fun m => m.1 ≠ Text.ofString name

/-- The members of an object that belong to fields. -/
def known (fields : List (List String)) (ms : List (Text × Json)) : List (Text × Json) :=
  ms.filter fun m => m.1 ∈ fields.flatten.map Text.ofString

/-- What stood under the old name stands under the new one, and nothing else has moved. -/
theorem lookup_respell (old : String) {new : String} {ms : List (Text × Json)}
    (hnew : ¬ Holds new ms) (name : String) :
    Json.lookup (Text.ofString name) (respell old new ms) =
      if name = new then Json.lookup (Text.ofString old) ms
      else if name = old then none else Json.lookup (Text.ofString name) ms := by
  induction ms with
  | nil => simp [respell, Json.lookup]
  | cons m rest ih =>
      obtain ⟨k, j⟩ := m
      simp only [Holds, List.map_cons, List.mem_cons, not_or] at hnew
      have hrest := ih hnew.2
      have hrespell : respell old new ((k, j) :: rest) =
          (if k = Text.ofString old then Text.ofString new else k, j) :: respell old new rest := by
        by_cases hk : k = Text.ofString old <;> simp [respell, hk]
      rw [hrespell, lookup_cons, lookup_cons, lookup_cons, hrest]
      by_cases hk : k = Text.ofString old
      · simp only [hk, if_true, ofString_eq_iff]
        by_cases hname : name = new
        · rw [if_pos hname.symm, if_pos hname]
        · rw [if_neg (Ne.symm hname), if_neg hname, if_neg hname]
          by_cases hold : name = old
          · rw [if_pos hold, if_pos hold]
          · rw [if_neg hold, if_neg hold, if_neg (Ne.symm hold)]
      · rw [if_neg hk, if_neg hk]
        by_cases hkey : k = Text.ofString name
        · -- the name of this member is neither the old nor the new one
          have hname : name ≠ new := by rintro rfl; exact hnew.1 hkey.symm
          have hold : name ≠ old := by rintro rfl; exact hk hkey
          rw [if_pos hkey, if_neg hname, if_neg hold, if_pos hkey]
        · rw [if_neg hkey, if_neg hkey]

theorem lookup_filter {keep : Text × Json → Bool} {name : String} {ms : List (Text × Json)}
    (hkeep : ∀ j, keep (Text.ofString name, j) = true) :
    Json.lookup (Text.ofString name) (ms.filter keep) = Json.lookup (Text.ofString name) ms := by
  induction ms with
  | nil => rfl
  | cons m rest ih =>
      obtain ⟨k, j⟩ := m
      by_cases hm : keep (k, j) = true
      · rw [List.filter_cons_of_pos hm, lookup_cons, lookup_cons, ih]
      · have hne : k ≠ Text.ofString name := by rintro rfl; exact hm (hkeep j)
        rw [List.filter_cons_of_neg hm, lookup_cons, if_neg hne, ih]

/-! ## What makes no difference to a reader -/

/-- Fields whose names are told apart: each field has a name, and no name is that of two fields. -/
structure Separate (fields : List (List String)) : Prop where
  nonempty : ∀ names ∈ fields, names ≠ []
  apart : ∀ names ∈ fields, ∀ names' ∈ fields, ∀ n ∈ names, n ∈ names' → names' = names

/-- How a reader takes an object of which some members are spelled otherwise, or unknown to it.
The names of a field are given with the one that counts first. -/
structure Lenient (fields : List (List String)) (read : Json → Validated α) : Prop where
  /-- A field that has one of its names can have any other of them. -/
  respelled : ∀ names ∈ fields, ∀ old ∈ names, ∀ new ∈ names, new ≠ old → ∀ ms, Holds old ms →
    (∀ n ∈ names, n ≠ old → ¬ Holds n ms) →
      (read (.obj (respell old new ms))).verdict =
        (read (.obj ms)).verdict.rename (anew old new)
  /-- Where the first name of a field is there, the others do not count. -/
  first : ∀ names ∈ fields, ∀ other ∈ names, other ≠ names.headD "" →
    ∀ ms, Holds (names.headD "") ms →
      (read (.obj (without other ms))).verdict = (read (.obj ms)).verdict
  /-- What belongs to no field does not count. -/
  unknown : ∀ ms ms', known fields ms = known fields ms' →
    (read (.obj ms)).verdict = (read (.obj ms')).verdict

namespace Separate

variable {fields : List (List String)} {names : List String} {ms : List (Text × Json)}

/-- What is found under the other fields is found there with as many members spelled otherwise. -/
theorem found?_other (h : Separate fields) (hnames : names ∈ fields) {names' : List String}
    (hnames' : names' ∈ fields) (hne : names' ≠ names) {ρ : String → String}
    {ms' : List (Text × Json)} (hρ : ∀ n, n ∉ names → ρ n = n)
    (hlookup : ∀ n, n ∉ names →
      Json.lookup (Text.ofString n) ms' = Json.lookup (Text.ofString n) ms) :
    found? names' ms' = (found? names' ms).map (Prod.map ρ id) ∧
      ρ (names'.headD "") = names'.headD "" := by
  have hother : ∀ n ∈ names', n ∉ names :=
    fun n hn hmem => hne (h.apart names hnames names' hnames' n hmem hn)
  constructor
  · rw [found?_congr fun n hn => hlookup n (hother n hn)]
    cases hfound : found? names' ms with
    | none => rfl
    | some found =>
        obtain ⟨n, j⟩ := found
        simp [hρ n (hother n (mem_of_found? hfound))]
  · apply hρ
    apply hother
    obtain ⟨first, rest, rfl⟩ := List.exists_cons_of_ne_nil (h.nonempty names' hnames')
    exact List.mem_cons_self

/-- A field that is spelled otherwise holds what it held, and so do all the others. -/
theorem respelled (h : Separate fields) (hnames : names ∈ fields) {old new : String}
    (hold : old ∈ names) (hnew : new ∈ names) (hne : new ≠ old) (hms : Holds old ms)
    (honly : ∀ n ∈ names, n ≠ old → ¬ Holds n ms) :
    Respelled (anew old new) fields ms (respell old new ms) := by
  have hlookup := lookup_respell old (honly new hnew hne)
  have hothers : ∀ names' ∈ fields, names' ≠ names →
      found? names' (respell old new ms) =
        (found? names' ms).map (Prod.map (anew old new) id) ∧
      anew old new (names'.headD "") = names'.headD "" := by
    intro names' hnames' hfield
    apply h.found?_other hnames hnames' hfield
    · intro n hn
      exact if_neg (ne_of_mem_of_not_mem hold hn).symm
    · intro n hn
      rw [hlookup, if_neg (ne_of_mem_of_not_mem hnew hn).symm,
        if_neg (ne_of_mem_of_not_mem hold hn).symm]
  obtain ⟨j, hj⟩ : ∃ j, Json.lookup (Text.ofString old) ms = some j := by
    rw [← Option.ne_none_iff_exists', Ne, lookup_eq_none_iff]
    exact not_not.mpr hms
  have hfound : found? names ms = some (old, j) := by
    rw [found?_of_only hold honly, hj, Option.map_some]
  have hfound' : found? names (respell old new ms) = some (new, j) := by
    have honly' : ∀ n ∈ names, n ≠ new → ¬ Holds n (respell old new ms) := by
      intro n hn hnew'
      rw [← lookup_eq_none_iff, hlookup, if_neg hnew']
      split
      · rfl
      · next hold' => exact lookup_eq_none_iff.mpr (honly n hn hold')
    rw [found?_of_only hnew honly', hlookup, if_pos rfl, hj, Option.map_some]
  constructor
  · intro names' hnames'
    by_cases hfield : names' = names
    · rw [hfield, hfound, hfound']
      simp [anew]
    · exact (hothers names' hnames' hfield).1
  · intro names' hnames' hnone
    by_cases hfield : names' = names
    · rw [hfield, hfound] at hnone
      simp at hnone
    · exact (hothers names' hnames' hfield).2

/-- Without its other names a field that has its first one is found as before. -/
theorem respelled_without (h : Separate fields) (hnames : names ∈ fields) {other : String}
    (hother : other ∈ names) (hne : other ≠ names.headD "") (hms : Holds (names.headD "") ms) :
    Respelled id fields ms (without other ms) := by
  have hlookup : ∀ n, n ≠ other →
      Json.lookup (Text.ofString n) (without other ms) = Json.lookup (Text.ofString n) ms := by
    intro n hn
    exact lookup_filter fun j => by simpa [ofString_eq_iff] using hn
  constructor
  · intro names' hnames'
    by_cases hfield : names' = names
    · subst hfield
      obtain ⟨first, rest, rfl⟩ := List.exists_cons_of_ne_nil (h.nonempty names' hnames)
      obtain ⟨j, hj⟩ : ∃ j, Json.lookup (Text.ofString first) ms = some j := by
        rw [← Option.ne_none_iff_exists', Ne, lookup_eq_none_iff]
        exact not_not.mpr hms
      rw [found?, found?, List.findSome?_cons, List.findSome?_cons, hlookup first (Ne.symm hne), hj]
      rfl
    · exact (h.found?_other hnames hnames' hfield (fun _ _ => rfl)
        fun n hn => hlookup n (by rintro rfl; exact hn hother)).1
  · exact fun _ _ _ => rfl

end Separate

/-- Members that belong to no field are not found. -/
theorem respelled_known (fields : List (List String)) (ms : List (Text × Json)) :
    Respelled id fields ms (known fields ms) where
  found names hnames := by
    have hlookup : ∀ n ∈ names, Json.lookup (Text.ofString n) (known fields ms) =
        Json.lookup (Text.ofString n) ms := by
      intro n hn
      apply lookup_filter
      intro j
      rw [decide_eq_true_iff]
      exact List.mem_map_of_mem (List.mem_flatten_of_mem hnames hn)
    rw [found?_congr hlookup]
    simp
  missing _ _ _ := rfl

/-- A reader that looks at its fields only is lenient about all else. -/
theorem ReadsBy.lenient {fields : List (List String)} (hfields : Separate fields)
    {read : Json → Validated α} (h : ReadsBy fields fun ms => read (.obj ms)) :
    Lenient fields read where
  respelled _ hnames _ hold _ hnew hne _ hms honly :=
    h (hfields.respelled hnames hold hnew hne hms honly)
  first _ hnames _ hother hne _ hms := by
    have hverdict := h (hfields.respelled_without hnames hother hne hms)
    rwa [Verdict.rename_id] at hverdict
  unknown ms ms' hknown := by
    have hleft := h (respelled_known fields ms)
    have hright := h (respelled_known fields ms')
    rw [Verdict.rename_id] at hleft hright
    rw [← hleft, ← hright, hknown]

/-! ## Descriptors -/

namespace ResourceDescriptor

/-- The names of the fields of a resource: the one of the wire form, and then the plain one. -/
def spellings : List (List String) :=
  [["uri"], ["name"], ["description"], ["mimeType", "mime_type"]]

theorem lenient_ofJson : Lenient spellings ofJson := by
  have hreads : ReadsBy spellings fun ms => ofJson (.obj ms) :=
    .seq (.seq (.seq (.seq (.ok _) (.readField _ _ _)) (.readField _ _ _)) (.readField _ _ _))
      (.readField _ _ _)
  exact hreads.lenient ⟨by decide, by decide⟩

/-- A resource is read from whatever holds its fields, under whichever of their names. -/
theorem ofJson_of_found (d : ResourceDescriptor) {ms : List (Text × Json)} {n : String}
    (huri : found? ["uri"] ms = some ("uri", .string d.uri))
    (hname : found? ["name"] ms = some ("name", .string d.name))
    (hdescription : found? ["description"] ms = some ("description", .string d.description))
    (hmime : found? ["mimeType", "mime_type"] ms = some (n, .string d.mimeType)) :
    ofJson (.obj ms) = .ok d := by
  simp only [ofJson, readRecord, readField_string huri, readField_string hname,
    readField_string hdescription, readField_string hmime]
  rfl

/-- A resource is read back from its wire form. -/
theorem ofJson_toJson (d : ResourceDescriptor) : ofJson d.toJson = .ok d := by
  apply d.ofJson_of_found (n := "mimeType") <;>
    simp [found?, lookup_cons, lookup_nil, ofString_eq_iff]

/-- A resource is read back from its members under the plain names. -/
theorem ofJson_fields (d : ResourceDescriptor) : ofJson (.obj d.fields) = .ok d := by
  apply d.ofJson_of_found (n := "mime_type") <;>
    simp [fields, found?, lookup_cons, lookup_nil, ofString_eq_iff]

end ResourceDescriptor

namespace ToolDescriptor

/-- The names of the fields of a tool. -/
def spellings : List (List String) := [["name"], ["description"], ["inputSchema", "input_schema"]]

theorem lenient_ofJson : Lenient spellings ofJson := by
  have hreads : ReadsBy spellings fun ms => ofJson (.obj ms) :=
    .seq (.seq (.seq (.ok _) (.readField _ _ _)) (.readField _ _ _)) (.readField _ _ _)
  exact hreads.lenient ⟨by decide, by decide⟩

/-- A tool is read from whatever holds its fields; its schema is taken as it is. -/
theorem ofJson_of_found (d : ToolDescriptor) {ms : List (Text × Json)} {n : String}
    (hname : found? ["name"] ms = some ("name", .string d.name))
    (hdescription : found? ["description"] ms = some ("description", .string d.description))
    (hschema : found? ["inputSchema", "input_schema"] ms = some (n, .obj d.inputSchema)) :
    ofJson (.obj ms) = .ok d := by
  have hobject : readField ms ["inputSchema", "input_schema"] Check.object (some defaultSchema) =
      .ok d.inputSchema := readField_of_found hschema rfl
  simp only [ofJson, readRecord, readField_string hname, readField_string hdescription, hobject]
  rfl

/-- A tool is read back from its wire form. -/
theorem ofJson_toJson (d : ToolDescriptor) : ofJson d.toJson = .ok d := by
  apply d.ofJson_of_found (n := "inputSchema") <;>
    simp [found?, lookup_cons, lookup_nil, ofString_eq_iff]

/-- A tool is read back from its members under the plain names. -/
theorem ofJson_fields (d : ToolDescriptor) : ofJson (.obj d.fields) = .ok d := by
  apply d.ofJson_of_found (n := "input_schema") <;>
    simp [fields, found?, lookup_cons, lookup_nil, ofString_eq_iff]

end ToolDescriptor

namespace PromptDescriptor

/-- The names of the fields of a prompt. -/
def spellings : List (List String) := [["name"], ["description"]]

theorem lenient_ofJson : Lenient spellings ofJson := by
  have hreads : ReadsBy spellings fun ms => ofJson (.obj ms) :=
    .seq (.seq (.ok _) (.readField _ _ _)) (.readField _ _ _)
  exact hreads.lenient ⟨by decide, by decide⟩

/-- A prompt is read back from its members, which are its wire form. -/
theorem ofJson_fields (d : PromptDescriptor) : ofJson (.obj d.fields) = .ok d := by
  have hname : found? ["name"] d.fields = some ("name", .string d.name) := by
    simp [fields, found?, lookup_cons]
  have hdescription : found? ["description"] d.fields =
      some ("description", .string d.description) := by
    simp [fields, found?, lookup_cons, ofString_eq_iff]
  simp only [ofJson, readRecord, readField_string hname, readField_string hdescription]
  rfl

end PromptDescriptor

/-- The wire form of a descriptor names its fields as the first spellings say, and the dump of its
fields as the last ones say. -/
def NamedBy (spellings : List (List String)) (wire : Json) (fields : List (Text × Json)) : Prop :=
  (∃ ms, wire = .obj ms ∧ ms.map Prod.fst = spellings.map fun names => (names.headD "" : Text)) ∧
    fields.map Prod.fst = spellings.map fun names => (names.getLastD "" : Text)

/-- Descriptors survive their object forms.  Every resource, tool and prompt is read back from its
wire form and from the dump of its fields, a tool with its schema as it was.  Take any object from
which a descriptor is read.  If it holds a field under one name only, that can be changed to
the other one: the same descriptor is read, or the same is wrong, told under the other name.  If the
name of the wire form is there, the plain one does not count, and no member does that belongs to no
field. -/
theorem descriptors_survive_wire_form :
    (∀ d : ResourceDescriptor, NamedBy ResourceDescriptor.spellings d.toJson d.fields ∧
      ResourceDescriptor.ofJson d.toJson = .ok d ∧
      ResourceDescriptor.ofJson (.obj d.fields) = .ok d) ∧
    (∀ d : ToolDescriptor, NamedBy ToolDescriptor.spellings d.toJson d.fields ∧
      ToolDescriptor.ofJson d.toJson = .ok d ∧ ToolDescriptor.ofJson (.obj d.fields) = .ok d) ∧
    (∀ d : PromptDescriptor, NamedBy PromptDescriptor.spellings d.toJson d.fields ∧
      PromptDescriptor.ofJson d.toJson = .ok d ∧
      PromptDescriptor.ofJson (.obj d.fields) = .ok d) ∧
    Lenient ResourceDescriptor.spellings ResourceDescriptor.ofJson ∧
    Lenient ToolDescriptor.spellings ToolDescriptor.ofJson ∧
    Lenient PromptDescriptor.spellings PromptDescriptor.ofJson := by
  refine ⟨fun d => ⟨⟨⟨_, rfl, ?_⟩, ?_⟩, d.ofJson_toJson, d.ofJson_fields⟩,
    fun d => ⟨⟨⟨_, rfl, ?_⟩, ?_⟩, d.ofJson_toJson, d.ofJson_fields⟩,
    fun d => ⟨⟨⟨_, rfl, ?_⟩, ?_⟩, d.ofJson_fields, d.ofJson_fields⟩,
    ResourceDescriptor.lenient_ofJson, ToolDescriptor.lenient_ofJson,
    PromptDescriptor.lenient_ofJson⟩
  · simp [ResourceDescriptor.spellings]
  · simp [ResourceDescriptor.spellings, ResourceDescriptor.fields]
  · simp [ToolDescriptor.spellings]
  · simp [ToolDescriptor.spellings, ToolDescriptor.fields]
  · simp [PromptDescriptor.spellings, PromptDescriptor.fields]
  · simp [PromptDescriptor.spellings, PromptDescriptor.fields]

end CommandBridge
