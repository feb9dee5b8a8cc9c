import CommandBridge.Proofs.Json.Extent
import CommandBridge.Proofs.Results.RecordMap

/-!
# CommandBridge.Proofs.Results.StoredText

What is written through to Redis is read back: the text of a record's body is read as that
body (`readNested_write_toBody`), and as the record with null in the place of numbers that are
not finite (`readStored_write`).

A Redis that fails no call (`Redis.Reliable`) holds under each key what was put there last, so a
ticket that is not in the map is answered with the record whose text is under its key
(`get_answer_of_lookup`).
-/

namespace CommandBridge

/-! ## Fields -/

/-- A field is read from the member of its name. -/
theorem readField_of_lookup {α : Type} {ms : List (Text × Json)} {name : String} {j : Json}
    {check : Check α} {a : α} {fallback : Option α} (hlookup : Json.lookup name ms = some j)
    (hcheck : check j = .ok a) : readField ms [name] check fallback = .ok a := by
  simp [readField, hlookup, hcheck]

namespace Check

theorem string_string (s : String) : Check.string (.string s) = .ok s := by
  simp only [Check.string, Json.string, Text.toString?_ofString]

theorem choice_kind (k : DispatchKind) : choice DispatchKind.table (.string k.text) = .ok k := by
  cases k <;> decide

theorem choice_status (s : ResultStatus) :
    choice ResultStatus.table (.string s.text) = .ok s := by
  cases s <;> decide

end Check

/-! ## Records as texts -/

namespace Record

variable {r : Record} {depth : Nat}

/-- A record with null in the place of numbers that are not finite. -/
def finiteOnly (r : Record) : Record := { r with result := r.result.finiteOnly }

/-- Records that differ in such numbers have one body, or none. -/
theorem toBody_finiteOnly (r : Record) : r.finiteOnly.toBody = r.toBody := by
  rw [toBody, toBody, fields, fields, finiteOnly, Json.finiteOnly_finiteOnly]

theorem dump_finiteOnly (r : Record) : r.finiteOnly.dump = r.dump := by
  rw [dump, dump, toBody_finiteOnly, finiteOnly, Json.dumpFault?_finiteOnly]

/-- A body holds no numbers that are not finite. -/
theorem finiteOnly_toBody (r : Record) : r.toBody.finiteOnly = r.toBody := by
  simp [toBody, fields, Json.finiteOnly, Json.finiteOnlyMembers, Json.string,
    Json.finiteOnly_finiteOnly]

/-- The members of a record with this value for its result. -/
def fieldsWith (result : Json) (r : Record) : List (Text × Json) :=
  [("ticket", .string r.ticket), ("kind", .string r.kind.text), ("target", .string r.target),
    ("status", .string r.status.text), ("result", result), ("updated_at", .string r.updatedAt)]

theorem fields_eq (r : Record) : r.fields = r.fieldsWith r.result.finiteOnly := rfl

theorem nodup_fieldsWith (result : Json) (r : Record) :
    ((r.fieldsWith result).map Prod.fst).Nodup := by
  have hnames : (r.fieldsWith result).map Prod.fst =
      ["ticket", "kind", "target", "status", "result", "updated_at"].map Text.ofString := rfl
  rw [hnames]
  decide

/-- The body of a record is readable if its result is. -/
theorem readable_toBody (h : Json.Readable depth r.result) :
    Json.Readable (depth + 1) r.toBody := by
  have htext : ∀ s : String, Json.Readable depth (.string s) :=
    fun s => .str (Json.isScalar_ofString s)
  apply Json.Readable.obj
  · exact nodup_fieldsWith r.result.finiteOnly r
  · intro m hm
    simp only [fields, List.mem_cons, List.not_mem_nil, or_false] at hm
    rcases hm with rfl | rfl | rfl | rfl | rfl | rfl <;> exact Json.isScalar_ofString _
  · intro m hm
    simp only [fields, List.mem_cons, List.not_mem_nil, or_false] at hm
    rcases hm with rfl | rfl | rfl | rfl | rfl | rfl
    · exact htext _
    · exact htext _
    · exact htext _
    · exact htext _
    · exact h.finiteOnly
    · exact htext _

/-- The members of a record are read as that record. -/
theorem ofJson_fieldsWith (now : String) (r : Record) (result : Json) :
    ofJson now (.obj (r.fieldsWith result)) = .ok { r with result := result } := by
  let ms := r.fieldsWith result
  have hticket : readField ms ["ticket"] Check.string none = .ok r.ticket :=
    readField_of_lookup rfl (Check.string_string r.ticket)
  have hkind : readField ms ["kind"] (.choice DispatchKind.table) none = .ok r.kind :=
    readField_of_lookup rfl (Check.choice_kind r.kind)
  have htarget : readField ms ["target"] Check.string none = .ok r.target :=
    readField_of_lookup rfl (Check.string_string r.target)
  have hstatus : readField ms ["status"] (.choice ResultStatus.table) (some .pending) =
      .ok r.status := readField_of_lookup rfl (Check.choice_status r.status)
  have hresult : readField ms ["result"] Check.any (some .null) = .ok result :=
    readField_of_lookup rfl rfl
  have htime : readField ms ["updated_at"] Check.string (some now) = .ok r.updatedAt :=
    readField_of_lookup rfl (Check.string_string r.updatedAt)
  simp only [ms] at hticket hkind htarget hstatus hresult htime
  simp only [ofJson, readRecord, hticket, hkind, htarget, hstatus, hresult, htime]
  rfl

/-- The body of a record is read as that record, with null in the place of numbers that are not
finite. -/
theorem ofJson_toBody (now : String) (r : Record) : ofJson now r.toBody = .ok r.finiteOnly :=
  ofJson_fieldsWith now r r.result.finiteOnly

end Record

namespace ResultChannel

variable {c : ResultChannel}

/-- The text of a record's body is read as that body by a reader that goes deeper than a dump. -/
theorem readNested_write_toBody {r : Record} {nesting : Nat} (h : r.result.Restorable)
    (hdeep : Json.dumpLimit < nesting) :
    Json.readNested nesting r.toBody.write = .ok r.toBody :=
  Json.readNested_write ((Record.readable_toBody h.readable).mono hdeep)

/-- A stored record is read back, with null in the place of numbers that are not finite. -/
theorem readStored_write (now : Timestamp) {r : Record} {nesting : Nat}
    (h : r.result.Restorable) (hdeep : Json.dumpLimit < nesting) :
    readStored nesting now r.toBody.write = .ok r.finiteOnly := by
  rw [readStored, readNested_write_toBody h hdeep]
  simp only
  rw [Record.ofJson_toBody]

/-- A text that is read where a member with a plain name and a plain text was written. -/
theorem eq_of_readAs_string {fuel depth : Nat} {name s : String} {f : Text × Json}
    (hlength : (Json.chars (.string s)).length ≤ fuel)
    (h : Json.ReadAs (Json.readValue fuel depth) (name, .string s) f) :
    f = ((name : Text), .string s) :=
  Prod.ext (h.name (Json.isScalar_ofString name))
    (h.value (Json.Readable.reads (.str (Json.isScalar_ofString s)) hlength))

/-- A stored record that is read at all is read with its ticket, its kind, its target, its status
and its time, whatever becomes of its result. -/
theorem exists_of_readStored_write {nesting : Nat} {now : Timestamp} {r found : Record}
    (h : readStored nesting now r.toBody.write = .ok found) :
    ∃ result, found = { r with result := result } := by
  unfold readStored at h
  split at h
  · simp at h
  · next j hread =>
    obtain ⟨inner, fuel, fs, rfl, hfuel, hall⟩ := Json.exists_of_readNested_write hread
    -- the text of a member is no longer than that of the record
    have hlength : ∀ m ∈ r.fields, (Json.chars m.2).length ≤ fuel := by
      intro m hm
      have hinner := (Json.length_charsMembers r.fields).2 m hm
      rw [Json.chars, List.length_cons] at hfuel
      omega
    obtain ⟨result, rfl⟩ : ∃ result, fs = r.fieldsWith result := by
      rw [Record.fields_eq] at hall hlength
      simp only [Record.fieldsWith, List.forall_mem_cons] at hall hlength
      obtain ⟨hl₁, hl₂, hl₃, hl₄, -, hl₆, -⟩ := hlength
      simp only [List.forall₂_cons_left_iff, List.forall₂_nil_left_iff] at hall
      obtain ⟨_, _, h₁, ⟨_, _, h₂, ⟨_, _, h₃, ⟨_, _, h₄, ⟨f, _, h₅, ⟨_, _, h₆, rfl, rfl⟩, rfl⟩,
        rfl⟩, rfl⟩, rfl⟩, rfl⟩ := hall
      obtain rfl := eq_of_readAs_string hl₁ h₁
      obtain rfl := eq_of_readAs_string hl₂ h₂
      obtain rfl := eq_of_readAs_string hl₃ h₃
      obtain rfl := eq_of_readAs_string hl₄ h₄
      obtain rfl := eq_of_readAs_string hl₆ h₆
      obtain ⟨name, result⟩ := f
      obtain rfl : name = ("result" : Text) := h₅.name (Json.isScalar_ofString _)
      exact ⟨result, rfl⟩
    rw [Json.dedup_eq_self (Record.nodup_fieldsWith result r), Record.ofJson_fieldsWith] at h
    exact ⟨result, (Except.ok.inj h).symm⟩

theorem write_isEmpty (j : Json) : j.write.isEmpty = false := by
  obtain ⟨c, cs, hchars, -⟩ := Json.exists_chars_cons j
  rw [Json.write, hchars]
  simp

/-! ## Redis as a map -/

end ResultChannel

namespace Redis

variable {r : Redis}

/-- A Redis that fails no call. -/
def Reliable (r : Redis) : Prop := ∀ n command, r.faults n command = none

/-- A Redis that takes every text it is given, though it may fail to give texts back. -/
def TakesWrites (r : Redis) : Prop := ∀ n, r.faults n .setex = none

theorem Reliable.takesWrites (h : r.Reliable) : r.TakesWrites := fun n => h n .setex

/-- A call that no fault is in store for is answered. -/
theorem attemptCall_answer {command : RedisCommand} (h : ∀ n, r.faults n command = none)
    (call : RedisCall) : ((attemptCall command call).run r).answer = .ok () := by
  show (attemptCall command call r).answer = .ok ()
  simp only [attemptCall, h r.calls.length]

/-- A call leaves nothing but its trace. -/
theorem get_state (r : Redis) (key : String) :
    ((get key).run r).state = { r with calls := r.calls ++ [.get key] } := by
  have hstate : ((attemptCall .get (.get key)).run r).state =
      { r with calls := r.calls ++ [.get key] } := rfl
  rw [← hstate, get]
  cases hcall : ((attemptCall .get (.get key)).run r).answer with
  | error e => rw [Op.state_bind_error hcall]
  | ok u =>
      rw [Op.state_bind_ok hcall]
      rfl

theorem get_answer (h : r.Reliable) (key : String) :
    ((get key).run r).answer = .ok (r.lookup key) := by
  rw [get, Op.answer_bind_ok (attemptCall_answer (fun n => h n .get) (.get key))]
  rfl

/-- What Redis gives back is what it holds. -/
theorem lookup_of_get {key : String} {text : Option String}
    (h : ((get key).run r).answer = .ok text) : r.lookup key = text := by
  rw [get] at h
  cases hcall : ((attemptCall .get (.get key)).run r).answer with
  | error e =>
      rw [Op.answer_bind_error hcall] at h
      simp at h
  | ok u =>
      rw [Op.answer_bind_ok hcall] at h
      exact Except.ok.inj h

theorem setex_state (h : r.TakesWrites) (key : String) (ttl : Int) (text : String) :
    ((setex key ttl text).run r).state =
      Redis.write { r with calls := r.calls ++ [.setex key ttl text] } key text := by
  rw [setex, Op.state_bind_ok (attemptCall_answer h (.setex key ttl text))]
  rfl

/-- A key holds the text that was put there last. -/
theorem lookup_write (r : Redis) (key text key' : String) :
    (r.write key text).lookup key' = if key' = key then some text else r.lookup key' := by
  rw [lookup, write]
  by_cases hkey : key' = key
  · subst hkey
    simp
  · have hskip : ∀ e : String × String, (e.1 ≠ key ∧ e.1 = key') ↔ e.1 = key' := by
      intro e
      constructor
      · exact fun h => h.2
      · rintro rfl
        exact ⟨hkey, rfl⟩
    rw [if_neg hkey, List.find?_cons_of_neg (by simpa using Ne.symm hkey), List.find?_filter]
    simp only [decide_eq_true_eq, hskip]
    rfl

end Redis

namespace ResultChannel

variable {c : ResultChannel} {ticket : String}

theorem redisKey_injective : Function.Injective redisKey := by
  intro t t' h
  have hlist := congrArg String.toList h
  rw [redisKey, redisKey, String.toList_append, String.toList_append] at hlist
  exact String.toList_injective (List.append_cancel_left hlist)

/-- Looking a ticket up changes no text. -/
theorem lookup_consulted (ticket key : String) (c : ResultChannel) :
    (consulted ticket c).lookup key = c.redis.lookup key := by
  rw [consulted]
  split
  · rw [Redis.get_state]
    rfl
  · rfl

theorem reliable_consulted (h : c.redis.Reliable) (ticket : String) :
    (consulted ticket c).Reliable := by
  rw [consulted]
  split
  · rw [Redis.get_state]
    exact h
  · exact h

/-- Storing a record puts its body under its ticket and changes no other text. -/
theorem lookup_written (hconn : c.connected = true) (h : c.redis.TakesWrites) {r : Record}
    (hr : r.Dumpable) (t : String) :
    (written r c).lookup (redisKey t) =
      if t = r.ticket then some r.toBody.write else c.redis.lookup (redisKey t) := by
  rw [written, if_pos ⟨hconn, hr⟩, Redis.setex_state h, Redis.lookup_write]
  simp only [redisKey_injective.eq_iff]
  rfl

theorem reliable_written (h : c.redis.Reliable) (r : Record) : (written r c).Reliable := by
  rw [written]
  split
  · rw [Redis.setex_state h.takesWrites]
    exact h
  · exact h

theorem takesWrites_written (h : c.redis.TakesWrites) (r : Record) :
    (written r c).TakesWrites := by
  rw [written]
  split
  · rw [Redis.setex_state h]
    exact h
  · exact h

/-- A ticket that is neither in the map nor in Redis is not found. -/
theorem get_answer_of_lookup_none (hconn : c.connected = true) (h : c.redis.Reliable)
    (hfind : find? ticket c.records = none) (hlookup : c.redis.lookup (redisKey ticket) = none)
    (now : Timestamp) :
    ((get now ticket).run c).answer = .error (.bridge (.resultNotFound ticket)) := by
  have hredis : ((onRedis (Redis.get (redisKey ticket))).run c).answer = .ok none := by
    rw [← hlookup]
    exact Redis.get_answer h _
  have hfetch : ((fetch now ticket).run c).answer = .ok none := by
    rw [fetch, Op.answer_bind_ok (a := c) rfl]
    simp only [Op.run_get]
    rw [Op.answer_bind_ok hredis]
    rfl
  rw [get, Op.answer_bind_ok (a := c) rfl]
  simp [hfind, hconn, hfetch]

/-- A ticket that is in Redis only is answered with the record whose body is there. -/
theorem get_answer_of_lookup (hconn : c.connected = true) (h : c.redis.Reliable) {r : Record}
    (hfind : find? ticket c.records = none)
    (hlookup : c.redis.lookup (redisKey ticket) = some r.toBody.write)
    (hr : r.result.Restorable) (hdeep : Json.dumpLimit < c.nesting) (now : Timestamp) :
    ((get now ticket).run c).answer = .ok r.finiteOnly := by
  have hredis : ((onRedis (Redis.get (redisKey ticket))).run c).answer =
      .ok (some r.toBody.write) := by
    rw [← hlookup]
    exact Redis.get_answer h _
  have hfetch : ((fetch now ticket).run c).answer = .ok (some r.finiteOnly) := by
    rw [fetch, Op.answer_bind_ok (a := c) rfl]
    simp only [Op.run_get]
    rw [Op.answer_bind_ok hredis]
    simp [write_isEmpty, readStored_write now hr hdeep, Except.map]
  rw [get, Op.answer_bind_ok (a := c) rfl]
  simp [hfind, hconn, hfetch]

end ResultChannel

end CommandBridge
