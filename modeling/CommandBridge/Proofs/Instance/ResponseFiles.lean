import CommandBridge.Instance.FileQueue
import CommandBridge.Proofs.Files.Directory
import CommandBridge.Proofs.Progress
import CommandBridge.Proofs.Results.Capacity
import CommandBridge.Proofs.Text.Utf8

/-!
# CommandBridge.Proofs.Instance.ResponseFiles

What a file queue makes of the response files it finds.  What a file says of its ticket (`Says`)
depends on nothing but its bytes, and every file says something that is final.  Collecting takes
the files one by one, by name: each is removed with the request it answers, and what it says is
published (`collectFile_run_of_handled`).  What is left to collect after a file is what was left
before it, less that file (`Stocked.tail`), so the run over all files follows by induction on their
names (`collect_handles_each_response`).

That is so as long as what the files say is `Accepted`.  An outcome that cannot be dumped is stored,
but then its publication fails, and collecting with it (`undumpable_response_ends_collecting`).
-/

namespace CommandBridge.FileQueue

open CommandBridge.Path FileTree ResultChannel

/-! ## What a response file says -/

/-- The text of a response file is a JSON value. -/
def Holds (nesting : Nat) (bytes : List UInt8) (v : Json) : Prop :=
  ∃ cs, Utf8.decode bytes = .ok cs ∧
    Json.readNested nesting (String.ofList (Breaks.unify cs)) = .ok v

/-- A response file that is not nested deeper than what is read (`nesting`). -/
def Shallow (nesting : Nat) (bytes : List UInt8) : Prop :=
  ∀ cs bracket, Utf8.decode bytes = .ok cs →
    Json.readNested nesting (String.ofList (Breaks.unify cs)) ≠ .error (.tooDeep bracket)

theorem shallow_of_text {nesting : Nat} {bytes : List UInt8} {cs : List Char}
    (htext : Utf8.decode bytes = .ok cs)
    (h : ∀ bracket, Json.readNested nesting (String.ofList (Breaks.unify cs)) ≠
      .error (.tooDeep bracket)) : Shallow nesting bytes := by
  intro cs' bracket htext'
  obtain rfl := Except.ok.inj (htext.symm.trans htext')
  exact h bracket

/-- The result of a response file that cannot be read. -/
def unreadable (why : String) : Json :=
  .object [("error", .str (("Malformed response file: " : Text) ++ (why : Text)))]

/-- An object that tells of a success: its status member says so, or there is none.  Whoever
writes that a command is pending has answered it. -/
def TellsSuccess (v : Json) : Prop :=
  v.get? "status" = none ∨ v.get? "status" = some (.string "success") ∨
    v.get? "status" = some (.string "pending")

/-- What the bytes of a response file say: the status and the result of its ticket. -/
inductive Says (nesting : Nat) (bytes : List UInt8) : ResultStatus → Json → Prop where
  | notText {fault : Utf8.Malformed} (h : Utf8.decode bytes = .error fault) :
      Says nesting bytes .error (unreadable fault.message)
  | notJson {cs : List Char} {fault : Json.ReadError} (htext : Utf8.decode bytes = .ok cs)
      (h : Json.readNested nesting (String.ofList (Breaks.unify cs)) = .error fault)
      (hshallow : ∀ bracket, fault ≠ .tooDeep bracket) :
      Says nesting bytes .error (unreadable fault.message)
  | value {v : Json} (h : Holds nesting bytes v) (hplain : ∀ ms, v ≠ .obj ms) :
      Says nesting bytes .success v
  | success {ms : List (Text × Json)} (h : Holds nesting bytes (.obj ms))
      (htold : TellsSuccess (.obj ms)) :
      Says nesting bytes .success (((Json.obj ms).get? "result").getD .null)
  | failure {ms : List (Text × Json)} (h : Holds nesting bytes (.obj ms))
      (htold : ¬ TellsSuccess (.obj ms)) :
      Says nesting bytes .error (((Json.obj ms).get? "result").getD .null)

theorem outcomeOf_of_tellsSuccess {ms : List (Text × Json)} (h : TellsSuccess (.obj ms)) :
    outcomeOf (.obj ms) = (.success, ((Json.obj ms).get? "result").getD .null) := by
  rcases h with h | h | h <;> rw [outcomeOf, h] <;> rfl

theorem outcomeOf_of_not_tellsSuccess {ms : List (Text × Json)} (h : ¬ TellsSuccess (.obj ms)) :
    outcomeOf (.obj ms) = (.error, ((Json.obj ms).get? "result").getD .null) := by
  rw [TellsSuccess, not_or, not_or] at h
  obtain ⟨hthere, hsuccess, hpending⟩ := h
  obtain ⟨v, hv⟩ := Option.ne_none_iff_exists'.mp hthere
  rw [hv, Option.some.injEq] at hsuccess hpending
  rw [outcomeOf, hv, Option.getD_some]
  cases hs : ResultStatus.ofJson? v with
  | none => rfl
  | some s =>
      have hv' := List.find?_some hs
      rw [decide_eq_true_iff] at hv'
      cases s with
      | pending => exact absurd hv' hpending
      | success => exact absurd hv' hsuccess
      | error => rfl

theorem outcomeOf_of_ne_obj {v : Json} (h : ∀ ms, v ≠ .obj ms) : outcomeOf v = (.success, v) := by
  cases v with
  | obj ms => exact absurd rfl (h ms)
  | _ => rfl

/-- Every response file that is not nested too deeply says something. -/
theorem exists_says {nesting : Nat} {bytes : List UInt8} (h : Shallow nesting bytes) :
    ∃ status result, Says nesting bytes status result := by
  cases htext : Utf8.decode bytes with
  | error fault => exact ⟨_, _, .notText htext⟩
  | ok cs =>
      cases hread : Json.readNested nesting (String.ofList (Breaks.unify cs)) with
      | error fault =>
          refine ⟨_, _, .notJson htext hread ?_⟩
          rintro bracket rfl
          exact h cs bracket htext hread
      | ok v =>
          have hv : Holds nesting bytes v := ⟨cs, htext, hread⟩
          cases v with
          | obj ms =>
              by_cases htold : TellsSuccess (.obj ms)
              · exact ⟨_, _, .success hv htold⟩
              · exact ⟨_, _, .failure hv htold⟩
          | _ => exact ⟨_, _, .value hv fun ms => by simp⟩

/-- What a response file says is what is read from it. -/
theorem Says.readResponse {nesting : Nat} {bytes : List UInt8} {status : ResultStatus}
    {result : Json} (h : Says nesting bytes status result) :
    readResponse nesting bytes = .ok (status, result) := by
  have hheld : ∀ {v : Json}, Holds nesting bytes v →
      FileQueue.readResponse nesting bytes = .ok (outcomeOf v) := by
    rintro v ⟨cs, htext, hread⟩
    rw [FileQueue.readResponse, htext]
    dsimp only
    rw [hread]
  cases h with
  | notText htext => rw [FileQueue.readResponse, htext]; rfl
  | notJson htext hread hshallow =>
      rw [FileQueue.readResponse, htext]
      dsimp only
      rw [hread]
      split
      · next heq => exact absurd heq (by simp)
      · next heq => exact absurd (Except.error.inj heq) (hshallow _)
      · next heq => rw [← Except.error.inj heq]; rfl
  | value hv hplain => rw [hheld hv, outcomeOf_of_ne_obj hplain]
  | success hv htold => rw [hheld hv, outcomeOf_of_tellsSuccess htold]
  | failure hv htold => rw [hheld hv, outcomeOf_of_not_tellsSuccess htold]

/-- What a response file says depends on its bytes alone. -/
theorem Says.unique {nesting : Nat} {bytes : List UInt8} {status status' : ResultStatus}
    {result result' : Json} (h : Says nesting bytes status result)
    (h' : Says nesting bytes status' result') :
    status = status' ∧ result = result' := by
  have heq := h.readResponse.symm.trans h'.readResponse
  simpa using heq

/-- What a response file says is final. -/
theorem Says.ne_pending {nesting : Nat} {bytes : List UInt8} {status : ResultStatus}
    {result : Json} (h : Says nesting bytes status result) : status ≠ .pending := by
  cases h <;> simp

/-! ## One response file -/

/-- What a response file answers. -/
structure Answer where
  ticket : String
  status : ResultStatus
  result : Json

namespace Answer

variable (now : Timestamp) (c : ResultChannel) (a : Answer)

/-- The name of the file of an answer, and of the request that it answers. -/
def file : String := a.ticket ++ ".json"

/-- The channel after an answer was taken in: nothing is known of other tickets than tracked
ones. -/
def taken : ResultChannel :=
  match find? a.ticket c.records with
  | some r => settled (r.withOutcome now a.status a.result) c
  | none => c

/-- What is logged about an answer. -/
def entry : Log.Entry :=
  match find? a.ticket c.records with
  | some r => published (r.withOutcome now a.status a.result)
  | none => Log.event .fileQueue .warning "file_queue_unknown_ticket" [("ticket", .string a.ticket)]

/-- Whether the channel takes an answer: it takes what it does not track for nothing, and what it
tracks has to be dumped for its subscribers. -/
def Accepted : Prop := find? a.ticket c.records = none ∨ a.result.Dumpable

/-- What comes of publishing an answer: the ticket may be unknown, and the outcome is stored before
it is dumped. -/
def verdict : Except Failure Unit :=
  match find? a.ticket c.records, a.result.dumpFault? Json.dumpLimit with
  | some _, some f => .error (.fault f)
  | _, _ => .ok ()

theorem verdict_of_accepted {c : ResultChannel} {a : Answer} (h : a.Accepted c) :
    a.verdict c = .ok () := by
  rw [verdict]
  rcases h with h | h
  · rw [h]
  · rw [show a.result.dumpFault? Json.dumpLimit = none from h]
    cases find? a.ticket c.records <;> rfl

/-- The files without that of an answer and without the request that it answers. -/
def cleared (responses requests : Path) (t : FileTree) (a : Answer) : FileTree :=
  (t.erase ⟨responses.parts ++ [a.file]⟩).erase ⟨requests.parts ++ [a.file]⟩

end Answer

variable {q : FileQueue} {t : FileTree} {p d responses requests : Path} {n m ticket : String}
  {now : Timestamp} {i nesting : Nat} {h : Host} {c : ResultChannel} {a b : Answer}
  {answers : List Answer}

/-- A file that may be there is removed. -/
theorem removeIfPresent_run (hp : h.files.LeadsTo p d) (hn : IsName n)
    (hfile : h.files.entry? ⟨d.parts ++ [n]⟩ ≠ some .directory) :
    ∃ found, (removeIfPresent (p.child n)).run h =
      ⟨.ok found, { h with files := h.files.erase ⟨d.parts ++ [n]⟩ }, []⟩ := by
  cases hentry : h.files.entry? ⟨d.parts ++ [n]⟩ with
  | none =>
      have hremove : (Host.onFiles fun t => t.remove (p.child n)).run h =
          ⟨.error (FileError.notFound.at (p.child n)), h, []⟩ :=
        Host.run_onFiles_of_error (hp.remove_child_of_none hn hentry)
      refine ⟨false, ?_⟩
      rw [erase_of_none (by simp) hentry, removeIfPresent, Op.run_bind, Op.run_attempt, hremove]
      rfl
  | some e =>
      cases e with
      | directory => exact absurd hentry hfile
      | file bytes =>
          have hremove : (Host.onFiles fun t => t.remove (p.child n)).run h =
              ⟨.ok (), { h with files := h.files.erase ⟨d.parts ++ [n]⟩ }, []⟩ :=
            Host.run_onFiles_of_ok (hp.remove_child hn hentry)
          refine ⟨true, ?_⟩
          rw [removeIfPresent, Op.run_bind, Op.run_attempt, hremove]
          rfl

/-- The way to both directories of a queue. -/
structure Reached (q : FileQueue) (t : FileTree) (responses requests : Path) : Prop where
  toResponses : t.LeadsTo q.responses responses
  toRequests : t.LeadsTo q.requests requests

/-- An entry that can be handled: a file that says an answer, whose request can be removed. -/
structure Handled (nesting : Nat) (t : FileTree) (responses requests : Path) (n : String)
    (a : Answer) : Prop where
  ticket : a.ticket = stemOf n
  said : ∃ bytes, t.entry? ⟨responses.parts ++ [n]⟩ = some (.file bytes) ∧
    Says nesting bytes a.status a.result
  asked : t.entry? ⟨requests.parts ++ [n]⟩ ≠ some .directory

theorem isName_responses : IsName "responses" :=
  ⟨by decide, by decide, by decide, by decide, by decide +kernel⟩

theorem isName_requests : IsName "requests" :=
  ⟨by decide, by decide, by decide, by decide, by decide +kernel⟩

/-- The files without an entry for a response and without the request that it answers. -/
def without (responses requests : Path) (t : FileTree) (n : String) : FileTree :=
  (t.erase ⟨responses.parts ++ [n]⟩).erase ⟨requests.parts ++ [n]⟩

theorem entry_without (hp : p.parts ≠ []) :
    FileTree.entry? (without responses requests t n) p =
      if p = ⟨responses.parts ++ [n]⟩ ∨ p = ⟨requests.parts ++ [n]⟩ then none else t.entry? p := by
  rw [without, entry_erase _ _ _ hp, entry_erase _ _ _ hp]
  by_cases hrequest : p = ⟨requests.parts ++ [n]⟩
  · rw [if_pos hrequest, if_pos (.inr hrequest)]
  · by_cases hresponse : p = ⟨responses.parts ++ [n]⟩
    · rw [if_neg hrequest, if_pos hresponse, if_pos (.inl hresponse)]
    · rw [if_neg hrequest, if_neg hresponse, if_neg (by simp [hrequest, hresponse])]

/-- Removing the response first leaves the request where it is. -/
theorem Handled.asked_erase (hhandled : Handled nesting t responses requests n a) (p : Path) :
    FileTree.entry? (t.erase p) ⟨requests.parts ++ [n]⟩ ≠ some .directory := by
  rw [entry_erase _ _ _ (by simp)]
  split
  · simp
  · exact hhandled.asked

namespace Reached

variable (hreached : Reached q t responses requests)
include hreached

/-- Responses and requests are kept apart. -/
theorem apart (m n : String) :
    Path.mk (responses.parts ++ [m]) ≠ ⟨requests.parts ++ [n]⟩ := by
  obtain ⟨base, hbase⟩ := hreached.toResponses.parts_of_child isName_responses
  obtain ⟨base', hbase'⟩ := hreached.toRequests.parts_of_child isName_requests
  intro heq
  have hsame := (List.append_inj' (Path.mk.inj heq) rfl).1
  rw [hbase, hbase'] at hsame
  exact absurd (List.append_inj' hsame rfl).2 (by decide)

theorem response_without (hne : m ≠ n) :
    FileTree.entry? (without responses requests t n) ⟨responses.parts ++ [m]⟩ =
      t.entry? ⟨responses.parts ++ [m]⟩ := by
  rw [entry_without (by simp), if_neg]
  simp [hne, hreached.apart]

theorem request_without (hne : m ≠ n) :
    FileTree.entry? (without responses requests t n) ⟨requests.parts ++ [m]⟩ =
      t.entry? ⟨requests.parts ++ [m]⟩ := by
  rw [entry_without (by simp), if_neg]
  simp [hne, (hreached.apart n m).symm]

theorem without (hhandled : Handled nesting t responses requests n a) :
    Reached q (without responses requests t n) responses requests := by
  obtain ⟨bytes, hfile, -⟩ := hhandled.said
  have hleads : ∀ {p d : Path}, t.LeadsTo p d →
      (FileQueue.without responses requests t n).LeadsTo p d := fun hp =>
    (hp.erase (by simp) (by simp [hfile])).erase (by simp) (hhandled.asked_erase _)
  exact ⟨hleads hreached.toResponses, hleads hreached.toRequests⟩

end Reached

/-- A channel without Redis that holds no more records than it may. -/
structure Local (c : ResultChannel) : Prop where
  memory : c.connected = false
  within : c.Within

theorem Local.taken (hc : Local c) (now : Timestamp) (a : Answer) : Local (a.taken now c) := by
  rw [Answer.taken]
  split
  · next r hfind =>
    obtain ⟨log, hrun, -⟩ := publishOutcome_run now a.status a.result hc.within hfind
    have hwithin := within_publish now a.ticket (.string a.status.text) a.result c hc.within
    rw [← publishOutcome, hrun] at hwithin
    exact ⟨hc.memory, hwithin⟩
  · exact hc

/-- An entry that can be handled is removed with its request, and published; if its outcome cannot
be dumped, that comes out only then. -/
theorem collectFile_run_of_handled (now : Timestamp)
    (hreached : Reached q h.files responses requests) (hn : IsName n)
    (hhandled : Handled h.nesting h.files responses requests n a)
    (hholds : (h.instanceAt i).holdsChannel = true) (hlocal : Local h.results) :
    (collectFile now i q n).run h =
      ⟨a.verdict h.results, { h with
        files := without responses requests h.files n
        results := a.taken now h.results }, [a.entry now h.results]⟩ := by
  obtain ⟨bytes, hfile, hsays⟩ := hhandled.said
  have hread : responseAt h.nesting h.files (q.responses.child n) = .ok (a.status, a.result) := by
    rw [responseAt, hreached.toResponses.read_child hn hfile]
    exact hsays.readResponse
  obtain ⟨found, hanswer⟩ := removeIfPresent_run hreached.toResponses hn (by simp [hfile])
  -- the request is looked for where the response file is gone
  obtain ⟨found', hrequest⟩ : ∃ found, (removeIfPresent (q.requests.child n)).run
      { h with files := h.files.erase ⟨responses.parts ++ [n]⟩ } =
        ⟨.ok found, { h with files := without responses requests h.files n }, []⟩ :=
    removeIfPresent_run (h := { h with files := h.files.erase ⟨responses.parts ++ [n]⟩ })
      (hreached.toRequests.erase (by simp) (by simp [hfile])) hn (hhandled.asked_erase _)
  have hholds' : (({ h with
      files := without responses requests h.files n } : Host).instanceAt i).holdsChannel = true :=
    hholds
  simp only [collectFile, Op.run_bind, Op.run_get, hread, Op.run_ofExcept, Op.run_discard, hanswer,
    Except.map, hrequest, hholds', if_true, ← hhandled.ticket, Op.run_attempt, Host.onResults,
    Op.run_on, List.nil_append]
  cases hfind : find? a.ticket h.results.records with
  | none =>
      rw [publishOutcome_run_of_none now a.status a.result hlocal.memory hfind, Answer.taken,
        Answer.entry, Answer.verdict, hfind]
      rfl
  | some r =>
      obtain ⟨log, hrun, hlog⟩ := publishOutcome_run now a.status a.result hlocal.within hfind
      have hresult : (r.withOutcome now a.status a.result).result = a.result := rfl
      rw [hrun, Answer.taken, Answer.entry, Answer.verdict, hfind, hlog hlocal.memory, Record.dump,
        hresult]
      cases a.result.dumpFault? Json.dumpLimit <;> rfl

/-! ## All response files -/

/-- A response file that says an answer. -/
def Told (nesting : Nat) (t : FileTree) (responses : Path) (a : Answer) : Prop :=
  a.ticket ≠ "" ∧ ∃ bytes, t.entry? ⟨responses.parts ++ [a.file]⟩ = some (.file bytes) ∧
    Says nesting bytes a.status a.result

/-- What there is to collect: the way to both directories, and in them a file that says each
answer, and perhaps its request. -/
structure Stocked (nesting : Nat) (q : FileQueue) (responses requests : Path) (t : FileTree)
    (answers : List Answer) : Prop where
  toResponses : t.LeadsTo q.responses responses
  toRequests : t.LeadsTo q.requests requests
  named : ∀ a ∈ answers, IsName a.file
  told : ∀ a ∈ answers, Told nesting t responses a
  asked : ∀ a ∈ answers, t.entry? ⟨requests.parts ++ [a.file]⟩ ≠ some .directory

theorem file_eq_iff : a.file = b.file ↔ a.ticket = b.ticket := by
  rw [Answer.file, Answer.file, String.append_left_inj]

theorem Stocked.reached (hstock : Stocked nesting q responses requests t answers) :
    Reached q t responses requests := ⟨hstock.toResponses, hstock.toRequests⟩

theorem Stocked.handled (hstock : Stocked nesting q responses requests t (a :: answers)) :
    Handled nesting t responses requests a.file a := by
  obtain ⟨hticket, hsaid⟩ := hstock.told a List.mem_cons_self
  exact ⟨(stemOf_append hticket).symm, hsaid, hstock.asked a List.mem_cons_self⟩

/-- What is left to collect when a file was handled. -/
theorem Stocked.tail (hstock : Stocked nesting q responses requests t (a :: answers))
    (hfresh : ∀ b ∈ answers, b.ticket ≠ a.ticket) :
    Stocked nesting q responses requests (a.cleared responses requests t) answers := by
  have hother : ∀ b ∈ answers, b.file ≠ a.file := fun b hb heq =>
    hfresh b hb (file_eq_iff.mp heq)
  obtain ⟨htoResponses, htoRequests⟩ := hstock.reached.without hstock.handled
  refine ⟨htoResponses, htoRequests, fun b hb => hstock.named b (List.mem_cons_of_mem a hb),
    fun b hb => ?_, fun b hb => ?_⟩
  · have hsame := hstock.reached.response_without (hother b hb)
    rw [Told, Answer.cleared, ← without, hsame]
    exact hstock.told b (List.mem_cons_of_mem a hb)
  · have hsame := hstock.reached.request_without (hother b hb)
    rw [Answer.cleared, ← without, hsame]
    exact hstock.asked b (List.mem_cons_of_mem a hb)

theorem find?_taken (now : Timestamp) (a : Answer) (c : ResultChannel) (ticket : String) :
    find? ticket (a.taken now c).records =
      if ticket = a.ticket then (find? ticket c.records).map (·.withOutcome now a.status a.result)
      else find? ticket c.records := by
  rw [Answer.taken]
  split
  · next r hfind =>
    have hticket : (r.withOutcome now a.status a.result).ticket = a.ticket := by
      show r.ticket = a.ticket
      exact ticket_of_find? hfind
    rw [settled, find?_insertNewest, hticket]
    split
    · next heq => rw [heq, hfind, Option.map_some]
    · rfl
  · next hfind =>
    split
    · next heq => rw [heq, hfind, Option.map_none]
    · rfl

/-- Whether an answer is accepted does not change when another one is taken. -/
theorem Answer.accepted_taken (now : Timestamp) (a b : Answer) (c : ResultChannel) :
    b.Accepted (a.taken now c) ↔ b.Accepted c := by
  rw [Accepted, Accepted, find?_taken]
  split <;> simp

theorem Answer.Accepted.taken (hb : b.Accepted c) (now : Timestamp) (a : Answer) :
    b.Accepted (a.taken now c) := (accepted_taken now a b c).mpr hb

/-- What is logged about an answer depends on what its record was, and not on its last outcome. -/
theorem entry_taken (now : Timestamp) (c : ResultChannel) :
    b.entry now (a.taken now c) = b.entry now c := by
  rw [Answer.entry, Answer.entry, find?_taken]
  by_cases hticket : b.ticket = a.ticket
  · rw [if_pos hticket]
    cases find? b.ticket c.records with
    | none => rfl
    | some r =>
        -- the record differs in its outcome only, and that is replaced
        have hsame : (r.withOutcome now a.status a.result).withOutcome now b.status b.result =
            r.withOutcome now b.status b.result := rfl
        rw [Option.map_some]
        dsimp only
        rw [hsame]
  · rw [if_neg hticket]

/-- All files are handled, one after the other. -/
theorem collectFiles_run (now : Timestamp) (i : Nat)
    (hstock : Stocked h.nesting q responses requests h.files answers)
    (hapart : (answers.map Answer.ticket).Nodup)
    (hholds : (h.instanceAt i).holdsChannel = true) (hlocal : Local h.results)
    (haccepted : ∀ a ∈ answers, a.Accepted h.results) :
    ((answers.map Answer.file).forM (collectFile now i q)).run h =
      ⟨.ok (), { h with
        files := answers.foldl (Answer.cleared responses requests) h.files
        results := answers.foldl (Answer.taken now) h.results },
        answers.map (Answer.entry now h.results)⟩ := by
  induction answers generalizing h with
  | nil => rfl
  | cons a answers ih =>
      rw [List.map_cons, List.nodup_cons] at hapart
      have hfresh : ∀ b ∈ answers, b.ticket ≠ a.ticket := by
        rintro b hb heq
        exact hapart.1 (List.mem_map.mpr ⟨b, hb, heq⟩)
      have hfirst : (collectFile now i q a.file).run h = ⟨.ok (), { h with
          files := a.cleared responses requests h.files
          results := a.taken now h.results }, [a.entry now h.results]⟩ := by
        rw [← Answer.verdict_of_accepted (haccepted a List.mem_cons_self)]
        exact collectFile_run_of_handled now hstock.reached (hstock.named a List.mem_cons_self)
          hstock.handled hholds hlocal
      have hrest := ih (h := { h with
        files := a.cleared responses requests h.files
        results := a.taken now h.results }) (hstock.tail hfresh) hapart.2 hholds
          (hlocal.taken now a)
          fun b hb => (haccepted b (List.mem_cons_of_mem a hb)).taken now a
      have hentries : answers.map (Answer.entry now (a.taken now h.results)) =
          answers.map (Answer.entry now h.results) :=
        List.map_congr_left fun b hb => entry_taken now h.results
      show (collectFile now i q a.file >>= fun _ =>
        (answers.map Answer.file).forM (collectFile now i q)).run h = _
      rw [Op.run_bind, hfirst]
      dsimp only
      rw [hrest, hentries]
      rfl

theorem entry_foldl_cleared (answers : List Answer) (t : FileTree) (hp : p.parts ≠ []) :
    FileTree.entry? (answers.foldl (Answer.cleared responses requests) t) p =
      if ∃ a ∈ answers, p = ⟨responses.parts ++ [a.file]⟩ ∨ p = ⟨requests.parts ++ [a.file]⟩
      then none else t.entry? p := by
  induction answers generalizing t with
  | nil => simp
  | cons a answers ih =>
      have hfirst : FileTree.entry? (a.cleared responses requests t) p =
          if p = ⟨responses.parts ++ [a.file]⟩ ∨ p = ⟨requests.parts ++ [a.file]⟩ then none
          else t.entry? p := entry_without hp
      rw [List.foldl_cons, ih, hfirst]
      by_cases hrest : ∃ b ∈ answers, p = ⟨responses.parts ++ [b.file]⟩ ∨
          p = ⟨requests.parts ++ [b.file]⟩
      · obtain ⟨b, hb, hpath⟩ := hrest
        rw [if_pos ⟨b, hb, hpath⟩, if_pos ⟨b, List.mem_cons_of_mem a hb, hpath⟩]
      · rw [if_neg hrest]
        simp only [List.exists_mem_cons_iff, hrest, or_false]

theorem find?_foldl_taken_of_not_mem (now : Timestamp) (c : ResultChannel)
    (h : ∀ a ∈ answers, a.ticket = ticket → find? ticket c.records = none) :
    find? ticket (answers.foldl (Answer.taken now) c).records = find? ticket c.records := by
  induction answers generalizing c with
  | nil => rfl
  | cons a answers ih =>
      have hfirst : find? ticket (a.taken now c).records = find? ticket c.records := by
        rw [find?_taken]
        split
        · next heq => rw [h a List.mem_cons_self heq.symm, Option.map_none]
        · rfl
      rw [List.foldl_cons, ih, hfirst]
      intro b hb heq
      rw [hfirst]
      exact h b (List.mem_cons_of_mem a hb) heq

theorem find?_foldl_taken (now : Timestamp) (c : ResultChannel)
    (hapart : (answers.map Answer.ticket).Nodup) {r : Record} (ha : a ∈ answers)
    (hfind : find? a.ticket c.records = some r) :
    find? a.ticket (answers.foldl (Answer.taken now) c).records =
      some (r.withOutcome now a.status a.result) := by
  induction answers generalizing c with
  | nil => exact absurd ha (by simp)
  | cons b answers ih =>
      rw [List.map_cons, List.nodup_cons] at hapart
      rw [List.foldl_cons]
      rcases List.mem_cons.mp ha with rfl | ha
      · have hlater : ∀ x ∈ answers, x.ticket = a.ticket →
            find? a.ticket (a.taken now c).records = none := by
          rintro x hx heq
          exact absurd (List.mem_map.mpr ⟨x, hx, heq⟩) hapart.1
        rw [find?_foldl_taken_of_not_mem now _ hlater, find?_taken, if_pos rfl, hfind,
          Option.map_some]
      · have hne : a.ticket ≠ b.ticket := by
          intro heq
          exact hapart.1 (List.mem_map.mpr ⟨a, ha, heq⟩)
        refine ih _ hapart.2 ha ?_
        rw [find?_taken, if_neg hne, hfind]

/-! ## Collecting -/

/-- The directories of a queue as a file system keeps them: each path is there once, whatever is
in the one for responses under a name that ends with `.json` is the response file of a ticket, and
there are only files in the one for requests. -/
structure InOrder (nesting : Nat) (q : FileQueue) (t : FileTree) (responses requests : Path) :
    Prop where
  unique : (t.entries.map Prod.fst).Nodup
  toResponses : t.LeadsTo q.responses responses
  toRequests : t.LeadsTo q.requests requests
  answers : ∀ n e, t.entry? ⟨responses.parts ++ [n]⟩ = some e → ".json".toList <:+ n.toList →
    n ≠ ".json" ∧ IsName n ∧ ∃ bytes, e = .file bytes ∧ Shallow nesting bytes
  asked : ∀ n, t.entry? ⟨requests.parts ++ [n]⟩ ≠ some .directory

/-- What collecting some answers in their order comes to. -/
structure Collected (now : Timestamp) (h : Host) (responses requests : Path)
    (answers : List Answer) (o : Outcome Host Nat) : Prop where
  /-- It says how many there were. -/
  answer : o.answer = .ok answers.length
  /-- Each was published or logged as unknown, once and in this order. -/
  log : o.log = answers.map (Answer.entry now h.results)
  results : o.state.results = answers.foldl (Answer.taken now) h.results
  /-- Nothing but files and results has changed. -/
  host : o.state = { h with files := o.state.files, results := o.state.results }
  /-- A tracked ticket has what its file says, and that is final. -/
  tracked : ∀ a ∈ answers, ∀ r, find? a.ticket h.results.records = some r →
    find? a.ticket o.state.results.records = some (r.withOutcome now a.status a.result)
  final : ∀ a ∈ answers, a.status ≠ .pending
  /-- Tickets that are not tracked stay so, and those without a file stay as they were. -/
  untouched : ∀ ticket, (∀ a ∈ answers, a.ticket = ticket →
    find? ticket h.results.records = none) →
    find? ticket o.state.results.records = find? ticket h.results.records
  /-- No response file is left, and no request that was answered. -/
  noResponse : ∀ n, ".json".toList <:+ n.toList →
    o.state.files.entry? ⟨responses.parts ++ [n]⟩ = none
  noRequest : ∀ a ∈ answers, o.state.files.entry? ⟨requests.parts ++ [a.file]⟩ = none
  /-- All other files are left. -/
  others : ∀ p : Path, p.parts ≠ [] → (∀ a ∈ answers, p ≠ ⟨responses.parts ++ [a.file]⟩ ∧
    p ≠ ⟨requests.parts ++ [a.file]⟩) → o.state.files.entry? p = h.files.entry? p

/-- A response file says one thing. -/
theorem Told.unique (ha : Told nesting t responses a) (hb : Told nesting t responses b)
    (h : a.file = b.file) : a = b := by
  obtain ⟨-, bytes, hentry, hsays⟩ := ha
  obtain ⟨-, bytes', hentry', hsays'⟩ := hb
  rw [h, hentry'] at hentry
  obtain rfl : bytes' = bytes := by simpa using hentry
  obtain ⟨hstatus, hresult⟩ := hsays.unique hsays'
  cases a
  cases b
  simp_all [file_eq_iff]

theorem exists_ticket {n : String} (h : ".json".toList <:+ n.toList) :
    ∃ ticket, n = ticket ++ ".json" := by
  obtain ⟨before, hbefore⟩ := h
  refine ⟨String.ofList before, String.toList_inj.mp ?_⟩
  rw [String.toList_append, String.toList_ofList, hbefore]

/-- Every response file says something. -/
theorem InOrder.exists_told (hfiles : InOrder nesting q t responses requests) {e : Entry}
    (hentry : t.entry? ⟨responses.parts ++ [n]⟩ = some e) (hsuffix : ".json".toList <:+ n.toList) :
    ∃ a : Answer, a.file = n ∧ Told nesting t responses a ∧ IsName n := by
  obtain ⟨hne, hname, bytes, rfl, hshallow⟩ := hfiles.answers n e hentry hsuffix
  obtain ⟨ticket, rfl⟩ := exists_ticket hsuffix
  obtain ⟨status, result, hsays⟩ := exists_says hshallow
  have hticket : ticket ≠ "" := by
    rintro rfl
    exact hne (by simp)
  exact ⟨⟨ticket, status, result⟩, rfl, ⟨hticket, bytes, hentry, hsays⟩, hname⟩

/-- The names that are collected are those of the response files that say something. -/
theorem exists_answers (hfiles : InOrder nesting q t responses requests) :
    ∃ answers : List Answer, answers.map Answer.file = t.names q.responses ".json" ∧
      (∀ a, a ∈ answers ↔ Told nesting t responses a) ∧ ∀ a ∈ answers, IsName a.file := by
  have hnames := (names_spec ".json" hfiles.toResponses.way hfiles.unique).1
  have hthere : ∀ n, n ∈ t.names q.responses ".json" →
      ∃ a : Answer, a.file = n ∧ Told nesting t responses a ∧ IsName n := by
    intro n hn
    obtain ⟨⟨e, he⟩, hsuffix⟩ := (hnames n).mp hn
    exact hfiles.exists_told ((entry_eq_some_iff hfiles.unique (by simp)).mpr he) hsuffix
  have hinhabited : Nonempty Answer := ⟨⟨"", .error, .null⟩⟩
  choose! answer hfile htold hname using hthere
  refine ⟨(t.names q.responses ".json").map answer, ?_, fun a => ⟨fun ha => ?_, fun ha => ?_⟩,
    fun a ha => ?_⟩
  · rw [List.map_map]
    exact (List.map_congr_left (g := id) hfile).trans (List.map_id _)
  · obtain ⟨n, hn, rfl⟩ := List.mem_map.mp ha
    exact htold n hn
  · have htell := ha
    obtain ⟨-, bytes, hentry, -⟩ := ha
    have hn : a.file ∈ t.names q.responses ".json" := by
      refine (hnames _).mpr ⟨⟨_, (entry_eq_some_iff hfiles.unique (by simp)).mp hentry⟩, ?_⟩
      rw [Answer.file, String.toList_append]
      exact List.suffix_append _ _
    rw [← Told.unique (htold _ hn) htell (hfile _ hn)]
    exact List.mem_map_of_mem hn
  · obtain ⟨n, hn, rfl⟩ := List.mem_map.mp ha
    rw [hfile n hn]
    exact hname n hn

theorem collect_run (now : Timestamp) (i : Nat) (q : FileQueue) (h : Host) :
    (collect now i q).run h =
      let o := ((h.files.names q.responses ".json").forM (collectFile now i q)).run h
      ⟨o.answer.map fun _ => (h.files.names q.responses ".json").length, o.state, o.log⟩ := by
  rw [collect, Op.run_get_bind, Op.run_bind]
  rcases ((h.files.names q.responses ".json").forM (collectFile now i q)).run h with
    ⟨_ | _, h', log⟩
  · rfl
  · simp [Except.map]

/-- Whatever the response files hold, if the outcomes of tracked tickets can be dumped, collecting
handles each file once, in the order of their names, and says how many there were.  No response file
is left, and no request that was answered.  Each tracked ticket has its outcome, which is what the
bytes of its file say, and tickets that are not tracked are only logged. -/
theorem collect_handles_each_response (now : Timestamp) (i : Nat)
    (hfiles : InOrder h.nesting q h.files responses requests)
    (hholds : (h.instanceAt i).holdsChannel = true) (hlocal : Local h.results)
    (haccepted : ∀ a, Told h.nesting h.files responses a → a.Accepted h.results) :
    ∃ answers : List Answer, (∀ a, a ∈ answers ↔ Told h.nesting h.files responses a) ∧
      ((answers.map Answer.file).Pairwise fun m n => m.toList < n.toList) ∧
      Collected now h responses requests answers ((collect now i q).run h) := by
  obtain ⟨answers, hnames, htold, hnamed⟩ := exists_answers hfiles
  have hsorted := (names_spec ".json" hfiles.toResponses.way hfiles.unique).2
  rw [← hnames] at hsorted
  have hapart : (answers.map Answer.ticket).Nodup := by
    have hnodup : (answers.map Answer.file).Nodup := by
      refine hsorted.imp ?_
      rintro m n hlt rfl
      exact List.lt_irrefl _ hlt
    refine List.Nodup.of_map (· ++ ".json") ?_
    rwa [List.map_map]
  have hstock : Stocked h.nesting q responses requests h.files answers :=
    ⟨hfiles.toResponses, hfiles.toRequests, hnamed, fun a ha => (htold a).mp ha,
      fun a _ => hfiles.asked a.file⟩
  have hrun : (collect now i q).run h = ⟨.ok answers.length, { h with
      files := answers.foldl (Answer.cleared responses requests) h.files
      results := answers.foldl (Answer.taken now) h.results },
      answers.map (Answer.entry now h.results)⟩ := by
    rw [collect_run, ← hnames, collectFiles_run now i hstock hapart hholds hlocal
      fun a ha => haccepted a ((htold a).mp ha), List.length_map]
    rfl
  refine ⟨answers, htold, hsorted, ?_⟩
  rw [hrun]
  exact {
    answer := rfl
    log := rfl
    results := rfl
    host := rfl
    tracked := fun a ha r hr => find?_foldl_taken now h.results hapart ha hr
    final := fun a ha => by
      obtain ⟨-, bytes, -, hsays⟩ := (htold a).mp ha
      exact hsays.ne_pending
    untouched := fun ticket hnone => find?_foldl_taken_of_not_mem now h.results hnone
    noResponse := fun n hn => by
      rw [entry_foldl_cleared _ _ (by simp)]
      split
      · rfl
      · next hother =>
        rw [Option.eq_none_iff_forall_ne_some]
        intro e hentry
        obtain ⟨a, rfl, ha, -⟩ := hfiles.exists_told hentry hn
        exact hother ⟨a, (htold a).mpr ha, .inl rfl⟩
    noRequest := fun a ha => by
      rw [entry_foldl_cleared _ _ (by simp), if_pos ⟨a, ha, .inr rfl⟩]
    others := fun p hp hother => by
      rw [entry_foldl_cleared _ _ hp, if_neg]
      rintro ⟨a, ha, hpath | hpath⟩
      · exact (hother a ha).1 hpath
      · exact (hother a ha).2 hpath }

/-! A queue in the directory `q`, with a response to a tracked command and one to a ticket that
nobody knows, which is not JSON. -/

def sample : FileQueue := ⟨⟨["q"]⟩, .int 1, 1, none⟩

def sampleHost : Host where
  instances := [{ adapter := .fileQueue sample, holdsChannel := true }]
  results := { capacity := 10, ttl := 60, records := [⟨"t", .callTool, "x", .pending, .null, ""⟩] }
  files := ⟨[(⟨["q"]⟩, .directory), (⟨["q", "requests"]⟩, .directory),
    (⟨["q", "responses"]⟩, .directory), (⟨["q", "responses", "t.json"]⟩, .file [55]),
    (⟨["q", "responses", "u.json"]⟩, .file [91]), (⟨["q", "requests", "t.json"]⟩, .file [])]⟩

theorem inOrder_sample :
    InOrder sampleHost.nesting sample sampleHost.files ⟨["q", "responses"]⟩
      ⟨["q", "requests"]⟩ where
  unique := by decide
  toResponses := ⟨rfl, rfl, by decide⟩
  toRequests := ⟨rfl, rfl, by decide⟩
  answers := by
    have hunique : (sampleHost.files.entries.map Prod.fst).Nodup := by decide
    intro n e hentry _
    rw [entry_eq_some_iff hunique (by simp)] at hentry
    have hfile : n = "t.json" ∧ e = .file [55] ∨ n = "u.json" ∧ e = .file [91] := by
      simpa [sampleHost] using hentry
    rcases hfile with ⟨rfl, rfl⟩ | ⟨rfl, rfl⟩
    · have hread : Json.readNested sampleHost.nesting
          (String.ofList (Breaks.unify ['7'])) = .ok (.int 7) := rfl
      have hseven : [55] = ['7'].flatMap Utf8.encodeChar := by decide
      exact ⟨by decide, ⟨by decide, by decide, by decide, by decide, by decide⟩, _, rfl,
        shallow_of_text (Utf8.decode_eq_ok_iff.mpr hseven) (by simp [hread])⟩
    · have hread : Json.readNested sampleHost.nesting
          (String.ofList (Breaks.unify ['['])) = .error (.malformed .expectingValue 1 2 1) := rfl
      have hbracket : [91] = ['['].flatMap Utf8.encodeChar := by decide
      exact ⟨by decide, ⟨by decide, by decide, by decide, by decide, by decide⟩, _, rfl,
        shallow_of_text (Utf8.decode_eq_ok_iff.mpr hbracket) (by simp [hread])⟩
  asked := by
    have hunique : (sampleHost.files.entries.map Prod.fst).Nodup := by decide
    intro n hentry
    rw [entry_eq_some_iff hunique (by simp)] at hentry
    simp [sampleHost] at hentry

theorem says_seven : Says sampleHost.nesting [55] .success (.int 7) :=
  .value ⟨['7'], Utf8.decode_eq_ok_iff.mpr (by decide), rfl⟩ (by simp)

/-- The outcome of the tracked ticket can be dumped. -/
theorem accepted_sample (a : Answer)
    (ha : Told sampleHost.nesting sampleHost.files ⟨["q", "responses"]⟩ a) :
    a.Accepted sampleHost.results := by
  by_cases hticket : a.ticket = "t"
  · obtain ⟨-, bytes, hentry, hseven⟩ := ha
    have hfile : sampleHost.files.entry? ⟨["q", "responses", "t.json"]⟩ = some (.file [55]) := by
      decide
    have hpath : (⟨["q", "responses"] ++ [a.file]⟩ : Path) = ⟨["q", "responses", "t.json"]⟩ := by
      rw [Answer.file, hticket]
      decide
    rw [hpath, hfile] at hentry
    obtain rfl : [55] = bytes := by simpa using hentry
    right
    rw [(hseven.unique says_seven).2]
    rfl
  · left
    simpa [find?, sampleHost] using Ne.symm hticket

/-- The tracked ticket of the sample has its result, and the other one is as unknown as before. -/
theorem collect_handles_each_response_sample :
    (sampleHost.instanceAt 0).holdsChannel = true ∧ Local sampleHost.results ∧
      find? "t" ((collect ⟨0⟩ 0 sample).run sampleHost).state.results.records =
        some ⟨"t", .callTool, "x", .success, .int 7, (⟨0⟩ : Timestamp).text⟩ ∧
      find? "u" ((collect ⟨0⟩ 0 sample).run sampleHost).state.results.records = none ∧
      ∀ n, ".json".toList <:+ n.toList →
        FileTree.entry? ((collect ⟨0⟩ 0 sample).run sampleHost).state.files
          ⟨["q", "responses", n]⟩ = none := by
  have hlocal : Local sampleHost.results := ⟨rfl, .inr (by decide)⟩
  obtain ⟨answers, htold, -, hcollected⟩ :=
    collect_handles_each_response ⟨0⟩ 0 inOrder_sample rfl hlocal accepted_sample
  have hseven : (⟨"t", .success, .int 7⟩ : Answer) ∈ answers :=
    (htold _).mpr ⟨by decide, [55], by decide, says_seven⟩
  exact ⟨rfl, hlocal, hcollected.tracked _ hseven _ rfl,
    hcollected.untouched "u" fun _ _ _ => rfl, hcollected.noResponse⟩

/-! The same queue, with a response to another tracked command: a list with an object in it, whose
only member has half of a surrogate pair as its name. -/

def unspeakable : Json := .arr [.obj [([.surrogate ⟨0, by decide⟩], .int 1)]]

def unspeakableHost : Host :=
  { sampleHost with
    results := { sampleHost.results with
      records := ⟨"s", .callTool, "x", .pending, .null, ""⟩ :: sampleHost.results.records }
    files := ⟨(⟨["q", "responses", "s.json"]⟩,
      .file [91, 123, 34, 92, 117, 100, 56, 48, 48, 34, 58, 49, 125, 93]) ::
        sampleHost.files.entries⟩ }

theorem reached_unspeakable :
    Reached sample unspeakableHost.files ⟨["q", "responses"]⟩ ⟨["q", "requests"]⟩ :=
  ⟨⟨rfl, rfl, by decide⟩, ⟨rfl, rfl, by decide⟩⟩

theorem handled_unspeakable :
    Handled unspeakableHost.nesting unspeakableHost.files ⟨["q", "responses"]⟩
      ⟨["q", "requests"]⟩ "s.json" ⟨"s", .success, unspeakable⟩ where
  ticket := by decide +kernel
  said := by
    have htext : [91, 123, 34, 92, 117, 100, 56, 48, 48, 34, 58, 49, 125, 93] =
        ['[', '\x7b', '"', '\\', 'u', 'd', '8', '0', '0', '"', ':', '1', '\x7d', ']'].flatMap
          Utf8.encodeChar := by decide
    exact ⟨_, rfl, .value ⟨_, Utf8.decode_eq_ok_iff.mpr htext, by decide +kernel⟩ nofun⟩
  asked := by decide

theorem names_unspeakable :
    unspeakableHost.files.names sample.responses ".json" = ["s.json", "t.json", "u.json"] := by
  have hlisted : unspeakableHost.files.names sample.responses ".json" =
      ["s.json", "t.json", "u.json"].mergeSort before := rfl
  rw [hlisted]
  exact List.mergeSort_of_pairwise (by decide)

/-- The outcome of the first response is stored, but it cannot be dumped: collecting fails there,
and leaves the other responses. -/
theorem undumpable_response_ends_collecting :
    let o := (collect ⟨0⟩ 0 sample).run unspeakableHost
    (∃ f, unspeakable.dumpFault? Json.dumpLimit = some f ∧ o.answer = .error (.fault f)) ∧
      find? "s" o.state.results.records =
        some ⟨"s", .callTool, "x", .success, unspeakable, (⟨0⟩ : Timestamp).text⟩ ∧
      find? "t" o.state.results.records = some ⟨"t", .callTool, "x", .pending, .null, ""⟩ ∧
      FileTree.entry? o.state.files ⟨["q", "responses", "t.json"]⟩ = some (.file [55]) := by
  have hname : IsName "s.json" := ⟨by decide, by decide, by decide, by decide, by decide⟩
  have hrun := collectFile_run_of_handled (i := 0) ⟨0⟩ reached_unspeakable hname
    handled_unspeakable rfl ⟨rfl, .inr (by decide)⟩
  dsimp only
  rw [collect_run, names_unspeakable, Op.forM_cons, Op.run_bind, hrun]
  exact ⟨⟨_, rfl, rfl⟩, rfl, rfl, rfl⟩

end CommandBridge.FileQueue
