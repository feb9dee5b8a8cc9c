import CommandBridge.Instance.FileQueue
import CommandBridge.Proofs.Files.Directory
import CommandBridge.Proofs.Json.Ascii
import CommandBridge.Proofs.Json.RoundTrip
import CommandBridge.Proofs.Trail

/-!
# CommandBridge.Proofs.Instance.RequestFiles

What becomes of a command that is delivered to a file queue (`deliver_all_or_nothing`).  It is
accepted if and only if its request file can be written, which is said by `Place`, and then that
file is all that is new.  Otherwise no request is touched; all that may be left is a file under the
temporary name.

The text is ASCII and is read back as the message (`read_messageBytes`).

While the file is written, the requests that a reader finds are complete (`Complete`): they are
those of before, or the new one with its whole message.  `Visits` says which trees a reader can
find, and it does not matter how much of the text is written at a time.
-/

namespace CommandBridge.FileQueue

open CommandBridge.Path FileTree

variable {q : FileQueue} {c : Command} {h : Host} {t u v : FileTree} {p d x : Path}
  {ticket : String} {bytes : List UInt8} {contents : List (List UInt8)} {xs : List Path}

/-! ## Messages -/

/-- A message is nested one deeper than the arguments in it. -/
theorem readable_toMessage {depth : Nat} (h : Json.Readable depth c.arguments) :
    Json.Readable (depth + 1) c.toMessage := by
  have hnames : (["requestId", "kind", "target", "arguments", "issuedAt"].map
      Text.ofString).Nodup := by decide
  refine .obj (by simpa only [List.map_cons, List.map_nil] using hnames) ?_ ?_
  · intro m hm
    simp only [List.mem_map] at hm
    obtain ⟨m, -, rfl⟩ := hm
    exact Json.isScalar_ofString m.1
  · have hstring : ∀ s : String, Json.Readable depth (.string s) :=
      fun s => .str (Json.isScalar_ofString s)
    simp [hstring, h]

/-- The text of a message is read back as the message. -/
theorem read_messageBytes {depth : Nat} (h : Json.Readable depth c.arguments) :
    ∃ text, Utf8.decode (messageBytes c) = .ok text ∧
      Json.readNested (depth + 1) (String.ofList text) = .ok c.toMessage :=
  ⟨_, Json.decode_encode_write _, Json.readNested_write (readable_toMessage h)⟩

/-! ## Names -/

/-- A ticket that a file can be named after. -/
structure NamesFile (ticket : String) : Prop where
  ne_empty : ticket ≠ ""
  noSlash : '/' ∉ ticket.toList
  noNul : '\x00' ∉ ticket.toList

/-- Hexadecimal digits name a file. -/
theorem namesFile_of_hex (hempty : ticket ≠ "")
    (hhex : ∀ c ∈ ticket.toList, (Json.hexDigit? (.scalar c)).isSome = true) :
    NamesFile ticket where
  ne_empty := hempty
  noSlash hmem := absurd (hhex _ hmem) (by decide)
  noNul hmem := absurd (hhex _ hmem) (by decide)

/-- So every ticket that is drawn names a file. -/
theorem namesFile_ticketOf (n : Nat) : NamesFile (ticketOf n) := by
  have htext : (ticketOf n).toList = Json.hexDigits 32 n := String.toList_ofList
  refine namesFile_of_hex ?_ fun c hc => ?_
  · intro hempty
    rw [hempty] at htext
    exact Nat.toDigits_ne_nil (List.append_eq_nil_iff.mp htext.symm).2
  · exact Json.isSome_hexDigit?_of_mem_hexDigits (htext ▸ hc)

/-- The path of the request of a ticket in a directory. -/
def request (d : Path) (ticket : String) : Path := ⟨d.parts ++ [ticket ++ ".json"]⟩

/-- The path under which the request is written at first. -/
def draft (d : Path) (ticket : String) : Path := ⟨d.parts ++ [ticket ++ ".tmp"]⟩

theorem utf8ByteSize_json (ticket : String) :
    (ticket ++ ".json").utf8ByteSize = ticket.utf8ByteSize + 5 := String.utf8ByteSize_append

theorem utf8ByteSize_tmp (ticket : String) :
    (ticket ++ ".tmp").utf8ByteSize = ticket.utf8ByteSize + 4 := String.utf8ByteSize_append

/-- A name with a suffix is longer than what paths treat in a special way. -/
theorem json_ne (ticket : String) {s : String} (hs : s.utf8ByteSize < 5) :
    ticket ++ ".json" ≠ s := by
  rintro rfl
  rw [utf8ByteSize_json] at hs
  omega

theorem tmp_ne (ticket : String) {s : String} (hs : s.utf8ByteSize < 4) :
    ticket ++ ".tmp" ≠ s := by
  rintro rfl
  rw [utf8ByteSize_tmp] at hs
  omega

theorem requests_ne (q : FileQueue) : q.requests.parts ≠ [] := by
  have hrequests : q.requests = ⟨q.directory.parts ++ ["requests"]⟩ :=
    child_of_noSlash (by decide) (by decide) (by decide) _
  simp [hrequests]

theorem requestPath_eq (hticket : NamesFile ticket) (q : FileQueue) :
    q.requestPath ticket = request q.requests ticket :=
  child_of_noSlash (json_ne ticket (by decide)) (json_ne ticket (by decide))
    (by simp [hticket.noSlash]) _

theorem name_request (d : Path) (ticket : String) :
    (request d ticket).name = ticket ++ ".json" := by
  simp [request, Path.name]

theorem temporary_request (hticket : NamesFile ticket) (d : Path) :
    temporary (request d ticket) = draft d ticket := by
  rw [temporary, withSuffix, name_request, stemOf_append hticket.ne_empty, request, draft,
    List.dropLast_concat]

theorem draft_ne_request (d : Path) (ticket : String) : draft d ticket ≠ request d ticket := by
  intro heq
  have hname : ticket ++ ".tmp" = ticket ++ ".json" :=
    (List.cons.inj (List.append_cancel_left (congrArg Path.parts heq))).1
  have hsize := congrArg String.utf8ByteSize hname
  rw [utf8ByteSize_tmp, utf8ByteSize_json] at hsize
  omega

/-- A request that is written at first is not among the requests. -/
theorem ne_draft (hp : ".json".toList <:+ p.name.toList) (d : Path) (ticket : String) :
    p ≠ draft d ticket := by
  rintro rfl
  have hname : (draft d ticket).name = ticket ++ ".tmp" := by simp [draft, Path.name]
  rw [hname, String.toList_append] at hp
  have hsuffix := List.suffix_of_suffix_length_le
    (List.suffix_append ticket.toList ".tmp".toList) hp (by decide)
  exact absurd hsuffix (by decide)

/-! ## What changes -/

/-- At most the files at some paths differ. -/
structure OnlyChanges (xs : List Path) (t u : FileTree) : Prop where
  others : ∀ p : Path, p.parts ≠ [] → p ∉ xs → u.entry? p = t.entry? p
  directories : ∀ p, t.entry? p = some .directory → u.entry? p = some .directory

namespace OnlyChanges

/-- Where no directory was, none is lost. -/
theorem of_others (hothers : ∀ p : Path, p.parts ≠ [] → p ∉ xs → u.entry? p = t.entry? p)
    (hxs : ∀ x ∈ xs, t.entry? x ≠ some .directory) : OnlyChanges xs t u where
  others := hothers
  directories p hp := by
    by_cases hempty : p.parts = []
    · simp [ entry?, hempty]
    · rw [hothers p hempty fun hmem => hxs p hmem hp, hp]

theorem refl (xs : List Path) (t : FileTree) : OnlyChanges xs t t := ⟨fun _ _ _ => rfl, fun _ => id⟩

theorem trans (h : OnlyChanges xs t u) (h' : OnlyChanges xs u v) : OnlyChanges xs t v where
  others p hp hmem := (h'.others p hp hmem).trans (h.others p hp hmem)
  directories p hp := h'.directories p (h.directories p hp)

theorem mono {ys : List Path} (h : OnlyChanges xs t u) (hsub : xs ⊆ ys) : OnlyChanges ys t u :=
  ⟨fun p hp hmem => h.others p hp fun hx => hmem (hsub hx), h.directories⟩

theorem leadsTo (h : OnlyChanges xs t u) (hd : t.LeadsTo p d) : u.LeadsTo p d :=
  hd.mono h.directories

/-- A file is put in place. -/
theorem set (hx : t.entry? x ≠ some .directory) : OnlyChanges [x] t (t.set x (.file bytes)) :=
  of_others (fun p hp hne => by rw [entry_set _ _ _ _ hp, if_neg (by simpa using hne)])
    (by simpa using hx)

end OnlyChanges

/-- A request is written: it is there as a whole, its draft is not, and nothing else changes. -/
structure Written (d : Path) (ticket : String) (bytes : List UInt8) (t u : FileTree) : Prop
    extends OnlyChanges [request d ticket, draft d ticket] t u where
  whole : u.entry? (request d ticket) = some (.file bytes)
  tidy : u.entry? (draft d ticket) = none

/-- What was changed about the draft before does not matter. -/
theorem Written.after (h : OnlyChanges [draft d ticket] t u) (h' : Written d ticket bytes u v) :
    Written d ticket bytes t v where
  toOnlyChanges := (h.mono (by simp)).trans h'.toOnlyChanges
  whole := h'.whole
  tidy := h'.tidy

/-- A draft that becomes the request. -/
theorem written_rename (hrequest : t.entry? (request d ticket) ≠ some .directory)
    (hdraft : t.entry? (draft d ticket) ≠ some .directory) :
    Written d ticket bytes t
      ((t.erase (draft d ticket)).set (request d ticket) (.file bytes)) where
  toOnlyChanges := by
    refine .of_others (fun p hp hne => ?_) (by simp [hrequest, hdraft])
    have hne : p ≠ request d ticket ∧ p ≠ draft d ticket := by simpa using hne
    rw [entry_set _ _ _ _ hp, if_neg hne.1, entry_erase _ _ _ hp, if_neg hne.2]
  whole := by rw [entry_set _ _ _ _ (by simp [request]), if_pos rfl]
  tidy := by
    have hparts : (draft d ticket).parts ≠ [] := by simp [draft]
    rw [entry_set _ _ _ _ hparts, if_neg (draft_ne_request d ticket), entry_erase _ _ _ hparts,
      if_pos rfl]

/-! ## Writing a file -/

theorem write_draft_iff (hp : p.parts ≠ []) :
    t.write (draft p ticket) bytes = .ok u ↔
      ∃ d, t.LeadsTo p d ∧ (ticket ++ ".tmp").utf8ByteSize ≤ maxNameBytes ∧
        t.entry? (draft d ticket) ≠ some .directory ∧
        t.set (draft d ticket) (.file bytes) = u :=
  write_concat_iff hp (tmp_ne ticket (by decide))

theorem rename_draft_iff (hd : t.LeadsTo p d)
    (hfile : t.entry? (draft d ticket) = some (.file bytes)) :
    t.rename (draft p ticket) (request p ticket) = .ok u ↔
      (ticket ++ ".tmp").utf8ByteSize ≤ maxNameBytes ∧
        (ticket ++ ".json").utf8ByteSize ≤ maxNameBytes ∧
        t.entry? (request d ticket) ≠ some .directory ∧
        (t.erase (draft d ticket)).set (request d ticket) (.file bytes) = u :=
  hd.rename_concat_iff (tmp_ne ticket (by decide)) (json_ne ticket (by decide)) hfile

/-- Something that is done to the files, if it can be. -/
abbrev FileOperation : Type := FileTree → Except Failure FileTree

/-- Refuses a path that no file can have. -/
def checkPath (p : Path) : FileOperation := fun t =>
  if p.parts.any fun part => part.toList.contains '\x00' then
    .error (.fault (.ofMessage .value "embedded null byte"))
  else .ok t

theorem eq_of_checkPath (h : checkPath p t = .ok u) : t = u := by
  rw [checkPath] at h
  split at h
  · exact absurd h (by simp)
  · exact Except.ok.inj h

/-- What is done to the files to write one: its path is checked, it gets some contents one after
another under its temporary name, and then its own name. -/
def operations (p : Path) (contents : List (List UInt8)) : List FileOperation :=
  checkPath p :: (contents.map (fun bytes t => t.write (temporary p) bytes) ++
    [fun t => t.rename (temporary p) p])

/-- A file is written by these operations, with all its bytes at once. -/
theorem writeAtomic_eq (p : Path) (bytes : List UInt8) :
    writeAtomic p bytes = (operations p [bytes]).forM Host.onFiles := by
  have hwriting : ([fun t => t.write (temporary p) bytes, fun t => t.rename (temporary p) p] :
      List FileOperation).forM Host.onFiles = (do
        Host.onFiles fun t => t.write (temporary p) bytes
        Host.onFiles fun t => t.rename (temporary p) p) := by
    rw [Op.forM_cons, Op.forM_cons]
    exact congrArg _ (funext fun _ => bind_pure_unit)
  apply Op.ext
  intro h
  rw [operations, List.map_singleton, List.singleton_append, Op.forM_cons, hwriting]
  by_cases hnul : (p.parts.any fun part => part.toList.contains '\x00') = true
  · have hcheck : checkPath p h.files =
        .error (.fault (.ofMessage .value "embedded null byte")) := if_pos hnul
    rw [writeAtomic, if_pos hnul, Op.run_bind, Op.run_bind, Host.run_onFiles_of_error hcheck]
    rfl
  · have hcheck : checkPath p h.files = .ok h.files := if_neg hnul
    rw [writeAtomic, if_neg hnul, Op.run_bind_of_run (Host.run_onFiles_of_ok hcheck)]
    rfl

/-- Operations are done one after another, up to the first that fails. -/
def runs : List FileOperation → FileTree → Except Failure Unit × FileTree
  | [], t => (.ok (), t)
  | op :: ops, t =>
    match op t with
    | .ok u => runs ops u
    | .error e => (.error e, t)

theorem run_forM_onFiles (ops : List FileOperation) (h : Host) :
    (ops.forM Host.onFiles).run h =
      ⟨(runs ops h.files).1, { h with files := (runs ops h.files).2 }, []⟩ := by
  induction ops generalizing h with
  | nil => rfl
  | cons op ops ih =>
      rw [Op.forM_cons, runs]
      cases hop : op h.files with
      | ok u =>
          rw [Op.run_bind_of_run (Host.run_onFiles_of_ok hop), ih]
          rfl
      | error e =>
          rw [Op.run_bind, Host.run_onFiles_of_error hop]

/-- The trees that are there while operations are done one after another, up to the first that
fails. -/
inductive Visits : List FileOperation → FileTree → FileTree → Prop where
  | now {ops : List FileOperation} {t : FileTree} : Visits ops t t
  | later {op : FileOperation} {ops : List FileOperation} {t u v : FileTree} (h : op t = .ok u)
      (hlater : Visits ops u v) : Visits (op :: ops) t v

/-- While a request is written only its draft changes, until the request is there as a whole. -/
theorem visits_writing (hticket : NamesFile ticket) (hd : t.LeadsTo p d)
    (hready : contents = [] → t.entry? (draft d ticket) = some (.file bytes))
    (hlast : ∀ b ∈ contents.getLast?, b = bytes)
    (hvisits : Visits (contents.map (fun bytes t => t.write (temporary (request p ticket)) bytes) ++
      [fun t => t.rename (temporary (request p ticket)) (request p ticket)]) t u) :
    OnlyChanges [draft d ticket] t u ∨ Written d ticket bytes t u := by
  rw [temporary_request hticket] at hvisits
  induction contents generalizing t with
  | nil =>
      cases hvisits with
      | now => exact .inl (.refl _ _)
      | later hrename hlater =>
          cases hlater
          have hdraft := hready rfl
          obtain ⟨-, -, hrequest, rfl⟩ := (rename_draft_iff hd hdraft).mp hrename
          exact .inr (written_rename hrequest (by simp [hdraft]))
  | cons b contents ih =>
      cases hvisits with
      | now => exact .inl (.refl _ _)
      | later hwrite hlater =>
          obtain ⟨e, he, -, hdraft, rfl⟩ := (write_draft_iff hd.parts).mp hwrite
          obtain rfl := hd.unique he
          have hchange : OnlyChanges [draft d ticket] t (t.set (draft d ticket) (.file b)) :=
            .set hdraft
          have hready' : contents = [] → FileTree.entry? (t.set (draft d ticket) (.file b))
              (draft d ticket) = some (.file bytes) := by
            rintro rfl
            rw [entry_set _ _ _ _ (by simp [draft]), if_pos rfl, hlast b rfl]
          have hlast' : ∀ b' ∈ contents.getLast?, b' = bytes := by
            intro b' hb'
            apply hlast
            rw [List.getLast?_cons, Option.mem_def.mp hb']
            rfl
          exact (ih (hchange.leadsTo hd) hready' hlast' hlater).imp hchange.trans
            (Written.after hchange)

/-- Every request in a directory is as it was before, or is the new one with the whole message. -/
structure Complete (q : FileQueue) (c : Command) (t u : FileTree) : Prop where
  way : ∀ d, t.LeadsTo q.requests d → u.LeadsTo q.requests d
  requests : ∀ p : Path, p.parts ≠ [] → ".json".toList <:+ p.name.toList →
    u.entry? p = t.entry? p ∨ ∃ d, t.LeadsTo q.requests d ∧ p = request d c.ticket ∧
      u.entry? p = some (.file (messageBytes c))

theorem Complete.refl (q : FileQueue) (c : Command) (t : FileTree) : Complete q c t t :=
  ⟨fun _ hd => hd, fun _ _ _ => .inl rfl⟩

theorem Complete.of_onlyChanges (h : OnlyChanges [draft d c.ticket] t u) : Complete q c t u where
  way _ := h.leadsTo
  requests p hp hname := .inl (h.others p hp (by simpa using ne_draft hname d c.ticket))

theorem Complete.of_written (hd : t.LeadsTo q.requests d)
    (h : Written d c.ticket (messageBytes c) t u) : Complete q c t u where
  way _ := h.leadsTo
  requests p hp hname := by
    by_cases hnew : p = request d c.ticket
    · exact .inr ⟨d, hd, hnew, hnew ▸ h.whole⟩
    · exact .inl (h.others p hp (by simp [hnew, ne_draft hname d c.ticket]))

/-- Between the operations that write a request all requests are complete. -/
theorem complete_of_visits (hticket : NamesFile c.ticket)
    (hlast : contents.getLast? = some (messageBytes c))
    (hvisits : Visits (operations (q.requestPath c.ticket) contents) t u) : Complete q c t u := by
  rw [operations, requestPath_eq hticket] at hvisits
  cases hvisits with
  | now => exact .refl q c _
  | later hcheck hvisits =>
      obtain rfl := eq_of_checkPath hcheck
      have hlast' : ∀ b ∈ contents.getLast?, b = messageBytes c := by simp [hlast, eq_comm]
      have hwritten : contents ≠ [] := by
        rintro rfl
        exact absurd hlast (by simp)
      by_cases hd : ∃ d, t.LeadsTo q.requests d
      · obtain ⟨d, hd⟩ := hd
        rcases visits_writing hticket hd (fun h => absurd h hwritten) hlast' hvisits with h | h
        · exact .of_onlyChanges h
        · exact .of_written hd h
      · -- there is no directory to write to, so the first write fails
        obtain ⟨b, contents, rfl⟩ := List.exists_cons_of_ne_nil hwritten
        rw [temporary_request hticket] at hvisits
        cases hvisits with
        | now => exact .refl q c _
        | later hwrite _ =>
            obtain ⟨d, hway, -⟩ := (write_draft_iff (requests_ne q)).mp hwrite
            exact absurd ⟨d, hway⟩ hd

/-! ## Delivering -/

/-- A directory in which the request of a ticket can be written. -/
structure Place (q : FileQueue) (t : FileTree) (ticket : String) (d : Path) : Prop where
  way : t.LeadsTo q.requests d
  noNul : ∀ part ∈ q.requests.parts, '\x00' ∉ part.toList
  short : (ticket ++ ".json").utf8ByteSize ≤ maxNameBytes
  request : t.entry? (request d ticket) ≠ some .directory
  draft : t.entry? (draft d ticket) ≠ some .directory

/-- What a delivery comes to: its answer, and the files after it. -/
inductive Delivers (q : FileQueue) (c : Command) (t : FileTree) :
    Except Failure Delivery → FileTree → Prop where
  /-- There is a place for the request, and it is written there. -/
  | accepted {d : Path} {u : FileTree} (hplace : Place q t c.ticket d)
      (hwritten : Written d c.ticket (messageBytes c) t u) : Delivers q c t (.ok .accept) u
  /-- There is none, and nothing but a draft is written. -/
  | rejected {e : Failure} {u : FileTree} (hplace : ∀ d, ¬ Place q t c.ticket d)
      (he : e.isSystem = true)
      (hleft : u = t ∨ ∃ d, t.LeadsTo q.requests d ∧ OnlyChanges [draft d c.ticket] t u) :
      Delivers q c t (.ok (.rejected
        (("Could not write " ++ (c.ticket ++ ".json") ++ ": " : String) ++ e.text))) u
  /-- No file can have the path of the queue. -/
  | failed (hnul : ∃ part ∈ q.requests.parts, '\x00' ∈ part.toList) :
      Delivers q c t (.error (.fault (.ofMessage .value "embedded null byte"))) t

/-- Whether a path is refused depends on the directory alone. -/
theorem checkPath_request (hticket : NamesFile ticket) (p : Path) (t : FileTree) :
    ((∃ part ∈ p.parts, '\x00' ∈ part.toList) ∧ checkPath (request p ticket) t =
      .error (.fault (.ofMessage .value "embedded null byte"))) ∨
    ((∀ part ∈ p.parts, '\x00' ∉ part.toList) ∧ checkPath (request p ticket) t = .ok t) := by
  have hiff : ((request p ticket).parts.any fun part => part.toList.contains '\x00') = true ↔
      ∃ part ∈ p.parts, '\x00' ∈ part.toList := by
    simp [request, hticket.noNul]
  rw [checkPath]
  split
  · next hnul => exact .inl ⟨hiff.mp hnul, rfl⟩
  · next hnul =>
    refine .inr ⟨fun part hpart hmem => hnul (hiff.mpr ⟨part, hpart, hmem⟩), rfl⟩

theorem isSystem_of_write {e : Failure} (h : t.write p bytes = .error e) : e.isSystem = true := by
  rw [write] at h
  split at h
  · rw [← Except.error.inj h]; rfl
  · split at h
    · rw [← Except.error.inj h]; rfl
    · exact absurd h (by simp)

theorem isSystem_of_rename {e : Failure} (h : t.rename p x = .error e) : e.isSystem = true := by
  rw [rename] at h
  split at h
  · rw [← Except.error.inj h]; rfl
  · rw [← Except.error.inj h]; rfl
  · split at h
    · rw [← Except.error.inj h]; rfl
    · rw [← Except.error.inj h]; rfl
    · rw [← Except.error.inj h]; rfl
    · exact absurd h (by simp)

/-- The answer to a command whose request could be written, or could not. -/
def answerTo (c : Command) : Except Failure Unit → Except Failure Delivery
  | .ok () => .ok .accept
  | .error e =>
    if e.isSystem then
      .ok (.rejected (("Could not write " ++ (c.ticket ++ ".json") ++ ": " : String) ++ e.text))
    else .error e

theorem deliver_run (hticket : NamesFile c.ticket) (q : FileQueue) (h : Host) :
    (deliver q c).run h =
      let o := runs (operations (q.requestPath c.ticket) [messageBytes c]) h.files
      ⟨answerTo c o.1, { h with files := o.2 }, []⟩ := by
  have hname : (q.requestPath c.ticket).name = c.ticket ++ ".json" := by
    rw [requestPath_eq hticket, name_request]
  rw [deliver, Op.run_bind, Op.run_attempt, writeAtomic_eq, run_forM_onFiles]
  dsimp only
  cases (runs (operations (q.requestPath c.ticket) [messageBytes c]) h.files).1 with
  | ok _ => rfl
  | error e =>
      dsimp only [answerTo]
      rw [hname]
      split
      · rfl
      · rfl

/-- A draft that was written becomes the request, unless the name of the request is too long or that
of a directory. -/
theorem exists_draft (hp : p.parts ≠ []) (hwrite : t.write (draft p ticket) bytes = .ok u) :
    ∃ d, t.LeadsTo p d ∧ t.entry? (draft d ticket) ≠ some .directory ∧
      OnlyChanges [draft d ticket] t u ∧
      ((∃ v, u.rename (draft p ticket) (request p ticket) = .ok v) ↔
        (ticket ++ ".json").utf8ByteSize ≤ maxNameBytes ∧
          t.entry? (request d ticket) ≠ some .directory) ∧
      ∀ v, u.rename (draft p ticket) (request p ticket) = .ok v → Written d ticket bytes t v := by
  obtain ⟨d, hd, hshort, hdraft, rfl⟩ := (write_draft_iff hp).mp hwrite
  have hchange : OnlyChanges [draft d ticket] t (t.set (draft d ticket) (.file bytes)) :=
    .set hdraft
  have hfile : FileTree.entry? (t.set (draft d ticket) (.file bytes)) (draft d ticket) =
      some (.file bytes) := by
    rw [entry_set _ _ _ _ (by simp [draft]), if_pos rfl]
  have hrequest : FileTree.entry? (t.set (draft d ticket) (.file bytes)) (request d ticket) =
      t.entry? (request d ticket) :=
    hchange.others _ (by simp [request]) (by simpa using (draft_ne_request d ticket).symm)
  have hiff := fun v => rename_draft_iff (u := v) (hchange.leadsTo hd) hfile
  refine ⟨d, hd, hdraft, hchange, ⟨?_, ?_⟩, fun v hrename => ?_⟩
  · rintro ⟨v, hrename⟩
    obtain ⟨-, hlong, hfree, -⟩ := (hiff v).mp hrename
    exact ⟨hlong, hrequest ▸ hfree⟩
  · rintro ⟨hlong, hfree⟩
    exact ⟨_, (hiff _).mpr ⟨hshort, hlong, hrequest.symm ▸ hfree, rfl⟩⟩
  · obtain ⟨-, -, hfree, rfl⟩ := (hiff v).mp hrename
    exact .after hchange (written_rename hfree (by simp [hfile]))

/-- In its place a request can be written. -/
theorem Place.write (hplace : Place q t ticket d) :
    t.write (FileQueue.draft q.requests ticket) bytes =
      .ok (t.set (FileQueue.draft d ticket) (.file bytes)) := by
  have hshort := hplace.short
  rw [utf8ByteSize_json] at hshort
  exact (write_draft_iff (requests_ne q)).mpr
    ⟨d, hplace.way, by rw [utf8ByteSize_tmp]; omega, hplace.draft, rfl⟩

/-- A command is accepted if and only if there is a place for its request. -/
theorem delivers (hticket : NamesFile c.ticket) (q : FileQueue) (t : FileTree) :
    let o := runs (operations (q.requestPath c.ticket) [messageBytes c]) t
    Delivers q c t (answerTo c o.1) o.2 := by
  rw [operations, requestPath_eq hticket, temporary_request hticket, List.map_singleton,
    List.singleton_append]
  rcases checkPath_request hticket q.requests t with ⟨hnul, hcheck⟩ | ⟨hnul, hcheck⟩
  · simp only [runs, hcheck]
    exact .failed hnul
  cases hwrite : t.write (draft q.requests c.ticket) (messageBytes c) with
  | error e =>
      have hsystem := isSystem_of_write hwrite
      simp only [runs, hcheck, hwrite, answerTo, hsystem, if_true]
      refine .rejected (fun d hplace => ?_) hsystem (.inl rfl)
      exact absurd (hwrite.symm.trans hplace.write) (by simp)
  | ok u =>
      obtain ⟨d, hd, hdraft, hchange, hiff, hwritten⟩ := exists_draft (requests_ne q) hwrite
      cases hrename : u.rename (draft q.requests c.ticket) (request q.requests c.ticket) with
      | error e =>
          have hsystem := isSystem_of_rename hrename
          simp only [runs, hcheck, hwrite, hrename, answerTo, hsystem, if_true]
          refine .rejected (fun d' hplace => ?_) hsystem (.inr ⟨d, hd, hchange⟩)
          obtain rfl := hd.unique hplace.way
          obtain ⟨v, hok⟩ := hiff.mpr ⟨hplace.short, hplace.request⟩
          exact absurd (hrename.symm.trans hok) (by simp)
      | ok v =>
          simp only [runs, hcheck, hwrite, hrename, answerTo]
          obtain ⟨hshort, hrequest⟩ := hiff.mp ⟨v, hrename⟩
          exact .accepted ⟨hd, hnul, hshort, hrequest, hdraft⟩ (hwritten v hrename)

/-- Delivering is all or nothing, and loses nothing. -/
theorem deliver_all_or_nothing (q : FileQueue) (c : Command) (h : Host)
    (hticket : NamesFile c.ticket) :
    (∃ a u, (deliver q c).run h = ⟨a, { h with files := u }, []⟩ ∧ Delivers q c h.files a u) ∧
    writeAtomic (q.requestPath c.ticket) (messageBytes c) =
      (operations (q.requestPath c.ticket) [messageBytes c]).forM Host.onFiles ∧
    (∀ contents t, contents.getLast? = some (messageBytes c) →
      Visits (operations (q.requestPath c.ticket) contents) h.files t →
        Complete q c h.files t) ∧
    (∀ b ∈ messageBytes c, 0x20 ≤ b.toNat ∧ b.toNat < 0x7F) ∧
    ∀ depth, Json.Readable depth c.arguments → ∃ text,
      Utf8.decode (messageBytes c) = .ok text ∧
        Json.readNested (depth + 1) (String.ofList text) = .ok c.toMessage :=
  ⟨⟨_, _, deliver_run hticket q h, delivers hticket q h.files⟩, writeAtomic_eq _ _,
    fun _ _ hlast => complete_of_visits hticket hlast, fun _ => Json.byte_of_mem_encode_write,
    fun _ => read_messageBytes⟩

/-! A queue whose directories were just made, and a command with an integer and a double. -/

def freshQueue : FileQueue := ⟨⟨["q"]⟩, .int 1, 1, none⟩

def freshHost : Host where
  results := { capacity := 10, ttl := 60 }
  files := ⟨[(⟨["q"]⟩, .directory), (⟨["q", "requests"]⟩, .directory)]⟩

def numbers : Command :=
  ⟨.callTool, "x", .arr [.int 1, .float (Binary64.ofDecimal false ⟨1, 0⟩)], ticketOf 1, ""⟩

/-- The command is accepted, and its request is read back. -/
theorem deliver_all_or_nothing_fresh :
    NamesFile numbers.ticket ∧ Json.Readable 1 numbers.arguments ∧ ∃ u,
      (deliver freshQueue numbers).run freshHost =
        ⟨.ok .accept, { freshHost with files := u }, []⟩ ∧
      Written ⟨["q", "requests"]⟩ numbers.ticket (messageBytes numbers) freshHost.files u ∧
      ∃ text, Utf8.decode (messageBytes numbers) = .ok text ∧
        Json.readNested 2 (String.ofList text) = .ok numbers.toMessage := by
  have hway : freshHost.files.LeadsTo freshQueue.requests ⟨["q", "requests"]⟩ :=
    ⟨rfl, rfl, by decide⟩
  have hplace : Place freshQueue freshHost.files numbers.ticket ⟨["q", "requests"]⟩ :=
    ⟨hway, by decide +kernel, by decide +kernel, by decide +kernel, by decide +kernel⟩
  have hreadable : Json.Readable 1 numbers.arguments := by
    refine .arr fun j hj => ?_
    have hnumber : j = .int 1 ∨ j = .float (Binary64.ofDecimal false ⟨1, 0⟩) := by simpa using hj
    rcases hnumber with rfl | rfl
    · exact .int (by decide)
    · exact .float _
  obtain ⟨⟨a, u, hrun, hdelivers⟩, -, -, -, hread⟩ :=
    deliver_all_or_nothing freshQueue numbers freshHost (namesFile_ticketOf 1)
  refine ⟨namesFile_ticketOf 1, hreadable, u, ?_⟩
  cases hdelivers with
  | accepted hplace' hwritten =>
      obtain rfl := hway.unique hplace'.way
      exact ⟨hrun, hwritten, hread 1 hreadable⟩
  | rejected hnone _ _ => exact absurd hplace (hnone _)
  | failed hnul =>
      obtain ⟨part, hpart, hmem⟩ := hnul
      exact absurd hmem (hplace.noNul part hpart)

end CommandBridge.FileQueue
