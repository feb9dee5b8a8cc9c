import CommandBridge.Proofs.Instance.ResponseFiles
import CommandBridge.Proofs.Trail

/-!
# CommandBridge.Proofs.Instance.Obstacles

What a file queue makes of entries that it cannot handle.  Collecting takes the entries with names
that end with `.json` in the order of their names.  An entry is in its way (`Obstacle`) if it is a
directory, if its text is nested too deeply, or if a directory has the name of its request: then
collecting fails, and does so again and again, since what is in the way stays there.  Collecting
also fails at an entry that it handles, if the outcome is stored and cannot be dumped.  What comes
before is handled as if it were alone, and what comes after is not looked at
(`collect_stops_at_first_obstacle`).
-/

namespace CommandBridge.FileQueue

open CommandBridge.Path FileTree ResultChannel

variable {q : FileQueue} {t : FileTree} {responses requests p d : Path} {n m : String}
  {now : Timestamp} {i nesting : Nat} {h : Host} {a : Answer} {e : Failure} {left : Option Entry}
  {names : List String}

/-! ## Entries of the directory for responses -/

/-- An entry that cannot be handled: the failure that it gives, and what is left of it. -/
inductive Obstacle (nesting : Nat) (q : FileQueue) (t : FileTree) (responses requests : Path)
    (n : String) : Failure → Option Entry → Prop where
  /-- A directory cannot be removed. -/
  | directory (hentry : t.entry? ⟨responses.parts ++ [n]⟩ = some .directory) :
      Obstacle nesting q t responses requests n (FileError.isDirectory.at (q.responses.child n))
        (some .directory)
  /-- A file that is nested too deeply cannot be read. -/
  | tooDeep {bytes : List UInt8} {cs : List Char} {bracket : Json.Bracket}
      (hentry : t.entry? ⟨responses.parts ++ [n]⟩ = some (.file bytes))
      (htext : Utf8.decode bytes = .ok cs)
      (hread : Json.readNested nesting (String.ofList (Breaks.unify cs)) =
        .error (.tooDeep bracket)) :
      Obstacle nesting q t responses requests n (.unreadable (.tooDeep bracket))
        (some (.file bytes))
  /-- A directory in the place of its request cannot be removed, but the response is removed. -/
  | request {bytes : List UInt8} (hentry : t.entry? ⟨responses.parts ++ [n]⟩ = some (.file bytes))
      (hshallow : Shallow nesting bytes)
      (hrequest : t.entry? ⟨requests.parts ++ [n]⟩ = some .directory) :
      Obstacle nesting q t responses requests n (FileError.isDirectory.at (q.requests.child n)) none

/-- Every entry can be handled, or not. -/
theorem handled_or_obstacle (requests : Path)
    (hentry : t.entry? ⟨responses.parts ++ [n]⟩ ≠ none) :
    (∃ a, Handled nesting t responses requests n a) ∨
      ∃ e left, Obstacle nesting q t responses requests n e left := by
  cases hresponse : t.entry? ⟨responses.parts ++ [n]⟩ with
  | none => exact absurd hresponse hentry
  | some entry =>
      cases entry with
      | directory => exact .inr ⟨_, _, .directory hresponse⟩
      | file bytes =>
          by_cases hshallow : Shallow nesting bytes
          · by_cases hrequest : t.entry? ⟨requests.parts ++ [n]⟩ = some .directory
            · exact .inr ⟨_, _, .request hresponse hshallow hrequest⟩
            · obtain ⟨status, result, hsays⟩ := exists_says hshallow
              exact .inl ⟨⟨stemOf n, status, result⟩, rfl, ⟨bytes, hresponse, hsays⟩, hrequest⟩
          · have hdeep : ∃ cs bracket, Utf8.decode bytes = .ok cs ∧
                Json.readNested nesting (String.ofList (Breaks.unify cs)) =
                  .error (.tooDeep bracket) := by
              simpa [Shallow] using hshallow
            obtain ⟨cs, bracket, htext, hread⟩ := hdeep
            exact .inr ⟨_, _, .tooDeep hresponse htext hread⟩

/-- Whether an entry can be handled depends on it and its request alone. -/
theorem Handled.congr {t' : FileTree} (hhandled : Handled nesting t' responses requests n a)
    (hresponse : t'.entry? ⟨responses.parts ++ [n]⟩ = t.entry? ⟨responses.parts ++ [n]⟩)
    (hrequest : t'.entry? ⟨requests.parts ++ [n]⟩ = t.entry? ⟨requests.parts ++ [n]⟩) :
    Handled nesting t responses requests n a :=
  ⟨hhandled.ticket, hresponse ▸ hhandled.said, hrequest ▸ hhandled.asked⟩

theorem Obstacle.congr {t' : FileTree}
    (hobstacle : Obstacle nesting q t' responses requests n e left)
    (hresponse : t'.entry? ⟨responses.parts ++ [n]⟩ = t.entry? ⟨responses.parts ++ [n]⟩)
    (hrequest : t'.entry? ⟨requests.parts ++ [n]⟩ = t.entry? ⟨requests.parts ++ [n]⟩) :
    Obstacle nesting q t responses requests n e left := by
  cases hobstacle with
  | directory hentry => exact .directory (hresponse ▸ hentry)
  | tooDeep hentry htext hread => exact .tooDeep (hresponse ▸ hentry) htext hread
  | request hentry hshallow hasked =>
      exact .request (hresponse ▸ hentry) hshallow (hrequest ▸ hasked)

/-! ## One entry -/

/-- A directory is not removed. -/
theorem removeIfPresent_run_directory (hp : h.files.LeadsTo p d) (hn : IsName n)
    (hentry : h.files.entry? ⟨d.parts ++ [n]⟩ = some .directory) :
    (removeIfPresent (p.child n)).run h =
      ⟨.error (FileError.isDirectory.at (p.child n)), h, []⟩ := by
  have hremove : (Host.onFiles fun t => t.remove (p.child n)).run h =
      ⟨.error (FileError.isDirectory.at (p.child n)), h, []⟩ :=
    Host.run_onFiles_of_error (hp.remove_child_of_directory hn hentry)
  rw [removeIfPresent, Op.run_bind, Op.run_attempt, hremove]
  rfl

/-- An entry that cannot be handled stops the collecting. -/
theorem collectFile_run_of_obstacle (now : Timestamp) (i : Nat)
    (hreached : Reached q h.files responses requests)
    (hn : IsName n) (hobstacle : Obstacle h.nesting q h.files responses requests n e left) :
    ∃ t, (collectFile now i q n).run h = ⟨.error e, { h with files := t }, []⟩ ∧
      t.entry? ⟨responses.parts ++ [n]⟩ = left ∧
      ∀ p : Path, p.parts ≠ [] → p ≠ ⟨responses.parts ++ [n]⟩ → t.entry? p = h.files.entry? p := by
  rw [collectFile, Op.run_get_bind]
  cases hobstacle with
  | directory hentry =>
      refine ⟨h.files, ?_, hentry, fun _ _ _ => rfl⟩
      obtain ⟨e, hread⟩ : ∃ e, h.files.read (q.responses.child n) = .error e := by
        rw [FileTree.read, hreached.toResponses.resolve_child hn]
        dsimp only
        rw [hentry]
        exact ⟨_, rfl⟩
      have hresponse := removeIfPresent_run_directory hreached.toResponses hn hentry
      rw [responseAt, hread]
      simp only [Op.run_bind, Op.run_ofExcept, Op.run_discard, hresponse, Except.map,
        List.append_nil]
  | @tooDeep bytes cs bracket hentry htext hread =>
      refine ⟨h.files, ?_, hentry, fun _ _ _ => rfl⟩
      have hdeep : readResponse h.nesting bytes = .error (.unreadable (.tooDeep bracket)) := by
        rw [readResponse, htext]
        dsimp only
        rw [hread]
      rw [responseAt, hreached.toResponses.read_child hn hentry]
      dsimp only
      rw [hdeep]
      rfl
  | @request bytes hentry hshallow hrequest =>
      obtain ⟨status, result, hsays⟩ := exists_says hshallow
      refine ⟨h.files.erase ⟨responses.parts ++ [n]⟩, ?_, ?_, fun p hp hne => ?_⟩
      · have hread : responseAt h.nesting h.files (q.responses.child n) = .ok (status, result) := by
          rw [responseAt, hreached.toResponses.read_child hn hentry]
          exact hsays.readResponse
        obtain ⟨found, hresponse⟩ :=
          removeIfPresent_run hreached.toResponses hn (by simp [hentry])
        have hstuck : (removeIfPresent (q.requests.child n)).run
            { h with files := h.files.erase ⟨responses.parts ++ [n]⟩ } =
              ⟨.error (FileError.isDirectory.at (q.requests.child n)),
                { h with files := h.files.erase ⟨responses.parts ++ [n]⟩ }, []⟩ :=
          removeIfPresent_run_directory
            (h := { h with files := h.files.erase ⟨responses.parts ++ [n]⟩ })
            (hreached.toRequests.erase (by simp) (by simp [hentry])) hn
            (directory_erase hentry hrequest)
        rw [hread]
        simp only [Op.run_bind, Op.run_ofExcept, Op.run_discard, hresponse, hstuck, Except.map,
          List.append_nil]
      · rw [entry_erase _ _ _ (by simp), if_pos rfl]
      · rw [entry_erase _ _ _ hp, if_neg hne]

/-! ## A pass over the directory -/

/-- How a pass over some entries ends, of which those at the front were handled. -/
inductive Ending {α : Type} (value : α) (q : FileQueue) (responses requests : Path) (h : Host)
    (front : List (String × Answer)) (rest : List String) (o : Outcome Host α) : Prop where
  /-- All of them were handled, and published or logged as unknown. -/
  | done (hrest : rest = []) (haccepted : ∀ x ∈ front, x.2.Accepted h.results)
      (hanswer : o.answer = .ok value)
  /-- The next one cannot be handled: the pass fails as it does. -/
  | stuck {n : String} {later : List String} {e : Failure} {left : Option Entry}
      (hrest : rest = n :: later) (haccepted : ∀ x ∈ front, x.2.Accepted h.results)
      (hobstacle : Obstacle h.nesting q h.files responses requests n e left)
      (hanswer : o.answer = .error e)
      (hleft : o.state.files.entry? ⟨responses.parts ++ [n]⟩ = left)
  /-- What the last one says of a tracked ticket was stored and cannot be dumped: the pass fails as
  the publication does. -/
  | unannounced {before : List (String × Answer)} {x : String × Answer} {f : Fault}
      (hfront : front = before ++ [x]) (haccepted : ∀ y ∈ before, y.2.Accepted h.results)
      (htracked : find? x.2.ticket h.results.records ≠ none)
      (hfault : x.2.result.dumpFault? Json.dumpLimit = some f)
      (hanswer : o.answer = .error (.fault f))
      (hleft : ∀ n ∈ rest.head?, o.state.files.entry? ⟨responses.parts ++ [n]⟩ =
        h.files.entry? ⟨responses.parts ++ [n]⟩)

/-- What a pass over some entries comes to, of which those at the front were handled. -/
structure Pass {α : Type} (value : α) (now : Timestamp) (q : FileQueue) (responses requests : Path)
    (h : Host) (front : List (String × Answer)) (rest : List String) (o : Outcome Host α) :
    Prop where
  handled : ∀ x ∈ front, Handled h.nesting h.files responses requests x.1 x.2
  ending : Ending value q responses requests h front rest o
  /-- What was handled is published, or logged as unknown, once and in this order. -/
  log : o.log = front.map fun x => x.2.entry now h.results
  results : o.state.results = front.foldl (fun c x => x.2.taken now c) h.results
  /-- Nothing but files and results has changed. -/
  host : o.state = { h with files := o.state.files, results := o.state.results }
  /-- What was handled is gone, -/
  gone : ∀ x ∈ front, o.state.files.entry? ⟨responses.parts ++ [x.1]⟩ = none ∧
    o.state.files.entry? ⟨requests.parts ++ [x.1]⟩ = none
  /-- and all other entries are left. -/
  others : ∀ p : Path, p.parts ≠ [] → (∀ x ∈ front, p ≠ ⟨responses.parts ++ [x.1]⟩ ∧
    p ≠ ⟨requests.parts ++ [x.1]⟩) → (∀ n ∈ rest.head?, p ≠ ⟨responses.parts ++ [n]⟩) →
    o.state.files.entry? p = h.files.entry? p

/-- A pass ends as it does over all entries but the first, if that is handled and accepted. -/
theorem Ending.cons {front : List (String × Answer)} {rest : List String} {o : Outcome Host Unit}
    {l : List Log.Entry} (hending : Ending () q responses requests { h with
      files := without responses requests h.files n
      results := a.taken now h.results } front rest o)
    (hreached : Reached q h.files responses requests) (haccepted : a.Accepted h.results)
    (hne : ∀ m ∈ rest, m ≠ n) :
    Ending () q responses requests h ((n, a) :: front) rest ⟨o.answer, o.state, l⟩ := by
  have hall : ∀ {xs : List (String × Answer)},
      (∀ x ∈ xs, x.2.Accepted (a.taken now h.results)) →
        ∀ x ∈ (n, a) :: xs, x.2.Accepted h.results := by
    intro xs hxs x hx
    rcases List.mem_cons.mp hx with rfl | hx
    · exact haccepted
    · exact (Answer.accepted_taken now a x.2 h.results).mp (hxs x hx)
  cases hending with
  | done hrest hfront hanswer => exact .done hrest (hall hfront) hanswer
  | @stuck m later e left hrest hfront hobstacle hanswer hleft =>
      have hother := hne m (by simp [hrest])
      exact .stuck hrest (hall hfront) (hobstacle.congr (hreached.response_without hother)
        (hreached.request_without hother)) hanswer hleft
  | @unannounced before x f hfront hbefore htracked hfault hanswer hleft =>
      have hfront' : (n, a) :: front = (n, a) :: before ++ [x] := by rw [hfront]; rfl
      refine .unannounced hfront' (hall hbefore) ?_ hfault hanswer fun m hm => ?_
      · -- taking an answer makes no ticket tracked
        intro hnone
        refine htracked ?_
        rw [find?_taken]
        split <;> simp_all
      · rw [hleft m hm, hreached.response_without (hne m (List.mem_of_head? hm))]

/-- A pass over an entry that can be handled, and then over the other ones. -/
theorem Pass.cons {front : List (String × Answer)} {rest : List String} {o : Outcome Host Unit}
    (hpass : Pass () now q responses requests { h with
      files := without responses requests h.files n
      results := a.taken now h.results } front rest o)
    (hreached : Reached q h.files responses requests)
    (hhandled : Handled h.nesting h.files responses requests n a)
    (haccepted : a.Accepted h.results) (hne : ∀ m ∈ front.map Prod.fst ++ rest, m ≠ n) :
    Pass () now q responses requests h ((n, a) :: front) rest
      ⟨o.answer, o.state, [a.entry now h.results] ++ o.log⟩ where
  handled := by
    intro x hx
    rcases List.mem_cons.mp hx with rfl | hx
    · exact hhandled
    · have hother := hne x.1 (List.mem_append_left _ (List.mem_map_of_mem hx))
      exact (hpass.handled x hx).congr (hreached.response_without hother)
        (hreached.request_without hother)
  ending := hpass.ending.cons hreached haccepted fun m hm => hne m (List.mem_append_right _ hm)
  log := by
    have hentries : front.map (fun x => x.2.entry now (a.taken now h.results)) =
        front.map fun x => x.2.entry now h.results :=
      List.map_congr_left fun x _ => entry_taken now h.results
    rw [hpass.log, hentries]
    rfl
  results := by rw [hpass.results]; rfl
  host := hpass.host
  gone := by
    intro x hx
    rcases List.mem_cons.mp hx with rfl | hx
    · have hgone : ∀ p : Path, p = ⟨responses.parts ++ [n]⟩ ∨ p = ⟨requests.parts ++ [n]⟩ →
          p.parts ≠ [] → o.state.files.entry? p = none := by
        intro p hp hparts
        rw [hpass.others p hparts, entry_without hparts, if_pos hp]
        · intro x hx
          have hother := hne x.1 (List.mem_append_left _ (List.mem_map_of_mem hx))
          rcases hp with rfl | rfl
          · exact ⟨by simp [hother.symm], hreached.apart n x.1⟩
          · exact ⟨(hreached.apart x.1 n).symm, by simp [hother.symm]⟩
        · intro m hm
          have hother := hne m (List.mem_append_right _ (List.mem_of_head? hm))
          rcases hp with rfl | rfl
          · simp [hother.symm]
          · exact (hreached.apart m n).symm
      exact ⟨hgone _ (.inl rfl) (by simp), hgone _ (.inr rfl) (by simp)⟩
    · exact hpass.gone x hx
  others := by
    intro p hp hfront hrest
    obtain ⟨hresponse, hrequest⟩ := hfront (n, a) List.mem_cons_self
    rw [hpass.others p hp (fun x hx => hfront x (List.mem_cons_of_mem _ hx)) hrest,
      entry_without hp, if_neg (by simp [hresponse, hrequest])]

/-- A pass that fails at an entry which was handled. -/
theorem pass_of_unannounced {later : List String} {f : Fault}
    (hreached : Reached q h.files responses requests)
    (hhandled : Handled h.nesting h.files responses requests n a)
    (htracked : find? a.ticket h.results.records ≠ none)
    (hfault : a.result.dumpFault? Json.dumpLimit = some f) (hne : ∀ m ∈ later, m ≠ n) :
    Pass () now q responses requests h [(n, a)] later
      ⟨.error (.fault f), { h with
        files := without responses requests h.files n
        results := a.taken now h.results }, [a.entry now h.results]⟩ where
  handled := by simpa using hhandled
  ending := .unannounced (show [(n, a)] = [] ++ [(n, a)] from rfl) (by simp) htracked hfault rfl
    fun m hm => hreached.response_without (hne m (List.mem_of_head? hm))
  log := rfl
  results := rfl
  host := rfl
  gone := by
    intro x hx
    obtain rfl := List.mem_singleton.mp hx
    exact ⟨by rw [entry_without (by simp), if_pos (.inl rfl)],
      by rw [entry_without (by simp), if_pos (.inr rfl)]⟩
  others := by
    intro p hp hfront _
    obtain ⟨hresponse, hrequest⟩ := hfront (n, a) List.mem_cons_self
    rw [entry_without hp, if_neg (by simp [hresponse, hrequest])]

/-- A pass that fails at an entry which cannot be handled. -/
theorem pass_of_obstacle {later : List String} {t : FileTree}
    (hobstacle : Obstacle h.nesting q h.files responses requests n e left)
    (hleft : t.entry? ⟨responses.parts ++ [n]⟩ = left)
    (hothers : ∀ p : Path, p.parts ≠ [] → p ≠ ⟨responses.parts ++ [n]⟩ →
      t.entry? p = h.files.entry? p) :
    Pass () now q responses requests h [] (n :: later)
      ⟨.error e, { h with files := t }, []⟩ where
  handled := by simp
  ending := .stuck rfl (by simp) hobstacle rfl hleft
  log := rfl
  results := rfl
  host := rfl
  gone := by simp
  others p hp _ hne := hothers p hp (hne n rfl)

/-- A pass over no entries. -/
theorem pass_nil (now : Timestamp) (q : FileQueue) (responses requests : Path) (h : Host) :
    Pass () now q responses requests h [] [] ⟨.ok (), h, []⟩ where
  handled := by simp
  ending := .done rfl (by simp) rfl
  log := rfl
  results := rfl
  host := rfl
  gone := by simp
  others _ _ _ _ := rfl

theorem forM_collectFile_pass (now : Timestamp) (i : Nat)
    (hreached : Reached q h.files responses requests) (hnodup : names.Nodup)
    (hnames : ∀ n ∈ names, IsName n ∧ h.files.entry? ⟨responses.parts ++ [n]⟩ ≠ none)
    (hholds : (h.instanceAt i).holdsChannel = true) (hlocal : Local h.results) :
    ∃ front rest, names = front.map Prod.fst ++ rest ∧
      Pass () now q responses requests h front rest ((names.forM (collectFile now i q)).run h) := by
  induction names generalizing h with
  | nil => exact ⟨[], [], rfl, pass_nil now q responses requests h⟩
  | cons n names ih =>
      obtain ⟨hn, hentry⟩ := hnames n List.mem_cons_self
      rw [List.nodup_cons] at hnodup
      rcases handled_or_obstacle requests hentry with
        ⟨a, hhandled⟩ | ⟨e, left, hobstacle⟩
      · have hrun := collectFile_run_of_handled now hreached hn hhandled hholds hlocal
        have hkept : ∀ m ∈ names, m ≠ n := fun m hm heq => hnodup.1 (heq ▸ hm)
        by_cases haccepted : a.Accepted h.results
        · obtain ⟨front, rest, hfront, hpass⟩ := ih (h := { h with
            files := without responses requests h.files n
            results := a.taken now h.results }) (hreached.without hhandled) hnodup.2
              (fun m hm => ⟨(hnames m (List.mem_cons_of_mem n hm)).1, by
                rw [hreached.response_without (hkept m hm)]
                exact (hnames m (List.mem_cons_of_mem n hm)).2⟩) hholds (hlocal.taken now a)
          refine ⟨(n, a) :: front, rest, by rw [hfront]; rfl, ?_⟩
          rw [Answer.verdict_of_accepted haccepted] at hrun
          rw [Op.forM_cons, Op.run_bind_of_run hrun]
          exact hpass.cons hreached hhandled haccepted (hfront ▸ hkept)
        · obtain ⟨htracked, hundumpable⟩ := not_or.mp haccepted
          obtain ⟨f, hfault⟩ := Option.ne_none_iff_exists'.mp hundumpable
          obtain ⟨r, hr⟩ := Option.ne_none_iff_exists'.mp htracked
          refine ⟨[(n, a)], names, rfl, ?_⟩
          have hverdict : a.verdict h.results = .error (.fault f) := by
            rw [Answer.verdict, hr, hfault]
          rw [hverdict] at hrun
          rw [Op.forM_cons, Op.run_bind, hrun]
          exact pass_of_unannounced hreached hhandled htracked hfault hkept
      · obtain ⟨t, hrun, hleft, hothers⟩ :=
          collectFile_run_of_obstacle now i hreached hn hobstacle
        refine ⟨[], n :: names, rfl, ?_⟩
        rw [Op.forM_cons, Op.run_bind, hrun]
        exact pass_of_obstacle hobstacle hleft hothers

/-! ## Collecting -/

/-- The directories of a queue as a file system keeps them: each path is there once, and names are
names. -/
structure Accessible (q : FileQueue) (t : FileTree) (responses requests : Path) : Prop
    extends Reached q t responses requests where
  unique : (t.entries.map Prod.fst).Nodup
  named : ∀ n, t.entry? ⟨responses.parts ++ [n]⟩ ≠ none → ".json".toList <:+ n.toList → IsName n

/-- Of several outcomes of a ticket the last one stays. -/
theorem exists_find?_foldl_taken (now : Timestamp) (answers : List Answer) (c : ResultChannel)
    {ticket : String} {r : Record} (hfind : find? ticket c.records = some r) :
    ∃ r', find? ticket (answers.foldl (Answer.taken now) c).records = some r' ∧
      ∀ status result, r'.withOutcome now status result = r.withOutcome now status result := by
  induction answers generalizing c r with
  | nil => exact ⟨r, hfind, fun _ _ => rfl⟩
  | cons a answers ih =>
      by_cases hticket : ticket = a.ticket
      · have hnext : find? ticket (a.taken now c).records =
            some (r.withOutcome now a.status a.result) := by
          rw [find?_taken, if_pos hticket, hfind, Option.map_some]
        obtain ⟨r', hr', hsame⟩ := ih _ hnext
        exact ⟨r', hr', fun status result => hsame status result⟩
      · exact ih _ (by rw [find?_taken, if_neg hticket, hfind])

/-- The names of two response files are those of two tickets, if the later one is not just the
suffix. -/
theorem stemOf_ne {ticket m : String} (hticket : ticket ≠ "") (hm : ".json".toList <:+ m.toList)
    (hlt : (ticket ++ ".json").toList < m.toList) : stemOf m ≠ ticket := by
  obtain ⟨other, rfl⟩ := exists_ticket hm
  by_cases hother : other = ""
  · subst hother
    have hstem : stemOf ("" ++ ".json") = ".json" := by decide +kernel
    rw [hstem]
    rintro rfl
    exact absurd hlt (by decide)
  · rw [stemOf_append hother]
    rintro rfl
    exact List.lt_irrefl _ hlt

/-- A response that is handled gives its ticket the outcome that it says, and no later one takes
that away. -/
theorem find?_foldl_of_mem {front : List (String × Answer)} {rest : List String} {ticket : String}
    {r : Record} {c : ResultChannel} (hticket : ticket ≠ "")
    (hsuffix : ∀ x ∈ front, ".json".toList <:+ x.1.toList)
    (hsorted : (front.map Prod.fst ++ rest).Pairwise fun m n => m.toList < n.toList)
    (hhandled : ∀ x ∈ front, Handled nesting t responses requests x.1 x.2)
    (ha : (ticket ++ ".json", a) ∈ front) (hfind : find? ticket c.records = some r) :
    find? ticket (front.foldl (fun c x => x.2.taken now c) c).records =
      some (r.withOutcome now a.status a.result) := by
  have hown : a.ticket = ticket := (hhandled _ ha).ticket.trans (stemOf_append hticket)
  obtain ⟨before, later, rfl⟩ := List.append_of_mem ha
  have hlater : ∀ x ∈ later, x.2.ticket ≠ ticket := by
    intro x hx
    have hmem : x ∈ before ++ (ticket ++ ".json", a) :: later := by simp [hx]
    have hlt : (ticket ++ ".json").toList < x.1.toList := by
      rw [List.map_append, List.map_cons, List.append_assoc, List.pairwise_append] at hsorted
      exact List.rel_of_pairwise_cons hsorted.2.1
        (List.mem_append_left _ (List.mem_map_of_mem hx))
    rw [(hhandled x hmem).ticket]
    exact stemOf_ne hticket (hsuffix x hmem) hlt
  obtain ⟨r', hbefore, hsame⟩ := exists_find?_foldl_taken now (before.map Prod.snd) c hfind
  have hnext : find? ticket (a.taken now
      ((before.map Prod.snd).foldl (Answer.taken now) c)).records =
        some (r.withOutcome now a.status a.result) := by
    rw [find?_taken, if_pos hown.symm, hbefore, Option.map_some, hsame]
  have hothers : ∀ b ∈ later.map Prod.snd, b.ticket = ticket → find? ticket (a.taken now
      ((before.map Prod.snd).foldl (Answer.taken now) c)).records = none := by
    intro b hb hticket
    obtain ⟨x, hx, rfl⟩ := List.mem_map.mp hb
    exact absurd hticket (hlater x hx)
  rw [← hnext, ← find?_foldl_taken_of_not_mem now _ hothers, List.foldl_append, List.foldl_cons,
    List.foldl_map, List.foldl_map]

/-- Collecting stops at the first entry that cannot be handled, or whose outcome cannot be dumped.
The response files before it, in the order of their names, are handled, and what comes after it is
left. -/
theorem collect_stops_at_first_obstacle (now : Timestamp) (i : Nat)
    (hfiles : Accessible q h.files responses requests)
    (hholds : (h.instanceAt i).holdsChannel = true) (hlocal : Local h.results) :
    ∃ front rest,
      (∀ n, n ∈ front.map Prod.fst ++ rest ↔
        h.files.entry? ⟨responses.parts ++ [n]⟩ ≠ none ∧ ".json".toList <:+ n.toList) ∧
      ((front.map Prod.fst ++ rest).Pairwise fun m n => m.toList < n.toList) ∧
      Pass front.length now q responses requests h front rest ((collect now i q).run h) ∧
      ∀ ticket a r, ticket ≠ "" → (ticket ++ ".json", a) ∈ front →
        find? ticket h.results.records = some r →
        find? ticket ((collect now i q).run h).state.results.records =
          some (r.withOutcome now a.status a.result) := by
  obtain ⟨hmem, hsorted⟩ := names_spec ".json" hfiles.toResponses.way hfiles.unique
  have hentry : ∀ n, (∃ e, (Path.mk (responses.parts ++ [n]), e) ∈ h.files.entries) ↔
      h.files.entry? ⟨responses.parts ++ [n]⟩ ≠ none := by
    intro n
    rw [Option.ne_none_iff_exists']
    exact exists_congr fun e => (entry_eq_some_iff hfiles.unique (by simp)).symm
  simp only [hentry] at hmem
  have hnodup : (h.files.names q.responses ".json").Nodup :=
    hsorted.imp (by rintro m n hlt rfl; exact List.lt_irrefl _ hlt)
  obtain ⟨front, rest, hnames, hpass⟩ := forM_collectFile_pass now i hfiles.toReached hnodup
    (fun n hn => ⟨hfiles.named n ((hmem n).mp hn).1 ((hmem n).mp hn).2, ((hmem n).mp hn).1⟩)
    hholds hlocal
  have hcollected : Pass front.length now q responses requests h front rest
      ((collect now i q).run h) := by
    rw [collect_run]
    refine { hpass with ending := ?_ }
    cases hpass.ending with
    | done hrest haccepted hanswer =>
        have hlength : (h.files.names q.responses ".json").length = front.length := by
          simp [hnames, hrest]
        exact .done hrest haccepted (by dsimp only; rw [hanswer, hlength]; rfl)
    | stuck hrest haccepted hobstacle hanswer hleft =>
        exact .stuck hrest haccepted hobstacle (by dsimp only; rw [hanswer]; rfl) hleft
    | unannounced hfront haccepted htracked hfault hanswer hleft =>
        exact .unannounced hfront haccepted htracked hfault (by dsimp only; rw [hanswer]; rfl)
          hleft
  rw [hnames] at hmem hsorted
  refine ⟨front, rest, hmem, hsorted, hcollected, fun ticket a r hticket ha hfind => ?_⟩
  rw [hcollected.results]
  exact find?_foldl_of_mem hticket
    (fun x hx => ((hmem x.1).mp (List.mem_append_left _ (List.mem_map_of_mem hx))).2) hsorted
    hcollected.handled ha hfind

/-! The queue of before, with a directory among the responses whose name comes first. -/

def blockedHost : Host :=
  { sampleHost with
    files := ⟨(⟨["q", "responses", "0.json"]⟩, .directory) :: sampleHost.files.entries⟩ }

theorem accessible_blocked :
    Accessible sample blockedHost.files ⟨["q", "responses"]⟩ ⟨["q", "requests"]⟩ where
  toResponses := ⟨rfl, rfl, by decide⟩
  toRequests := ⟨rfl, rfl, by decide⟩
  unique := by decide
  named := by
    have hunique : (blockedHost.files.entries.map Prod.fst).Nodup := by decide
    intro n hentry _
    obtain ⟨e, hentry⟩ := Option.ne_none_iff_exists'.mp hentry
    rw [entry_eq_some_iff hunique (by simp)] at hentry
    have hname : n = "0.json" ∨ n = "t.json" ∨ n = "u.json" := by
      have hfile : n = "0.json" ∧ e = .directory ∨ n = "t.json" ∧ e = .file [55] ∨
          n = "u.json" ∧ e = .file [91] := by
        simpa [blockedHost, sampleHost] using hentry
      tauto
    rcases hname with rfl | rfl | rfl <;>
      exact ⟨by decide, by decide, by decide, by decide, by decide⟩

/-- The directory is not handled, and so nothing is that comes after it. -/
theorem collect_stops_at_first_obstacle_blocked :
    (blockedHost.instanceAt 0).holdsChannel = true ∧ Local blockedHost.results ∧
      ∃ front rest, "0.json" ∈ rest ∧
        Pass front.length ⟨0⟩ sample ⟨["q", "responses"]⟩ ⟨["q", "requests"]⟩ blockedHost front rest
          ((collect ⟨0⟩ 0 sample).run blockedHost) := by
  have hlocal : Local blockedHost.results := ⟨rfl, .inr (by decide)⟩
  obtain ⟨front, rest, hmem, -, hpass, -⟩ :=
    collect_stops_at_first_obstacle ⟨0⟩ 0 accessible_blocked rfl hlocal
  refine ⟨rfl, hlocal, front, rest, ?_, hpass⟩
  rcases List.mem_append.mp ((hmem "0.json").mpr ⟨by decide, by decide⟩) with hfront | hrest
  · obtain ⟨x, hx, hname⟩ := List.mem_map.mp hfront
    obtain ⟨bytes, hfile, -⟩ := (hpass.handled x hx).said
    have hdirectory : blockedHost.files.entry? ⟨["q", "responses", "0.json"]⟩ =
        some .directory := by decide
    rw [hname] at hfile
    exact absurd (hfile.symm.trans hdirectory) (by simp)
  · exact hrest

theorem names_blocked :
    blockedHost.files.names sample.responses ".json" = ["0.json", "t.json", "u.json"] := by
  have hlisted : blockedHost.files.names sample.responses ".json" =
      ["0.json", "t.json", "u.json"].mergeSort before := rfl
  rw [hlisted]
  exact List.mergeSort_of_pairwise (by decide)

/-- A response that could be handled is left, because a directory comes before it. -/
theorem response_behind_directory_is_left :
    Handled blockedHost.nesting blockedHost.files ⟨["q", "responses"]⟩ ⟨["q", "requests"]⟩ "t.json"
        ⟨"t", .success, .int 7⟩ ∧
      ((collect ⟨0⟩ 0 sample).run blockedHost).answer =
        .error (FileError.isDirectory.at ⟨["q", "responses", "0.json"]⟩) ∧
      FileTree.entry? ((collect ⟨0⟩ 0 sample).run blockedHost).state.files
        ⟨["q", "responses", "t.json"]⟩ = some (.file [55]) ∧
      find? "t" ((collect ⟨0⟩ 0 sample).run blockedHost).state.results.records =
        some ⟨"t", .callTool, "x", .pending, .null, ""⟩ := by
  have hname : IsName "0.json" := ⟨by decide, by decide, by decide, by decide, by decide⟩
  have hchild : sample.responses.child "0.json" = ⟨["q", "responses", "0.json"]⟩ := rfl
  obtain ⟨t, hrun, -, hothers⟩ := collectFile_run_of_obstacle ⟨0⟩ 0
    accessible_blocked.toReached hname (.directory (by decide))
  have hcollect : (collect ⟨0⟩ 0 sample).run blockedHost =
      ⟨.error (FileError.isDirectory.at (sample.responses.child "0.json")),
        { blockedHost with files := t }, []⟩ := by
    rw [collect_run, names_blocked, Op.forM_cons, Op.run_bind, hrun]
    rfl
  rw [hcollect, hchild]
  refine ⟨⟨by decide +kernel, ⟨[55], by decide, ?_⟩, by decide⟩, rfl, ?_, rfl⟩
  · exact .value ⟨['7'], Utf8.decode_eq_ok_iff.mpr (by decide), rfl⟩ (by simp)
  · exact hothers ⟨["q", "responses", "t.json"]⟩ (by simp) (by decide)

end CommandBridge.FileQueue
