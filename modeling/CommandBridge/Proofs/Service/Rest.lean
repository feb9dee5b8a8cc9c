import CommandBridge.Proofs.Http.Reply

/-!
# CommandBridge.Proofs.Service.Rest

Services at rest: every event stream has ended, and no file queue has a collector that is due.  Then
the background has nothing to do (`settle_run`), and an operation that is over at once leaves what
it leaves, however long the background is waited for (`perform_run_of_done`).

A service comes to rest when the clients of its streams leave and the background has its turn
(`atRest_comeToRest`).
-/

namespace CommandBridge

/-! ## Collectors -/

namespace Collector

/-- Whether a collector is due at a time. -/
def IsDueAt (c : Collector) (time : Nat) : Prop := (FileQueue.dueTime? c).any (· ≤ time) = true

/-- After a round the next one is due later, if there is one. -/
theorem not_isDueAt_nextStage (c : Collector) (clock nanoseconds : Nat) (e : Option Failure) :
    ¬ { c with stage := FileQueue.nextStage clock nanoseconds e }.IsDueAt clock := by
  have hlater : ¬ (FileQueue.dueTime?
      { c with stage := .due (clock + max nanoseconds 1) }).any (· ≤ clock) = true := by
    simp [FileQueue.dueTime?]
  unfold IsDueAt FileQueue.nextStage
  split
  · split
    · exact hlater
    · simp [FileQueue.dueTime?]
  · exact hlater

end Collector

namespace Host

/-- The collectors of file queues that are due are among some. -/
def DueAmong (cs : List Collector) (h : Host) : Prop :=
  ∀ c ∈ h.collectors, c.IsDueAt h.clock →
    ∀ q, (h.instanceAt c.owner).adapter = .fileQueue q → c ∈ cs

/-- Hosts with the same instances and collectors at the same time. -/
structure SameRounds (h h' : Host) : Prop where
  instances : h'.instances = h.instances
  collectors : h'.collectors = h.collectors
  clock : h'.clock = h.clock

theorem sameRounds_onResults {h : Host} {α : Type} (x : Op ResultChannel α) :
    (onResults x).Keeps (SameRounds h) := .on fun _ hh => ⟨hh.1, hh.2, hh.3⟩

theorem sameRounds_onFiles {h : Host} (f : FileTree → Except Failure FileTree) :
    (onFiles f).Keeps (SameRounds h) := by
  intro h' hh
  show SameRounds h (onFiles f h').state
  unfold onFiles
  split <;> exact ⟨hh.1, hh.2, hh.3⟩

end Host

namespace FileQueue

open Host

variable {h : Host}

theorem sameRounds_removeIfPresent (p : Path) : (removeIfPresent p).Keeps (SameRounds h) := by
  refine .bind (.attempt (sameRounds_onFiles _)) fun r => ?_
  split
  · exact .pure _
  · exact .ite (fun _ => .pure _) fun _ => .fail _

theorem sameRounds_collectFile (now : Timestamp) (i : Nat) (q : FileQueue) (name : String) :
    (collectFile now i q name).Keeps (SameRounds h) := by
  refine .bind .get fun _ => .bind (.ofExcept _) fun o => ?_
  refine .bind (.discard (sameRounds_removeIfPresent _)) fun _ =>
    .bind (.discard (sameRounds_removeIfPresent _)) fun _ => .bind .get fun h' => ?_
  refine .ite (fun _ => ?_) fun _ => .pure _
  refine .bind (.attempt (sameRounds_onResults _)) fun r => ?_
  split
  · exact .pure _
  · exact .event _ _ _ _
  · exact .fail _

/-- Collecting response files touches neither instances nor collectors, and takes no time. -/
theorem sameRounds_collect (now : Timestamp) (i : Nat) (q : FileQueue) :
    (collect now i q).Keeps (SameRounds h) :=
  .bind .get fun _ => .bind (.forM fun name _ => sameRounds_collectFile now i q name) fun _ =>
    .pure _

/-- A round sets the time of the collector's next one. -/
theorem round_state (now : Timestamp) {c : Collector} {q : FileQueue}
    (hq : (h.instanceAt c.owner).adapter = .fileQueue q) :
    ∃ h' failure, SameRounds h h' ∧ ((round now c).run h).state = { h' with
      collectors := h'.collectors.map fun d =>
        if d.id = c.id then { d with stage := nextStage h'.clock q.nanoseconds failure } else d } := by
  have hkeeps := sameRounds_collect now c.owner q h ⟨rfl, rfl, rfl⟩
  rw [round, Op.state_bind_ok (a := h) rfl, Op.run_get]
  simp only [hq]
  rw [Op.state_bind_ok (a := ((collect now c.owner q).run h).answer) rfl]
  cases hanswer : ((collect now c.owner q).run h).answer with
  | ok n => exact ⟨_, none, hkeeps, rfl⟩
  | error e =>
      refine ⟨_, some e, hkeeps, ?_⟩
      dsimp only
      split <;> rfl

/-- A round is done with its collector. -/
theorem dueAmong_round (now : Timestamp) {c : Collector} {cs : List Collector}
    (hdue : h.DueAmong (c :: cs)) : ((round now c).run h).state.DueAmong cs := by
  by_cases hq : ∃ q, (h.instanceAt c.owner).adapter = .fileQueue q
  · obtain ⟨q, hq⟩ := hq
    obtain ⟨h', failure, ⟨hinstances, hcollectors, hclock⟩, hstate⟩ := round_state now hq
    rw [hstate]
    intro d hd hdueAt q' hq'
    obtain ⟨d, hmem, rfl⟩ := List.mem_map.mp hd
    split at hdueAt
    · exact absurd hdueAt (Collector.not_isDueAt_nextStage _ _ _ _)
    · next hid =>
      simp only [if_neg hid] at hq' ⊢
      have hold : (h.instanceAt d.owner).adapter = .fileQueue q' := by
        rw [← hq', instanceAt, instanceAt, hinstances]
      have hmem' := hdue d (hcollectors ▸ hmem) (hclock ▸ hdueAt) q' hold
      exact (List.mem_cons.mp hmem').resolve_left fun heq => hid (heq ▸ rfl)
  · have hidle : ((round now c).run h).state = h := by
      rw [round, Op.state_bind_ok (a := h) rfl, Op.run_get]
      split
      · next q hq' => exact absurd ⟨q, hq'⟩ hq
      · rfl
    rw [hidle]
    intro d hd hdueAt q' hq'
    exact (List.mem_cons.mp (hdue d hd hdueAt q' hq')).resolve_left
      fun heq => hq ⟨q', heq ▸ hq'⟩

/-- When all collectors that are due did a round, none is due any more. -/
theorem dueAmong_runDue (now : Timestamp) (h : Host) :
    ((runDue now).run h).state.DueAmong [] := by
  have hstart : h.DueAmong (h.collectors.filter fun c => (dueTime? c).any (· ≤ h.clock)) :=
    fun c hc hdueAt _ _ => List.mem_filter.mpr ⟨hc, hdueAt⟩
  exact Op.forM_of_remaining (P := fun cs h => h.DueAmong cs) (total_round now)
    (fun _ _ _ => dueAmong_round now) hstart

/-- Where no collector of a file queue is due, nothing is done. -/
theorem runDue_run (now : Timestamp) (hdue : h.DueAmong []) :
    (runDue now).run h = ⟨.ok ⟨⟩, h, []⟩ := by
  rw [runDue, Op.run_get_bind]
  refine Op.forM_run_of_idle fun c hc => ?_
  obtain ⟨hmem, hdueAt⟩ := List.mem_filter.mp hc
  rw [round, Op.run_get_bind]
  split
  · next q hq => exact absurd (hdue c hmem hdueAt q hq) List.not_mem_nil
  · rfl

end FileQueue

/-! ## Services -/

namespace Service

/-- All event streams that were sent over connections have ended. -/
def HungUp (s : Service) : Prop := ∀ c ∈ s.connections, c.stream.phase = .ended

/-- A service whose background has nothing to do at the time. -/
structure AtRest (s : Service) : Prop where
  hungUp : s.HungUp
  collected : s.bridge.host.DueAmong []

/-- The clients of all event streams leave. -/
def hangUp : Op Service Unit := do
  (List.range (← Op.get).connections.length).forM disconnect

/-- Comes to rest: the clients of event streams leave, and the background has its turn. -/
def comeToRest (now : Timestamp) : Op Service Unit := do
  hangUp
  settle now

variable {s : Service} {now : Timestamp}

theorem putConnection_run {place : Nat} {c : Connection} (hc : s.connections[place]? = some c) :
    (putConnection place c).run s = ⟨.ok (), s, []⟩ := by
  have hsame : s.connections.modify place (fun _ => c) = s.connections := by
    obtain ⟨hplace, rfl⟩ := List.getElem?_eq_some_iff.mp hc
    rw [List.modify_eq_set_getElem?, hc]
    exact List.set_getElem_self hplace
  rw [putConnection, Op.run_modify, hsame]

/-- Nothing is sent over a connection whose stream has ended. -/
theorem advanceConnection_run (hs : s.HungUp) (place : Nat) :
    (advanceConnection place).run s = ⟨.ok (), s, []⟩ := by
  rw [advanceConnection, Op.run_get_bind]
  cases hc : s.connections[place]? with
  | none => simp only [Op.run_pure]
  | some c =>
      have hended := hs c (List.mem_of_getElem? hc)
      have hbacklog : c.backlog s.results = 0 := by rw [Connection.backlog, hended]
      have hadvance : (c.advance s.clock).run s.results = ⟨.ok c, s.results, []⟩ := by
        rw [Connection.advance, Op.run_get_bind]
        simp only [hbacklog, Connection.sendReady, pure_bind, hended, Op.run_pure]
      have hon : (onResults (c.advance s.clock)).run s = ⟨.ok c, s, []⟩ := by
        show Outcome.mk ((c.advance s.clock).run s.results).answer
          { s with bridge := { s.bridge with host := { s.bridge.host with
            results := ((c.advance s.clock).run s.results).state } } }
          ((c.advance s.clock).run s.results).log = _
        rw [hadvance]
        rfl
      dsimp only
      rw [Op.run_bind_of_silent hon, putConnection_run hc]

/-- Where all streams have ended, what the background changes is what the collectors change. -/
theorem settle_state (hs : s.HungUp) (now : Timestamp) :
    ((settle now).run s).state = ((onHost (FileQueue.runDue now)).run s).state := by
  have htotal : (onHost (FileQueue.runDue now)).Total :=
    .on (.on (.bind .get fun _ => .forM (FileQueue.total_round now) _))
  obtain ⟨u, hu⟩ := htotal s
  have hleft : ((onHost (FileQueue.runDue now)).run s).state.HungUp := hs
  rw [settle, Op.state_bind_ok hu, Op.run_get_bind,
    Op.forM_run_of_idle fun place _ => advanceConnection_run hleft place]

/-- Where no collector of a file queue is due, none does anything. -/
theorem runDue_run (hdue : s.bridge.host.DueAmong []) (now : Timestamp) :
    (onHost (FileQueue.runDue now)).run s = ⟨.ok ⟨⟩, s, []⟩ := by
  rw [onHost, onBridge, Op.run_on, Bridge.onHost, Op.run_on, FileQueue.runDue_run now hdue]

/-- Where a service is at rest, the background does nothing. -/
theorem settle_run (hs : s.AtRest) (now : Timestamp) : (settle now).run s = ⟨.ok (), s, []⟩ := by
  rw [settle, Op.run_bind_of_silent (runDue_run hs.collected now), Op.run_get_bind,
    Op.forM_run_of_idle fun place _ => advanceConnection_run hs.hungUp place]

/-- When the streams have ended, the background leaves nothing to do. -/
theorem atRest_settle (hs : s.HungUp) (now : Timestamp) : ((settle now).run s).state.AtRest := by
  rw [settle_state hs now]
  exact ⟨hs, FileQueue.dueAmong_runDue now s.bridge.host⟩

/-! ## Coming to rest -/

theorem total_disconnect (place : Nat) : (disconnect place).Total := by
  refine .bind .get fun s => ?_
  split
  · exact .pure _
  · refine .bind (.on (.on (.on ?_))) fun _ => .modify _
    unfold EventStream.close
    dsimp only
    split
    · exact .bind (.modify _) fun _ => .pure _
    · exact .pure _

/-- A stream that is closed has ended. -/
theorem close_answer (e : EventStream) (r : ResultChannel) :
    (e.close.run r).answer = .ok { e with phase := .ended } := by
  unfold EventStream.close
  dsimp only
  split <;> rfl

/-- A client that leaves ends its own stream and no other. -/
theorem connections_disconnect (place : Nat) (s : Service) :
    ((disconnect place).run s).state.connections =
      s.connections.modify place fun c => { c with stream := { c.stream with phase := .ended } } := by
  rw [disconnect, Op.run_get_bind]
  cases hc : s.connections[place]? with
  | none =>
      have hplace : s.connections.length ≤ place := List.getElem?_eq_none_iff.mp hc
      rw [List.modify_eq_self hplace]
      rfl
  | some c =>
      have hclose : ((onResults c.stream.close).run s).answer =
          .ok { c.stream with phase := .ended } := close_answer c.stream s.results
      dsimp only
      rw [Op.state_bind_ok hclose]
      show s.connections.modify place (fun _ => _) = s.connections.modify place _
      rw [List.modify_eq_set_getElem?, List.modify_eq_set_getElem?, hc]
      rfl

/-- All event streams have ended but those over connections at some places. -/
def HungUpBut (places : List Nat) (s : Service) : Prop :=
  ∀ (j : Nat) c, s.connections[j]? = some c → j ∈ places ∨ c.stream.phase = .ended

theorem hungUpBut_disconnect {place : Nat} {places : List Nat}
    (hs : s.HungUpBut (place :: places)) :
    ((disconnect place).run s).state.HungUpBut places := by
  intro j c hj
  rw [connections_disconnect, List.getElem?_modify] at hj
  obtain ⟨c', hc', rfl⟩ := Option.map_eq_some_iff.mp hj
  by_cases hplace : place = j
  · exact .inr (by simp [hplace])
  · rw [if_neg hplace]
    refine (hs j c' hc').imp (fun hmem => ?_) id
    exact (List.mem_cons.mp hmem).resolve_left fun heq => hplace heq.symm

/-- When all clients have left, all streams have ended. -/
theorem hungUp_hangUp (s : Service) : (hangUp.run s).state.HungUp := by
  have hstart : s.HungUpBut (List.range s.connections.length) := fun j c hj =>
    .inl (List.mem_range.mpr (List.getElem?_eq_some_iff.mp hj).1)
  have hnone := Op.forM_of_remaining (P := HungUpBut) total_disconnect
    (fun _ _ _ => hungUpBut_disconnect) hstart
  rw [hangUp, Op.run_get_bind]
  intro c hc
  obtain ⟨j, hj⟩ := List.mem_iff_getElem?.mp hc
  exact (hnone j c hj).resolve_left List.not_mem_nil

theorem total_comeToRest (now : Timestamp) : (comeToRest now).Total :=
  .bind (.bind .get fun _ => .forM total_disconnect _) fun _ => total_settle now

/-- A service that comes to rest is at rest. -/
theorem atRest_comeToRest (now : Timestamp) (s : Service) :
    ((comeToRest now).run s).state.AtRest := by
  have htotal : hangUp.Total := .bind .get fun _ => .forM total_disconnect _
  obtain ⟨u, hu⟩ := htotal s
  rw [comeToRest, Op.state_bind_ok hu]
  exact atRest_settle (hungUp_hangUp s) now

/-- A service at rest has nothing to come to rest from. -/
theorem comeToRest_run (hs : s.AtRest) (now : Timestamp) :
    (comeToRest now).run s = ⟨.ok (), s, []⟩ := by
  have hidle : hangUp.run s = ⟨.ok ⟨⟩, s, []⟩ := by
    rw [hangUp, Op.run_get_bind]
    refine Op.forM_run_of_idle fun place _ => ?_
    rw [disconnect, Op.run_get_bind]
    cases hc : s.connections[place]? with
    | none => simp only [Op.run_pure]
    | some c =>
        have hended := hs.hungUp c (List.mem_of_getElem? hc)
        have hclose : (onResults c.stream.close).run s = ⟨.ok c.stream, s, []⟩ := by
          have hstream : { c.stream with phase := .ended } = c.stream := by rw [← hended]
          unfold EventStream.close
          simp only [hended, hstream]
          rfl
        dsimp only
        rw [Op.run_bind_of_silent hclose, putConnection_run hc]
  rw [comeToRest, Op.run_bind_of_silent hidle, settle_run hs]

/-! ## Operations that take time -/

variable {α : Type} {o : Except Failure (Progress Service α)}

/-- An operation that answered with `o` when it was started waits still, or came to one of its
ends. -/
def IsOf (o : Except Failure (Progress Service α)) : Started α → Prop
  | .waiting w resume => o = .ok (.suspended w resume)
  | .over r => Op.Ends o r

theorem start_answer (x : Op Service (Progress Service α)) (s : Service) :
    ∃ t, ((start x).run s).answer = .ok t ∧ IsOf (x.run s).answer t := by
  rw [start, Op.answer_bind_ok (a := (x.run s).answer) rfl]
  cases h : (x.run s).answer with
  | error e => exact ⟨_, rfl, .failed e⟩
  | ok p =>
      cases p with
      | done a => exact ⟨_, rfl, .atOnce a⟩
      | suspended w resume => exact ⟨_, rfl, rfl⟩

theorem wake_answer {t : Started α} (ht : IsOf o t) (s : Service) :
    ∃ t', ((wake t).run s).answer = .ok t' ∧ IsOf o t' := by
  cases t with
  | «over» r => exact ⟨_, rfl, ht⟩
  | waiting w resume =>
      obtain rfl : o = _ := ht
      rw [wake, Op.run_get_bind]
      split
      · exact ⟨_, Op.answer_bind_ok (a := (resume.run s).answer) rfl, .later w resume s⟩
      · exact ⟨_, rfl, rfl⟩

theorem finish_answer {t : Started α} (ht : IsOf o t) (s : Service) :
    ∃ r, ((finish t).run s).answer = .ok r ∧ Op.Ends o r := by
  cases t with
  | «over» r => exact ⟨r, rfl, ht⟩
  | waiting w resume =>
      obtain rfl : o = _ := ht
      exact ⟨_, rfl, .later w resume s⟩

/-- A single operation of a list that is gone through. -/
theorem mapM_singleton_answer {β γ : Type} {f : β → Op Service γ} {b : β} {c : γ}
    (h : ((f b).run s).answer = .ok c) : (([b].mapM f).run s).answer = .ok [c] := by
  rw [List.mapM_cons, Op.answer_bind_ok h]
  rfl

/-- However the time goes by, an operation comes to one of its ends. -/
theorem drive_answer (now : Timestamp) (limit : Nat) {t : Started α} (ht : IsOf o t)
    (s : Service) : ∃ r, ((drive now limit [t]).run s).answer = .ok [r] ∧ Op.Ends o r := by
  have hfinish : ∀ {t : Started α}, IsOf o t → ∀ s,
      ∃ r, (([t].mapM finish).run s).answer = .ok [r] ∧ Op.Ends o r := by
    intro t ht s
    obtain ⟨r, hr, hends⟩ := finish_answer ht s
    exact ⟨r, mapM_singleton_answer hr, hends⟩
  induction limit generalizing t s with
  | zero => exact hfinish ht s
  | succ limit ih =>
      obtain ⟨u, hu⟩ := total_settle now s
      obtain ⟨t', hwake, ht'⟩ := wake_answer ht ((settle now).run s).state
      rw [drive, Op.answer_bind_ok hu, Op.answer_bind_ok (mapM_singleton_answer hwake),
        Op.run_get_bind]
      split
      · exact hfinish ht' _
      · rw [Op.answer_bind_ok (x := setClock _) (a := ()) rfl]
        exact ih ht' _

/-- What performing an operation comes to is an end of the operation. -/
theorem ends_perform (now : Timestamp) (x : Op Service (Progress Service α)) (s : Service) :
    Op.Ends (x.run s).answer ((perform now x).run s).answer := by
  obtain ⟨t, hstart, ht⟩ := start_answer x s
  obtain ⟨r, hdrive, hends⟩ := drive_answer now _ ht ((([x].mapM start).run s).state)
  have hgather : ((gather now [x]).run s).answer = .ok [r] := by
    rw [gather, Op.answer_bind_ok (mapM_singleton_answer hstart), Op.run_get_bind]
    exact hdrive
  obtain ⟨u, hu⟩ := total_settle now ((gather now [x]).run s).state
  rw [perform, Op.answer_bind_ok hgather, Op.answer_bind_ok hu]
  exact hends

/-- An operation that is over at once and leaves a service at rest has left all there is to
leave. -/
theorem perform_run_of_done (now : Timestamp) {x : Op Service (Progress Service α)} {a : α}
    (hanswer : (x.run s).answer = .ok (.done a)) (hrest : (x.run s).state.AtRest) :
    ((perform now x).run s).answer = .ok a ∧ ((perform now x).run s).state = (x.run s).state := by
  have hends := ends_perform now x s
  rw [hanswer] at hends
  generalize hr : ((perform now x).run s).answer = r at hends
  cases hends
  refine ⟨rfl, ?_⟩
  have hstart : ((start x).run s).answer = .ok (.over (.ok a)) ∧
      ((start x).run s).state = (x.run s).state := by
    rw [start, Op.answer_bind_ok (a := (x.run s).answer) rfl,
      Op.state_bind_ok (a := (x.run s).answer) rfl, hanswer]
    exact ⟨rfl, rfl⟩
  have hstarted : (([x].mapM start).run s).state = (x.run s).state := by
    rw [List.mapM_cons, Op.state_bind_ok hstart.1, ← hstart.2]
    rfl
  -- nothing is waited for, so one round of the background is all that follows
  have hdrive : (drive now 1 [Started.over (.ok a)]).run (x.run s).state =
      ⟨.ok [.ok a], (x.run s).state, []⟩ := by
    rw [drive, Op.run_bind_of_silent (settle_run hrest now)]
    rfl
  have hgather : ((gather now [x]).run s).answer = .ok [.ok a] ∧
      ((gather now [x]).run s).state = (x.run s).state := by
    rw [gather, Op.answer_bind_ok (mapM_singleton_answer hstart.1),
      Op.state_bind_ok (mapM_singleton_answer hstart.1), hstarted, Op.run_get_bind]
    have hlimit : ∀ clock : Nat, ([Started.over (.ok a)].filterMap deadline?).foldl max clock -
        clock + 1 = 1 := fun clock => congrArg (· + 1) (Nat.sub_self clock)
    rw [hlimit, hdrive]
    exact ⟨rfl, rfl⟩
  rw [perform, Op.state_bind_ok hgather.1, hgather.2,
    Op.run_bind_of_silent (settle_run hrest now)]
  rfl

end Service

end CommandBridge
