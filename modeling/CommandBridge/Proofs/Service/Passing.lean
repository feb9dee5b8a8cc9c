import CommandBridge.Proofs.Dispatch.Timeless
import CommandBridge.Proofs.Service.Rest

/-!
# CommandBridge.Proofs.Service.Passing

How time passes while operations wait for one deadline and no collector has anything to do.
Connections send what they have and nothing else happens, so all that changes about the bridge is
the time and the queues of subscribers (`Passes`); and the time that passes is the time to the
deadline, however many operations wait for it, or none if there is none (`drive_due`).

Connections may be due any number of times in between.  After each round all of them are due later
than now (`settle_passes`), which is why a drive comes to the deadline within its limit.
-/

namespace CommandBridge

/-! ## Bridges as time passes -/

/-- A bridge at another time, with other queues of subscribers. -/
def Bridge.later (clock : Nat) (queues : List EventQueue) (b : Bridge) : Bridge :=
  { b with host := { b.host with
      clock := clock
      results := { b.host.results with queues := queues } } }

theorem Bridge.timeless_later (clock : Nat) (queues : List EventQueue) (b : Bridge) :
    (b.later clock queues).timeless = b.timeless := rfl

theorem Bridge.received_later (clock : Nat) (queues : List EventQueue) (b : Bridge) (i : Nat) :
    (b.later clock queues).host.received i = b.host.received i := rfl

theorem Bridge.Poised.later {w : Station} {b : Bridge} (hb : b.Poised w) (clock : Nat)
    (queues : List EventQueue) : (b.later clock queues).Poised { w with clock := clock } where
  attached := hb.attached
  opened := hb.opened
  delay := hb.delay
  host := { hb.host with clock := rfl }

/-- The result channel with other queues. -/
def ResultChannel.ButQueues (r r' : ResultChannel) : Prop :=
  ∃ queues, r' = { r with queues := queues }

section

variable {r : ResultChannel}

theorem ResultChannel.butQueues_nextEvent? (place : Nat) :
    (nextEvent? place).Keeps r.ButQueues := by
  rintro _ ⟨queues, rfl⟩
  simp only [Op.run, nextEvent?]
  split <;> exact ⟨_, rfl⟩

theorem EventStream.butQueues_next (e : EventStream) : e.next.Keeps r.ButQueues := by
  unfold next
  split
  · exact .pure _
  · refine .bind ?_ fun _ => .bind .get fun _ => .pure _
    rintro _ ⟨queues, rfl⟩
    exact ⟨_, rfl⟩
  · refine .ite (fun _ => .bind (.modify ?_) fun _ => .pure _) fun _ => .ite (fun _ => .pure _)
      fun _ => .bind (ResultChannel.butQueues_nextEvent? _) fun event => ?_
    · rintro _ ⟨queues, rfl⟩
      exact ⟨_, rfl⟩
    · cases event <;> exact .pure _

namespace Connection

theorem butQueues_sendReady (clock limit : Nat) (c : Connection) :
    (c.sendReady clock limit).Keeps r.ButQueues := by
  induction limit generalizing c with
  | zero => exact .pure _
  | succ limit ih =>
      refine .bind (EventStream.butQueues_next _) fun ⟨stream, step⟩ => ?_
      cases step with
      | frame f => exact ih _
      | ended => exact .pure _
      | waiting => exact .pure _

/-- A connection takes events out of its queue and does nothing else to the channel. -/
theorem butQueues_advance (clock : Nat) (c : Connection) :
    (c.advance clock).Keeps r.ButQueues := by
  refine .bind .get fun _ => .bind (butQueues_sendReady _ _ _) fun c => ?_
  split
  · exact .pure _
  · exact .pure _

/-- After a connection sent what it has, its next heartbeat is due later. -/
theorem due_advance (clock : Nat) (c : Connection) :
    (c.advance clock).Yields (fun _ => True) fun c => ∀ d, c.dueTime? = some d → clock < d := by
  refine .bind fun _ => .bind fun c => ?_
  cases hphase : c.stream.phase with
  | live q =>
      refine .pure fun d hd => ?_
      by_cases hdue : c.due ≤ clock
      · rw [if_pos hdue, dueTime?] at hd
        simp only [send, hphase, Option.some.injEq] at hd
        omega
      · rw [if_neg hdue, dueTime?] at hd
        simp only [hphase, Option.some.injEq] at hd
        omega
  | fresh => exact .pure fun d hd => by simp [dueTime?, hphase] at hd
  | ended => exact .pure fun d hd => by simp [dueTime?, hphase] at hd

end Connection

end

namespace Service

variable {α : Type} {s t u : Service} {now : Timestamp}

/-- What a service comes to if nothing happens to its bridge but that it is another time and
subscribers' queues have changed. -/
def Passes (s : Service) (clock : Nat) (t : Service) : Prop :=
  ∃ queues, t.bridge = s.bridge.later clock queues

theorem Passes.refl (s : Service) : s.Passes s.clock s := ⟨s.results.queues, rfl⟩

theorem Passes.trans {c c' : Nat} (h : s.Passes c t) (h' : t.Passes c' u) : s.Passes c' u := by
  obtain ⟨queues, hqueues⟩ := h
  obtain ⟨queues', hqueues'⟩ := h'
  exact ⟨queues', by rw [hqueues', hqueues]; rfl⟩

theorem Passes.clock {c : Nat} (h : s.Passes c t) : t.clock = c := by
  obtain ⟨queues, hqueues⟩ := h
  rw [Service.clock, hqueues]
  rfl

/-- No collector has anything to do, now or later. -/
def Idle (s : Service) : Prop := ∀ c ∈ s.bridge.host.collectors, FileQueue.dueTime? c = none

theorem Passes.idle {c : Nat} (h : s.Passes c t) (hs : s.Idle) : t.Idle := by
  obtain ⟨queues, hqueues⟩ := h
  rw [Idle, hqueues]
  exact hs

theorem passes_setClock (s : Service) (time : Nat) :
    s.Passes (max s.clock time) ((setClock time).run s).state := ⟨s.results.queues, rfl⟩

/-! ## The background -/

theorem passes_advanceConnection (place : Nat) (s : Service) :
    s.Passes s.clock ((advanceConnection place).run s).state := by
  rw [advanceConnection, Op.run_get_bind]
  cases hc : s.connections[place]? with
  | none => exact .refl s
  | some c =>
      obtain ⟨queues, hqueues⟩ := Connection.butQueues_advance s.clock c s.results ⟨_, rfl⟩
      obtain ⟨c', hadvance⟩ := Connection.total_advance s.clock c s.results
      have hanswer : ((onResults (c.advance s.clock)).run s).answer = .ok c' := hadvance
      refine ⟨queues, ?_⟩
      simp only
      rw [Op.state_bind_ok hanswer]
      show { s.bridge with host := { s.bridge.host with
        results := ((c.advance s.clock).run s.results).state } } = _
      rw [hqueues]
      rfl

/-- The connections are due later than now, but for those at some places. -/
def AwaitedBut (places : List Nat) (s : Service) : Prop :=
  ∀ (j : Nat) c, s.connections[j]? = some c →
    j ∈ places ∨ ∀ d, c.dueTime? = some d → s.clock < d

/-- A connection that had its turn is due later. -/
theorem awaitedBut_advanceConnection {place : Nat} {places : List Nat}
    (hs : s.AwaitedBut (place :: places)) :
    ((advanceConnection place).run s).state.AwaitedBut places := by
  have hclock := (passes_advanceConnection place s).clock
  rw [AwaitedBut, hclock, advanceConnection, Op.run_get_bind]
  intro j c hj
  cases hplace : s.connections[place]? with
  | none =>
      simp only [hplace, Op.run_pure] at hj
      refine (hs j c hj).imp (fun hmem => (List.mem_cons.mp hmem).resolve_left ?_) id
      rintro rfl
      exact absurd (hplace.symm.trans hj) (by simp)
  | some c' =>
      obtain ⟨sent, hadvance⟩ := Connection.total_advance s.clock c' s.results
      have hanswer : ((onResults (c'.advance s.clock)).run s).answer = .ok sent := hadvance
      simp only [hplace] at hj
      rw [Op.state_bind_ok hanswer] at hj
      replace hj : (s.connections.modify place fun _ => sent)[j]? = some c := hj
      rw [List.getElem?_modify] at hj
      obtain ⟨old, hold, hc⟩ := Option.map_eq_some_iff.mp hj
      by_cases hij : place = j
      · rw [if_pos hij] at hc
        exact .inr (hc ▸ Connection.due_advance s.clock c' s.results trivial sent hadvance)
      · rw [if_neg hij] at hc
        refine (hs j c (hc ▸ hold)).imp (fun hmem => ?_) id
        exact (List.mem_cons.mp hmem).resolve_left fun heq => hij heq.symm

/-- After the background has had its turn, it has nothing to do before some later time. -/
theorem settle_passes (hs : s.Idle) (now : Timestamp) :
    s.Passes s.clock ((settle now).run s).state ∧
      ∀ d ∈ ((settle now).run s).state.backgroundTimes, s.clock < d := by
  have hnone : s.bridge.host.DueAmong [] := by
    intro c hc hdue
    simp [Collector.IsDueAt, hs c hc] at hdue
  have hstart : s.Passes s.clock s ∧ s.AwaitedBut (List.range s.connections.length) :=
    ⟨.refl s, fun j c hj => .inl (List.mem_range.mpr (List.getElem?_eq_some_iff.mp hj).1)⟩
  obtain ⟨hpasses, hawaited⟩ := Op.forM_of_remaining
    (P := fun places t => s.Passes s.clock t ∧ t.AwaitedBut places) total_advanceConnection
    (fun place places t ht => ⟨ht.1.trans (ht.1.clock ▸ passes_advanceConnection place t),
      awaitedBut_advanceConnection ht.2⟩) hstart
  rw [settle, Op.run_bind_of_silent (runDue_run hnone now), Op.run_get_bind]
  refine ⟨hpasses, fun d hd => ?_⟩
  rcases List.mem_append.mp hd with hd | hd <;> obtain ⟨c, hc, hdue⟩ := List.mem_filterMap.mp hd
  · exact absurd hdue (by simp [hpasses.idle hs c hc])
  · obtain ⟨j, hj⟩ := List.mem_iff_getElem?.mp hc
    rw [← hpasses.clock]
    exact (hawaited j c hj).resolve_left List.not_mem_nil d hdue

/-! ## Waiting for a deadline -/

/-- An operation that is over, or waits for a deadline, and for nothing else, to answer. -/
inductive Due (deadline : Nat) : Started α → Except Failure α → Prop
  | over (r : Except Failure α) : Due deadline (.over r) r
  | waiting (a : α) : Due deadline (.waiting ⟨deadline, none⟩ (pure a)) (.ok a)

variable {deadline : Nat} {ts : List (Started α)} {rs : List (Except Failure α)}

/-- Operations that each answer without a word and change nothing. -/
theorem mapM_run_of_silent {β γ : Type} {R : β → γ → Prop} {f : β → Op Service γ} {bs : List β}
    {cs : List γ} (h : List.Forall₂ R bs cs)
    (hf : ∀ b c, R b c → (f b).run s = ⟨.ok c, s, []⟩) : (bs.mapM f).run s = ⟨.ok cs, s, []⟩ := by
  induction h with
  | nil => rfl
  | cons hbc _ ih =>
      rw [List.mapM_cons, Op.run_bind_of_silent (hf _ _ hbc), Op.run_bind_of_silent ih]
      rfl

theorem finish_due (hts : List.Forall₂ (Due deadline) ts rs) (s : Service) :
    (ts.mapM finish).run s = ⟨.ok rs, s, []⟩ := by
  refine mapM_run_of_silent hts ?_
  rintro _ _ (r | a) <;> rfl

/-- Before the deadline nothing is over that was not over. -/
theorem wake_early (hts : List.Forall₂ (Due deadline) ts rs) (hs : s.clock < deadline) :
    (ts.mapM wake).run s = ⟨.ok ts, s, []⟩ := by
  have hself : List.Forall₂ (fun t t' => t' = t ∧ ∃ r, Due deadline t r) ts ts := by
    induction hts with
    | nil => exact .nil
    | cons h _ ih => exact .cons ⟨rfl, _, h⟩ ih
  refine mapM_run_of_silent hself ?_
  rintro _ _ ⟨rfl, _, r | a⟩
  · rfl
  · rw [wake, Op.run_get_bind, isOver]
    simp only [decide_eq_false (Nat.not_le.mpr hs), Bool.or_false, Bool.false_eq_true, if_false]
    rfl

/-- At the deadline everything is over. -/
theorem wake_late (hts : List.Forall₂ (Due deadline) ts rs) (hs : deadline ≤ s.clock) :
    (ts.mapM wake).run s = ⟨.ok (rs.map Started.over), s, []⟩ := by
  have hover : List.Forall₂ (fun t t' => ∃ r, t' = Started.over r ∧ Due deadline t r) ts
      (rs.map Started.over) := by
    rw [List.forall₂_map_right_iff]
    exact hts.imp fun _ _ h => ⟨_, rfl, h⟩
  refine mapM_run_of_silent hover ?_
  rintro _ _ ⟨_, rfl, r | a⟩
  · rfl
  · rw [wake, Op.run_get_bind, isOver]
    simp only [decide_eq_true hs, Bool.true_or, if_true]
    rfl

theorem eq_of_deadline? (hts : List.Forall₂ (Due deadline) ts rs) :
    ∀ d ∈ ts.filterMap deadline?, d = deadline := by
  induction hts with
  | nil => simp
  | cons h _ ih =>
      cases h with
      | «over» => simpa [deadline?] using ih
      | waiting a =>
          rintro d (- | ⟨_, hd⟩)
          · rfl
          · exact ih d hd

theorem foldl_min_le (l : List Nat) (d : Nat) : l.foldl min d ≤ d := by
  induction l generalizing d with
  | nil => exact Nat.le_refl d
  | cons x l ih => exact (ih _).trans (Nat.min_le_left d x)

theorem lt_foldl_min {c d : Nat} {l : List Nat} (hd : c < d) (hl : ∀ x ∈ l, c < x) :
    c < l.foldl min d := by
  induction l generalizing d with
  | nil => exact hd
  | cons x l ih =>
      exact ih (Nat.lt_min.mpr ⟨hd, hl x List.mem_cons_self⟩)
        fun y hy => hl y (List.mem_cons_of_mem x hy)

/-- The next time at which something is due is later than now, and the deadline at the latest. -/
theorem exists_nextTime? (hts : List.Forall₂ (Due deadline) ts rs)
    (hwaiting : ts.filterMap deadline? ≠ []) {clock : Nat} (hclock : clock < deadline)
    (hlater : ∀ d ∈ s.backgroundTimes, clock < d) :
    ∃ time, s.nextTime? ts = some time ∧ clock < time ∧ time ≤ deadline := by
  have hall := eq_of_deadline? hts
  rw [nextTime?]
  cases hds : ts.filterMap deadline? with
  | nil => exact absurd hds hwaiting
  | cons d ds =>
      rw [hds] at hall
      obtain rfl := hall d List.mem_cons_self
      refine ⟨_, rfl, lt_foldl_min hclock fun x hx => ?_, foldl_min_le _ _⟩
      rcases List.mem_append.mp hx with hx | hx
      · rw [hall x (List.mem_cons_of_mem d hx)]
        exact hclock
      · exact hlater x hx

/-- However often connections are due in between, operations that wait for one deadline are over
at the deadline, and at once if none of them waits. -/
theorem drive_due (hs : s.Idle) (now : Timestamp) {limit : Nat}
    (hts : List.Forall₂ (Due deadline) ts rs) (hclock : s.clock ≤ deadline)
    (hlimit : deadline < s.clock + limit) :
    ((drive now limit ts).run s).answer = .ok rs ∧
      s.Passes (if ts.filterMap deadline? = [] then s.clock else deadline)
        ((drive now limit ts).run s).state := by
  induction limit generalizing s with
  | zero => omega
  | succ limit ih =>
      obtain ⟨u, hu⟩ := total_settle now s
      obtain ⟨hpasses, hlater⟩ := settle_passes hs now
      have hidle := hpasses.idle hs
      have hsame := hpasses.clock
      rw [drive, Op.answer_bind_ok hu, Op.state_bind_ok hu]
      generalize ((settle now).run s).state = t at hpasses hlater hidle hsame
      by_cases hover : deadline ≤ t.clock ∨ ts.filterMap deadline? = []
      · -- everything is over now, and nothing is waited for any more
        obtain ⟨ts', hwake, hts', hnone⟩ : ∃ ts', (ts.mapM wake).run t = ⟨.ok ts', t, []⟩ ∧
            List.Forall₂ (Due deadline) ts' rs ∧ ts'.filterMap deadline? = [] := by
          rcases Nat.lt_or_ge t.clock deadline with hearly | hlate
          · exact ⟨ts, wake_early hts hearly, hts, hover.resolve_left (Nat.not_le.mpr hearly)⟩
          · refine ⟨rs.map Started.over, wake_late hts hlate, ?_,
              by simp [List.filterMap_map, deadline?]⟩
            rw [List.forall₂_map_left_iff]
            exact List.forall₂_same.mpr fun r _ => .over r
        have hnext : t.nextTime? ts' = none := by rw [nextTime?, hnone]
        have hend : (if ts.filterMap deadline? = [] then s.clock else deadline) = s.clock := by
          split
          · rfl
          · next hsome => have := hover.resolve_right hsome; omega
        rw [Op.run_bind_of_silent hwake, Op.run_get_bind, hnext, hend]
        simp only
        rw [finish_due hts']
        exact ⟨rfl, hpasses⟩
      · -- the clock goes on to the next time at which something is due
        obtain ⟨hearly, hwaiting⟩ := not_or.mp hover
        obtain ⟨time, htime, hgoes, hlast⟩ := exists_nextTime? hts hwaiting
          (hsame ▸ Nat.lt_of_not_le hearly) hlater
        rw [Op.run_bind_of_silent (wake_early hts (Nat.lt_of_not_le hearly)), Op.run_get_bind,
          htime]
        simp only
        rw [Op.answer_bind_ok (x := setClock time) (a := ()) rfl,
          Op.state_bind_ok (x := setClock time) (a := ()) rfl]
        have hset := passes_setClock t time
        have hnow := hset.clock
        obtain ⟨hanswer, hleft⟩ := ih (hset.idle hidle) (by omega) (by omega)
        rw [if_neg hwaiting] at hleft ⊢
        exact ⟨hanswer, (hpasses.trans hset).trans hleft⟩

theorem le_foldl_max {x c : Nat} {l : List Nat} (hx : x ≤ c ∨ x ∈ l) : x ≤ l.foldl max c := by
  induction l generalizing c with
  | nil => exact hx.resolve_right List.not_mem_nil
  | cons y l ih =>
      refine ih ?_
      rcases hx with hx | hx
      · exact .inl (hx.trans (Nat.le_max_left c y))
      · rcases List.mem_cons.mp hx with rfl | hx
        · exact .inl (Nat.le_max_right c x)
        · exact .inr hx

variable {xs : List (Op Service (Progress Service α))}

/-- Operations that run concurrently and wait for one deadline take the time to the deadline, or no
time if none of them waits. -/
theorem gather_run (now : Timestamp) (hstart : ((xs.mapM start).run s).answer = .ok ts)
    (ht : ((xs.mapM start).run s).state = t) (hidle : t.Idle)
    (hts : List.Forall₂ (Due deadline) ts rs) (hclock : t.clock ≤ deadline) :
    ((gather now xs).run s).answer = .ok rs ∧
      t.Passes (if ts.filterMap deadline? = [] then t.clock else deadline)
        ((gather now xs).run s).state := by
  rw [gather, Op.answer_bind_ok hstart, Op.state_bind_ok hstart, ht, Op.run_get_bind]
  by_cases hnone : ts.filterMap deadline? = []
  · -- nothing is waited for, so the operations could as well wait for this very moment
    have hnow : List.Forall₂ (Due t.clock) ts rs := by
      clear hstart
      induction hts with
      | nil => exact .nil
      | cons h _ ih =>
          cases h with
          | «over» => exact .cons (.over _) (ih hnone)
          | waiting a => exact absurd hnone (by simp [deadline?])
    have hlimit : t.clock < t.clock +
        ((ts.filterMap deadline?).foldl max t.clock - t.clock + 1) := by omega
    simpa only [hnone, if_true] using drive_due hidle now hnow (Nat.le_refl _) hlimit
  · obtain ⟨d, hd⟩ := List.exists_mem_of_ne_nil _ hnone
    have hmax : deadline ≤ (ts.filterMap deadline?).foldl max t.clock :=
      le_foldl_max (.inr (eq_of_deadline? hts d hd ▸ hd))
    exact drive_due hidle now hts hclock (by omega)

/-- Likewise for one operation that is performed. -/
theorem perform_run {x : Op Service (Progress Service α)} {started : Started α}
    {r : Except Failure α} (now : Timestamp) (hstart : ((start x).run s).answer = .ok started)
    (ht : ((start x).run s).state = t) (hidle : t.Idle) (hstarted : Due deadline started r)
    (hclock : t.clock ≤ deadline) :
    ((perform now x).run s).answer = r ∧ ∃ clock, t.Passes clock ((perform now x).run s).state := by
  have hleft : (([x].mapM start).run s).state = t := by
    rw [List.mapM_cons, Op.state_bind_ok hstart, ← ht]
    rfl
  obtain ⟨hanswer, hpasses⟩ := gather_run now (mapM_singleton_answer hstart) hleft hidle
    (.cons hstarted .nil) hclock
  obtain ⟨u, hu⟩ := total_settle now ((gather now [x]).run s).state
  have hsettled := (settle_passes (hpasses.idle hidle) now).1
  rw [perform, Op.answer_bind_ok hanswer, Op.state_bind_ok hanswer, Op.answer_bind_ok hu,
    Op.state_bind_ok hu]
  exact ⟨rfl, _, hpasses.trans hsettled⟩

end Service

end CommandBridge
