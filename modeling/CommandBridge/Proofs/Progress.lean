import CommandBridge.Proofs.Keeps
import CommandBridge.Service.Progress

/-!
# CommandBridge.Proofs.Progress

How operations end.  `x.Total` says that `x` answers from every state.  `Op.Ends o r` says that an
operation that takes time may come to the answer or failure `r` if starting it answered with `o`:
at once, or when it goes on from whatever state there is by then.

What goes on after such an operation (`onceOver`) takes its end into account (`Ends.of_onceOver`),
and leaves at once what the operation leaves unless it changes that itself (`state_onceOver`).  If
the operation was over at once, what goes on after it is run at once as well
(`run_onceOver_of_done`).
-/

namespace CommandBridge.Op

variable {σ τ α β : Type}

/-! ## Operations that never fail -/

/-- An operation that answers from every state. -/
def Total (x : Op σ α) : Prop := ∀ s, ∃ a, (x.run s).answer = .ok a

namespace Total

theorem pure (a : α) : (Pure.pure a : Op σ α).Total := fun _ => ⟨a, rfl⟩

theorem get : (Op.get : Op σ σ).Total := fun s => ⟨s, rfl⟩

theorem modify (f : σ → σ) : (Op.modify f).Total := fun _ => ⟨(), rfl⟩

theorem log (e : Log.Entry) : (Op.log e : Op σ Unit).Total := fun _ => ⟨(), rfl⟩

theorem event (source : Log.Source) (level : Log.Level) (name : String)
    (fields : List (String × Json)) : (Op.event source level name fields : Op σ Unit).Total :=
  log _

theorem attempt (x : Op σ α) : x.attempt.Total := fun _ => ⟨_, rfl⟩

theorem bind {x : Op σ α} {f : α → Op σ β} (hx : x.Total) (hf : ∀ a, (f a).Total) :
    (x >>= f).Total := by
  intro s
  obtain ⟨a, ha⟩ := hx s
  rw [answer_bind_ok ha]
  exact hf a _

theorem map {x : Op σ α} (f : α → β) (hx : x.Total) : (f <$> x).Total := by
  intro s
  obtain ⟨a, ha⟩ := hx s
  rw [run_map, ha]
  exact ⟨f a, rfl⟩

theorem on {part : τ → σ} {update : σ → τ → τ} {x : Op σ α} (hx : x.Total) :
    (x.on part update).Total := fun t => hx (part t)

theorem forM {f : α → Op σ PUnit} (h : ∀ a, (f a).Total) (as : List α) : (as.forM f).Total := by
  induction as with
  | nil => exact pure _
  | cons a as ih =>
      rw [forM_cons]
      exact bind (h a) fun _ => ih

end Total

/-- A list of operations that never fail is done from beginning to end. -/
theorem state_forM_of_total {f : α → Op σ PUnit} (hf : ∀ a, (f a).Total) (as : List α) (s : σ) :
    ((as.forM f).run s).state = as.foldl (fun s a => ((f a).run s).state) s := by
  induction as generalizing s with
  | nil => rfl
  | cons a as ih =>
      obtain ⟨u, hu⟩ := hf a s
      rw [forM_cons, state_bind_ok hu, ih]
      rfl

/-- What a list of operations that never fail makes true step by step, for what is still to come,
is true at the end. -/
theorem forM_of_remaining {P : List α → σ → Prop} {f : α → Op σ PUnit} (hf : ∀ a, (f a).Total)
    (hstep : ∀ a as s, P (a :: as) s → P as ((f a).run s).state) {as : List α} {s : σ}
    (h : P as s) : P [] ((as.forM f).run s).state := by
  induction as generalizing s with
  | nil => exact h
  | cons a as ih =>
      obtain ⟨u, hu⟩ := hf a s
      rw [forM_cons, state_bind_ok hu]
      exact ih (hstep a as s h)

/-- What a list of operations leaves that never fail and whose answers are collected. -/
theorem run_mapM_of_total {f : α → Op σ β} (hf : ∀ a, (f a).Total) (as : List α) (s : σ) :
    (∃ bs, ((as.mapM f).run s).answer = .ok bs) ∧
      ((as.mapM f).run s).state = as.foldl (fun s a => ((f a).run s).state) s := by
  induction as generalizing s with
  | nil => exact ⟨⟨[], rfl⟩, rfl⟩
  | cons a as ih =>
      obtain ⟨b, hb⟩ := hf a s
      obtain ⟨⟨bs, hbs⟩, hstate⟩ := ih ((f a).run s).state
      rw [List.mapM_cons, answer_bind_ok hb, state_bind_ok hb, answer_bind_ok hbs,
        state_bind_ok hbs, hstate]
      exact ⟨⟨b :: bs, rfl⟩, rfl⟩

/-! ## Operations without a word -/

/-- After an operation that answered without a word, its second part is run. -/
theorem run_bind_of_silent {x : Op σ α} {f : α → Op σ β} {s t : σ} {a : α}
    (h : x.run s = ⟨.ok a, t, []⟩) : (x >>= f).run s = (f a).run t := by
  rw [run_bind, h]
  rfl

/-- After an operation that failed, nothing more is done. -/
theorem run_bind_of_error {x : Op σ α} {f : α → Op σ β} {s t : σ} {e : Failure}
    {log : List Log.Entry} (h : x.run s = ⟨.error e, t, log⟩) :
    (x >>= f).run s = ⟨.error e, t, log⟩ := by
  rw [run_bind, h]

theorem run_get_bind (f : σ → Op σ β) (s : σ) : (Op.get >>= f).run s = (f s).run s :=
  run_bind_of_silent (run_get s)

/-- A list of operations that each do nothing does nothing. -/
theorem forM_run_of_idle {f : α → Op σ PUnit} {as : List α} {s : σ}
    (h : ∀ a ∈ as, (f a).run s = ⟨.ok ⟨⟩, s, []⟩) : (as.forM f).run s = ⟨.ok ⟨⟩, s, []⟩ := by
  induction as with
  | nil => rfl
  | cons a as ih =>
      rw [forM_cons, run_bind_of_silent (h a List.mem_cons_self)]
      exact ih fun b hb => h b (List.mem_cons_of_mem a hb)

/-! ## Operations that take time -/

/-- What an operation that takes time may come to, given what starting it answered with. -/
inductive Ends : Except Failure (Progress σ α) → Except Failure α → Prop where
  | failed (e : Failure) : Ends (.error e) (.error e)
  | atOnce (a : α) : Ends (.ok (.done a)) (.ok a)
  | later (w : Wait) (resume : Op σ α) (s : σ) :
      Ends (.ok (.suspended w resume)) (resume.run s).answer

/-- Every operation comes to an end. -/
theorem exists_ends (o : Except Failure (Progress σ α)) (s : σ) : ∃ r, Ends o r := by
  cases o with
  | error e => exact ⟨_, .failed e⟩
  | ok p =>
      cases p with
      | done a => exact ⟨_, .atOnce a⟩
      | suspended w resume => exact ⟨_, .later w resume s⟩

theorem Ends.of_atOnce {x : Op σ α} {s : σ} {r : Except Failure α}
    (h : Ends ((Op.atOnce x).run s).answer r) : r = (x.run s).answer := by
  cases ha : (x.run s).answer with
  | error e =>
      rw [Op.atOnce, answer_bind_error ha] at h
      cases h
      rfl
  | ok a =>
      rw [Op.atOnce, answer_bind_ok ha] at h
      cases h
      rfl

/-- What goes on after an operation goes on from one of its ends. -/
theorem Ends.of_onceOver {x : Op σ (Progress σ α)} {f : Except Failure α → Op σ β} {s : σ}
    {r : Except Failure β} (h : Ends ((x.onceOver f).run s).answer r) :
    ∃ a t, Ends (x.run s).answer a ∧ r = ((f a).run t).answer := by
  have hattempt : (x.attempt.run s).answer = .ok (x.run s).answer := rfl
  rw [Op.onceOver, answer_bind_ok hattempt] at h
  cases hx : (x.run s).answer with
  | error e =>
      rw [hx] at h
      exact ⟨.error e, _, .failed e, h.of_atOnce⟩
  | ok p =>
      rw [hx] at h
      cases p with
      | done a => exact ⟨.ok a, _, .atOnce a, h.of_atOnce⟩
      | suspended w resume =>
          cases h
          next t => exact ⟨_, _, .later w resume t, answer_bind_ok rfl⟩

/-- What goes on after an operation that was over at once goes on at once. -/
theorem run_onceOver_of_done {x : Op σ (Progress σ α)} {f : Except Failure α → Op σ β} {s : σ}
    {a : α} (h : (x.run s).answer = .ok (.done a)) :
    ((x.onceOver f).run s).answer = ((atOnce (f (.ok a))).run (x.run s).state).answer ∧
      ((x.onceOver f).run s).state = ((atOnce (f (.ok a))).run (x.run s).state).state := by
  have hattempt : (x.attempt.run s).answer = .ok (x.run s).answer := rfl
  rw [onceOver, answer_bind_ok hattempt, state_bind_ok hattempt, h]
  exact ⟨rfl, rfl⟩

theorem run_onceOver_of_error {x : Op σ (Progress σ α)} {f : Except Failure α → Op σ β} {s : σ}
    {e : Failure} (h : (x.run s).answer = .error e) :
    ((x.onceOver f).run s).answer = ((atOnce (f (.error e))).run (x.run s).state).answer ∧
      ((x.onceOver f).run s).state = ((atOnce (f (.error e))).run (x.run s).state).state := by
  have hattempt : (x.attempt.run s).answer = .ok (x.run s).answer := rfl
  rw [onceOver, answer_bind_ok hattempt, state_bind_ok hattempt, h]
  exact ⟨rfl, rfl⟩

/-- What is left at once after an operation and what goes on after it is what the operation leaves,
if going on keeps that. -/
theorem state_onceOver {P : σ → Prop} {x : Op σ (Progress σ α)} {f : Except Failure α → Op σ β}
    {s : σ} (hx : P (x.run s).state) (hf : ∀ a, (f a).Keeps P) :
    P ((x.onceOver f).run s).state := by
  have hatOnce : ∀ a, (atOnce (f a)).Keeps P := fun a => (hf a).bind fun _ => .pure _
  have hattempt : (x.attempt.run s).answer = .ok (x.run s).answer := rfl
  rw [onceOver, state_bind_ok hattempt]
  cases (x.run s).answer with
  | error e => exact hatOnce _ _ hx
  | ok p =>
      cases p with
      | done a => exact hatOnce _ _ hx
      | suspended w resume => exact hx

end CommandBridge.Op
