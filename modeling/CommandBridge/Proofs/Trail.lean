import CommandBridge.Proofs.Progress

/-!
# CommandBridge.Proofs.Trail

What operations do to a state and to the log, taken together.  A `Trail` says what may be logged on
the way from one state to another.  Doing nothing is on every trail, and so is one thing after
another; so `W.Follows x`, which says that whatever `x` does is on the trail `W`, follows the form
of an operation as `Keeps` does.

An operation that takes time is on a trail if it is when it is started and when it goes on
(`FollowsThrough`).  `W.Finishes x s o` says that it may leave `o` in the end if everything that
happens while it waits is on the trail `W`.
-/

namespace CommandBridge

/-- An operation goes on from what its first part leaves, and logs after it. -/
theorem Op.run_bind_of_run {σ α β : Type} {x : Op σ α} {f : α → Op σ β} {s t : σ} {a : α}
    {l : List Log.Entry} (h : x.run s = ⟨.ok a, t, l⟩) :
    (x >>= f).run s = ⟨((f a).run t).answer, ((f a).run t).state, l ++ ((f a).run t).log⟩ := by
  rw [Op.run_bind, h]

/-- What may be logged on the way from one state to another. -/
structure Trail (σ : Type) where
  passes : σ → List Log.Entry → σ → Prop
  idle : ∀ s, passes s [] s
  compose : ∀ {s l t k u}, passes s l t → passes t k u → passes s (l ++ k) u

namespace Trail

variable {σ τ α β : Type}

/-- Anything may happen. -/
def anything : Trail σ where
  passes _ _ _ := True
  idle _ := trivial
  compose _ _ := trivial

/-- Only some entries are logged. -/
def words (P : Log.Entry → Prop) : Trail σ where
  passes _ l _ := ∀ e ∈ l, P e
  idle _ := by simp
  compose hl hk e he := (List.mem_append.mp he).elim (hl e) (hk e)

/-- Whatever an operation does, whether it answers or fails, is on the trail. -/
def Follows (W : Trail σ) (x : Op σ α) : Prop := ∀ s, W.passes s (x.run s).log (x.run s).state

namespace Follows

variable {W : Trail σ}

theorem pure (a : α) : W.Follows (Pure.pure a) := fun s => W.idle s

theorem fail (e : Failure) : W.Follows (Op.fail e : Op σ α) := fun s => W.idle s

theorem ofExcept (r : Except Failure α) : W.Follows (Op.ofExcept r) := fun s => W.idle s

theorem get : W.Follows Op.get := fun s => W.idle s

theorem modify {f : σ → σ} (h : ∀ s, W.passes s [] (f s)) : W.Follows (Op.modify f) := h

theorem log {e : Log.Entry} (h : ∀ s, W.passes s [e] s) : W.Follows (Op.log e) := h

theorem bind {x : Op σ α} {f : α → Op σ β} (hx : W.Follows x) (hf : ∀ a, W.Follows (f a)) :
    W.Follows (x >>= f) := by
  intro s
  have hfirst := hx s
  rw [Op.run_bind]
  rcases hrun : x.run s with ⟨e | a, t, l⟩
  · rwa [hrun] at hfirst
  · rw [hrun] at hfirst
    exact W.compose hfirst (hf a t)

theorem attempt {x : Op σ α} (hx : W.Follows x) : W.Follows x.attempt := hx

theorem map {x : Op σ α} (f : α → β) (hx : W.Follows x) : W.Follows (f <$> x) := by
  intro s
  rw [Op.run_map]
  exact hx s

theorem discard {x : Op σ α} (hx : W.Follows x) : W.Follows (Functor.discard x) := map _ hx

theorem ite {c : Prop} [Decidable c] {x y : Op σ α} (hx : W.Follows x) (hy : W.Follows y) :
    W.Follows (if c then x else y) := by
  split
  · exact hx
  · exact hy

theorem forM {f : α → Op σ PUnit} (h : ∀ a, W.Follows (f a)) (as : List α) :
    W.Follows (as.forM f) := by
  induction as with
  | nil => exact pure _
  | cons a as ih =>
      rw [Op.forM_cons]
      exact bind (h a) fun _ => ih

theorem mapM {f : α → Op σ β} (h : ∀ a, W.Follows (f a)) (as : List α) :
    W.Follows (as.mapM f) := by
  induction as with
  | nil => exact pure _
  | cons a as ih =>
      rw [List.mapM_cons]
      exact bind (h a) fun _ => bind ih fun _ => pure _

/-- What an operation on a part does is on a trail of the whole. -/
theorem on {V : Trail τ} {part : τ → σ} {update : σ → τ → τ} {x : Op σ α} (hx : W.Follows x)
    (h : ∀ t l s, W.passes (part t) l s → V.passes t l (update s t)) :
    V.Follows (x.on part update) := fun t => h t _ _ (hx (part t))

/-- What is on a trail is on a wider one. -/
theorem mono {V : Trail σ} {x : Op σ α} (hx : W.Follows x)
    (h : ∀ s l t, W.passes s l t → V.passes s l t) : V.Follows x := fun s => h s _ _ (hx s)

end Follows

/-! ## Operations that only log -/

section Words

variable {P : Log.Entry → Prop}

theorem Follows.change (f : σ → σ) : (words P).Follows (Op.modify f) := by
  rintro s e ⟨⟩

theorem Follows.put (s : σ) : (words P).Follows (Op.put s) := by
  rintro t e ⟨⟩

theorem Follows.say {e : Log.Entry} (h : P e) : (words P).Follows (Op.log e : Op σ Unit) :=
  log fun _ => by simpa [words] using h

/-- What is logged by an operation on a part is logged on the whole. -/
theorem Follows.onPart {part : τ → σ} {update : σ → τ → τ} {x : Op σ α}
    (hx : (words P).Follows x) : (words P).Follows (x.on part update) := on hx fun _ _ _ h => h

end Words

/-! ## Operations that take time -/

/-- Whatever an operation does when it is started, and when it goes on, is on the trail. -/
structure FollowsThrough (W : Trail σ) (x : Op σ (Progress σ α)) : Prop where
  start : W.Follows x
  resume : ∀ s w y, (x.run s).answer = .ok (.suspended w y) → W.Follows y

theorem run_atOnce (x : Op σ α) (s : σ) :
    (Op.atOnce x).run s = ⟨(x.run s).answer.map .done, (x.run s).state, (x.run s).log⟩ := by
  have hmap : Op.atOnce x = Progress.done <$> x := by simp [Op.atOnce]
  rw [hmap, Op.run_map]

/-- An operation that takes no time is never suspended. -/
theorem atOnce_ne_suspended (x : Op σ α) (s : σ) (w : Wait) (y : Op σ α) :
    ((Op.atOnce x).run s).answer ≠ .ok (.suspended w y) := by
  rw [run_atOnce]
  cases (x.run s).answer <;> simp [Except.map]

variable {W : Trail σ}

theorem FollowsThrough.atOnce {x : Op σ α} (hx : W.Follows x) : W.FollowsThrough (Op.atOnce x) where
  start := hx.bind fun _ => .pure _
  resume s w y h := absurd h (atOnce_ne_suspended x s w y)

theorem FollowsThrough.fail (e : Failure) : W.FollowsThrough (Op.fail e : Op σ (Progress σ α)) where
  start := .fail e
  resume s w y h := by simp at h

theorem FollowsThrough.done (a : α) :
    W.FollowsThrough (pure (.done a) : Op σ (Progress σ α)) where
  start := .pure _
  resume s w y h := by cases h

theorem FollowsThrough.suspended (w : Wait) {y : Op σ α} (hy : W.Follows y) :
    W.FollowsThrough (pure (.suspended w y) : Op σ (Progress σ α)) where
  start := .pure _
  resume s w y h := by
    cases h
    exact hy

/-- An operation that takes time comes after one that does not. -/
theorem FollowsThrough.after {x : Op σ α} {f : α → Op σ (Progress σ β)} (hx : W.Follows x)
    (hf : ∀ a, W.FollowsThrough (f a)) : W.FollowsThrough (x >>= f) where
  start := .bind hx fun a => (hf a).start
  resume s w y h := by
    cases hanswer : (x.run s).answer with
    | error e =>
        rw [Op.answer_bind_error hanswer] at h
        cases h
    | ok a =>
        rw [Op.answer_bind_ok hanswer] at h
        exact (hf a).resume _ w y h

theorem FollowsThrough.ite {c : Prop} [Decidable c] {x y : Op σ (Progress σ α)}
    (hx : W.FollowsThrough x) (hy : W.FollowsThrough y) :
    W.FollowsThrough (if c then x else y) := by
  split
  · exact hx
  · exact hy

theorem FollowsThrough.onceOver {x : Op σ (Progress σ α)} {f : Except Failure α → Op σ β}
    (hx : W.FollowsThrough x) (hf : ∀ r, W.Follows (f r)) : W.FollowsThrough (x.onceOver f) where
  start := by
    refine .bind (.attempt hx.start) fun r => ?_
    split
    · exact (FollowsThrough.atOnce (hf _)).start
    · exact .pure _
    · exact (FollowsThrough.atOnce (hf _)).start
  resume s w y h := by
    have hattempt : (x.attempt.run s).answer = .ok (x.run s).answer := rfl
    rw [Op.onceOver, Op.answer_bind_ok hattempt] at h
    cases hanswer : (x.run s).answer with
    | error e =>
        rw [hanswer] at h
        exact absurd h (atOnce_ne_suspended _ _ _ _)
    | ok p =>
        rw [hanswer] at h
        cases p with
        | done a => exact absurd h (atOnce_ne_suspended _ _ _ _)
        | suspended w' z =>
            cases h
            exact .bind (.attempt (hx.resume s w z hanswer)) hf

/-- What an operation that takes time may leave in the end, if what happens while it waits is on
the trail.  What is logged in the meantime is part of the log. -/
inductive Finishes (W : Trail σ) (x : Op σ (Progress σ α)) (s : σ) : Outcome σ α → Prop
  | failed {e : Failure} {t : σ} {l : List Log.Entry} (h : x.run s = ⟨.error e, t, l⟩) :
      Finishes W x s ⟨.error e, t, l⟩
  | atOnce {a : α} {t : σ} {l : List Log.Entry} (h : x.run s = ⟨.ok (.done a), t, l⟩) :
      Finishes W x s ⟨.ok a, t, l⟩
  | later {w : Wait} {y : Op σ α} {t u : σ} {l k : List Log.Entry}
      (h : x.run s = ⟨.ok (.suspended w y), t, l⟩) (hmeanwhile : W.passes t k u) :
      Finishes W x s ⟨(y.run u).answer, (y.run u).state, l ++ k ++ (y.run u).log⟩

/-- Every operation finishes. -/
theorem exists_finishes (W : Trail σ) (x : Op σ (Progress σ α)) (s : σ) :
    ∃ o, W.Finishes x s o := by
  rcases hrun : x.run s with ⟨e | a | ⟨w, y⟩, t, l⟩
  · exact ⟨_, .failed hrun⟩
  · exact ⟨_, .atOnce hrun⟩
  · exact ⟨_, .later hrun (W.idle t)⟩

namespace Finishes

variable {x : Op σ (Progress σ α)} {s : σ} {o : Outcome σ α}

/-- The answer in the end is one that the operation may come to. -/
theorem ends (h : W.Finishes x s o) : Op.Ends (x.run s).answer o.answer := by
  cases h with
  | failed h => rw [h]; exact .failed _
  | atOnce h => rw [h]; exact .atOnce _
  | later h _ => rw [h]; exact .later _ _ _

/-- An operation that is on the trail has stayed on it. -/
theorem passes (h : W.Finishes x s o) (hx : W.FollowsThrough x) : W.passes s o.log o.state := by
  have hstart := hx.start s
  cases h with
  | failed h => rwa [h] at hstart
  | atOnce h => rwa [h] at hstart
  | later h hmeanwhile =>
      rw [h] at hstart
      exact W.compose (W.compose hstart hmeanwhile) (hx.resume s _ _ (by rw [h]) _)

/-- An operation that begins as another goes on finishes as the other does. -/
theorem of_after {y : Op σ (Progress σ α)} {t : σ} {l : List Log.Entry} (h : W.Finishes x s o)
    (hrun : x.run s = ⟨(y.run t).answer, (y.run t).state, l ++ (y.run t).log⟩) :
    ∃ p, W.Finishes y t p ∧ o = ⟨p.answer, p.state, l ++ p.log⟩ := by
  rcases hy : y.run t with ⟨r, u, k⟩
  rw [hy] at hrun
  cases h with
  | failed h =>
      cases hrun.symm.trans h
      exact ⟨_, .failed hy, rfl⟩
  | atOnce h =>
      cases hrun.symm.trans h
      exact ⟨_, .atOnce hy, rfl⟩
  | later h hmeanwhile =>
      cases hrun.symm.trans h
      exact ⟨_, .later hy hmeanwhile, by simp [List.append_assoc]⟩

theorem of_atOnce {x : Op σ α} (h : W.Finishes (Op.atOnce x) s o) : o = x.run s := by
  have hatOnce := run_atOnce x s
  rcases hrun : x.run s with ⟨e | a, t, l⟩ <;> rw [hrun] at hatOnce
  · cases h with
    | failed h => cases hatOnce.symm.trans h; rfl
    | atOnce h => cases hatOnce.symm.trans h
    | later h _ => cases hatOnce.symm.trans h
  · cases h with
    | failed h => cases hatOnce.symm.trans h
    | atOnce h => cases hatOnce.symm.trans h; rfl
    | later h _ => cases hatOnce.symm.trans h

/-- What goes on after an operation goes on from where it finished. -/
theorem of_onceOver {f : Except Failure α → Op σ β} {o : Outcome σ β}
    (h : W.Finishes (x.onceOver f) s o) :
    ∃ p, W.Finishes x s p ∧ o = ⟨((f p.answer).run p.state).answer,
      ((f p.answer).run p.state).state, p.log ++ ((f p.answer).run p.state).log⟩ := by
  rcases hrun : x.run s with ⟨e | ⟨a⟩ | ⟨w, y⟩, t, l⟩
  · have hnext : (x.onceOver f).run s = ⟨((Op.atOnce (f (.error e))).run t).answer,
        ((Op.atOnce (f (.error e))).run t).state,
        l ++ ((Op.atOnce (f (.error e))).run t).log⟩ := by
      rw [Op.onceOver, Op.run_bind, Op.run_attempt, hrun]
    obtain ⟨p, hp, rfl⟩ := h.of_after hnext
    exact ⟨_, .failed hrun, by rw [hp.of_atOnce]⟩
  · have hnext : (x.onceOver f).run s = ⟨((Op.atOnce (f (.ok a))).run t).answer,
        ((Op.atOnce (f (.ok a))).run t).state, l ++ ((Op.atOnce (f (.ok a))).run t).log⟩ := by
      rw [Op.onceOver, Op.run_bind, Op.run_attempt, hrun]
    obtain ⟨p, hp, rfl⟩ := h.of_after hnext
    exact ⟨_, .atOnce hrun, by rw [hp.of_atOnce]⟩
  · have hnext : (x.onceOver f).run s =
        ⟨.ok (.suspended w (do f (← y.attempt))), t, l ++ []⟩ := by
      rw [Op.onceOver, Op.run_bind, Op.run_attempt, hrun]
      rfl
    cases h with
    | failed h => cases hnext.symm.trans h
    | atOnce h => cases hnext.symm.trans h
    | later h hmeanwhile =>
        cases hnext.symm.trans h
        refine ⟨_, .later hrun hmeanwhile, ?_⟩
        rw [Op.run_bind, Op.run_attempt]
        simp [List.append_assoc]

end Finishes

end Trail

end CommandBridge
