import CommandBridge.Proofs.Service.Rest
import CommandBridge.Proofs.Trail

/-!
# CommandBridge.Proofs.Service.Performance

Performing an operation that takes time.  However the time goes by, the operation finishes, and what
happens while it waits and after it is over is what the background and the clock do.  If these stay
on a trail, so does all of that (`finishes_perform`).

The proof follows a started operation through the rounds of the background with what was logged so
far (`Underway`).
-/

namespace CommandBridge.Service

open Trail

variable {α : Type} {W : Trail Service} {x : Op Service (Progress Service α)} {s t : Service}
  {l : List Log.Entry}

/-- How far an operation has come that was started at `s`, when `l` has been logged: it still waits,
or it has finished, and all that happened besides is on the trail. -/
inductive Underway (W : Trail Service) (x : Op Service (Progress Service α)) (s : Service) :
    Started α → Service → List Log.Entry → Prop
  | waiting {w : Wait} {resume : Op Service α} {t u : Service} {l k : List Log.Entry}
      (hstart : x.run s = ⟨.ok (.suspended w resume), t, l⟩) (hmeanwhile : W.passes t k u) :
      Underway W x s (.waiting w resume) u (l ++ k)
  | over {o : Outcome Service α} {u : Service} {k : List Log.Entry} (hover : W.Finishes x s o)
      (hafter : W.passes o.state k u) : Underway W x s (.over o.answer) u (o.log ++ k)

/-- Something that is on the trail happens besides. -/
theorem Underway.step {started : Started α} {k : List Log.Entry} {u : Service}
    (h : Underway W x s started t l) (hpass : W.passes t k u) :
    Underway W x s started u (l ++ k) := by
  cases h with
  | waiting hstart hmeanwhile =>
      rw [List.append_assoc]
      exact .waiting hstart (W.compose hmeanwhile hpass)
  | «over» hover hafter =>
      rw [List.append_assoc]
      exact .over hover (W.compose hafter hpass)

/-- An operation that goes on is over then. -/
theorem Underway.resume {w : Wait} {y : Op Service α} (h : Underway W x s (.waiting w y) t l) :
    Underway W x s (.over (y.run t).answer) (y.run t).state (l ++ (y.run t).log) := by
  cases h with
  | waiting hstart hmeanwhile =>
      have hover := Underway.over (.later hstart hmeanwhile) (W.idle _)
      rwa [List.append_nil] at hover

/-- What an operation answers with at `t`, when `l` was logged before, is a started operation that
is under way. -/
def Leads (W : Trail Service) (x : Op Service (Progress Service α)) (s : Service)
    (l : List Log.Entry) (y : Op Service (Started α)) (t : Service) : Prop :=
  ∃ started u k, y.run t = ⟨.ok started, u, k⟩ ∧ Underway W x s started u (l ++ k)

theorem leads_start (W : Trail Service) (x : Op Service (Progress Service α)) (s : Service) :
    Leads W x s [] (start x) s := by
  have hattempt : x.attempt.run s = ⟨.ok (x.run s).answer, (x.run s).state, (x.run s).log⟩ := rfl
  rw [Leads, start, Op.run_bind_of_run hattempt]
  rcases hrun : x.run s with ⟨e | a | ⟨w, resume⟩, t, l⟩
  · exact ⟨_, t, l ++ [], rfl, .over (.failed hrun) (W.idle t)⟩
  · exact ⟨_, t, l ++ [], rfl, .over (.atOnce hrun) (W.idle t)⟩
  · exact ⟨_, t, l ++ [], rfl, by simpa using Underway.waiting hrun (W.idle t)⟩

theorem leads_wake {started : Started α} (h : Underway W x s started t l) :
    Leads W x s l (wake started) t := by
  cases started with
  | «over» r => exact ⟨_, t, [], rfl, h.step (W.idle t)⟩
  | waiting w y =>
      rw [Leads, wake, Op.run_get_bind]
      split
      · have hattempt : y.attempt.run t =
            ⟨.ok (y.run t).answer, (y.run t).state, (y.run t).log⟩ := rfl
        rw [Op.run_bind_of_run hattempt]
        exact ⟨_, _, _, rfl, by simpa using h.resume⟩
      · exact ⟨_, t, [], rfl, h.step (W.idle t)⟩

theorem finish_run {started : Started α} (h : Underway W x s started t l) :
    ∃ r u k, (finish started).run t = ⟨.ok r, u, k⟩ ∧ Underway W x s (.over r) u (l ++ k) := by
  cases started with
  | «over» r => exact ⟨r, t, [], rfl, h.step (W.idle t)⟩
  | waiting w y => exact ⟨_, _, _, rfl, h.resume⟩

/-- A list with one operation. -/
theorem mapM_singleton_run {β γ : Type} {f : β → Op Service γ} {b : β} {c : γ} {u : Service}
    {k : List Log.Entry} (h : (f b).run t = ⟨.ok c, u, k⟩) :
    ([b].mapM f).run t = ⟨.ok [c], u, k⟩ := by
  have hmap : [b].mapM f = ([·]) <$> f b := by simp
  rw [hmap, Op.run_map, h]
  rfl

/-- The background never fails. -/
theorem exists_settle_run (now : Timestamp) (t : Service) :
    ∃ u k, (settle now).run t = ⟨.ok (), u, k⟩ := by
  obtain ⟨a, ha⟩ := total_settle now t
  rcases hrun : (settle now).run t with ⟨e | a, u, k⟩ <;> rw [hrun] at ha
  · cases ha
  · exact ⟨u, k, rfl⟩

section

variable (hsettle : ∀ now, W.Follows (settle now)) (hclock : ∀ time, W.Follows (setClock time))

include hsettle hclock in
/-- However the time goes by, a started operation comes to its end. -/
theorem drive_run (now : Timestamp) (limit : Nat) {started : Started α}
    (h : Underway W x s started t l) :
    ∃ r u k, (drive now limit [started]).run t = ⟨.ok [r], u, k⟩ ∧
      Underway W x s (.over r) u (l ++ k) := by
  have hfinish : ∀ {started : Started α} {t l}, Underway W x s started t l →
      ∃ r u k, ([started].mapM finish).run t = ⟨.ok [r], u, k⟩ ∧
        Underway W x s (.over r) u (l ++ k) := by
    intro started t l h
    obtain ⟨r, u, k, hrun, hover⟩ := finish_run h
    exact ⟨r, u, k, mapM_singleton_run hrun, hover⟩
  induction limit generalizing started t l with
  | zero => exact hfinish h
  | succ limit ih =>
      obtain ⟨t₁, k₁, hrun₁⟩ := exists_settle_run now t
      have hpass := hsettle now t
      rw [hrun₁] at hpass
      obtain ⟨woken, t₂, k₂, hrun₂, hwoken⟩ := leads_wake (h.step hpass)
      rw [drive, Op.run_bind_of_run hrun₁, Op.run_bind_of_run (mapM_singleton_run hrun₂),
        Op.run_get_bind]
      split
      · obtain ⟨r, u, k, hrun, hover⟩ := hfinish hwoken
        exact ⟨r, u, k₁ ++ (k₂ ++ k), by rw [hrun], by simpa using hover⟩
      · next time _ =>
        have hset : (setClock time).run t₂ = ⟨.ok (), ((setClock time).run t₂).state, []⟩ := rfl
        have hpass' : W.passes t₂ [] ((setClock time).run t₂).state := hclock time t₂
        obtain ⟨r, u, k, hrun, hover⟩ := ih (hwoken.step hpass')
        rw [Op.run_bind_of_run hset, hrun]
        exact ⟨r, u, _, rfl, by simpa using hover⟩

include hsettle hclock in
/-- An operation that is performed finishes, and all that happens besides is on the trail. -/
theorem finishes_perform (now : Timestamp) (x : Op Service (Progress Service α)) (s : Service) :
    ∃ o t k, W.Finishes x s o ∧ W.passes o.state k t ∧
      (perform now x).run s = ⟨o.answer, t, o.log ++ k⟩ := by
  obtain ⟨started, t₁, k₁, hrun₁, hstarted⟩ := leads_start W x s
  obtain ⟨r, t₂, k₂, hrun₂, hover⟩ := drive_run hsettle hclock now
    (([started].filterMap deadline?).foldl max t₁.clock - t₁.clock + 1) hstarted
  obtain ⟨t₃, k₃, hrun₃⟩ := exists_settle_run now t₂
  have hpass := hsettle now t₂
  rw [hrun₃] at hpass
  have hgather : (gather now [x]).run s = ⟨.ok [r], t₂, k₁ ++ k₂⟩ := by
    rw [gather, Op.run_bind_of_run (mapM_singleton_run hrun₁), Op.run_get_bind, hrun₂]
  have hend := hover.step hpass
  generalize hl : [] ++ k₁ ++ k₂ ++ k₃ = l at hend
  cases hend with
  | @«over» o _ k hfinishes hafter =>
      refine ⟨o, t₃, k, hfinishes, hafter, ?_⟩
      rw [perform, Op.run_bind_of_run hgather, Op.run_bind_of_run hrun₃, ← hl]
      simp

end

end CommandBridge.Service
