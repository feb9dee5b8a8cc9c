import CommandBridge.Op
import Mathlib.Tactic.Common

/-!
# CommandBridge.Proofs.Keeps

What operations keep.  `x.Keeps P` says that `P` holds of the state that `x` leaves, whether it
answers or fails, if `P` held before.  `x.Yields P Q` says that `Q` holds of what `x` answers with
in such a state, and `x.FailsOnly P` that `P` holds of every failure of `x`.

All of them follow the form of an operation: a bind keeps what its parts keep, and what is known of
an answer can be used for what comes after it (`Keeps.bind_of_yields`).
-/

namespace CommandBridge.Op

variable {σ τ α β : Type} {P : σ → Prop} {Q : α → Prop}

/-- Whether an operation answers or fails, `P` holds of the state it leaves if it held before. -/
def Keeps (x : Op σ α) (P : σ → Prop) : Prop := ∀ s, P s → P (x.run s).state

/-- What an operation answers with where `P` holds meets `Q`. -/
def Yields (x : Op σ α) (P : σ → Prop) (Q : α → Prop) : Prop :=
  ∀ s, P s → ∀ a, (x.run s).answer = .ok a → Q a

/-- Whatever an operation fails with meets `P`. -/
def FailsOnly (x : Op σ α) (P : Failure → Prop) : Prop :=
  ∀ s e, (x.run s).answer = .error e → P e

theorem state_bind_pure (x : Op σ α) (f : α → β) (s : σ) :
    ((x >>= fun a => Pure.pure (f a)).run s).state = (x.run s).state := by
  cases ha : (x.run s).answer with
  | error e => rw [state_bind_error ha]
  | ok a => rw [state_bind_ok ha, run_pure]

namespace Keeps

theorem pure (a : α) : (Pure.pure a : Op σ α).Keeps P := fun _ hs => hs

theorem fail (e : Failure) : (Op.fail e : Op σ α).Keeps P := fun _ hs => hs

theorem ofExcept (r : Except Failure α) : (Op.ofExcept r : Op σ α).Keeps P := fun _ hs => hs

theorem get : (Op.get : Op σ σ).Keeps P := fun _ hs => hs

theorem log (e : Log.Entry) : (Op.log e : Op σ Unit).Keeps P := fun _ hs => hs

theorem event (source : Log.Source) (level : Log.Level) (name : String)
    (fields : List (String × Json)) : (Op.event source level name fields : Op σ Unit).Keeps P :=
  fun _ hs => hs

theorem put {t : σ} (h : P t) : (Op.put t).Keeps P := fun _ _ => h

theorem modify {f : σ → σ} (h : ∀ s, P s → P (f s)) : (Op.modify f).Keeps P := h

/-- A bind keeps what its first part keeps and, after every answer of that, its second part. -/
theorem bind_of_yields {x : Op σ α} {f : α → Op σ β} (hx : x.Keeps P) (hyields : x.Yields P Q)
    (hf : ∀ a, Q a → (f a).Keeps P) : (x >>= f).Keeps P := by
  intro s hs
  cases ha : (x.run s).answer with
  | error e =>
      rw [state_bind_error ha]
      exact hx s hs
  | ok a =>
      rw [state_bind_ok ha]
      exact hf a (hyields s hs a ha) _ (hx s hs)

theorem bind {x : Op σ α} {f : α → Op σ β} (hx : x.Keeps P) (hf : ∀ a, (f a).Keeps P) :
    (x >>= f).Keeps P :=
  bind_of_yields (Q := fun _ => True) hx (fun _ _ _ _ => trivial) fun a _ => hf a

/-- What comes after a look at the state can rely on what holds of it. -/
theorem get_bind {f : σ → Op σ β} (h : ∀ s, P s → P ((f s).run s).state) :
    (Op.get >>= f).Keeps P := by
  intro s hs
  rw [state_bind_ok (a := s) rfl, run_get]
  exact h s hs

theorem attempt {x : Op σ α} (hx : x.Keeps P) : x.attempt.Keeps P := by
  intro s hs
  rw [run_attempt]
  exact hx s hs

theorem map {x : Op σ α} (f : α → β) (hx : x.Keeps P) : (f <$> x).Keeps P := by
  intro s hs
  rw [run_map]
  exact hx s hs

theorem discard {x : Op σ α} (hx : x.Keeps P) : (Functor.discard x).Keeps P := map _ hx

theorem of_discard {x : Op σ α} (hx : (Functor.discard x).Keeps P) : x.Keeps P := by
  intro s hs
  have hstate := hx s hs
  rwa [run_discard] at hstate

theorem ite {c : Prop} [Decidable c] {x y : Op σ α} (hx : c → x.Keeps P) (hy : ¬ c → y.Keeps P) :
    (if c then x else y).Keeps P := by
  split
  · next hc => exact hx hc
  · next hc => exact hy hc

/-- A list of operations keeps what each of them keeps. -/
theorem forM {f : α → Op σ PUnit} {as : List α} (h : ∀ a ∈ as, (f a).Keeps P) :
    (as.forM f).Keeps P := by
  induction as with
  | nil => exact pure _
  | cons a as ih =>
      rw [forM_cons]
      exact bind (h a List.mem_cons_self) fun _ => ih fun b hb => h b (List.mem_cons_of_mem a hb)

theorem mapM {f : α → Op σ β} {as : List α} (h : ∀ a ∈ as, (f a).Keeps P) :
    (as.mapM f).Keeps P := by
  induction as with
  | nil => exact pure _
  | cons a as ih =>
      rw [List.mapM_cons]
      exact bind (h a List.mem_cons_self) fun _ =>
        bind (ih fun b hb => h b (List.mem_cons_of_mem a hb)) fun _ => pure _

/-- An operation on a part keeps what the part is known to keep of the whole. -/
theorem on {R : τ → Prop} {part : τ → σ} {update : σ → τ → τ} {x : Op σ α}
    (h : ∀ t, R t → R (update (x.run (part t)).state t)) : (x.on part update).Keeps R := by
  intro t ht
  rw [run_on]
  exact h t ht

end Keeps

namespace Yields

theorem pure {a : α} (h : Q a) : (Pure.pure a : Op σ α).Yields P Q := by
  rintro s - b hb
  rwa [← Except.ok.inj hb]

theorem fail (e : Failure) : (Op.fail e : Op σ α).Yields P Q := by
  rintro s - a ha
  simp at ha

/-- What comes last answers, whatever came before. -/
theorem bind {x : Op σ β} {f : β → Op σ α} (hf : ∀ b, (f b).Yields (fun _ => True) Q) :
    (x >>= f).Yields (fun _ => True) Q := by
  rintro s - a ha
  cases hx : (x.run s).answer with
  | error e =>
      rw [answer_bind_error hx] at ha
      exact absurd ha (by simp)
  | ok b =>
      rw [answer_bind_ok hx] at ha
      exact hf b _ trivial a ha

end Yields

namespace FailsOnly

variable {F G : Failure → Prop}

theorem mono {x : Op σ α} (hx : x.FailsOnly F) (h : ∀ e, F e → G e) : x.FailsOnly G :=
  fun s e he => h e (hx s e he)

theorem pure (a : α) : (Pure.pure a : Op σ α).FailsOnly F := by
  rintro s e he
  simp at he

theorem fail {e : Failure} (h : F e) : (Op.fail e : Op σ α).FailsOnly F := by
  rintro s _ he
  rwa [← Except.error.inj he]

theorem get : (Op.get : Op σ σ).FailsOnly F := by
  rintro s e he
  simp at he

theorem put (t : σ) : (Op.put t).FailsOnly F := by
  rintro s e he
  simp at he

theorem modify (f : σ → σ) : (Op.modify f).FailsOnly F := by
  rintro s e he
  simp at he

theorem log (l : Log.Entry) : (Op.log l : Op σ Unit).FailsOnly F := by
  rintro s e he
  simp at he

theorem event (source : Log.Source) (level : Log.Level) (name : String)
    (fields : List (String × Json)) : (Op.event source level name fields : Op σ Unit).FailsOnly F :=
  log _

theorem attempt (x : Op σ α) : x.attempt.FailsOnly F := by
  rintro s e he
  simp at he

theorem bind {x : Op σ α} {f : α → Op σ β} (hx : x.FailsOnly F) (hf : ∀ a, (f a).FailsOnly F) :
    (x >>= f).FailsOnly F := by
  intro s e he
  cases ha : (x.run s).answer with
  | error e' =>
      rw [answer_bind_error ha] at he
      exact Except.error.inj he ▸ hx s e' ha
  | ok a =>
      rw [answer_bind_ok ha] at he
      exact hf a _ e he

theorem discard {x : Op σ α} (hx : x.FailsOnly F) : (Functor.discard x).FailsOnly F := by
  intro s e he
  rw [run_discard] at he
  cases ha : (x.run s).answer with
  | error e' =>
      rw [ha] at he
      exact Except.error.inj he ▸ hx s e' ha
  | ok a =>
      rw [ha] at he
      exact absurd he (by simp [Except.map])

theorem on {part : τ → σ} {update : σ → τ → τ} {x : Op σ α} (hx : x.FailsOnly F) :
    (x.on part update).FailsOnly F :=
  fun t e he => hx (part t) e he

end FailsOnly

end CommandBridge.Op
