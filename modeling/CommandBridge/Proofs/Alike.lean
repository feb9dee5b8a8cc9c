import CommandBridge.Op
import Mathlib.Tactic.Common

/-!
# CommandBridge.Proofs.Alike

Operations that cannot be told apart.  A `Likeness` says which states are alike and which logs, and
`V.Alike A x y` says that `x` and `y`, run from states that are alike, fail in the same way or give
answers that `A` relates, leave states that are alike, and log alike.

A state on the left can be *lost*: from then on nothing is compared.  What is lost stays lost, so an
operation that loses its state is alike to anything of the same answers.  A likeness that never
gives up has no lost states, and then `Alike` is what an ordinary two-run property needs.

As `Keeps` does, `Alike` follows the form of an operation.
-/

namespace CommandBridge

/-- Which states and which logs are alike, and which states are past comparing. -/
structure Likeness (σ : Type) where
  states : σ → σ → Prop
  lost : σ → Prop := fun _ => False
  logs : List Log.Entry → List Log.Entry → Prop := Eq
  states_of_lost : ∀ s, lost s → states s s := by intro s hs; exact absurd hs id
  logs_refl : ∀ l, logs l l := by intro l; rfl
  logs_append : ∀ l₁ l₂ k₁ k₂, logs l₁ l₂ → logs k₁ k₂ → logs (l₁ ++ k₁) (l₂ ++ k₂) := by
    rintro l _ k _ rfl rfl; rfl

/-- Answers that are related, or one and the same failure. -/
inductive Answers {α : Type} (A : α → α → Prop) : Except Failure α → Except Failure α → Prop
  | ok {a b : α} (h : A a b) : Answers A (.ok a) (.ok b)
  | error (e : Failure) : Answers A (.error e) (.error e)

@[simp] theorem answers_eq {α : Type} {r r' : Except Failure α} : Answers Eq r r' ↔ r = r' := by
  constructor
  · rintro (⟨rfl⟩ | e) <;> rfl
  · rintro rfl
    cases r with
    | ok a => exact .ok rfl
    | error e => exact .error e

namespace Likeness

variable {σ τ α β : Type}

/-- What two runs leave is alike. -/
structure Outcomes (V : Likeness σ) (A : α → α → Prop) (o o' : Outcome σ α) : Prop where
  answer : Answers A o.answer o'.answer
  state : V.states o.state o'.state
  log : V.logs o.log o'.log

/-- From states that are alike, what two operations leave is alike, or the left one is lost. -/
def Alike (V : Likeness σ) (A : α → α → Prop) (x y : Op σ α) : Prop :=
  ∀ s t, V.states s t →
    (V.lost s → V.lost (x.run s).state) ∧
      (V.lost (x.run s).state ∨ V.Outcomes A (x.run s) (y.run t))

/-- A likeness by which everything is compared. -/
def Complete (V : Likeness σ) : Prop := ∀ s, ¬ V.lost s

/-- An operation that gives equal answers in states that are alike. -/
abbrev Respects (V : Likeness σ) (x : Op σ α) : Prop := V.Alike Eq x x

variable {V : Likeness σ} {A : α → α → Prop} {B : β → β → Prop}

theorem Complete.alike (hV : V.Complete) {x y : Op σ α}
    (h : ∀ s t, V.states s t → V.Outcomes A (x.run s) (y.run t)) : V.Alike A x y :=
  fun s t hst => ⟨fun hs => absurd hs (hV s), .inr (h s t hst)⟩

/-- Where nothing is ever lost, everything is compared. -/
theorem Alike.outcomes {x y : Op σ α} (h : V.Alike A x y) {s t : σ} (hst : V.states s t)
    (hlost : ¬ V.lost (x.run s).state) : V.Outcomes A (x.run s) (y.run t) :=
  (h s t hst).2.resolve_left hlost

theorem Alike.lost {x y : Op σ α} (h : V.Alike A x y) {s : σ} (hs : V.lost s) :
    V.lost (x.run s).state :=
  (h s s (V.states_of_lost s hs)).1 hs

namespace Alike

theorem pure {a b : α} (h : A a b) : V.Alike A (Pure.pure a) (Pure.pure b) :=
  fun _ _ hst => ⟨id, .inr ⟨.ok h, hst, V.logs_refl _⟩⟩

theorem fail (e : Failure) : V.Alike A (Op.fail e) (Op.fail e) :=
  fun _ _ hst => ⟨id, .inr ⟨.error e, hst, V.logs_refl _⟩⟩

theorem ofExcept {r r' : Except Failure α} (h : Answers A r r') :
    V.Alike A (Op.ofExcept r) (Op.ofExcept r') :=
  fun _ _ hst => ⟨id, .inr ⟨h, hst, V.logs_refl _⟩⟩

theorem log {e e' : Log.Entry} (h : V.logs [e] [e']) : V.Alike Eq (Op.log e) (Op.log e') :=
  fun _ _ hst => ⟨id, .inr ⟨.ok rfl, hst, h⟩⟩

theorem event (source : Log.Source) (level : Log.Level) (name : String)
    (fields : List (String × Json)) : V.Respects (Op.event source level name fields) :=
  log (V.logs_refl _)

theorem modify {f g : σ → σ} (h : ∀ s t, V.states s t → V.states (f s) (g t))
    (hlost : ∀ s, V.lost s → V.lost (f s)) : V.Alike Eq (Op.modify f) (Op.modify g) :=
  fun s t hst => ⟨hlost s, .inr ⟨.ok rfl, h s t hst, V.logs_refl _⟩⟩

/-- What comes after answers that are related has to be alike.  What comes after an answer on the
left has to stay lost, too. -/
theorem bind_of_lost {x y : Op σ α} {f g : α → Op σ β} (hx : V.Alike A x y)
    (hlost : ∀ a s, V.lost s → V.lost ((f a).run s).state)
    (hf : ∀ a b, A a b → V.Alike B (f a) (g b)) : V.Alike B (x >>= f) (y >>= g) := by
  intro s t hst
  obtain ⟨hkeep, hout⟩ := hx s t hst
  have hlost : V.lost (x.run s).state → V.lost ((x >>= f).run s).state := by
    intro hl
    cases ha : (x.run s).answer with
    | error e => rwa [Op.state_bind_error ha]
    | ok a =>
        rw [Op.state_bind_ok ha]
        exact hlost a _ hl
  refine ⟨fun hs => hlost (hkeep hs), ?_⟩
  rcases hout with hl | hout
  · exact .inl (hlost hl)
  · obtain ⟨hanswer, hstate, hlog⟩ := hout
    rw [Op.run_bind, Op.run_bind]
    rcases hxs : x.run s with ⟨_ | a, s', l⟩ <;> rcases hyt : y.run t with ⟨_ | b, t', l'⟩ <;>
      rw [hxs, hyt] at hanswer hstate hlog <;> cases hanswer
    · exact .inr ⟨.error _, hstate, hlog⟩
    · next hab =>
      rcases (hf a b hab s' t' hstate).2 with hl | hout
      · exact .inl hl
      · exact .inr ⟨hout.answer, hout.state, V.logs_append _ _ _ _ hlog hout.log⟩

/-- Where nothing is ever lost, answers need not be related to themselves. -/
theorem bind_rel (hV : V.Complete) {x y : Op σ α} {f g : α → Op σ β} (hx : V.Alike A x y)
    (hf : ∀ a b, A a b → V.Alike B (f a) (g b)) : V.Alike B (x >>= f) (y >>= g) :=
  bind_of_lost hx (fun _ s hs => absurd hs (hV s)) hf

theorem bind {x y : Op σ α} {f g : α → Op σ β} (hx : V.Alike Eq x y)
    (hf : ∀ a, V.Alike B (f a) (g a)) : V.Alike B (x >>= f) (y >>= g) :=
  bind_of_lost hx (fun a _ => (hf a).lost) (by rintro a _ rfl; exact hf a)

/-- What comes after a look at the state can rely on what states that are alike have in common. -/
theorem get_bind {f g : σ → Op σ β} (h : ∀ s t, V.states s t → V.Alike B (f s) (g t)) :
    V.Alike B (Op.get >>= f) (Op.get >>= g) :=
  fun s t hst => h s t hst s t hst

theorem attempt {x y : Op σ α} (hx : V.Alike A x y) : V.Alike (Answers A) x.attempt y.attempt := by
  intro s t hst
  obtain ⟨hkeep, hout⟩ := hx s t hst
  exact ⟨hkeep, hout.imp id fun h => ⟨.ok h.answer, h.state, h.log⟩⟩

theorem attempt_eq {x y : Op σ α} (hx : V.Alike Eq x y) : V.Alike Eq x.attempt y.attempt := by
  intro s t hst
  obtain ⟨hkeep, hout⟩ := hx s t hst
  exact ⟨hkeep, hout.imp id fun h => ⟨.ok (answers_eq.mp h.answer), h.state, h.log⟩⟩

theorem map {x y : Op σ α} {f g : α → β} (hx : V.Alike A x y) (hfg : ∀ a b, A a b → B (f a) (g b)) :
    V.Alike B (f <$> x) (g <$> y) := by
  intro s t hst
  obtain ⟨hkeep, hout⟩ := hx s t hst
  rw [Op.run_map, Op.run_map]
  refine ⟨hkeep, hout.imp id fun h => ⟨?_, h.state, h.log⟩⟩
  obtain ⟨hanswer, -, -⟩ := h
  revert hanswer
  rcases (x.run s).answer with e | a <;> rcases (y.run t).answer with e' | b <;> rintro (hab | -)
  · exact .error _
  · exact .ok (hfg _ _ hab)

theorem discard {x y : Op σ α} (hx : V.Alike A x y) :
    V.Alike Eq (Functor.discard x) (Functor.discard y) :=
  map hx fun _ _ _ => rfl

theorem ite {c : Prop} [Decidable c] {x x' y y' : Op σ α} (hx : c → V.Alike A x x')
    (hy : ¬ c → V.Alike A y y') :
    V.Alike A (if c then x else y) (if c then x' else y') := by
  split
  · next hc => exact hx hc
  · next hc => exact hy hc

/-- Operations one after the other, alike one by one. -/
theorem forM {f g : α → Op σ PUnit} {as : List α} (h : ∀ a ∈ as, V.Alike Eq (f a) (g a)) :
    V.Alike Eq (as.forM f) (as.forM g) := by
  induction as with
  | nil => exact pure rfl
  | cons a as ih =>
      rw [Op.forM_cons, Op.forM_cons]
      exact bind (h a List.mem_cons_self) fun _ => ih fun b hb => h b (List.mem_cons_of_mem a hb)

theorem mapM {f g : α → Op σ β} {as : List α} (h : ∀ a ∈ as, V.Alike Eq (f a) (g a)) :
    V.Alike Eq (as.mapM f) (as.mapM g) := by
  induction as with
  | nil => exact pure rfl
  | cons a as ih =>
      rw [List.mapM_cons, List.mapM_cons]
      exact bind (h a List.mem_cons_self) fun _ =>
        bind (ih fun b hb => h b (List.mem_cons_of_mem a hb)) fun _ => pure rfl

/-- Likewise from lists of related elements, with lists of related answers. -/
theorem mapM_rel (hV : V.Complete) {f g : α → Op σ β} {R : α → α → Prop} {as bs : List α}
    (h : ∀ a b, R a b → V.Alike B (f a) (g b)) (hab : List.Forall₂ R as bs) :
    V.Alike (List.Forall₂ B) (as.mapM f) (bs.mapM g) := by
  induction hab with
  | nil => exact pure .nil
  | cons hab _ ih =>
      rw [List.mapM_cons, List.mapM_cons]
      exact bind_rel hV (h _ _ hab) fun _ _ hcd => bind_rel hV ih fun _ _ hrest =>
        pure (.cons hcd hrest)

/-- An operation on a part is alike for the whole if the part is all that it touches. -/
theorem on {W : Likeness τ} {part : τ → σ} {update : σ → τ → τ} {x y : Op σ α}
    (hx : V.Alike A x y) (hpart : ∀ t t', W.states t t' → V.states (part t) (part t'))
    (hupdate : ∀ t t' s s', W.states t t' → V.states s s' → W.states (update s t) (update s' t'))
    (hlost : ∀ t, W.lost t → V.lost (part t)) (hlost' : ∀ t s, V.lost s → W.lost (update s t))
    (hlogs : ∀ l l', V.logs l l' → W.logs l l') :
    W.Alike A (x.on part update) (y.on part update) := by
  intro t t' htt
  obtain ⟨hkeep, hout⟩ := hx _ _ (hpart t t' htt)
  rw [Op.run_on, Op.run_on]
  refine ⟨fun hl => hlost' _ _ (hkeep (hlost t hl)), ?_⟩
  exact hout.imp (hlost' t _) fun h => ⟨h.answer, hupdate _ _ _ _ htt h.state, hlogs _ _ h.log⟩

end Alike

end Likeness

end CommandBridge
