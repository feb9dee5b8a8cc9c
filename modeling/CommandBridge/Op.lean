import CommandBridge.Failure
import CommandBridge.Log.Entry

/-!
# CommandBridge.Op

Operations on a state.  An operation gives an answer or fails, leaves a state
either way, and says what it logged.  A failure stops the operation where it
happens: what was done before it stays done.

`Op σ` is a lawful monad, so operations are written in `do` notation, and `on`
runs an operation on a part of a larger state.
-/

namespace CommandBridge

/-- What a run of an operation leaves. -/
structure Outcome (σ α : Type) where
  answer : Except Failure α
  state : σ
  log : List Log.Entry

/-- An operation on a state that answers with an `α`. -/
def Op (σ α : Type) : Type := σ → Outcome σ α

namespace Op

variable {σ τ α β : Type}

/-- Runs an operation from a state. -/
def run (x : Op σ α) (s : σ) : Outcome σ α := x s

/-- Answers without doing anything. -/
protected def pure (a : α) : Op σ α := fun s => ⟨.ok a, s, []⟩

/-- Goes on with the answer of an operation. -/
protected def bind (x : Op σ α) (f : α → Op σ β) : Op σ β := fun s =>
  match x s with
  | ⟨.error e, s', log⟩ => ⟨.error e, s', log⟩
  | ⟨.ok a, s', log⟩ => let o := f a s'; ⟨o.answer, o.state, log ++ o.log⟩

instance : Monad (Op σ) where
  pure := Op.pure
  bind := Op.bind

/-- Fails. -/
def fail (e : Failure) : Op σ α := fun s => ⟨.error e, s, []⟩

/-- The state. -/
def get : Op σ σ := fun s => ⟨.ok s, s, []⟩

/-- Puts a state in place. -/
def put (s : σ) : Op σ Unit := fun _ => ⟨.ok (), s, []⟩

/-- Changes the state. -/
def modify (f : σ → σ) : Op σ Unit := fun s => ⟨.ok (), f s, []⟩

/-- Adds an entry to the log. -/
def log (e : Log.Entry) : Op σ Unit := fun s => ⟨.ok (), s, [e]⟩

/-- Logs an event. -/
def event (source : Log.Source) (level : Log.Level) (name : String)
    (fields : List (String × Json)) : Op σ Unit :=
  log (Log.event source level name fields)

/-- Answers with the failure of an operation instead of failing. -/
def attempt (x : Op σ α) : Op σ (Except Failure α) := fun s =>
  let o := x s
  ⟨.ok o.answer, o.state, o.log⟩

/-- Goes on from an answer or a failure that is at hand. -/
def ofExcept (r : Except Failure α) : Op σ α := fun s => ⟨r, s, []⟩

/-- Runs an operation on a part of a larger state. -/
def on (part : τ → σ) (update : σ → τ → τ) (x : Op σ α) : Op τ α := fun t =>
  let o := x (part t)
  ⟨o.answer, update o.state t, o.log⟩

instance : MonadStateOf σ (Op σ) where
  get := Op.get
  set := Op.put
  modifyGet f := fun s => let (a, s') := f s; ⟨.ok a, s', []⟩

instance : MonadExceptOf Failure (Op σ) where
  throw := Op.fail
  tryCatch x handler := fun s =>
    match x s with
    | ⟨.ok a, s', log⟩ => ⟨.ok a, s', log⟩
    | ⟨.error e, s', log⟩ => let o := handler e s'; ⟨o.answer, o.state, log ++ o.log⟩

/-! ## Laws -/

@[simp] theorem run_pure (a : α) (s : σ) : (pure a : Op σ α).run s = ⟨.ok a, s, []⟩ := rfl

@[simp] theorem run_bind (x : Op σ α) (f : α → Op σ β) (s : σ) :
    (x >>= f).run s =
      match x.run s with
      | ⟨.error e, s', log⟩ => ⟨.error e, s', log⟩
      | ⟨.ok a, s', log⟩ => ⟨((f a).run s').answer, ((f a).run s').state,
          log ++ ((f a).run s').log⟩ := rfl

@[simp] theorem run_fail (e : Failure) (s : σ) : (fail e : Op σ α).run s = ⟨.error e, s, []⟩ := rfl

@[simp] theorem run_get (s : σ) : (get : Op σ σ).run s = ⟨.ok s, s, []⟩ := rfl

@[simp] theorem run_put (s t : σ) : (put t).run s = ⟨.ok (), t, []⟩ := rfl

@[simp] theorem run_modify (f : σ → σ) (s : σ) : (modify f).run s = ⟨.ok (), f s, []⟩ := rfl

@[simp] theorem run_log (e : Log.Entry) (s : σ) : (log e).run s = ⟨.ok (), s, [e]⟩ := rfl

@[simp] theorem run_attempt (x : Op σ α) (s : σ) :
    x.attempt.run s = ⟨.ok (x.run s).answer, (x.run s).state, (x.run s).log⟩ := rfl

@[simp] theorem run_ofExcept (r : Except Failure α) (s : σ) :
    (ofExcept r : Op σ α).run s = ⟨r, s, []⟩ := rfl

@[simp] theorem run_on (part : τ → σ) (update : σ → τ → τ) (x : Op σ α) (t : τ) :
    (x.on part update).run t =
      ⟨(x.run (part t)).answer, update (x.run (part t)).state t, (x.run (part t)).log⟩ := rfl

@[simp] theorem run_map (f : α → β) (x : Op σ α) (s : σ) :
    (f <$> x).run s = ⟨(x.run s).answer.map f, (x.run s).state, (x.run s).log⟩ := by
  show (x >>= fun a => pure (f a)).run s = _
  rw [run_bind]
  rcases x.run s with ⟨_ | a, s', log⟩ <;> simp [Except.map]

@[simp] theorem run_discard (x : Op σ α) (s : σ) :
    (discard x).run s = ⟨(x.run s).answer.map fun _ => (), (x.run s).state, (x.run s).log⟩ :=
  run_map _ x s

/-- Of a list of operations the first is done first. -/
theorem forM_cons (f : α → Op σ PUnit) (a : α) (as : List α) :
    (a :: as).forM f = (do f a; as.forM f) := rfl

/-! An operation goes on from the answer of its first part, and fails with it. -/

theorem answer_bind_ok {x : Op σ α} {f : α → Op σ β} {s : σ} {a : α}
    (h : (x.run s).answer = .ok a) :
    ((x >>= f).run s).answer = ((f a).run (x.run s).state).answer := by
  rw [run_bind]
  rcases hx : x.run s with ⟨e | a', s', log⟩ <;> simp_all

theorem state_bind_ok {x : Op σ α} {f : α → Op σ β} {s : σ} {a : α}
    (h : (x.run s).answer = .ok a) :
    ((x >>= f).run s).state = ((f a).run (x.run s).state).state := by
  rw [run_bind]
  rcases hx : x.run s with ⟨e | a', s', log⟩ <;> simp_all

theorem answer_bind_error {x : Op σ α} {f : α → Op σ β} {s : σ} {e : Failure}
    (h : (x.run s).answer = .error e) : ((x >>= f).run s).answer = .error e := by
  rw [run_bind]
  rcases hx : x.run s with ⟨e' | a, s', log⟩ <;> simp_all

theorem state_bind_error {x : Op σ α} {f : α → Op σ β} {s : σ} {e : Failure}
    (h : (x.run s).answer = .error e) : ((x >>= f).run s).state = (x.run s).state := by
  rw [run_bind]
  rcases hx : x.run s with ⟨e' | a, s', log⟩ <;> simp_all

/-- What is only made of the answer of an operation leaves what the operation left. -/
theorem state_bind_ofExcept (x : Op σ α) (f : α → Except Failure β) (s : σ) :
    ((x >>= fun a => ofExcept (f a)).run s).state = (x.run s).state := by
  rw [run_bind]
  rcases x.run s with ⟨e | a, s', log⟩ <;> rfl

/-- Operations are equal if they run alike. -/
theorem ext {x y : Op σ α} (h : ∀ s, x.run s = y.run s) : x = y := funext h

instance : LawfulMonad (Op σ) := LawfulMonad.mk' _
  (by
    intro α x
    apply ext; intro s
    show (match x s with
      | ⟨.error e, s', log⟩ => _
      | ⟨.ok a, s', log⟩ => _) = _
    rcases h : x s with ⟨_ | a, s', log⟩ <;> simp [run, h, Op.pure])
  (by
    intro α β a f
    apply ext; intro s
    simp)
  (by
    intro α β γ x f g
    apply ext; intro s
    simp only [run_bind]
    rcases x.run s with ⟨_ | a, s', log⟩
    · rfl
    · simp only
      rcases (f a).run s' with ⟨_ | b, s'', log'⟩ <;> simp)

end Op

end CommandBridge
