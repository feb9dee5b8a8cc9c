import CommandBridge.Proofs.Dispatch.Uniform
import CommandBridge.Proofs.Results.Interchange
import CommandBridge.Service.Clock

/-!
# CommandBridge.Proofs.Service.Uniform

Operations that take time, on services that cannot be told apart.  Two such operations are alike if
they are over with related answers, or wait for the same and go on alike (`Progresses`); so are the
operations that were started (`Launches`), and whatever is made of them as time passes
(`respects_perform`).

The services have interchangeable channels, and may have counted other requests.
-/

namespace CommandBridge

/-! ## Operations that take time -/

namespace Likeness

variable {σ α β : Type}

/-- Operations that have come equally far: they are over with related answers, or wait for the same
and go on alike. -/
inductive Progresses (V : Likeness σ) (A : α → α → Prop) : Progress σ α → Progress σ α → Prop
  | done {a b : α} (h : A a b) : Progresses V A (.done a) (.done b)
  | suspended (w : Wait) {x y : Op σ α} (h : V.Alike A x y) :
      Progresses V A (.suspended w x) (.suspended w y)

variable {V : Likeness σ} {A : α → α → Prop} {B : β → β → Prop}

namespace Alike

variable (hV : V.Complete)
include hV

theorem atOnce {x y : Op σ α} (h : V.Alike A x y) :
    V.Alike (V.Progresses A) (Op.atOnce x) (Op.atOnce y) :=
  bind_rel hV h fun _ _ hab => pure (.done hab)

theorem onceOver {x y : Op σ (Progress σ α)} {f g : Except Failure α → Op σ β}
    (hx : V.Alike (V.Progresses A) x y)
    (hf : ∀ r r', Answers A r r' → V.Alike B (f r) (g r')) :
    V.Alike (V.Progresses B) (x.onceOver f) (y.onceOver g) := by
  refine bind_rel hV (attempt hx) fun r r' hr => ?_
  cases hr with
  | ok hp =>
      cases hp with
      | done h => exact atOnce hV (hf _ _ (.ok h))
      | suspended w h => exact pure (.suspended w (bind_rel hV (attempt h) hf))
  | error e => exact atOnce hV (hf _ _ (.error e))

theorem andThen {x y : Op σ (Progress σ α)} {f g : α → Op σ β}
    (hx : V.Alike (V.Progresses A) x y) (hf : ∀ a b, A a b → V.Alike B (f a) (g b)) :
    V.Alike (V.Progresses B) (x.andThen f) (y.andThen g) :=
  onceOver hV hx fun _ _ hr => bind_rel hV (ofExcept hr) hf

end Alike

end Likeness

open Likeness

/-! ## Services -/

namespace Service

/-- Services that have interchangeable channels, have counted equally many failed requests, and are
the same otherwise but for their counts of requests. -/
def interchangeable (capacity : Int) : Likeness Service where
  states s t := ∃ c requests, (ResultChannel.interchangeable capacity).states s.results c ∧
    requests.failed = s.requests.failed ∧
    t = { s with bridge := s.bridge.withResults c, requests := requests }
  logs _ _ := True
  logs_refl _ := trivial
  logs_append _ _ _ _ _ _ := trivial

variable {capacity : Int} {α β : Type} {A : α → α → Prop} {B : β → β → Prop}

theorem complete_interchangeable : (interchangeable capacity).Complete := fun _ => id

/-- Logs are not compared. -/
theorem alike_log (e e' : Log.Entry) :
    (interchangeable capacity).Alike Eq (Op.log e) (Op.log e') := .log trivial

/-- What comes after a look at a service that is not a look at its channel or its counts. -/
theorem get_bind {f g : Service → Op Service β}
    (hsame : ∀ s c requests,
      g { s with bridge := s.bridge.withResults c, requests := requests } = g s)
    (h : ∀ s, (interchangeable capacity).Alike B (f s) (g s)) :
    (interchangeable capacity).Alike B (Op.get >>= f) (Op.get >>= g) := by
  refine .get_bind ?_
  rintro s _ ⟨c, requests, -, -, rfl⟩
  rw [hsame s c requests]
  exact h s

/-- A change of a service that leaves its bridge and its counts alone. -/
theorem respects_modify {f : Service → Service}
    (hkeep : ∀ s, (f s).bridge = s.bridge ∧ (f s).requests = s.requests)
    (hsame : ∀ s c requests,
      f { s with bridge := s.bridge.withResults c, requests := requests } =
        { f s with bridge := s.bridge.withResults c, requests := requests }) :
    (interchangeable capacity).Respects (Op.modify f) := by
  refine .modify ?_ fun _ => id
  rintro s _ ⟨c, requests, hc, hfailed, rfl⟩
  obtain ⟨hbridge, hrequests⟩ := hkeep s
  refine ⟨c, requests, ?_, hrequests ▸ hfailed, ?_⟩
  · show (ResultChannel.interchangeable capacity).states (f s).bridge.host.results c
    rw [hbridge]
    exact hc
  · rw [hsame, hbridge]

theorem respects_onBridge {x : Op Bridge α}
    (hx : (ResultChannel.interchangeable capacity).bridges.Respects x) :
    (interchangeable capacity).Respects (onBridge x) := by
  refine .on hx ?_ ?_ (fun _ => id) (fun _ _ => id) fun _ _ => id
  · rintro s _ ⟨c, requests, hc, -, rfl⟩
    exact ⟨c, hc, rfl⟩
  · rintro s _ b _ ⟨-, requests, -, hfailed, rfl⟩ ⟨c, hc, rfl⟩
    exact ⟨c, requests, hc, hfailed, rfl⟩

theorem respects_onHost {x : Op Host α}
    (hx : (ResultChannel.interchangeable capacity).hosts.Respects x) :
    (interchangeable capacity).Respects (onHost x) := respects_onBridge (Bridge.respects_onHost hx)

theorem respects_onResults {x : Op ResultChannel α}
    (hx : (ResultChannel.interchangeable capacity).Respects x) :
    (interchangeable capacity).Respects (onResults x) := respects_onHost (Host.respects_onResults hx)

/-! ## Connections -/

theorem respects_sendReady (clock limit : Nat) (c : Connection) :
    (ResultChannel.interchangeable capacity).Respects (c.sendReady clock limit) := by
  induction limit generalizing c with
  | zero => exact .pure rfl
  | succ limit ih =>
      refine .bind (EventStream.respects_next _) fun ⟨stream, step⟩ => ?_
      cases step with
      | frame f => exact ih _
      | ended => exact .pure rfl
      | waiting => exact .pure rfl

theorem respects_advance (clock : Nat) (c : Connection) :
    (ResultChannel.interchangeable capacity).Respects (c.advance clock) := by
  refine .get_bind ?_
  rintro r _ ⟨-, redis, -, rfl⟩
  have hbacklog : c.backlog { r with redis := redis } = c.backlog r := rfl
  rw [hbacklog]
  refine .bind (respects_sendReady _ _ _) fun c => ?_
  split
  · exact .pure rfl
  · exact .pure rfl

theorem respects_putConnection (place : Nat) (c : Connection) :
    (interchangeable capacity).Respects (putConnection place c) :=
  respects_modify (fun _ => ⟨rfl, rfl⟩) fun _ _ _ => rfl

theorem respects_connect (heartbeat : Nat) :
    (interchangeable capacity).Respects (connect heartbeat) :=
  get_bind (fun _ _ _ => rfl) fun _ => .bind (respects_onResults (respects_sendReady _ _ _))
    fun _ => .bind (respects_modify (fun _ => ⟨rfl, rfl⟩) fun _ _ _ => rfl) fun _ => .pure rfl

theorem respects_takeUnread (place : Nat) :
    (interchangeable capacity).Respects (takeUnread place) := by
  refine get_bind (fun _ _ _ => rfl) fun s => ?_
  split
  · exact .pure rfl
  · exact .bind (respects_putConnection _ _) fun _ => .pure rfl

theorem respects_disconnect (place : Nat) :
    (interchangeable capacity).Respects (disconnect place) := by
  refine get_bind (fun _ _ _ => rfl) fun s => ?_
  split
  · exact .pure rfl
  · exact .bind (respects_onResults (EventStream.respects_close _)) fun _ =>
      respects_putConnection _ _

theorem respects_advanceConnection (place : Nat) :
    (interchangeable capacity).Respects (advanceConnection place) := by
  refine get_bind (fun _ _ _ => rfl) fun s => ?_
  split
  · exact .pure rfl
  · exact .bind (respects_onResults (respects_advance _ _)) fun _ => respects_putConnection _ _

/-! ## Time -/

theorem respects_settle (now : Timestamp) : (interchangeable capacity).Respects (settle now) :=
  .bind (respects_onHost (FileQueue.respects_runDue ResultChannel.uniform_interchangeable now))
    fun _ => get_bind (fun _ _ _ => rfl) fun _ => .forM fun _ _ => respects_advanceConnection _

theorem respects_setClock (time : Nat) : (interchangeable capacity).Respects (setClock time) :=
  respects_onHost (hosts_modify (fun _ => rfl) fun _ _ => rfl)

/-- Operations that were started alike. -/
inductive Launches (capacity : Int) (A : α → α → Prop) : Started α → Started α → Prop
  | waiting (w : Wait) {x y : Op Service α} (h : (interchangeable capacity).Alike A x y) :
      Launches capacity A (.waiting w x) (.waiting w y)
  | over {r r' : Except Failure α} (h : Answers A r r') : Launches capacity A (.over r) (.over r')

theorem alike_start {x y : Op Service (Progress Service α)}
    (h : (interchangeable capacity).Alike ((interchangeable capacity).Progresses A) x y) :
    (interchangeable capacity).Alike (Launches capacity A) (start x) (start y) := by
  refine .bind_rel complete_interchangeable (.attempt h) fun r r' hr => ?_
  cases hr with
  | ok hp =>
      cases hp with
      | done h => exact .pure (.over (.ok h))
      | suspended w h => exact .pure (.waiting w h)
  | error e => exact .pure (.over (.error e))

theorem alike_wake {t t' : Started α} (h : Launches capacity A t t') :
    (interchangeable capacity).Alike (Launches capacity A) (wake t) (wake t') := by
  cases h with
  | «over» h => exact .pure (.over h)
  | @waiting w x y h =>
      refine .get_bind ?_
      rintro s _ ⟨c, requests, ⟨-, redis, -, rfl⟩, -, rfl⟩
      -- whether the wait is over depends on the clock and on the queues
      refine .ite (fun _ => ?_) fun _ => .pure (.waiting w h)
      exact .bind_rel complete_interchangeable (.attempt h) fun _ _ hr => .pure (.over hr)

theorem alike_finish {t t' : Started α} (h : Launches capacity A t t') :
    (interchangeable capacity).Alike (Answers A) (finish t) (finish t') := by
  cases h with
  | «over» h => exact .pure h
  | waiting w h => exact .attempt h

/-- Operations that were started alike wait for the same. -/
theorem deadlines_eq {ts ts' : List (Started α)} (h : List.Forall₂ (Launches capacity A) ts ts') :
    ts.filterMap deadline? = ts'.filterMap deadline? := by
  induction h with
  | nil => rfl
  | cons ht _ ih =>
      rw [List.filterMap_cons, List.filterMap_cons, ih]
      cases ht <;> rfl

theorem alike_drive (now : Timestamp) (limit : Nat) {ts ts' : List (Started α)}
    (h : List.Forall₂ (Launches capacity A) ts ts') :
    (interchangeable capacity).Alike (List.Forall₂ (Answers A)) (drive now limit ts)
      (drive now limit ts') := by
  induction limit generalizing ts ts' with
  | zero => exact .mapM_rel complete_interchangeable (fun _ _ => alike_finish) h
  | succ limit ih =>
      refine .bind (respects_settle now) fun _ =>
        .bind_rel complete_interchangeable
          (.mapM_rel complete_interchangeable (fun _ _ => alike_wake) h) fun ts ts' h => ?_
      refine .get_bind ?_
      rintro s _ ⟨c, requests, -, -, rfl⟩
      have hnext : ({ s with bridge := s.bridge.withResults c, requests := requests } :
          Service).nextTime? ts' = s.nextTime? ts := by
        rw [nextTime?, nextTime?, deadlines_eq h]
        rfl
      rw [hnext]
      cases s.nextTime? ts with
      | none => exact .mapM_rel complete_interchangeable (fun _ _ => alike_finish) h
      | some t => exact .bind (respects_setClock t) fun _ => ih h

theorem alike_gather (now : Timestamp) {xs ys : List (Op Service (Progress Service α))}
    (h : List.Forall₂
      ((interchangeable capacity).Alike ((interchangeable capacity).Progresses A)) xs ys) :
    (interchangeable capacity).Alike (List.Forall₂ (Answers A)) (gather now xs) (gather now ys) := by
  refine .bind_rel complete_interchangeable
    (.mapM_rel complete_interchangeable (fun _ _ => alike_start) h) fun ts ts' h => ?_
  refine .get_bind ?_
  rintro s _ ⟨c, requests, -, -, rfl⟩
  rw [deadlines_eq h]
  exact alike_drive now _ h

/-- Operations that are alike come to related answers. -/
theorem alike_perform (now : Timestamp) {x y : Op Service (Progress Service α)}
    (h : (interchangeable capacity).Alike ((interchangeable capacity).Progresses A) x y) :
    (interchangeable capacity).Alike A (perform now x) (perform now y) := by
  refine .bind_rel complete_interchangeable (alike_gather now (.cons h .nil)) fun rs rs' hrs =>
    .bind (respects_settle now) fun _ => ?_
  cases hrs with
  | nil => exact .fail _
  | cons hr hrs =>
      cases hrs with
      | nil => exact .ofExcept hr
      | cons _ _ => exact .fail _

end Service

end CommandBridge
