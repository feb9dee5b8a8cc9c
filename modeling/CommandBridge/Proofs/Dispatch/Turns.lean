import CommandBridge.Proofs.Dispatch.Calls
import CommandBridge.Proofs.Instance.Tenure

/-!
# CommandBridge.Proofs.Dispatch.Turns

Runs of a bridge: turns taken one after the other, from callers, from the application and in the
background.

Actions are made of few things: instances are opened and closed, Redis is let go of, commands are
handed over, and something happens in the background.  What these keep, actions keep
(`Durable.keeps_run`).

What a run does to the slot, to the opened instance and to the tenures of the instances is told
by its lifecycle events: a turn opens one instance, or closes one, or neither (`Turn.event?`), and
changes nothing of these but through that event and by attaching and detaching (`slots_after`).
-/

namespace CommandBridge

namespace Bridge

/-- What can happen to a bridge. -/
inductive Action where
  /-- The instance at a place is put into the slot. -/
  | attach (place : Nat)
  | detach
  | startup
  | shutdown
  /-- A caller asks for something. -/
  | call (c : Call)
  /-- The result channel is used directly. -/
  | onChannel (o : ChannelOperation)
  /-- Something happens while nobody calls. -/
  | background (x : Background)

/-- Does an action; what it answers with is left out. -/
def Action.run (now : Timestamp) : Action → Op Bridge Unit
  | .attach place => Bridge.attach place
  | .detach => discard Bridge.detach
  | .startup => Bridge.startup
  | .shutdown => Bridge.shutdown
  | .call c => discard (c.run now)
  | .onChannel o => onResults (o.run now)
  | .background x => onHost (x.run now)

/-- An action at a time. -/
structure Turn where
  now : Timestamp
  action : Action

/-- The bridge after a turn, whether the turn was answered or failed. -/
def Turn.after (t : Turn) (b : Bridge) : Bridge := ((t.action.run t.now).run b).state

/-- The bridge after a run. -/
def runAll (turns : List Turn) (b : Bridge) : Bridge := turns.foldl (fun b t => t.after b) b

/-! ## Lifecycle events -/

/-- An instance was opened or closed; `completed` says that this did not fail. -/
inductive LifecycleEvent where
  | opening (place : Nat) (completed : Bool)
  | closing (place : Nat) (completed : Bool)
  deriving DecidableEq, Repr

/-- The opening of an instance, unless it is the one that was opened last. -/
def opening? (b : Bridge) (i : Nat) : Option LifecycleEvent :=
  if b.opened = some i then none
  else some (.opening i ((Host.openInstance i).run b.host).completed)

/-- The closing of an instance, if it is the one that was opened last. -/
def closing? (b : Bridge) (i : Nat) : Option LifecycleEvent :=
  if b.opened = some i then some (.closing i ((Host.closeInstance i).run b.host).completed)
  else none

/-- What a turn opens or closes. -/
def Turn.event? (t : Turn) (b : Bridge) : Option LifecycleEvent :=
  match t.action with
  | .call c => if c.nameless?.isSome then none else b.attached.bind b.opening?
  | .startup => b.attached.bind b.opening?
  | .detach => b.attached.bind b.closing?
  | .shutdown => b.opened.bind b.closing?
  | _ => none

/-- What a run opens and closes, in this order. -/
def events : List Turn → Bridge → List LifecycleEvent
  | [], _ => []
  | t :: turns, b => (t.event? b).toList ++ events turns (t.after b)

theorem events_append (turns turns' : List Turn) (b : Bridge) :
    events (turns ++ turns') b = events turns b ++ events turns' (runAll turns b) := by
  induction turns generalizing b with
  | nil => rfl
  | cons t turns ih => rw [List.cons_append, events, events, ih, List.append_assoc]; rfl

/-! ## Slots -/

/-- The slot of a bridge, the instance it opened last, and the tenures of all instances. -/
structure Slots where
  attached : Option Nat
  opened : Option Nat
  tenures : List Tenure
  deriving DecidableEq, Repr

/-- The slots of a bridge. -/
def slots (b : Bridge) : Slots := ⟨b.attached, b.opened, b.host.tenures⟩

namespace LifecycleEvent

/-- The instance that an event is about. -/
def place : LifecycleEvent → Nat
  | .opening i _ => i
  | .closing i _ => i

/-- What is open after an event. -/
def leaves : LifecycleEvent → Option Nat
  | .opening i _ => some i
  | .closing _ _ => none

/-- The tenure of its instance after an event. -/
def change : LifecycleEvent → Tenure → Tenure
  | .opening _ completed => Tenure.opened completed
  | .closing _ completed => Tenure.closed completed

/-- The slots after an event. -/
def on (e : LifecycleEvent) (s : Slots) : Slots :=
  { s with opened := e.leaves, tenures := s.tenures.modify e.place e.change }

end LifecycleEvent

/-- The slots after a lifecycle event, if there is one. -/
def Slots.through (s : Slots) (e : Option LifecycleEvent) : Slots := (e.map fun e => e.on s).getD s

theorem Slots.attached_through (s : Slots) (e : Option LifecycleEvent) :
    (s.through e).attached = s.attached := by
  cases e <;> rfl

/-- What is in the slot after a turn. -/
def Turn.attaches (t : Turn) (attached : Option Nat) : Option Nat :=
  match t.action with
  | .attach i => attached.or (some i)
  | .detach => none
  | _ => attached

/-! ## What turns keep -/

/-- A bridge with these in its slot and opened last, that has drawn so many tickets; of what the
instances share it is known that `P`. -/
structure Standing (attached opened : Option Nat) (drawn : Nat) (P : Host → Prop) (b : Bridge) :
    Prop where
  attached : b.attached = attached
  opened : b.opened = opened
  drawn : b.ticketsDrawn = drawn
  host : P b.host

section Keeps

variable {attached opened : Option Nat} {drawn : Nat} {P : Host → Prop} {now : Timestamp}
  {ok : ChannelOperation → Prop} {T : List Tenure → Prop} {Q : ResultChannel → Prop}

theorem keeps_onHost {α : Type} {x : Op Host α} (hx : x.Keeps P) :
    (onHost x).Keeps (Standing attached opened drawn P) :=
  .on fun b hb => ⟨hb.attached, hb.opened, hb.drawn, hx b.host hb.host⟩

theorem keeps_stats (f : Bridge → DispatchStats) :
    (Op.modify fun b => { b with stats := f b }).Keeps (Standing attached opened drawn P) :=
  .modify fun _ hb => ⟨hb.attached, hb.opened, hb.drawn, hb.host⟩

theorem keeps_onResults {α : Type} {x : Op ResultChannel α} (hx : x.Keeps Q) :
    (onResults x).Keeps (Standing attached opened drawn (Conduct ok T Q)) :=
  keeps_onHost (Host.keeps_onResults hx)

theorem keeps_deliver (hok : Harmless ok now Q) (i : Nat) (c : Command) :
    (deliver now i c).Keeps (Standing attached opened drawn (Conduct ok T Q)) := by
  refine .bind (.attempt (keeps_onHost (Host.keeps_deliver hok i c))) fun r => ?_
  split
  · exact .pure _
  · exact .bind (.log _) fun _ => .pure _

theorem keeps_reject (hok : Harmless ok now Q) (c : Command) (detail : Text) :
    (reject now c detail).Keeps (Standing attached opened drawn (Conduct ok T Q)) := by
  have hpublish : (ResultChannel.publishOutcome now c.ticket .error
      (.object [("error", .str detail)])).Keeps Q :=
    hok.publish (hok.outcome _ _ _ (by simp))
  exact .bind (keeps_stats _) fun _ => .bind (.event _ _ _ _) fun _ =>
    .bind (.discard (keeps_onResults hpublish)) fun _ => .fail _

theorem keeps_accept (c : Command) : (accept c).Keeps (Standing attached opened drawn P) :=
  .bind (keeps_stats _) fun _ => .bind .get fun _ => .event _ _ _ _

/-- Handing a command over registers it, and then does on the channel what scripts say. -/
theorem keeps_handOver (hok : Harmless ok now Q) (i : Nat) {c : Command}
    (hregister : (ResultChannel.register now c).Keeps Q) :
    (handOver now i c).Keeps (Standing attached opened drawn (Conduct ok T Q)) := by
  refine .bind (.discard (keeps_onResults hregister)) fun _ => .bind (keeps_deliver hok i c)
    fun d => ?_
  dsimp only
  split
  · exact .bind (keeps_reject hok c _) fun _ => .pure _
  · exact .bind (keeps_accept c) fun _ => .pure _

end Keeps

/-! ## What actions keep -/

/-- Something known of what the instances share and of how many tickets were drawn.  Opening and
closing an instance, letting go of Redis, handing a command over and what happens in the background
keep it. -/
structure Durable (now : Timestamp) (R : Bridge → Prop) : Prop where
  frame : ∀ {b b' : Bridge}, R b → b'.host = b.host → b'.ticketsDrawn = b.ticketsDrawn → R b'
  opening : ∀ i, (onHost (Host.openInstance i)).Keeps R
  closing : ∀ i, (onHost (Host.closeInstance i)).Keeps R
  letGo : (onResults ResultChannel.close).Keeps R
  handOver : ∀ i kind target arguments,
    (do Bridge.handOver now i ⟨kind, target, arguments, ← drawTicket, now.text⟩ :
      Op Bridge Command).Keeps R
  background : ∀ x : Background, (onHost (x.run now)).Keeps R

namespace Durable

variable {now : Timestamp} {R : Bridge → Prop} (h : Durable now R)
include h

theorem keeps_ensureOpen (i : Nat) : (ensureOpen i).Keeps R :=
  .bind .get fun _ => .ite (fun _ => .pure _) fun _ =>
    .bind (.modify fun _ hb => h.frame hb rfl rfl) fun _ => h.opening i

theorem keeps_attach (i : Nat) : (attach i).Keeps R := by
  refine .get_bind fun b hb => ?_
  split
  · exact hb
  · exact h.frame hb rfl rfl

theorem keeps_detach : detach.Keeps R := by
  refine .get_bind fun b hb => ?_
  split
  · exact hb
  · next i _ =>
    have hput : (Op.put { b with attached := none }).Keeps R := .put (h.frame hb rfl rfl)
    refine hput.bind (fun _ => .bind (.event _ _ _ _) fun _ => ?_) b hb
    dsimp only
    refine .ite (fun _ => ?_) fun _ => .pure _
    exact .bind (.modify fun _ hb => h.frame hb rfl rfl) fun _ =>
      .bind (h.closing i) fun _ => .pure _

theorem keeps_startup : startup.Keeps R := by
  refine .bind .get fun b => ?_
  split
  · exact h.keeps_ensureOpen _
  · exact .pure _

theorem keeps_shutdown : shutdown.Keeps R := by
  refine .bind .get fun b => ?_
  dsimp only
  split
  · exact .bind (.modify fun _ hb => h.frame hb rfl rfl) fun _ =>
      .bind (h.closing _) fun _ => h.letGo
  · exact h.letGo

theorem keeps_dispatch (kind : DispatchKind) (target : String) (arguments : Json) :
    (dispatch now kind target arguments).Keeps R := by
  refine .bind .get fun b => ?_
  split
  · exact .bind (.modify fun _ hb => h.frame hb rfl rfl) fun _ => .bind (.event _ _ _ _) fun _ =>
      .fail _
  · next i _ => exact .bind (h.keeps_ensureOpen i) fun _ => h.handOver i _ _ _

theorem keeps_call (c : Call) : (c.run now).Keeps R := by
  intro b hb
  cases hname : c.nameless? with
  | some what =>
      rw [Call.run_of_nameless hname]
      exact hb
  | none =>
      rw [(Call.run_of_named hname now b).2]
      exact h.keeps_dispatch _ _ _ b hb

/-- Actions keep it, if what is done on the result channel itself does. -/
theorem keeps_run (a : Action)
    (hchannel : ∀ o, a = .onChannel o → (onResults (o.run now)).Keeps R) : (a.run now).Keeps R := by
  cases a with
  | attach i => exact h.keeps_attach i
  | detach => exact .discard h.keeps_detach
  | startup => exact h.keeps_startup
  | shutdown => exact h.keeps_shutdown
  | call c => exact .discard (h.keeps_call c)
  | onChannel o => exact hchannel o rfl
  | background x => exact h.background x

end Durable

/-! ## What turns do to the slots -/

section Steps

variable (b : Bridge) (i : Nat)

/-- What keeps the standing of a bridge with every list of tenures changes no slots. -/
theorem slots_of_keeps {α : Type} {x : Op Bridge α}
    (hx : ∀ ts, x.Keeps (Standing b.attached b.opened b.ticketsDrawn (Tenured ts))) :
    (x.run b).state.slots = b.slots := by
  have hleft := hx _ b ⟨rfl, rfl, rfl, tenured_iff.mpr rfl⟩
  rw [slots, hleft.attached, hleft.opened, tenured_iff.mp hleft.host]
  rfl

theorem slots_onResults {α : Type} (x : Op ResultChannel α) :
    ((onResults x).run b).state.slots = b.slots :=
  slots_of_keeps b fun _ => keeps_onResults fun _ _ => trivial

theorem slots_handOver (now : Timestamp) (c : Command) :
    ((handOver now i c).run b).state.slots = b.slots :=
  slots_of_keeps b fun _ => keeps_handOver (harmless_any now) i fun _ _ => trivial

theorem slots_attach :
    ((attach i).run b).state.slots = { b.slots with attached := b.attached.or (some i) } := by
  rw [attach, Op.state_bind_ok (a := b) rfl, Op.run_get]
  cases hb : b.attached with
  | none => rfl
  | some k => simp [slots, hb]

theorem slots_ensureOpen :
    ((ensureOpen i).run b).state.slots = b.slots.through (b.opening? i) := by
  rw [ensureOpen, Op.state_bind_ok (a := b) rfl, Op.run_get, opening?]
  split
  · rfl
  · exact congrArg (Slots.mk b.attached (some i)) (Host.tenures_openInstance b.host i)

theorem slots_closing :
    ((onHost (Host.closeInstance i)).run { b with opened := none }).state.slots =
      (LifecycleEvent.closing i ((Host.closeInstance i).run b.host).completed).on b.slots :=
  congrArg (Slots.mk b.attached none) (Host.tenures_closeInstance b.host i)

theorem slots_detach :
    (detach.run b).state.slots =
      { b.slots.through (b.attached.bind b.closing?) with attached := none } := by
  rw [detach, Op.state_bind_ok (a := b) rfl, Op.run_get]
  cases hb : b.attached with
  | none => simp [slots, hb, Slots.through]
  | some i =>
      simp only [Option.bind_some, closing?]
      split
      · next hopened =>
        have hclosed := slots_closing { b with attached := none } i
        exact (congrArg Bridge.slots (Op.state_bind_pure _ _ _)).trans hclosed
      · rfl

theorem slots_startup :
    (startup.run b).state.slots = b.slots.through (b.attached.bind b.opening?) := by
  rw [startup, Op.state_bind_ok (a := b) rfl, Op.run_get]
  cases hb : b.attached with
  | none => rfl
  | some i => exact slots_ensureOpen b i

theorem slots_shutdown :
    (shutdown.run b).state.slots = b.slots.through (b.opened.bind b.closing?) := by
  rw [shutdown, Op.state_bind_ok (a := b) rfl, Op.run_get]
  cases hb : b.opened with
  | none => exact slots_onResults b _
  | some i =>
      simp only [Option.bind_some, closing?, if_pos hb]
      have hclosed := slots_closing b i
      show ((onHost (Host.closeInstance i) >>= fun _ => onResults ResultChannel.close).run
        { b with opened := none }).state.slots = _
      cases ha : ((onHost (Host.closeInstance i)).run { b with opened := none }).answer with
      | error e =>
          rw [Op.state_bind_error ha]
          exact hclosed
      | ok u =>
          rw [Op.state_bind_ok ha]
          exact (slots_onResults _ _).trans hclosed

theorem slots_call (now : Timestamp) (c : Call) :
    ((c.run now).run b).state.slots =
      b.slots.through (if c.nameless?.isSome then none else b.attached.bind b.opening?) := by
  cases hname : c.nameless? with
  | some what =>
      rw [Call.run_of_nameless hname]
      rfl
  | none =>
      have hstate := (Call.run_of_named hname now b).2
      rw [hstate]
      cases hb : b.attached with
      | none =>
          rw [(dispatch_unavailable now c.kind c.target c.arguments hb).2]
          rfl
      | some i =>
          show _ = b.slots.through (b.opening? i)
          cases hopen : ((ensureOpen i).run b).answer with
          | error e =>
              rw [(dispatch_of_open_error now c.kind c.target c.arguments hb hopen).2]
              exact slots_ensureOpen b i
          | ok u =>
              rw [(dispatch_of_open_ok now c.kind c.target c.arguments hb hopen).2]
              exact (slots_handOver _ i now _).trans (slots_ensureOpen b i)

end Steps

/-- A turn changes the slots by its lifecycle event, and by attaching and detaching. -/
theorem slots_after (t : Turn) (b : Bridge) :
    (t.after b).slots =
      { b.slots.through (t.event? b) with attached := t.attaches b.attached } := by
  have hattached : ∀ e, { b.slots.through e with attached := b.attached } = b.slots.through e :=
    fun e => congrArg (fun a => { b.slots.through e with attached := a })
      (b.slots.attached_through e).symm
  obtain ⟨now, action⟩ := t
  cases action with
  | attach i => exact slots_attach b i
  | detach =>
      show ((discard detach).run b).state.slots = _
      rw [Op.run_discard]
      exact slots_detach b
  | startup => exact (slots_startup b).trans (hattached _).symm
  | shutdown => exact (slots_shutdown b).trans (hattached _).symm
  | call c =>
      show ((discard (c.run now)).run b).state.slots = _
      rw [Op.run_discard]
      exact (slots_call b now c).trans (hattached _).symm
  | onChannel o => exact slots_onResults b _
  | background x =>
      exact slots_of_keeps b fun _ => keeps_onHost (Background.keeps_run (harmless_any now) x)

end Bridge

end CommandBridge
