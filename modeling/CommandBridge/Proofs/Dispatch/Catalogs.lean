import CommandBridge.Proofs.Dispatch.Entries
import CommandBridge.Proofs.Dispatch.Offline

/-!
# CommandBridge.Proofs.Dispatch.Catalogs

The catalog advertises and nothing more.  The same run of two bridges that differ in their catalogs
gives the same answers and failures turn by turn and leaves bridges that still differ in their
catalogs only; the logs differ in what they say about the catalog when a command was accepted
(`run_withCatalog`).

The catalog is looked at in `accept` only, after the delivery, so `accept` is the one operation
below that is not treated alike because it leaves the catalog alone.
-/

namespace CommandBridge

open Likeness Trail

/-! ## Listings -/

/-- What the catalog lists for a kind of command: URIs or names. -/
def Catalog.listed (c : Catalog) : DispatchKind → List String
  | .readResource => c.resources.map (·.uri)
  | .callTool => c.tools.map (·.name)
  | .getPrompt => c.prompts.map (·.name)

/-- A target that a look-up finds is one that is listed. -/
theorem Catalog.lists_eq (c : Catalog) (kind : DispatchKind) (target : String) :
    c.lists kind target = decide (target ∈ c.listed kind) := by
  have hfind : ∀ {α : Type} (f : α → String) (as : List α),
      (as.find? fun a => f a = target).isSome = decide (target ∈ as.map f) := by
    intro α f as
    rw [Bool.eq_iff_iff, List.find?_isSome]
    simp
  cases kind with
  | readResource => exact hfind _ _
  | callTool => exact hfind _ _
  | getPrompt => exact hfind _ _

/-! ## Bridges that differ in their catalogs -/

/-- A bridge with another catalog. -/
def Bridge.withCatalog (c : Catalog) (b : Bridge) : Bridge := { b with catalog := c }

/-- Log entries of bridges with two catalogs: equal, or about one command that was accepted, each
with what its own catalog says. -/
inductive SameLine (c c' : Catalog) : Log.Entry → Log.Entry → Prop
  | same (e : Log.Entry) : SameLine c c' e e
  | dispatched (command : Command) : SameLine c c'
      (dispatchLine command (c.lists command.kind command.target))
      (dispatchLine command (c'.lists command.kind command.target))

/-- A bridge with one catalog and the same bridge with another. -/
def Likeness.catalogs (c c' : Catalog) : Likeness Bridge where
  states b b' := b.catalog = c ∧ b' = b.withCatalog c'
  logs := List.Forall₂ (SameLine c c')
  logs_refl l := List.forall₂_same.mpr fun e _ => .same e
  logs_append _ _ _ _ h h' := List.rel_append h h'

variable {c c' : Catalog} {α β : Type}

theorem complete_catalogs (c c' : Catalog) : (catalogs c c').Complete := fun _ => id

theorem ChannelOperation.logs_ask (now : Timestamp) (o : ChannelOperation) :
    LogsAsHost (o.ask now) := by
  cases o with
  | register command => exact .map _ (ResultChannel.logs_register now command)
  | publish ticket status result => exact .map _ (ResultChannel.logs_publish now _ _ _)
  | get ticket => exact .map _ (ResultChannel.logs_get now ticket)
  | subscribe limit => exact .map _ (ResultChannel.logs_subscribe limit)
  | unsubscribe place => exact .map _ (.change _)
  | drain place => exact .map _ (ResultChannel.logs_drain place)

namespace Bridge

/-- What comes after a look at a bridge that is not a look at its catalog. -/
theorem catalogs_get_bind {f : Bridge → Op Bridge β} (hsame : ∀ b, f (b.withCatalog c') = f b)
    (h : ∀ b, (catalogs c c').Respects (f b)) : (catalogs c c').Respects (Op.get >>= f) := by
  refine .get_bind ?_
  rintro b _ ⟨-, rfl⟩
  rw [hsame b]
  exact h b

/-- A change of a bridge that leaves its catalog alone. -/
theorem catalogs_modify {f : Bridge → Bridge} (hkeep : ∀ b, (f b).catalog = b.catalog)
    (hsame : ∀ b, f (b.withCatalog c') = (f b).withCatalog c') :
    (catalogs c c').Respects (Op.modify f) := by
  refine .modify ?_ fun _ => id
  rintro b _ ⟨hb, rfl⟩
  exact ⟨(hkeep b).trans hb, hsame b⟩

/-- What the instances share has no part in the catalog. -/
theorem catalogs_onHost (x : Op Host α) : (catalogs c c').Respects (onHost x) := by
  refine (complete_catalogs c c').alike ?_
  rintro b _ ⟨hb, rfl⟩
  exact ⟨answers_eq.mpr rfl, ⟨hb, rfl⟩, logs_refl _ _⟩

/-! ## The slot -/

theorem catalogs_ensureOpen (i : Nat) : (catalogs c c').Respects (ensureOpen i) :=
  catalogs_get_bind (fun _ => rfl) fun _ => .ite (fun _ => .pure rfl) fun _ =>
    .bind (catalogs_modify (fun _ => rfl) fun _ => rfl) fun _ => catalogs_onHost _

theorem catalogs_startup : (catalogs c c').Respects startup := by
  refine catalogs_get_bind (fun _ => rfl) fun b => ?_
  split
  · exact catalogs_ensureOpen _
  · exact .pure rfl

/-- An instance is closed once the bridge has forgotten that it is open. -/
theorem catalogs_closing (i : Nat) {x : Op Bridge α} (hx : (catalogs c c').Respects x) :
    (catalogs c c').Respects (do
      Op.modify fun b => { b with opened := none }
      onHost (Host.closeInstance i)
      x) :=
  .bind (catalogs_modify (fun _ => rfl) fun _ => rfl) fun _ =>
    .bind (catalogs_onHost _) fun _ => hx

theorem catalogs_shutdown : (catalogs c c').Respects shutdown := by
  refine catalogs_get_bind (fun _ => rfl) fun b => ?_
  split
  · exact catalogs_closing _ (catalogs_onHost _)
  · exact catalogs_onHost _

theorem catalogs_put (b : Bridge) :
    (catalogs b.catalog c').Alike Eq (Op.put b) (Op.put (b.withCatalog c')) :=
  (complete_catalogs _ _).alike fun _ _ _ => ⟨.ok rfl, ⟨rfl, rfl⟩, .nil⟩

theorem catalogs_attach (i : Nat) : (catalogs c c').Respects (attach i) := by
  refine .get_bind ?_
  rintro b _ ⟨rfl, rfl⟩
  have hattached : (b.withCatalog c').attached = b.attached := rfl
  rw [hattached]
  cases b.attached with
  | some j => exact .fail _
  | none => exact .bind (catalogs_put { b with attached := some i }) fun _ => .event _ _ _ _

theorem catalogs_detach : (catalogs c c').Respects detach := by
  refine .get_bind ?_
  rintro b _ ⟨rfl, rfl⟩
  have hattached : (b.withCatalog c').attached = b.attached := rfl
  rw [hattached]
  cases b.attached with
  | none => exact .pure rfl
  | some i =>
      refine .bind (catalogs_put { b with attached := none }) fun _ => ?_
      exact .bind (.event _ _ _ _) fun _ =>
        .ite (fun _ => catalogs_closing i (.pure rfl)) fun _ => .pure rfl

/-! ## Calls -/

theorem catalogs_drawTicket : (catalogs c c').Respects drawTicket := by
  refine (complete_catalogs c c').alike ?_
  rintro b _ ⟨hb, rfl⟩
  exact ⟨answers_eq.mpr rfl, ⟨hb, rfl⟩, logs_refl _ _⟩

theorem catalogs_deliver (now : Timestamp) (i : Nat) (command : Command) :
    (catalogs c c').Respects (deliver now i command) := by
  refine .bind (.attempt_eq (catalogs_onHost _)) fun r => ?_
  split
  · exact .pure rfl
  · exact .bind (.log (logs_refl _ _)) fun _ => .pure rfl

theorem catalogs_reject (now : Timestamp) (command : Command) (detail : Text) :
    (catalogs c c').Respects (reject now command detail) :=
  .bind (catalogs_modify (fun _ => rfl) fun _ => rfl) fun _ => .bind (.event _ _ _ _) fun _ =>
    .bind (.discard (catalogs_onHost _)) fun _ => .fail _

/-- Accepting a command is where the catalog is looked at, and all that comes of it is a line. -/
theorem catalogs_accept (command : Command) : (catalogs c c').Respects (accept command) := by
  refine (complete_catalogs c c').alike ?_
  rintro b _ ⟨rfl, rfl⟩
  rw [run_accept, run_accept]
  exact ⟨.ok rfl, ⟨rfl, rfl⟩, .cons (.dispatched command) .nil⟩

theorem catalogs_handOver (now : Timestamp) (i : Nat) (command : Command) :
    (catalogs c c').Respects (handOver now i command) := by
  refine .bind (.discard (catalogs_onHost _)) fun _ =>
    .bind (catalogs_deliver now i command) fun d => ?_
  dsimp only
  split
  · exact .bind (catalogs_reject now command _) fun _ => .pure rfl
  · exact .bind (catalogs_accept command) fun _ => .pure rfl

theorem catalogs_dispatch (now : Timestamp) (kind : DispatchKind) (target : String)
    (arguments : Json) : (catalogs c c').Respects (dispatch now kind target arguments) := by
  refine catalogs_get_bind (fun _ => rfl) fun b => ?_
  split
  · exact .bind (catalogs_modify (fun _ => rfl) fun _ => rfl) fun _ =>
      .bind (.event _ _ _ _) fun _ => .fail _
  · exact .bind (catalogs_ensureOpen _) fun _ => .bind catalogs_drawTicket fun _ =>
      catalogs_handOver now _ _

theorem catalogs_call (now : Timestamp) (call : Call) :
    (catalogs c c').Respects (call.run now) := by
  cases call with
  | readResource uri =>
      have hrest : (catalogs c c').Respects
          (dispatch now .readResource (Percent.decode uri).value .null) :=
        catalogs_dispatch now _ _ _
      refine .ite (fun _ => .bind (.event _ _ _ _) fun _ => ?_) fun _ => ?_
      · exact .bind hrest fun _ => .pure rfl
      · exact .bind hrest fun _ => .pure rfl
  | callTool name arguments =>
      have hrest : (catalogs c c').Respects (dispatch now .callTool name arguments) :=
        catalogs_dispatch now _ _ _
      exact .ite (fun _ => .bind (.fail _) fun _ => .bind hrest fun _ => .pure rfl) fun _ =>
        .bind hrest fun _ => .pure rfl
  | getPrompt name =>
      have hrest : (catalogs c c').Respects (dispatch now .getPrompt name .null) :=
        catalogs_dispatch now _ _ _
      exact .ite (fun _ => .bind (.fail _) fun _ => .bind hrest fun _ => .pure rfl) fun _ =>
        .bind hrest fun _ => .pure rfl

/-- No turn is decided by the catalog. -/
theorem catalogs_ask (now : Timestamp) (a : Action) : (catalogs c c').Respects (a.ask now) := by
  have hmap : ∀ {α : Type} {f : α → Action.Answer} {x : Op Bridge α}, (catalogs c c').Respects x →
      (catalogs c c').Respects (f <$> x) := fun hx => .map hx fun _ _ => congrArg _
  cases a with
  | attach i => exact hmap (catalogs_attach i)
  | detach => exact hmap catalogs_detach
  | startup => exact hmap catalogs_startup
  | shutdown => exact hmap catalogs_shutdown
  | call call => exact hmap (catalogs_call now call)
  | onChannel o => exact hmap (catalogs_onHost _)
  | background x => exact hmap (catalogs_onHost _)

/-! ## Runs -/

/-- A turn of a bridge beside the same turn with another catalog. -/
theorem ask_withCatalog (t : Turn) (b : Bridge) (c : Catalog) :
    (catalogs b.catalog c).Outcomes Eq ((t.action.ask t.now).run b)
      ((t.action.ask t.now).run (b.withCatalog c)) :=
  (catalogs_ask t.now t.action).outcomes ⟨rfl, rfl⟩ id

theorem after_withCatalog (t : Turn) (b : Bridge) (c : Catalog) :
    (t.after b).catalog = b.catalog ∧ t.after (b.withCatalog c) = (t.after b).withCatalog c := by
  obtain ⟨hcatalog, hstate⟩ := (ask_withCatalog t b c).state
  rw [Action.state_ask] at hcatalog hstate
  rw [Action.state_ask] at hstate
  exact ⟨hcatalog, hstate⟩

/-- The turns of a run beside the same turns with another catalog. -/
theorem runAll_withCatalog (turns : List Turn) (b : Bridge) (c : Catalog) :
    (runAll turns b).catalog = b.catalog ∧
      runAll turns (b.withCatalog c) = (runAll turns b).withCatalog c ∧
      List.Forall₂ (fun x y => x.1 = y.1 ∧ List.Forall₂ (SameLine b.catalog c) x.2 y.2)
        (outcomes turns b) (outcomes turns (b.withCatalog c)) := by
  induction turns generalizing b with
  | nil => exact ⟨rfl, rfl, .nil⟩
  | cons t turns ih =>
      obtain ⟨hcatalog, hafter⟩ := after_withCatalog t b c
      obtain ⟨hkept, hrun, hrest⟩ := ih (t.after b)
      have hturn := ask_withCatalog t b c
      rw [hcatalog] at hrest
      refine ⟨hkept.trans hcatalog, ?_, ?_⟩
      · show runAll turns (t.after (b.withCatalog c)) = _
        rw [hafter]
        exact hrun
      · rw [outcomes, outcomes, hafter]
        exact .cons ⟨answers_eq.mp hturn.answer, hturn.log⟩ hrest

/-- The lines that a turn should log about accepted commands: one about the command of a call that
is answered, which says whether the catalog lists what the command is about. -/
def Turn.dispatchLines (t : Turn) (b : Bridge) : List Log.Entry :=
  match t.action with
  | .call call =>
    if ((call.run t.now).run b).answer.isOk then
      [dispatchLine (call.command t.now b) (decide (call.target ∈ b.catalog.listed call.kind))]
    else []
  | _ => []

/-- Whatever is done with a bridge but a call stays aside. -/
theorem aside_ask (now : Timestamp) {a : Action} (h : ∀ call, a ≠ .call call) :
    aside.Follows (a.ask now) := by
  cases a with
  | attach i => exact .map _ (aside_attach i)
  | detach => exact .map _ aside_detach
  | startup => exact .map _ aside_startup
  | shutdown => exact .map _ aside_shutdown
  | call call => exact absurd rfl (h call)
  | onChannel o => exact .map _ (aside_onResults (o.logs_ask now))
  | background x => exact .map _ (aside_onHost (x.logs_run now))

/-- Whatever is done with a bridge, nothing is logged under the name of the application that serves
requests. -/
theorem Action.logs_ask (now : Timestamp) (a : Action) : (words BelowHttp).Follows (a.ask now) := by
  cases a with
  | call call => exact .map _ (call.logs_run now)
  | _ => exact (aside_ask now (by simp)).belowHttp

/-- Of what a turn logs, the lines about accepted commands are those. -/
theorem filter_ask (t : Turn) (b : Bridge) :
    ((t.action.ask t.now).run b).log.filter IsDispatchLine = t.dispatchLines b := by
  rcases t with ⟨now, action⟩
  cases action with
  | call call =>
      have hlines := (call.tells now b).filter_log (by
        rintro _ (_ | ⟨_, ⟨⟩⟩)
        exact isDispatchLine_dispatchLine _ _)
      rw [Catalog.lists_eq] at hlines
      rw [Action.ask, Op.run_map, hlines]
      rfl
  | _ =>
      exact Log.filter_isOneOf_eq_nil fun e he =>
        ((aside_ask now (by simp) b).2 e he).notDispatched

/-- The catalog neither gates nor alters what is dispatched.  Take a run of a bridge and the same
run with any other catalog.  Turn by turn the two give the same answers and failures, and they leave
the same bridge but for the catalog: deliveries, records and their order, queues and counters.  The
logs are the same but for what the lines about accepted commands say about the catalog.  There
is one such line for each call that is answered, it is about the command that was delivered, and it
says that the target is listed exactly if it is, among what is listed for its kind. -/
theorem run_withCatalog (turns : List Turn) (b : Bridge) (c : Catalog) :
    runAll turns (b.withCatalog c) = (runAll turns b).withCatalog c ∧
    (runAll turns b).catalog = b.catalog ∧
    List.Forall₂ (fun x y => x.1 = y.1 ∧ List.Forall₂ (SameLine b.catalog c) x.2 y.2)
      (outcomes turns b) (outcomes turns (b.withCatalog c)) ∧
    ∀ (t : Turn) (u : Bridge),
      ((t.action.ask t.now).run u).log.filter IsDispatchLine = t.dispatchLines u := by
  obtain ⟨hcatalog, hrun, houtcomes⟩ := runAll_withCatalog turns b c
  exact ⟨hrun, hcatalog, houtcomes, filter_ask⟩

end Bridge

end CommandBridge
