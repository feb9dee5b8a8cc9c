import CommandBridge.Proofs.Dispatch.Turns
import CommandBridge.Proofs.Instance.Uniform

/-!
# CommandBridge.Proofs.Dispatch.Uniform

Bridges that differ in their result channel only.  What everything asked of a channel treats alike,
every turn of a bridge treats alike: calls, the slot, the application and the background.
-/

namespace CommandBridge

open Likeness

variable {V : Likeness ResultChannel} {α β : Type}

/-- A bridge with another result channel. -/
def Bridge.withResults (c : ResultChannel) (b : Bridge) : Bridge :=
  { b with host := { b.host with results := c } }

/-- Bridges that have alike channels and are the same otherwise. -/
def Likeness.bridges (V : Likeness ResultChannel) : Likeness Bridge where
  states b b' := ∃ c', V.states b.host.results c' ∧ b' = b.withResults c'
  lost b := V.lost b.host.results
  logs := V.logs
  states_of_lost b hl := ⟨b.host.results, V.states_of_lost _ hl, rfl⟩
  logs_refl := V.logs_refl
  logs_append := V.logs_append

namespace Bridge

/-- What comes after a look at a bridge that is not a look at its channel. -/
theorem bridges_get_bind {f : Bridge → Op Bridge β} (hsame : ∀ b c', f (b.withResults c') = f b)
    (h : ∀ b, V.bridges.Respects (f b)) : V.bridges.Respects (Op.get >>= f) := by
  refine .get_bind ?_
  rintro b _ ⟨c', -, rfl⟩
  rw [hsame b c']
  exact h b

/-- A change of a bridge that leaves its host alone. -/
theorem bridges_modify {f : Bridge → Bridge} (hkeep : ∀ b, (f b).host = b.host)
    (hsame : ∀ b c', f (b.withResults c') = (f b).withResults c') :
    V.bridges.Respects (Op.modify f) := by
  refine .modify ?_ ?_
  · rintro b _ ⟨c', hc, rfl⟩
    exact ⟨c', (hkeep b).symm ▸ hc, hsame b c'⟩
  · intro b hl
    show V.lost (f b).host.results
    rwa [hkeep]

theorem respects_onHost {x : Op Host α} (hx : V.hosts.Respects x) :
    V.bridges.Respects (onHost x) := by
  refine .on hx ?_ ?_ (fun _ => id) (fun _ _ => id) (fun _ _ => id)
  · rintro b _ ⟨c', hc, rfl⟩
    exact ⟨c', hc, rfl⟩
  · rintro b _ h _ ⟨c', -, rfl⟩ ⟨d, hd, rfl⟩
    exact ⟨d, hd, rfl⟩

theorem respects_onResults {x : Op ResultChannel α} (hx : V.Respects x) :
    V.bridges.Respects (onResults x) := respects_onHost (Host.respects_onResults hx)

/-! ## The slot -/

theorem respects_attach (i : Nat) : V.bridges.Respects (attach i) := by
  rintro b _ ⟨c', hc, rfl⟩
  have hattached : (b.withResults c').attached = b.attached := rfl
  cases hb : b.attached with
  | some j =>
      rw [hb] at hattached
      have hrun : ∀ b : Bridge, b.attached = some j →
          (attach i).run b = ⟨.error (.bridge (.alreadyAttached b.label)), b, []⟩ := by
        intro b hb
        simp [attach, hb]
      rw [hrun b hb, hrun _ hattached]
      exact ⟨id, .inr ⟨.error _, ⟨c', hc, rfl⟩, V.logs_refl _⟩⟩
  | none =>
      rw [hb] at hattached
      have hrun : ∀ b : Bridge, b.attached = none →
          (attach i).run b = ⟨.ok (), { b with attached := some i },
            [Log.event .registry .info "instance_attached"
              (("target", .string b.label) :: b.host.describe i)]⟩ := by
        intro b hb
        simp [attach, hb, Op.event]
      rw [hrun b hb, hrun _ hattached]
      exact ⟨id, .inr ⟨.ok rfl, ⟨c', hc, rfl⟩, V.logs_refl _⟩⟩

theorem respects_ensureOpen (i : Nat) : V.bridges.Respects (ensureOpen i) := by
  have hopen : V.bridges.Respects (do
      Op.modify fun b => { b with opened := some i }
      onHost (Host.openInstance i)) :=
    .bind (bridges_modify (fun _ => rfl) fun _ _ => rfl) fun _ =>
      respects_onHost (Host.respects_openInstance i)
  exact bridges_get_bind (fun _ _ => rfl) fun b => .ite (fun _ => .pure rfl) fun _ => hopen

theorem respects_startup : V.bridges.Respects startup := by
  refine bridges_get_bind (fun _ _ => rfl) fun b => ?_
  split
  · exact respects_ensureOpen _
  · exact .pure rfl

/-- An instance is closed once the bridge has forgotten that it is open. -/
theorem respects_closing (i : Nat) {x : Op Bridge α} (hx : V.bridges.Respects x) :
    V.bridges.Respects (do
      Op.modify fun b => { b with opened := none }
      onHost (Host.closeInstance i)
      x) :=
  .bind (bridges_modify (fun _ => rfl) fun _ _ => rfl) fun _ =>
    .bind (respects_onHost (Host.respects_closeInstance i)) fun _ => hx

/-- Shutting down closes the channel as well. -/
theorem respects_shutdown (hclose : V.Respects ResultChannel.close) :
    V.bridges.Respects shutdown := by
  refine bridges_get_bind (fun _ _ => rfl) fun b => ?_
  split
  · exact respects_closing _ (respects_onResults hclose)
  · exact respects_onResults hclose

theorem respects_detach : V.bridges.Respects detach := by
  rintro b _ ⟨c', hc, rfl⟩
  have hattached : (b.withResults c').attached = b.attached := rfl
  cases hb : b.attached with
  | none =>
      rw [hb] at hattached
      have hrun : ∀ b : Bridge, b.attached = none → detach.run b = ⟨.ok none, b, []⟩ := by
        intro b hb
        simp [detach, hb]
      rw [hrun b hb, hrun _ hattached]
      exact ⟨id, .inr ⟨.ok rfl, ⟨c', hc, rfl⟩, V.logs_refl _⟩⟩
  | some i =>
      rw [hb] at hattached
      -- what is left to do once the slot is empty
      let rest (label : String) (opened : Option Nat) : Op Bridge (Option Nat) := do
        Op.event .registry .info "instance_detached" [("target", .string label)]
        if opened = some i then
          Op.modify fun b => { b with opened := none }
          onHost (Host.closeInstance i)
        return some i
      have hrest : V.bridges.Respects (rest b.label b.opened) := by
        refine .bind (.event _ _ _ _) fun _ => .ite (fun _ => ?_) fun _ => .pure rfl
        exact respects_closing i (.pure rfl)
      have hrun : ∀ b : Bridge, b.attached = some i →
          detach.run b = (rest b.label b.opened).run { b with attached := none } := by
        intro b hb
        rw [detach, Op.run_bind, Op.run_get]
        simp only [hb]
        rfl
      rw [hrun b hb, hrun _ hattached]
      exact hrest { b with attached := none } _ ⟨c', hc, rfl⟩

/-! ## Calls -/

theorem respects_drawTicket : V.bridges.Respects drawTicket := by
  rintro b _ ⟨c', hc, rfl⟩
  exact ⟨id, .inr ⟨answers_eq.mpr rfl, ⟨c', hc, rfl⟩, V.logs_refl _⟩⟩

theorem respects_deliver (hV : V.Uniform) (now : Timestamp) (i : Nat) (c : Command) :
    V.bridges.Respects (deliver now i c) := by
  refine .bind (.attempt_eq (respects_onHost (Host.respects_deliver hV now i c))) fun r => ?_
  split
  · exact .pure rfl
  · exact .bind (.log (V.logs_refl _)) fun _ => .pure rfl

theorem respects_reject (hV : V.Uniform) (now : Timestamp) (c : Command) (detail : Text) :
    V.bridges.Respects (reject now c detail) :=
  .bind (bridges_modify (fun _ => rfl) fun _ _ => rfl) fun _ => .bind (.event _ _ _ _) fun _ =>
    .bind (.discard (respects_onResults (hV.publish now _ _ _))) fun _ => .fail _

theorem respects_accept (c : Command) : V.bridges.Respects (accept c) :=
  .bind (bridges_modify (fun _ => rfl) fun _ _ => rfl) fun _ =>
    bridges_get_bind (fun _ _ => rfl) fun _ => .event _ _ _ _

theorem respects_handOver (hV : V.Uniform) (now : Timestamp) (i : Nat) (c : Command) :
    V.bridges.Respects (handOver now i c) := by
  refine .bind (.discard (respects_onResults (hV.register now c))) fun _ =>
    .bind (respects_deliver hV now i c) fun d => ?_
  dsimp only
  split
  · exact .bind (respects_reject hV now c _) fun _ => .pure rfl
  · exact .bind (respects_accept c) fun _ => .pure rfl

theorem respects_dispatch (hV : V.Uniform) (now : Timestamp) (kind : DispatchKind)
    (target : String) (arguments : Json) :
    V.bridges.Respects (dispatch now kind target arguments) := by
  refine bridges_get_bind (fun _ _ => rfl) fun b => ?_
  split
  · exact .bind (bridges_modify (fun _ => rfl) fun _ _ => rfl) fun _ =>
      .bind (.event _ _ _ _) fun _ => .fail _
  · exact .bind (respects_ensureOpen _) fun _ => .bind respects_drawTicket fun ticket =>
      respects_handOver hV now _ _

theorem respects_call (hV : V.Uniform) (now : Timestamp) (call : Call) :
    V.bridges.Respects (call.run now) := by
  cases call with
  | readResource uri =>
      have hrest := respects_dispatch hV now .readResource (Percent.decode uri).value .null
      refine .ite (fun _ => .bind (.event _ _ _ _) fun _ => ?_) fun _ => ?_
      · exact .bind hrest fun _ => .pure rfl
      · exact .bind hrest fun _ => .pure rfl
  | callTool name arguments =>
      have hrest := respects_dispatch hV now .callTool name arguments
      exact .ite (fun _ => .bind (.fail _) fun _ => .bind hrest fun _ => .pure rfl) fun _ =>
        .bind hrest fun _ => .pure rfl
  | getPrompt name =>
      have hrest := respects_dispatch hV now .getPrompt name .null
      exact .ite (fun _ => .bind (.fail _) fun _ => .bind hrest fun _ => .pure rfl) fun _ =>
        .bind hrest fun _ => .pure rfl

end Bridge

end CommandBridge
