import CommandBridge.Proofs.Dispatch.Calls
import CommandBridge.Proofs.Instance.Entries

/-!
# CommandBridge.Proofs.Dispatch.Entries

What a bridge logs about dispatches.  A call that is answered logs one line about its command, at
the end of all that it logs, and a call that fails logs none (`tells_call`).  Nothing else that a
bridge does logs such a line, and whatever a bridge does leaves its catalog alone (`aside`).
-/

namespace CommandBridge

open Trail

/-- A line about a command that was accepted. -/
abbrev IsDispatchLine (e : Log.Entry) : Prop := e.IsOneOf .dispatch ["command_dispatched"]

/-- The line about a command that was accepted, with what it says about the catalog. -/
def dispatchLine (c : Command) (listed : Bool) : Log.Entry :=
  Log.event .dispatch .info "command_dispatched"
    [("ticket", .string c.ticket), ("kind", .string c.kind.text), ("target", .string c.target),
      ("in_catalog", .bool listed),
      ("arguments", Log.truncate Log.truncationLimit c.arguments)]

theorem isDispatchLine_dispatchLine (c : Command) (listed : Bool) :
    IsDispatchLine (dispatchLine c listed) :=
  (Log.isOneOf_event (by decide +kernel) (by simp)).mpr List.mem_cons_self

/-- An entry of a bridge that is neither about an accepted command nor about a request. -/
structure Incidental (e : Log.Entry) : Prop where
  notHttp : e.source ≠ .http
  notDispatched : ¬ IsDispatchLine e

theorem FromHost.incidental {e : Log.Entry} (h : FromHost e) : Incidental e where
  notHttp heq := by simp [FromHost, heq] at h
  notDispatched := h.not_isOneOf (by decide) _

theorem incidental_of_source {e : Log.Entry} (hhttp : e.source ≠ .http)
    (hdispatch : e.source ≠ .dispatch) : Incidental e :=
  ⟨hhttp, Log.not_isOneOf_of_source hdispatch⟩

/-- The catalog stays, and nothing is logged about requests or accepted commands. -/
def aside : Trail Bridge where
  passes b l b' := b'.catalog = b.catalog ∧ ∀ e ∈ l, Incidental e
  idle _ := ⟨rfl, by simp⟩
  compose h h' := ⟨h'.1.trans h.1, fun e he => (List.mem_append.mp he).elim (h.2 e) (h'.2 e)⟩

theorem Trail.Follows.keepCatalog {f : Bridge → Bridge} (h : ∀ b, (f b).catalog = b.catalog) :
    aside.Follows (Op.modify f) := .modify fun b => ⟨h b, by simp⟩

theorem Trail.Follows.logIncidental {e : Log.Entry} (h : Incidental e) :
    aside.Follows (Op.log e : Op Bridge Unit) := .log fun _ => ⟨rfl, by simpa using h⟩

/-- An event that is called neither after requests nor after accepted commands. -/
theorem Trail.Follows.incidentalEvent {source : Log.Source} {level : Log.Level} {name : String}
    {fields : List (String × Json)} (hsource : source ≠ .http) (hplain : Log.PlainName name)
    (hfields : ∀ f ∈ fields, f.1 ≠ "event") (hname : name ≠ "command_dispatched") :
    aside.Follows (Op.event source level name fields : Op Bridge Unit) := by
  refine .logIncidental ⟨hsource, fun hline => hname ?_⟩
  obtain rfl : source = .dispatch := hline.1
  simpa using (Log.isOneOf_event hplain hfields).mp hline

/-- An entry that does not stand under the name of the application that serves requests. -/
def BelowHttp (e : Log.Entry) : Prop := e.source ≠ .http

theorem Trail.Follows.belowHttp {α : Type} {x : Op Bridge α} (hx : aside.Follows x) :
    (words BelowHttp).Follows x := .mono hx fun _ _ _ h e he => (h.2 e he).notHttp

namespace Bridge

variable {α β : Type}

theorem aside_onHost {x : Op Host α} (hx : LogsAsHost x) : aside.Follows (onHost x) :=
  .on hx fun _ _ _ hl => ⟨rfl, fun e he => (hl e he).incidental⟩

theorem aside_onResults {x : Op ResultChannel α} (hx : LogsAsHost x) :
    aside.Follows (onResults x) := aside_onHost (Host.logs_onResults hx)

/-! ## The slot -/

/-- Attaching and detaching is logged under the name of the registry. -/
theorem incidental_registry (level : Log.Level) (name : String) (fields : List (String × Json)) :
    Incidental (Log.event .registry level name fields) :=
  incidental_of_source nofun nofun

theorem aside_attach (i : Nat) : aside.Follows (attach i) := by
  intro b
  cases hb : b.attached with
  | some j => simp [attach, hb, aside]
  | none => simpa [attach, hb, aside, Op.event] using incidental_registry _ _ _

theorem aside_ensureOpen (i : Nat) : aside.Follows (ensureOpen i) :=
  .bind .get fun _ => .ite (.pure _) <| .bind (.keepCatalog fun _ => rfl) fun _ =>
    aside_onHost (Host.logs_openInstance i)

theorem aside_startup : aside.Follows startup := by
  refine .bind .get fun b => ?_
  split
  · exact aside_ensureOpen _
  · exact .pure _

theorem aside_shutdown : aside.Follows shutdown := by
  have hclose : aside.Follows (onResults ResultChannel.close) :=
    aside_onResults ResultChannel.logs_close
  refine .bind .get fun b => ?_
  split
  · exact .bind (.keepCatalog fun _ => rfl) fun _ =>
      .bind (aside_onHost (Host.logs_closeInstance _)) fun _ => hclose
  · exact hclose

theorem aside_detach : aside.Follows detach := by
  intro b
  cases hb : b.attached with
  | none => simp [detach, hb, aside]
  | some i =>
      -- what is left to do once the slot is empty
      have hrest : aside.Follows (do
          Op.event .registry .info "instance_detached" [("target", .string b.label)]
          if b.opened = some i then
            Op.modify fun b => { b with opened := none }
            onHost (Host.closeInstance i)
          return some i : Op Bridge (Option Nat)) :=
        .bind (.logIncidental (incidental_registry _ _ _)) fun _ =>
          .ite (.bind (.keepCatalog fun _ => rfl) fun _ =>
            .bind (aside_onHost (Host.logs_closeInstance i)) fun _ => .pure _) (.pure _)
      have hrun := hrest { b with attached := none }
      rw [detach, Op.run_bind, Op.run_get]
      simp only [hb]
      exact hrun

/-! ## Dispatching -/

/-- An operation logs incidental entries and, if it answers, `lines` at the end. -/
def Tells (x : Op Bridge α) (b : Bridge) (lines : List Log.Entry) : Prop :=
  ∃ before, (∀ e ∈ before, Incidental e) ∧
    (x.run b).log = before ++ if (x.run b).answer.isOk then lines else []

namespace Tells

variable {x : Op Bridge α} {b : Bridge} {lines : List Log.Entry}

theorem fail (e : Failure) : Tells (Op.fail e : Op Bridge α) b lines := ⟨[], by simp, rfl⟩

/-- Going on with an answer logs nothing. -/
theorem andThen (f : α → β) (hx : Tells x b lines) :
    Tells (x >>= fun a => pure (f a)) b lines := by
  obtain ⟨before, hbefore, hlog⟩ := hx
  refine ⟨before, hbefore, ?_⟩
  rw [Op.run_bind]
  rcases hrun : x.run b with ⟨e | a, t, l⟩ <;> rw [hrun] at hlog
  · exact hlog
  · simpa [Except.isOk, Except.toBool] using hlog

/-- What an operation that stays aside logs comes before what is logged at the end. -/
theorem after {f : α → Op Bridge β} (hx : aside.Follows x)
    (hf : ∀ a, (x.run b).answer = .ok a → Tells (f a) (x.run b).state lines) :
    Tells (x >>= f) b lines := by
  have hfirst := (hx b).2
  rw [Tells, Op.run_bind]
  rcases hrun : x.run b with ⟨e | a, t, l⟩ <;> rw [hrun] at hfirst hf
  · exact ⟨l, hfirst, by simp [Except.isOk, Except.toBool]⟩
  · obtain ⟨before, hbefore, hlog⟩ := hf a rfl
    refine ⟨l ++ before, fun e he => (List.mem_append.mp he).elim (hfirst e) (hbefore e), ?_⟩
    simp only [hlog, List.append_assoc]

/-- Of what is logged, the lines about accepted commands are at the end. -/
theorem filter_log (hx : Tells x b lines) (hlines : ∀ e ∈ lines, IsDispatchLine e) :
    (x.run b).log.filter IsDispatchLine = if (x.run b).answer.isOk then lines else [] := by
  obtain ⟨before, hbefore, hlog⟩ := hx
  have hnone : before.filter IsDispatchLine = [] :=
    Log.filter_isOneOf_eq_nil fun e he => (hbefore e he).notDispatched
  have hall : lines.filter IsDispatchLine = lines := Log.filter_isOneOf_eq_self hlines
  rw [hlog, List.filter_append, hnone, List.nil_append]
  split
  · exact hall
  · rfl

end Tells

theorem aside_deliver (now : Timestamp) (i : Nat) (c : Command) :
    aside.Follows (deliver now i c) := by
  have hraised : Incidental
      ⟨.dispatch, .error, s!"Delivery raised for {c.kind.text} {c.target}"⟩ :=
    ⟨nofun, Log.not_isOneOf_of_message (by simp [Text.ofString, toString])⟩
  refine .bind (.attempt (aside_onHost (Host.logs_deliver now i c))) fun r => ?_
  split
  · exact .pure _
  · exact .bind (.logIncidental hraised) fun _ => .pure _

theorem tells_reject (now : Timestamp) (c : Command) (detail : Text) (b : Bridge)
    (lines : List Log.Entry) : Tells (reject now c detail) b lines := by
  refine .after (.keepCatalog fun _ => rfl) fun _ _ => ?_
  refine .after (.incidentalEvent (by decide) (by decide +kernel) (by simp) (by decide))
    fun _ _ => ?_
  exact .after (.discard (aside_onResults (ResultChannel.logs_publish now _ _ _)))
    fun _ _ => .fail _

theorem run_accept (c : Command) (b : Bridge) :
    (accept c).run b = ⟨.ok (), { b with stats := b.stats.count c.kind },
      [dispatchLine c (b.catalog.lists c.kind c.target)]⟩ := rfl

theorem tells_accept (c : Command) (b : Bridge) :
    Tells (accept c) b [dispatchLine c (b.catalog.lists c.kind c.target)] :=
  ⟨[], by simp, by rw [run_accept]; rfl⟩

/-- The line about a command tells whether the catalog lists its target. -/
theorem tells_handOver (now : Timestamp) (i : Nat) (c : Command) (b : Bridge) :
    Tells (handOver now i c) b [dispatchLine c (b.catalog.lists c.kind c.target)] := by
  have hregister : aside.Follows (discard (onResults (ResultChannel.register now c))) :=
    .discard (aside_onResults (ResultChannel.logs_register now c))
  have hdeliver := aside_deliver now i c
  refine .after hregister fun _ _ => .after hdeliver fun d _ => ?_
  dsimp only
  split
  · exact (tells_reject now c _ _ _).andThen _
  · have haccept := (tells_accept c ((deliver now i c).run
      ((discard (onResults (ResultChannel.register now c))).run b).state).state).andThen fun _ => c
    rwa [(hdeliver _).1, (hregister b).1] at haccept

theorem tells_dispatch (now : Timestamp) (kind : DispatchKind) (target : String)
    (arguments : Json) (b : Bridge) :
    Tells (dispatch now kind target arguments) b
      [dispatchLine ⟨kind, target, arguments, ticketOf (b.ticketsDrawn + 1), now.text⟩
        (b.catalog.lists kind target)] := by
  refine .after .get fun _ hb => ?_
  obtain rfl := Except.ok.inj hb
  split
  · refine .after (.keepCatalog fun _ => rfl) fun _ _ => ?_
    exact .after (.incidentalEvent (by decide) (by decide +kernel) (by simp) (by decide))
      fun _ _ => .fail _
  · next i _ =>
    obtain ⟨opened, host, hopened, -⟩ := ensureOpen_frame b i
    refine .after (aside_ensureOpen i) fun _ _ => ?_
    rw [Op.run_get, hopened]
    refine .after (fun b => ⟨rfl, by rintro e ⟨⟩⟩) fun ticket hticket => ?_
    obtain rfl := Except.ok.inj hticket
    exact tells_handOver now i _ _

end Bridge

/-- A call that is answered logs one line about accepted commands, which comes last.  It is about
the command of the call, and tells whether the catalog lists the command's target.  A call that
fails logs no such line. -/
theorem Call.tells (call : Call) (now : Timestamp) (b : Bridge) :
    Bridge.Tells (call.run now) b
      [dispatchLine (call.command now b) (b.catalog.lists call.kind call.target)] := by
  cases call with
  | readResource uri =>
      have hrest := Bridge.tells_dispatch now .readResource (Percent.decode uri).value .null
      rw [Call.run, Bridge.readResource]
      split
      · refine .after (.incidentalEvent (by decide) (by decide +kernel) (by simp) (by decide))
          fun _ _ => ?_
        exact (hrest _).andThen _
      · exact (hrest _).andThen _
  | callTool name arguments =>
      have hrest := Bridge.tells_dispatch now .callTool name arguments
      rw [Call.run, Bridge.callTool]
      split
      · exact .after (.fail _) fun _ _ => (hrest _).andThen _
      · exact (hrest _).andThen _
  | getPrompt name =>
      have hrest := Bridge.tells_dispatch now .getPrompt name .null
      rw [Call.run, Bridge.getPrompt]
      split
      · exact .after (.fail _) fun _ _ => (hrest _).andThen _
      · exact (hrest _).andThen _

theorem Call.logs_run (call : Call) (now : Timestamp) :
    (words BelowHttp).Follows (call.run now) := by
  intro b e he
  obtain ⟨before, hbefore, hlog⟩ := call.tells now b
  rw [hlog] at he
  rcases List.mem_append.mp he with he | he
  · exact (hbefore e he).notHttp
  · split at he
    · rw [List.mem_singleton.mp he]
      exact nofun
    · cases he

end CommandBridge
