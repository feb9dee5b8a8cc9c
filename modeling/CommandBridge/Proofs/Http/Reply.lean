import CommandBridge.Http.App
import CommandBridge.Proofs.Json.Compact
import CommandBridge.Proofs.Progress

/-!
# CommandBridge.Proofs.Http.Reply

Every request is replied to.  What a reply tells is the answer of the endpoint that the request
leads to, or status 500 if answering failed (`exists_reply`): the background cannot keep a reply
from being sent (`Service.total_settle`), and the body of an internal error can always be written
(`total_failureResponse`).
-/

namespace CommandBridge

open Op (Total)

/-! ## The background -/

theorem EventStream.total_next (s : EventStream) : s.next.Total := by
  unfold next
  split
  · exact .pure _
  · exact .bind (fun _ => ⟨_, rfl⟩) fun _ => .bind .get fun _ => .pure _
  · split
    · exact .bind (.modify _) fun _ => .pure _
    · split
      · exact .pure _
      · refine .bind (fun c => ?_) fun _ => ?_
        · unfold ResultChannel.nextEvent?
          dsimp only [Op.run]
          split <;> exact ⟨_, rfl⟩
        · split <;> exact .pure _

theorem Connection.total_sendReady (clock : Nat) (limit : Nat) (c : Connection) :
    (c.sendReady clock limit).Total := by
  induction limit generalizing c with
  | zero => exact .pure _
  | succ limit ih =>
      refine .bind (EventStream.total_next _) fun ⟨stream, step⟩ => ?_
      cases step with
      | frame f => exact ih _
      | ended => exact .pure _
      | waiting => exact .pure _

theorem Connection.total_advance (clock : Nat) (c : Connection) : (c.advance clock).Total := by
  refine .bind .get fun _ => .bind (total_sendReady _ _ _) fun _ => ?_
  split <;> exact .pure _

theorem FileQueue.total_round (now : Timestamp) (c : Collector) : (round now c).Total := by
  refine .bind .get fun _ => ?_
  split
  · refine .bind (.attempt _) fun _ => ?_
    dsimp only
    split
    · exact .modify _
    · split
      · exact .bind (.event _ _ _ _) fun _ => .modify _
      · exact .modify _
  · exact .pure _

theorem Service.total_advanceConnection (place : Nat) : (advanceConnection place).Total := by
  refine .bind .get fun _ => ?_
  split
  · exact .pure _
  · exact .bind (.on (.on (.on (Connection.total_advance _ _)))) fun _ => .modify _

/-- What happens in the background does not fail. -/
theorem Service.total_settle (now : Timestamp) : (settle now).Total := by
  have hrounds : (FileQueue.runDue now).Total :=
    .bind .get fun _ => .forM (FileQueue.total_round now) _
  exact .bind (.on (.on hrounds)) fun _ => .bind .get fun _ => .forM total_advanceConnection _

/-- What happens in the background is not counted as a dispatch. -/
theorem Service.keeps_settle {P : DispatchStats → Prop} (now : Timestamp) :
    (settle now).Keeps fun s => P s.bridge.stats := by
  refine .bind (.on fun _ hs => hs) fun _ => .bind .get fun _ => .forM fun _ _ => ?_
  refine .bind .get fun _ => ?_
  split
  · exact .pure _
  · exact .bind (.on fun _ hs => hs) fun _ => .modify fun _ hs => hs

namespace Http

/-! ## Bodies that can be sent -/

/-- The response with a JSON body. -/
def jsonResponse (status : Nat) (body : String) : Response :=
  ⟨status, [("content-type", "application/json")], body⟩

variable {σ α : Type}

/-- A value that can be sent is sent as its compact form. -/
theorem respond_of_sendable (status : Nat) {body : Json} (h : body.Sendable) :
    ∃ text, body.writeCompact? = .ok text ∧
      ∀ s : σ, ((respond status body).run s).answer = .ok (jsonResponse status text) := by
  have hok := (Json.isOk_writeCompact? body).mpr h
  cases hwrite : body.writeCompact? with
  | error e => simp [hwrite] at hok
  | ok text => exact ⟨text, rfl, fun s => by simp [respond, Response.json?, hwrite,
      Except.mapError, jsonResponse]⟩

/-- Any other value cannot be sent. -/
theorem respond_of_not_sendable (status : Nat) {body : Json} (h : ¬ body.Sendable) (s : σ) :
    ∃ e, ((respond status body).run s).answer = .error e := by
  have hok : ¬ body.writeCompact?.isOk = true :=
    fun hok => h ((Json.isOk_writeCompact? body).mp hok)
  cases hwrite : body.writeCompact? with
  | error e => exact ⟨unwritable e, by simp [respond, Response.json?, hwrite, Except.mapError]⟩
  | ok text => simp [hwrite] at hok

/-- Whatever is sent has the status it was to have. -/
theorem status_of_respond {status : Nat} {body : Json} {s : σ} {a : Response}
    (h : ((respond status body).run s).answer = .ok a) : a.status = status := by
  by_cases hbody : body.Sendable
  · obtain ⟨text, -, htext⟩ := respond_of_sendable (σ := σ) status hbody
    rw [htext s] at h
    rw [← Except.ok.inj h]
    rfl
  · obtain ⟨e, he⟩ := respond_of_not_sendable status hbody s
    rw [he] at h
    exact absurd h (by simp)

/-- The body of an error can be sent if its details can. -/
theorem sendable_errorBody (code : ErrorCode) {message : String} {details : Details} (id : String)
    (h : ∀ m ∈ details, Json.IsScalar m.1 ∧ m.2.Sendable) :
    (errorBody (.build code message details (some id))).Sendable := by
  have hmessage : Json.IsScalar (ErrorPayload.build code message details (some id)).message := by
    unfold ErrorPayload.build
    dsimp only
    split <;> exact Json.isScalar_ofString _
  have hdetails :
      (Json.obj (ErrorPayload.build code message details (some id)).details).Sendable := by
    rw [Json.sendable_obj]
    unfold ErrorPayload.build
    dsimp only
    split
    · exact h
    · intro m hm
      rcases Json.mem_insert hm with rfl | hm
      · exact ⟨Json.isScalar_ofString _, Json.sendable_string id⟩
      · exact h m hm
  have hpayload : (ErrorPayload.build code message details (some id)).toJson.Sendable := by
    rw [ErrorPayload.toJson, Json.sendable_object]
    simp only [List.mem_cons, List.not_mem_nil, or_false, forall_eq_or_imp, forall_eq]
    exact ⟨Json.sendable_string _, ⟨.str hmessage, rfl⟩, Json.sendable_string _, hdetails⟩
  rw [errorBody, Json.sendable_object]
  simpa using hpayload

/-- An internal error can always be told. -/
theorem failureResponse_run (id : String) :
    ∃ text, ∀ s : Service, ((failureResponse id).run s).answer = .ok (jsonResponse 500 text) := by
  have hbody :
      (errorBody (.build .internal "Unexpected internal server error" [] (some id))).Sendable :=
    sendable_errorBody .internal id (by simp)
  obtain ⟨text, -, h⟩ := respond_of_sendable (σ := Service) 500 hbody
  exact ⟨text, h⟩

/-! ## Replies -/

/-- What a reply tells: the answer it was sent for, or that answering failed. -/
def Reply.Tells (reply : Reply) : Except Failure Answer → Prop
  | .ok a => reply.response.status = a.response.status ∧ reply.response.body = a.response.body
  | .error e => reply.response.status = 500 ∧ reply.raised = some e

/-- What a browser is told changes headers only. -/
theorem Origins.decorate_frame (o : Origins) (r : Request) (a : Response) :
    (o.decorate r a).status = a.status ∧ (o.decorate r a).body = a.body := by
  unfold decorate
  dsimp only
  split <;> exact ⟨rfl, rfl⟩

/-- A request that was answered, or failed, is replied to. -/
theorem complete_run (id : String) (r : Request) (a : Except Failure Answer) (s : Service) :
    ∃ reply, ((complete id r a).run s).answer = .ok reply ∧ reply.Tells a := by
  cases a with
  | ok a =>
      refine ⟨⟨a.response.setHeader idHeader id, none, a.connection⟩, ?_, rfl, rfl⟩
      unfold complete
      dsimp only
      split <;> rfl
  | error e =>
      obtain ⟨text, h⟩ := failureResponse_run id
      refine ⟨⟨jsonResponse 500 text, some e, none⟩, ?_, rfl, rfl⟩
      rw [complete, Op.answer_bind_ok (a := ()) rfl, Op.answer_bind_ok (a := ()) rfl,
        Op.answer_bind_ok (a := ()) rfl, Op.answer_bind_ok (h _)]
      rfl

/-- Counting a request leaves all but the counters, and no server error is counted. -/
theorem receive_run (r : Request) (s : Service) :
    ∃ id requests, ((receive r).run s).answer = .ok id ∧
      ((receive r).run s).state = { s with requests := requests } ∧
      requests.failed = s.requests.failed := by
  show ∃ id requests, (receive r s).answer = .ok id ∧ (receive r s).state = _ ∧ _
  rw [receive]
  dsimp only
  split
  · exact ⟨_, _, rfl, rfl, rfl⟩
  · exact ⟨_, _, rfl, rfl, rfl⟩

/-- Bringing a request to its end changes nothing on the bridge. -/
theorem keeps_complete {P : Bridge → Prop} (id : String) (r : Request) (a : Except Failure Answer) :
    (complete id r a).Keeps fun s => P s.bridge := by
  have hcount : countFailure.Keeps fun s => P s.bridge := .modify fun _ hs => hs
  cases a with
  | ok a =>
      unfold complete
      dsimp only
      split
      · exact hcount.bind fun _ => .bind (.event _ _ _ _) fun _ => .pure _
      · exact .bind (.event _ _ _ _) fun _ => .pure _
  | error e =>
      exact hcount.bind fun _ => .bind (.log _) fun _ => .bind (.event _ _ _ _) fun _ =>
        .bind (.ofExcept _) fun _ => .pure _

/-- A request that is handled is replied to with what becomes of its answer. -/
theorem exists_reply_of_ends {now : Timestamp} {r : Request} {s : Service}
    {y : Except Failure Reply} (h : Op.Ends ((handle now r).run s).answer y) :
    ∃ id requests a reply, y = .ok reply ∧ reply.Tells a ∧
      Op.Ends ((answerBrowser now id r).run { s with requests := requests }).answer a := by
  obtain ⟨id, requests, hid, hstate, -⟩ := receive_run r s
  rw [handle, Op.answer_bind_ok hid, hstate] at h
  obtain ⟨a, t, ha, rfl⟩ := h.of_onceOver
  obtain ⟨u, hsettle⟩ := Service.total_settle now t
  obtain ⟨reply, hreply, htells⟩ := complete_run id r a ((Service.settle now).run t).state
  exact ⟨id, requests, a, reply, by rw [Op.answer_bind_ok hsettle, hreply], htells, ha⟩

/-- What is answered to a request that is not a preflight is what its endpoint answers. -/
theorem exists_reply {now : Timestamp} {r : Request} {s : Service} (hr : r.isPreflight = false)
    {y : Except Failure Reply} (h : Op.Ends ((handle now r).run s).answer y) :
    ∃ id requests a reply, y = .ok reply ∧ reply.Tells a ∧
      Op.Ends ((answer now id r).run { s with requests := requests }).answer a := by
  obtain ⟨id, requests, a, reply, rfl, htells, ha⟩ := exists_reply_of_ends h
  rw [answerBrowser, Op.answer_bind_ok (a := { s with requests := requests }) rfl] at ha
  simp only [hr, Bool.false_eq_true, if_false] at ha
  obtain ⟨b, t, hb, rfl⟩ := ha.of_onceOver
  refine ⟨id, requests, b, reply, rfl, ?_, hb⟩
  cases b with
  | error e => exact htells
  | ok b =>
      obtain ⟨hstatus, hbody⟩ :=
        (origins { s with requests := requests }).decorate_frame r b.response
      exact ⟨htells.1.trans hstatus, htells.2.trans hbody⟩

/-- What a request leaves at once of the counters of dispatches is what its answer leaves. -/
theorem stats_handle {P : DispatchStats → Prop} {now : Timestamp} {r : Request} {s : Service}
    (hr : r.isPreflight = false)
    (h : ∀ id requests,
      P ((answer now id r).run { s with requests := requests }).state.bridge.stats) :
    P ((handle now r).run s).state.bridge.stats := by
  obtain ⟨id, requests, hid, hstate, -⟩ := receive_run r s
  rw [handle, Op.state_bind_ok hid, hstate]
  refine Op.state_onceOver (P := fun s : Service => P s.bridge.stats) ?_ fun a =>
    (Service.keeps_settle now).bind fun _ => keeps_complete (P := fun b => P b.stats) id r a
  rw [answerBrowser, Op.state_bind_ok (a := { s with requests := requests }) rfl]
  simp only [hr, Bool.false_eq_true, if_false]
  exact Op.state_onceOver (P := fun s : Service => P s.bridge.stats) (h id requests) fun _ =>
    .bind (.ofExcept _) fun _ => .pure _

end Http

end CommandBridge
