import CommandBridge.Proofs.Http.Entries
import CommandBridge.Proofs.Http.Reply

/-!
# CommandBridge.Proofs.Http.Course

The course of a request, as far as the application itself goes: the request is counted and gets its
id, it is answered, the background has its turn, and the reply goes out with one line in the log
(`handle_finishes`).

1. `received` and `idOf` say what comes of the request when it comes in (`receive_eq`).
2. `Reply.Answers` says what the reply is, given what answering came to, and `counted` what is
   counted then (`complete_eq`).
3. A request that is not a preflight is answered by its endpoint, and what a browser is told is
   added to that (`answerBrowser_finishes`).
-/

namespace CommandBridge.Http

open Trail

variable {W : Trail Service} {now : Timestamp} {id : String} {r : Request} {s : Service}

/-! ## Coming in -/

/-- The id of a request: that of its own header or, if there is none or an empty one, a new one. -/
def idOf (r : Request) (s : Service) : String :=
  ((r.header? idHeader).filter (· ≠ "")).getD (requestIdOf (s.requests.identified + 1))

/-- The service once a request has come in. -/
def received (r : Request) (s : Service) : Service := ((receive r).run s).state

theorem receive_eq (r : Request) (s : Service) :
    (receive r).run s = ⟨.ok (idOf r s), received r s, []⟩ := by
  have hrun : ((receive r).run s).answer = .ok (idOf r s) ∧ ((receive r).run s).log = [] := by
    show (receive r s).answer = _ ∧ (receive r s).log = _
    rw [receive, idOf]
    dsimp only
    split
    · next id hid => exact ⟨by rw [hid]; rfl, rfl⟩
    · next hid => exact ⟨by rw [hid]; rfl, rfl⟩
  rw [← hrun.1, ← hrun.2]
  rfl

/-- A request that comes in is counted, and nothing else changes but the ids that were given out. -/
theorem received_eq (r : Request) (s : Service) :
    ∃ identified, received r s =
      { s with requests := ⟨s.requests.received + 1, s.requests.failed, identified⟩ } := by
  show ∃ identified, (receive r s).state = _
  rw [receive]
  dsimp only
  split
  · exact ⟨_, rfl⟩
  · exact ⟨_, rfl⟩

/-- No request has an empty id. -/
theorem idOf_ne_empty (r : Request) (s : Service) : idOf r s ≠ "" := by
  rw [idOf]
  cases hid : (r.header? idHeader).filter (· ≠ "") with
  | none => simp [requestIdOf]
  | some id =>
      have hkept := (Option.filter_eq_some_iff.mp hid).2
      simpa using hkept

/-! ## Going out -/

/-- The line about what became of a request. -/
def requestLine (id : String) (r : Request) (reply : Reply) : Log.Entry :=
  Log.event .http (if reply.raised.isSome then .error else .info)
    (if reply.raised.isSome then "request_failed" else "request_completed")
    [("request_id", .string id), ("method", .string r.method), ("path", .string r.reportedPath),
      ("status_code", .nat reply.response.status), ("duration_ms", .int 0)]

theorem isRequestLine_requestLine (id : String) (r : Request) (reply : Reply) :
    IsRequestLine (requestLine id r reply) := by
  rw [requestLine]
  split
  · exact (Log.isOneOf_event (by decide +kernel) (by simp)).mpr (by decide)
  · exact (Log.isOneOf_event (by decide +kernel) (by simp)).mpr (by decide)

/-- The reply that goes out for an answer, or for a failure to answer. -/
inductive Reply.Answers (id : String) : Reply → Except Failure Answer → Prop
  | answered (a : Answer) :
      Answers id ⟨a.response.setHeader idHeader id, none, a.connection⟩ (.ok a)
  | failed (e : Failure) {text : String}
      (h : (errorBody (.build .internal "Unexpected internal server error" []
        (some id))).writeCompact? = .ok text) :
      Answers id ⟨jsonResponse 500 text, some e, none⟩ (.error e)

/-- The service once a reply has gone out. -/
def counted (reply : Reply) (s : Service) : Service :=
  { s with requests.failed :=
      s.requests.failed + if 500 ≤ reply.response.status then 1 else 0 }

/-- A request is brought to its end with one line about it, which is the last one. -/
theorem complete_eq (id : String) (r : Request) (a : Except Failure Answer) (s : Service) :
    ∃ reply before, reply.Answers id a ∧ (∀ e ∈ before, ¬ IsRequestLine e) ∧
      (complete id r a).run s =
        ⟨.ok reply, counted reply s, before ++ [requestLine id r reply]⟩ := by
  cases a with
  | ok a =>
      refine ⟨_, [], .answered a, by simp, ?_⟩
      unfold complete
      dsimp only
      split
      · next h =>
        simp [countFailure, logRequest, Op.event, counted, requestLine, Response.setHeader,
          Except.map, h]
      · next h =>
        simp [logRequest, Op.event, counted, requestLine, Response.setHeader, Except.map, h]
  | error e =>
      have hbody : (errorBody (.build .internal "Unexpected internal server error" []
          (some id))).Sendable := sendable_errorBody .internal id (by simp)
      obtain ⟨text, htext, hsent⟩ := respond_of_sendable (σ := Service) 500 hbody
      refine ⟨_, [⟨.http, .error, "Unhandled request exception"⟩], .failed e htext, ?_, ?_⟩
      · simp only [List.mem_singleton, forall_eq]
        exact Log.not_isOneOf_of_message (by decide)
      · have hresponse : ∀ u : Service,
            (failureResponse id).run u = ⟨.ok (jsonResponse 500 text), u, []⟩ := by
          intro u
          rw [← hsent u]
          rfl
        simp [complete, countFailure, logRequest, Op.event, hresponse, counted, requestLine,
          jsonResponse, Except.map]

/-! ## From one end to the other -/

theorem handle_finishes {o : Outcome Service Reply} (h : W.Finishes (handle now r) s o) :
    ∃ p t k reply before, W.Finishes (answerBrowser now (idOf r s) r) (received r s) p ∧
      (Service.settle now).run p.state = ⟨.ok (), t, k⟩ ∧ reply.Answers (idOf r s) p.answer ∧
      (∀ e ∈ before, ¬ IsRequestLine e) ∧
      o = ⟨.ok reply, counted reply t,
        p.log ++ k ++ before ++ [requestLine (idOf r s) r reply]⟩ := by
  rw [handle] at h
  obtain ⟨q, hq, rfl⟩ := h.of_after (Op.run_bind_of_run (receive_eq r s))
  obtain ⟨p, hp, rfl⟩ := hq.of_onceOver
  obtain ⟨t, k, hsettle⟩ := Service.exists_settle_run now p.state
  obtain ⟨reply, before, hreply, hbefore, hcomplete⟩ := complete_eq (idOf r s) r p.answer t
  refine ⟨p, t, k, reply, before, hp, hsettle, hreply, hbefore, ?_⟩
  rw [Op.run_bind_of_run hsettle, hcomplete]
  simp

/-- The answer to a request that is not a preflight is that of its endpoint, with what a browser is
told. -/
theorem answerBrowser_finishes {p : Outcome Service Answer} (hr : r.isPreflight = false)
    (h : W.Finishes (answerBrowser now id r) s p) :
    ∃ q, W.Finishes (answer now id r) s q ∧ p = ⟨q.answer.map fun a =>
      { a with response := (origins s).decorate r a.response }, q.state, q.log⟩ := by
  rw [answerBrowser] at h
  obtain ⟨q, hq, rfl⟩ := h.of_after (Op.run_bind_of_run (Op.run_get s))
  simp only [hr, Bool.false_eq_true, if_false] at hq
  obtain ⟨a, ha, rfl⟩ := hq.of_onceOver
  refine ⟨a, ha, ?_⟩
  cases a.answer <;> simp [Except.map]

end CommandBridge.Http
