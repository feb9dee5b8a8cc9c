import CommandBridge.Proofs.Http.ErrorBodies

/-!
# CommandBridge.Proofs.Http.RequestIds

Where the id of a request is found again.  It stands in the last line that the request leaves in the
log and in the details of every error, and a reply carries it in one header, unless answering the
request failed: the reply to such a request has no headers but its content type
(`request_ids_come_back`).

An instance that cannot be opened is one way to such a reply (`failed_opening_is_told_without_id`).
-/

namespace CommandBridge.Http

open Trail

variable {id : String} {r : Request} {s : Service}

/-- The headers of a response that carry request ids. -/
def idHeaders (a : Response) : List (String × String) := a.headers.filter fun h => h.1 = idHeader

/-- The failure of answering a request. -/
def failure? : Except Failure Answer → Option Failure
  | .ok _ => none
  | .error e => some e

/-- A header that is set is there once. -/
theorem idHeaders_setHeader (id : String) (a : Response) :
    idHeaders (a.setHeader idHeader id) = [(idHeader, id)] := by
  simp [idHeaders, Response.setHeader, List.filter_append, List.filter_filter]

/-- A reply has the id of its request in one header, or was sent because answering failed and has
none. -/
theorem idHeaders_reply {reply : Reply} {a : Except Failure Answer} (h : reply.Answers id a) :
    reply.raised = failure? a ∧
      idHeaders reply.response = (if reply.raised.isSome then [] else [(idHeader, id)]) ∧
      (reply.raised.isSome → reply.response.status = 500) := by
  cases h with
  | answered a => exact ⟨rfl, idHeaders_setHeader id a.response, nofun⟩
  | failed e h => exact ⟨rfl, by simp [idHeaders, jsonResponse, idHeader], fun _ => rfl⟩

/-- Every request is replied to, and its id is that of its own header or, without one, a new one.
The line about the request has the id, and is the last one in the log.  The reply has the id in one
header if the request was answered.  If answering it failed, the status is 500 and there is no such
header.  An error names the request by its id in its details, unless it refuses a preflight. -/
theorem request_ids_come_back (now : Timestamp) (r : Request) (s : Service) :
    (∃ o, anything.Finishes (handle now r) s o) ∧
    ∀ o, anything.Finishes (handle now r) s o →
      ∃ a reply, anything.Finishes (answerBrowser now (idOf r s) r) (received r s) a ∧
        o.answer = .ok reply ∧ reply.raised = failure? a.answer ∧
        o.log.getLast? = some (requestLine (idOf r s) r reply) ∧
        idHeaders reply.response =
          (if reply.raised.isSome then [] else [(idHeader, idOf r s)]) ∧
        (reply.raised.isSome → reply.response.status = 500) ∧
        (r.isPreflight = false → 400 ≤ reply.response.status →
          IsErrorBody (idOf r s) reply.response.body) := by
  refine ⟨exists_finishes _ _ _, fun o ho => ?_⟩
  obtain ⟨p, t, k, reply, before, hp, -, hreply, -, rfl⟩ := handle_finishes ho
  obtain ⟨hraised, hheaders, hstatus⟩ := idHeaders_reply hreply
  exact ⟨p, reply, hp, rfl, hraised, by simp, hheaders, hstatus, fun hr =>
    wellFormed_reply (idOf_ne_empty r s) hr hp hreply⟩

/-- The reply about an instance that cannot be opened has no request id in its headers. -/
theorem failed_opening_is_told_without_id :
    ∃ o reply, anything.Finishes (handle ⟨0⟩ (prompting [])) unopenable o ∧
      o.answer = .ok reply ∧ reply.response.status = 500 ∧
      ∀ id, (idHeader, id) ∉ reply.response.headers := by
  obtain ⟨o, ho⟩ := exists_finishes anything (handle ⟨0⟩ (prompting [])) unopenable
  obtain ⟨p, t, k, reply, before, -, -, -, -, hleft⟩ := handle_finishes ho
  have hreply : o.answer = .ok reply := by rw [hleft]
  have hsent : (reply.response.status, reply.response.headers) =
      (500, [("content-type", "application/json")]) :=
    eq_of_replyAtOnce? (f := fun reply => (reply.response.status, reply.response.headers))
      (by decide +kernel) ho.ends hreply
  obtain ⟨hstatus, hheaders⟩ := Prod.mk.inj hsent
  refine ⟨o, reply, ho, hreply, hstatus, fun id hid => ?_⟩
  rw [hheaders] at hid
  simp [idHeader] at hid

end CommandBridge.Http
