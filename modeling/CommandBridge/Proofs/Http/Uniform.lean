import CommandBridge.Proofs.Http.Reply
import CommandBridge.Proofs.Service.Uniform

/-!
# CommandBridge.Proofs.Http.Uniform

One request, handled by two services that cannot be told apart.  The two replies are the same, save
that each service generates its own request ids and counts its own requests (`SameReply`,
`alike_handle`).
-/

namespace CommandBridge.Http

open Likeness Service

/-! ## What replies have in common -/

/-- Ids of a request: they are equal, unless the request has none and both were generated. -/
inductive SameId (r : Request) : String → String → Prop
  | same (id : String) : SameId r id id
  | generated (hnone : (r.header? idHeader).filter (· ≠ "") = none) (n n' : Nat) :
      SameId r (requestIdOf n) (requestIdOf n')

/-- Bodies for a request: they are equal, save for a generated id in the details of an error, and
for the number of requests in the metrics. -/
inductive SameBody (r : Request) : String → String → Prop
  | same (body : String) : SameBody r body body
  | error (hnone : (r.header? idHeader).filter (· ≠ "") = none) (n n' : Nat) (code : ErrorCode)
      (message : Text) (details : Details) {body body' : String}
      (h : (errorBody (.build code message details (some (requestIdOf n)))).writeCompact? =
        .ok body)
      (h' : (errorBody (.build code message details (some (requestIdOf n')))).writeCompact? =
        .ok body') : SameBody r body body'
  | metrics (s : Service) (requests : RequestStats) (hfailed : requests.failed = s.requests.failed) :
      SameBody r (metricsText s) (metricsText { s with requests := requests })

/-- Responses to a request with the same status, and in essence the same body. -/
structure SameResponse (r : Request) (a b : Response) : Prop where
  status : b.status = a.status
  body : SameBody r a.body b.body

/-- Answers that are responded alike, over the same connection. -/
structure SameAnswer (r : Request) (a b : Answer) : Prop where
  response : SameResponse r a.response b.response
  connection : b.connection = a.connection

/-- Replies that are responded alike, over the same connection, with the same failure if any. -/
structure SameReply (r : Request) (a b : Reply) : Prop where
  response : SameResponse r a.response b.response
  raised : b.raised = a.raised
  connection : b.connection = a.connection

variable {capacity : Int} {now : Timestamp} {r : Request} {id id' : String}

theorem SameResponse.refl (r : Request) (a : Response) : SameResponse r a a := ⟨rfl, .same _⟩

theorem SameResponse.plain (status : Nat) {a b : String} (h : SameBody r a b) :
    SameResponse r (.plain status a) (.plain status b) := ⟨rfl, h⟩

theorem SameAnswer.refl (r : Request) (a : Answer) : SameAnswer r a a := ⟨.refl r _, rfl⟩

/-! ## Errors -/

/-- Whether an error can be sent does not depend on its request id. -/
theorem unwritable?_errorBody (code : ErrorCode) (message : Text) (details : Details) (n n' : Nat) :
    Json.unwritable? (errorBody (.build code message details (some (requestIdOf n)))).writeCompact? =
      Json.unwritable?
        (errorBody (.build code message details (some (requestIdOf n')))).writeCompact? := by
  have hwrite : ∀ j : Json, Json.unwritable? j.writeCompact? = Json.unwritable? (Json.compact? j) := by
    intro j
    rw [Json.writeCompact?]
    cases Json.compact? j <;> rfl
  have hid : ∀ n, (requestIdOf n).isEmpty = false := by
    intro n
    rw [requestIdOf, Bool.eq_false_iff, Ne, String.isEmpty_iff, String.append_eq_empty_iff]
    simp
  have hstring : ∀ s : String, Json.unwritable? (Json.compact? (.string s)) = none := by
    intro s
    have hok := (Json.isOk_compact? (.string s)).mpr (Json.sendable_string s)
    cases hs : Json.compact? (.string s) with
    | ok _ => rfl
    | error e => simp [hs] at hok
  have hinsert : Json.unwritable?
        (Json.compactMembers? (Json.insert "request_id" (.string (requestIdOf n)) details)) =
      Json.unwritable?
        (Json.compactMembers? (Json.insert "request_id" (.string (requestIdOf n')) details)) :=
    Json.unwritable?_insert ((hstring (requestIdOf n)).trans (hstring (requestIdOf n')).symm) details
  rw [hwrite, hwrite]
  simp only [errorBody, ErrorPayload.toJson, ErrorPayload.build, hid, Bool.false_eq_true, if_false,
    Json.object, List.map_cons, List.map_nil, Json.unwritable?_obj, Json.unwritable?_members_cons,
    hinsert]

/-- An error is sent, or cannot be sent, whatever its request id is. -/
theorem alike_respond_error {σ : Type} {V : Likeness σ} (hid : SameId r id id') (status : Nat)
    (code : ErrorCode) (message : Text) (details : Details) :
    V.Alike (SameResponse r) (respond status (errorBody (.build code message details (some id))))
      (respond status (errorBody (.build code message details (some id')))) := by
  cases hid with
  | same id =>
      refine .ofExcept ?_
      cases (Response.json? status (errorBody (.build code message details (some id)))).mapError
        unwritable with
      | ok a => exact .ok (.refl r a)
      | error e => exact .error e
  | generated hnone n n' =>
      have hsame := unwritable?_errorBody code message details n n'
      refine .ofExcept ?_
      unfold Response.json?
      cases h : (errorBody (.build code message details (some (requestIdOf n)))).writeCompact? with
      | ok body =>
          cases h' : (errorBody
            (.build code message details (some (requestIdOf n')))).writeCompact? with
          | ok body' => exact .ok ⟨rfl, .error hnone n n' code message details h h'⟩
          | error e => simp [h, h', Json.unwritable?] at hsame
      | error e =>
          cases h' : (errorBody
            (.build code message details (some (requestIdOf n')))).writeCompact? with
          | ok body' => simp [h, h', Json.unwritable?] at hsame
          | error e' =>
              obtain rfl : e = e' := by simpa [h, h', Json.unwritable?] using hsame
              exact .error _

theorem alike_refuse {σ : Type} {V : Likeness σ} (hid : SameId r id id') (status : Nat)
    (code : ErrorCode) (message : String) (details : Details) :
    V.Alike (SameResponse r) (refuse id status code message details)
      (refuse id' status code message details) := alike_respond_error hid _ _ _ _

/-- An answer with a response over no connection. -/
theorem alike_answer {x y : Op Service Response}
    (h : (interchangeable capacity).Alike (SameResponse r) x y) :
    (interchangeable capacity).Alike (SameAnswer r) (do return ⟨← x, none⟩) (do return ⟨← y, none⟩) :=
  .bind_rel complete_interchangeable h fun _ _ hab => .pure ⟨hab, rfl⟩

theorem alike_reject (hid : SameId r id id') (e : BridgeError) :
    (interchangeable capacity).Alike (SameResponse r) (reject id r e) (reject id' r e) :=
  .bind (alike_log _ _) fun _ => alike_respond_error hid _ _ _ _

theorem alike_conclude {α : Type} (hid : SameId r id id') (body : α → Json) (x : Except Failure α) :
    (interchangeable capacity).Alike (SameAnswer r) (conclude id r body x)
      (conclude id' r body x) := by
  cases x with
  | ok a => exact .bind (.ofExcept (answers_eq.mpr rfl)) fun _ => .pure (.refl r _)
  | error e =>
      cases e with
      | bridge e => exact alike_answer (alike_reject hid e)
      | _ => exact .fail _

/-! ## Endpoints -/

theorem alike_answering {α : Type} (hid : SameId r id id') {x : Op Service α}
    (hx : (interchangeable capacity).Respects x) (body : α → Json) :
    (interchangeable capacity).Alike (SameAnswer r) (answering id r x body)
      (answering id' r x body) :=
  .bind (.attempt_eq hx) fun x => alike_conclude hid body x

theorem respects_call (now : Timestamp) (call : Call) :
    (interchangeable capacity).Respects (onBridge (call.run now)) :=
  respects_onBridge (Bridge.respects_call ResultChannel.uniform_interchangeable now call)

/-- The acknowledgement of a call comes after the same delay. -/
theorem alike_serviceCallTool (now : Timestamp) (name : String) (args : Json) :
    (interchangeable capacity).Alike ((interchangeable capacity).Progresses Eq)
      (Service.callTool now name args) (Service.callTool now name args) := by
  refine .bind (respects_call now (.callTool name args)) fun response =>
    Service.get_bind (fun _ _ _ => rfl) fun s => .ite (fun _ => .pure (.done rfl)) fun _ => ?_
  exact .pure (.suspended _ (.pure rfl))

theorem alike_callTool (hid : SameId r id id') (name : String) :
    (interchangeable capacity).Alike ((interchangeable capacity).Progresses (SameAnswer r))
      (callTool now id r name) (callTool now id' r name) := by
  refine Service.get_bind (fun _ _ _ => rfl) fun s => ?_
  split
  · exact .atOnce complete_interchangeable (alike_answer (alike_refuse hid _ _ _ _))
  · exact .fail _
  · refine .onceOver complete_interchangeable (alike_serviceCallTool now name _) fun x x' hx => ?_
    obtain rfl := answers_eq.mp hx
    exact alike_conclude hid _ x

theorem alike_publishResult (hid : SameId r id id') (ticket : String) :
    (interchangeable capacity).Alike (SameAnswer r) (publishResult now id r ticket)
      (publishResult now id' r ticket) := by
  refine Service.get_bind (fun _ _ _ => rfl) fun s => ?_
  split
  · exact alike_answering hid
      (respects_onResults (ResultChannel.respects_publishBody now _ _ _)) _
  · exact alike_answer (alike_refuse hid _ _ _ _)
  · exact alike_answer (alike_refuse hid _ _ _ _)
  · exact .fail _

theorem respects_respond (status : Nat) (body : Json) :
    (interchangeable capacity).Respects (respond status body) := .ofExcept (answers_eq.mpr rfl)

/-- Answers that do not depend on the request id are the same. -/
theorem sameAnswer_of_respects {x : Op Service Answer} (h : (interchangeable capacity).Respects x) :
    (interchangeable capacity).Alike (SameAnswer r) x x := by
  have hmap := h.map (f := id) (g := id) (B := SameAnswer r) fun a b hab => hab ▸ .refl r a
  rwa [id_map] at hmap

theorem respects_listing {α : Type} (name : String) (part : Catalog → List α) (toJson : α → Json) :
    (interchangeable capacity).Respects (listing name part toJson) :=
  Service.get_bind (fun _ _ _ => rfl) fun _ => .bind (respects_respond _ _) fun _ => .pure rfl

theorem respects_openEvents : (interchangeable capacity).Respects openEvents :=
  Service.get_bind (fun _ _ _ => rfl) fun _ => .bind (respects_connect _) fun _ =>
    .bind (respects_takeUnread _) fun _ => .pure rfl

theorem alike_health : (interchangeable capacity).Respects
    (do return ⟨← respond 200 (health (← Op.get)), none⟩ : Op Service Answer) := by
  refine .get_bind ?_
  rintro s _ ⟨c, requests, ⟨-, redis, -, rfl⟩, -, rfl⟩
  exact .bind (respects_respond _ _) fun _ => .pure rfl

/-- The metrics of a service tell nothing about its channel but how many queues are open. -/
theorem metricsText_withResults {s : Service} {c : ResultChannel} (requests : RequestStats)
    (hqueues : c.queues = s.results.queues) :
    metricsText { s with bridge := s.bridge.withResults c, requests := requests } =
      metricsText { s with requests := requests } := by
  have hcount : c.subscriberCount = s.results.subscriberCount := by
    rw [ResultChannel.subscriberCount, hqueues, ResultChannel.subscriberCount]
  have hresults : ({ s with bridge := s.bridge.withResults c, requests := requests } :
      Service).results = c := rfl
  have hsame : ({ s with requests := requests } : Service).results = s.results := rfl
  have hmetrics : metrics { s with bridge := s.bridge.withResults c, requests := requests } =
      metrics { s with requests := requests } := by
    rw [metrics, metrics, hresults, hsame, hcount]
    rfl
  rw [metricsText, hmetrics, metricsText]

theorem alike_metrics : (interchangeable capacity).Alike (SameAnswer r)
    (do return ⟨.plain 200 (metricsText (← Op.get)), none⟩ : Op Service Answer)
    (do return ⟨.plain 200 (metricsText (← Op.get)), none⟩) := by
  refine .get_bind ?_
  rintro s _ ⟨c, requests, ⟨-, redis, -, hc⟩, hfailed, rfl⟩
  have hqueues : c.queues = s.results.queues := by rw [hc]
  have hbody : SameBody r (metricsText s)
      (metricsText { s with bridge := s.bridge.withResults c, requests := requests }) := by
    rw [metricsText_withResults requests hqueues]
    exact .metrics s requests hfailed
  exact .pure ⟨.plain 200 hbody, rfl⟩

theorem alike_serve (hid : SameId r id id') (e : Endpoint) :
    (interchangeable capacity).Alike ((interchangeable capacity).Progresses (SameAnswer r))
      (serve now id r e) (serve now id' r e) := by
  have hatOnce : ∀ {x y : Op Service Answer},
      (interchangeable capacity).Alike (SameAnswer r) x y →
      (interchangeable capacity).Alike ((interchangeable capacity).Progresses (SameAnswer r))
        (Op.atOnce x) (Op.atOnce y) := .atOnce complete_interchangeable
  cases e with
  | listResources => exact hatOnce (sameAnswer_of_respects (respects_listing _ _ _))
  | listTools => exact hatOnce (sameAnswer_of_respects (respects_listing _ _ _))
  | listPrompts => exact hatOnce (sameAnswer_of_respects (respects_listing _ _ _))
  | readResource uri =>
      exact hatOnce (alike_answering hid (respects_call now (.readResource _)) _)
  | callTool name => exact alike_callTool hid name
  | getPrompt name => exact hatOnce (alike_answering hid (respects_call now (.getPrompt name)) _)
  | getResult ticket =>
      exact hatOnce (alike_answering hid
        (respects_onResults (ResultChannel.respects_getBody now ticket)) _)
  | publishResult ticket => exact hatOnce (alike_publishResult hid ticket)
  | events => exact hatOnce (sameAnswer_of_respects respects_openEvents)
  | health => exact hatOnce (sameAnswer_of_respects alike_health)
  | metrics => exact hatOnce alike_metrics

theorem alike_answerOf (hid : SameId r id id') :
    (interchangeable capacity).Alike ((interchangeable capacity).Progresses (SameAnswer r))
      (answer now id r) (answer now id' r) := by
  unfold answer
  split
  · exact alike_serve hid _
  · refine .atOnce complete_interchangeable
      (.bind_rel complete_interchangeable (alike_refuse hid _ _ _ _) fun a b hab => .pure ⟨?_, rfl⟩)
    exact ⟨hab.status, hab.body⟩
  · exact .atOnce complete_interchangeable (.pure (.refl r _))
  · exact .atOnce complete_interchangeable (alike_answer (alike_refuse hid _ _ _ _))

/-! ## Requests -/

theorem alike_answerBrowser (hid : SameId r id id') :
    (interchangeable capacity).Alike ((interchangeable capacity).Progresses (SameAnswer r))
      (answerBrowser now id r) (answerBrowser now id' r) := by
  refine Service.get_bind (fun _ _ _ => rfl) fun s => .ite (fun _ => .pure (.done (.refl r _)))
    fun _ => .andThen complete_interchangeable (alike_answerOf hid) fun a b hab =>
      .pure ⟨?_, hab.connection⟩
  obtain ⟨hstatus, hbody⟩ := (origins s).decorate_frame r a.response
  obtain ⟨hstatus', hbody'⟩ := (origins s).decorate_frame r b.response
  refine ⟨hstatus'.trans (hab.response.status.trans hstatus.symm), ?_⟩
  show SameBody r ((origins s).decorate r a.response).body ((origins s).decorate r b.response).body
  rw [hbody, hbody']
  exact hab.response.body

/-- Two services give a request the same id, or both generate one. -/
theorem alike_receive (r : Request) :
    (interchangeable capacity).Alike (SameId r) (receive r) (receive r) := by
  refine complete_interchangeable.alike ?_
  rintro s _ ⟨c, requests, hc, hfailed, rfl⟩
  cases hid : (r.header? idHeader).filter (· ≠ "") with
  | some id =>
      have hrun : ∀ t : Service, (receive r).run t = ⟨.ok id,
          { t with requests := { t.requests with received := t.requests.received + 1 } }, []⟩ := by
        intro t
        show receive r t = _
        simp only [receive, hid]
      rw [hrun, hrun]
      exact ⟨.ok (.same id), ⟨c, { requests with received := requests.received + 1 }, hc, hfailed,
        rfl⟩, trivial⟩
  | none =>
      have hrun : ∀ t : Service, (receive r).run t = ⟨.ok (requestIdOf (t.requests.identified + 1)),
          { t with requests :=
            ⟨t.requests.received + 1, t.requests.failed, t.requests.identified + 1⟩ }, []⟩ := by
        intro t
        show receive r t = _
        simp only [receive, hid]
      rw [hrun, hrun]
      exact ⟨.ok (.generated hid _ _),
        ⟨c, ⟨requests.received + 1, requests.failed, requests.identified + 1⟩, hc, hfailed, rfl⟩,
        trivial⟩

theorem respects_countFailure : (interchangeable capacity).Respects countFailure := by
  refine .modify ?_ fun _ => id
  rintro s _ ⟨c, requests, hc, hfailed, rfl⟩
  exact ⟨c, _, hc, congrArg (· + 1) hfailed, rfl⟩

theorem alike_complete (hid : SameId r id id') {x x' : Except Failure Answer}
    (hx : Answers (SameAnswer r) x x') :
    (interchangeable capacity).Alike (SameReply r) (complete id r x) (complete id' r x') := by
  cases hx with
  | @ok a b hab =>
      have hrest : (interchangeable capacity).Alike (SameReply r)
          (do
            logRequest .info "request_completed" id r a.response.status
            return ⟨a.response.setHeader idHeader id, none, a.connection⟩)
          (do
            logRequest .info "request_completed" id' r a.response.status
            return ⟨b.response.setHeader idHeader id', none, b.connection⟩) :=
        .bind (alike_log _ _) fun _ =>
          .pure ⟨⟨hab.response.status, hab.response.body⟩, rfl, hab.connection⟩
      unfold complete
      dsimp only
      rw [hab.response.status]
      exact .ite (fun _ => .bind respects_countFailure fun _ => hrest) fun _ => hrest
  | error e =>
      have hresponse : (interchangeable capacity).Alike (SameResponse r) (failureResponse id)
          (failureResponse id') := alike_refuse hid 500 .internal _ []
      have hrest : (interchangeable capacity).Alike (SameReply r)
          (do return ⟨← failureResponse id, some e, none⟩)
          (do return ⟨← failureResponse id', some e, none⟩) :=
        .bind_rel complete_interchangeable hresponse fun _ _ hab => .pure ⟨hab, rfl, rfl⟩
      exact .bind respects_countFailure fun _ => .bind (alike_log _ _) fun _ =>
        .bind (alike_log _ _) fun _ => hrest

/-- Services that cannot be told apart handle a request alike. -/
theorem alike_handle (now : Timestamp) (r : Request) :
    (interchangeable capacity).Alike ((interchangeable capacity).Progresses (SameReply r))
      (handle now r) (handle now r) :=
  .bind_rel complete_interchangeable (alike_receive r) fun _ _ hid =>
    .onceOver complete_interchangeable (alike_answerBrowser hid) fun _ _ hx =>
      .bind (respects_settle now) fun _ => alike_complete hid hx

end CommandBridge.Http
