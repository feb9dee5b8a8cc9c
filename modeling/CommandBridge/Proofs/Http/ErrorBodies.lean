import CommandBridge.Proofs.Http.Course

/-!
# CommandBridge.Proofs.Http.ErrorBodies

All errors have one shape (`errors_have_one_shape`): a code of the catalog with the advice that goes
with it, a message that says something, and details that name the request.

Errors are told in two ways.  What is refused or rejected while a request is answered is sent by
`refuse` or `reject`.  A failure that is not an error of the bridge, and an answer that cannot be
written, be it an error itself, end in the reply to a request whose answer failed.
-/

namespace CommandBridge

theorem Json.lookup_insert (name : Text) (j : Json) (ms : List (Text × Json)) :
    lookup name (insert name j ms) = some j := by
  induction ms with
  | nil => simp [lookup, Json.insert]
  | cons m ms ih =>
      rw [Json.insert]
      split
      · next h => simp [lookup, h]
      · next h =>
        rw [lookup] at ih ⊢
        rwa [List.find?_cons_of_neg (by simpa using h)]

namespace Http

open Trail

variable {now : Timestamp} {id : String} {r : Request} {s : Service}

/-- The body of an error that names the request: an object `detail` with a code of the catalog, a
message that is not empty, the advice that goes with the code, and details in which `request_id` is
the request's id. -/
def IsErrorBody (id : String) (body : String) : Prop :=
  ∃ (code : ErrorCode) (message : Text) (details : Details), message ≠ [] ∧
    Json.lookup "request_id" details = some (.string id) ∧
    (Json.object [("detail", .object [("code", .string code.text), ("message", .str message),
      ("user_action", .string code.userAction), ("details", .obj details)])]).writeCompact? =
        .ok body

/-- Whatever an error brings along, its message is not empty and its details name the request. -/
theorem isErrorBody_of_build (hid : id ≠ "") {code : ErrorCode} {message : Text}
    {details : Details} {body : String}
    (h : (errorBody (.build code message details (some id))).writeCompact? = .ok body) :
    IsErrorBody id body := by
  refine ⟨_, _, _, ?_, ?_, h⟩
  · have hdefault : (code.defaultMessage : Text) ≠ [] :=
      Text.ofString_ne_nil code.defaultMessage_ne_empty
    rw [ErrorPayload.build]
    dsimp only
    split
    · exact hdefault
    · next hmessage => simpa using hmessage
  · have hinsert : (ErrorPayload.build code message details (some id)).details =
        Json.insert "request_id" (.string id) details := by
      simp [ErrorPayload.build, hid]
    rw [hinsert, Json.lookup_insert]

/-- A response that is an error has the body of one. -/
def WellFormed (id : String) (a : Response) : Prop := 400 ≤ a.status → IsErrorBody id a.body

/-! ## Answers -/

/-- Whatever an operation answers with meets `Q`. -/
abbrev Gives {σ α : Type} (x : Op σ α) (Q : α → Prop) : Prop := x.Yields (fun _ => True) Q

/-- Whatever an operation that takes time comes to in the end meets `Q`. -/
def ComesTo {σ α : Type} (x : Op σ (Progress σ α)) (Q : α → Prop) : Prop :=
  ∀ s a, Op.Ends (x.run s).answer (.ok a) → Q a

section

variable {σ α β : Type} {Q : α → Prop}

theorem ComesTo.atOnce {x : Op σ α} (hx : Gives x Q) : ComesTo (Op.atOnce x) Q :=
  fun s a h => hx s trivial a h.of_atOnce.symm

theorem ComesTo.fail (e : Failure) : ComesTo (Op.fail e : Op σ (Progress σ α)) Q := by
  rintro s a ⟨⟩

theorem ComesTo.get_bind {f : σ → Op σ (Progress σ α)} (hf : ∀ s, ComesTo (f s) Q) :
    ComesTo (Op.get >>= f) Q := by
  intro s a h
  rw [Op.run_get_bind] at h
  exact hf s s a h

theorem ComesTo.onceOver {x : Op σ (Progress σ β)} {f : Except Failure β → Op σ α}
    (hf : ∀ b, Gives (f b) Q) : ComesTo (x.onceOver f) Q := by
  intro s a h
  obtain ⟨b, t, -, ha⟩ := h.of_onceOver
  exact hf b t trivial a ha.symm

/-- What is known of the first answer can be used for the second. -/
theorem Gives.after {x : Op σ β} {f : β → Op σ α} {R : β → Prop} (hx : Gives x R)
    (hf : ∀ b, R b → Gives (f b) Q) : Gives (x >>= f) Q := by
  rintro s - a ha
  cases hanswer : (x.run s).answer with
  | error e =>
      rw [Op.answer_bind_error hanswer] at ha
      cases ha
  | ok b =>
      rw [Op.answer_bind_ok hanswer] at ha
      exact hf b (hx s trivial b hanswer) _ trivial a ha

/-- An answer with a response. -/
theorem gives_answer {x : Op σ Response} {Q : Response → Prop} (hx : Gives x Q) :
    Gives (do return ⟨← x, none⟩ : Op σ Answer) fun a => Q a.response :=
  .after hx fun _ h => .pure h

end

section

variable {σ α : Type}

theorem gives_respond (status : Nat) (body : Json) : Gives (respond status body : Op σ Response)
    fun a => a.status = status ∧ body.writeCompact? = .ok a.body := by
  rintro s - a ha
  rw [respond, Op.run_ofExcept, Response.json?] at ha
  cases hwrite : body.writeCompact? with
  | error e => simp [hwrite, Except.mapError] at ha
  | ok text =>
      obtain rfl : jsonResponse status text = a := by
        simpa [hwrite, Except.mapError, jsonResponse] using ha
      exact ⟨rfl, rfl⟩

/-- What is sent with status 200 is no error. -/
theorem gives_ok (body : Json) : Gives (respond 200 body : Op σ Response) (WellFormed id) := by
  intro s _ a ha herror
  rw [(gives_respond 200 body s trivial a ha).1] at herror
  exact absurd herror (by decide)

theorem gives_error (hid : id ≠ "") (status : Nat) (code : ErrorCode) (message : Text)
    (details : Details) :
    Gives (respond status (errorBody (.build code message details (some id))) : Op σ Response)
      (WellFormed id) :=
  fun s _ a ha _ => isErrorBody_of_build hid (gives_respond _ _ s trivial a ha).2

theorem gives_refuse (hid : id ≠ "") (status : Nat) (code : ErrorCode) (message : String)
    (details : Details) :
    Gives (refuse id status code message details : Op σ Response) (WellFormed id) :=
  gives_error hid _ _ _ _

theorem gives_reject (hid : id ≠ "") (e : BridgeError) :
    Gives (reject id r e : Op σ Response) (WellFormed id) :=
  .bind fun _ => gives_error hid _ _ _ _

theorem gives_conclude (hid : id ≠ "") (body : α → Json) (a : Except Failure α) :
    Gives (conclude id r body a : Op σ Answer) fun a => WellFormed id a.response := by
  cases a with
  | ok a => exact gives_answer (gives_ok _)
  | error e =>
      cases e with
      | bridge e => exact gives_answer (gives_reject hid e)
      | _ => exact .fail _

end

/-! ## Endpoints -/

/-- Whatever an operation does, what is answered for it is well-formed. -/
theorem gives_answering {α : Type} (hid : id ≠ "") (x : Op Service α) (body : α → Json) :
    Gives (answering id r x body) fun a => WellFormed id a.response :=
  .bind fun _ => gives_conclude hid _ _

theorem comesTo_callTool (hid : id ≠ "") (name : String) :
    ComesTo (callTool now id r name) fun a => WellFormed id a.response := by
  refine .get_bind fun s => ?_
  split
  · exact .atOnce (gives_answer (gives_refuse hid _ _ _ _))
  · exact .fail _
  · exact .onceOver fun _ => gives_conclude hid _ _

theorem gives_publishResult (hid : id ≠ "") (ticket : String) :
    Gives (publishResult now id r ticket) fun a => WellFormed id a.response := by
  refine .bind fun s => ?_
  split
  · exact gives_answering hid _ _
  · exact gives_answer (gives_refuse hid _ _ _ _)
  · exact gives_answer (gives_refuse hid _ _ _ _)
  · exact .fail _

theorem gives_openEvents : Gives openEvents fun a => WellFormed id a.response :=
  .bind fun _ => .bind fun _ => .bind fun _ => .pure fun h => absurd h (by simp)

theorem gives_listing {α : Type} (name : String) (part : Catalog → List α) (toJson : α → Json) :
    Gives (listing name part toJson) fun a => WellFormed id a.response :=
  .bind fun _ => gives_answer (gives_ok _)

theorem comesTo_serve (hid : id ≠ "") (e : Endpoint) :
    ComesTo (serve now id r e) fun a => WellFormed id a.response := by
  cases e with
  | listResources => exact .atOnce (gives_listing _ _ _)
  | listTools => exact .atOnce (gives_listing _ _ _)
  | listPrompts => exact .atOnce (gives_listing _ _ _)
  | readResource uri => exact .atOnce (gives_answering hid _ _)
  | callTool name => exact comesTo_callTool hid name
  | getPrompt name => exact .atOnce (gives_answering hid _ _)
  | getResult ticket => exact .atOnce (gives_answering hid _ _)
  | publishResult ticket => exact .atOnce (gives_publishResult hid ticket)
  | events => exact .atOnce gives_openEvents
  | health => exact .atOnce (.bind fun _ => gives_answer (gives_ok _))
  | metrics => exact .atOnce (.bind fun _ => .pure fun h => absurd h (by simp [Response.plain]))

theorem comesTo_answer (hid : id ≠ "") :
    ComesTo (answer now id r) fun a => WellFormed id a.response := by
  unfold answer
  split
  · exact comesTo_serve hid _
  · exact .atOnce (.after (gives_refuse hid _ _ _ _) fun _ h => .pure h)
  · exact .atOnce (.pure fun h => absurd h (by simp))
  · exact .atOnce (gives_answer (gives_refuse hid _ _ _ _))

/-! ## Replies -/

/-- A reply to a request that is not a preflight is well-formed. -/
theorem wellFormed_reply {W : Trail Service} {p : Outcome Service Answer} {reply : Reply}
    (hid : id ≠ "") (hr : r.isPreflight = false) (h : W.Finishes (answerBrowser now id r) s p)
    (hreply : reply.Answers id p.answer) : WellFormed id reply.response := by
  obtain ⟨q, hq, rfl⟩ := answerBrowser_finishes hr h
  have hends := hq.ends
  cases hanswer : q.answer with
  | error e =>
      rw [hanswer] at hreply
      cases hreply with
      | failed e htext => exact fun _ => isErrorBody_of_build hid htext
  | ok a =>
      rw [hanswer] at hreply hends
      cases hreply with
      | answered a =>
          obtain ⟨hstatus, hbody⟩ := (origins s).decorate_frame r a.response
          intro herror
          show IsErrorBody id ((origins s).decorate r a.response).body
          rw [hbody]
          exact comesTo_answer hid s a hends (hstatus ▸ herror)

/-- Every error has one shape.  Whatever the bridge and its instance do, and whatever happens while
a request waits, a request that is not a preflight is replied to.  If the status of the reply is 400
or above, the body is that of an error that names the request, by the id that also stands in the
line about the request, which is the last one in the log.

The same goes for whatever an operation of the service does whose failure is answered, such as a
failure that brings details with another request id along. -/
theorem errors_have_one_shape (now : Timestamp) (r : Request) (s : Service)
    (hr : r.isPreflight = false) :
    (∃ o, anything.Finishes (handle now r) s o) ∧
    (∀ o, anything.Finishes (handle now r) s o → ∃ reply, o.answer = .ok reply ∧
      (400 ≤ reply.response.status → IsErrorBody (idOf r s) reply.response.body) ∧
      o.log.getLast? = some (requestLine (idOf r s) r reply)) ∧
    ∀ (α : Type) (x : Op Service α) (body : α → Json) (t : Service) (a : Answer),
      ((answering (idOf r s) r x body).run t).answer = .ok a → 400 ≤ a.response.status →
        IsErrorBody (idOf r s) a.response.body := by
  have hid := idOf_ne_empty r s
  refine ⟨exists_finishes _ _ _, ?_, ?_⟩
  · intro o ho
    obtain ⟨p, t, k, reply, before, hp, -, hreply, -, rfl⟩ := handle_finishes ho
    exact ⟨reply, rfl, wellFormed_reply hid hr hp hreply, by simp⟩
  · intro α x body t a ha
    exact gives_answering hid x body t trivial a ha

/-- A service whose instance cannot be opened. -/
def unopenable : Service where
  bridge := {
    attached := some 0
    host := {
      instances := [{ adapter := .recording { openings := [some (.ofMessage .runtime "no")] } }]
      results := { capacity := 2, ttl := 60 } } }

/-- A request for a prompt, with headers. -/
def prompting (headers : List (String × String)) : Request :=
  ⟨"GET", "/mcp/prompts/p", some "/mcp/prompts/p", "", headers, []⟩

/-- A reply that goes out at once. -/
def replyAtOnce? : Except Failure (Progress Service Reply) → Option Reply
  | .ok (.done reply) => some reply
  | _ => none

theorem eq_of_replyAtOnce? {β : Type} {x : Except Failure (Progress Service Reply)}
    {y : Except Failure Reply} {reply : Reply} {f : Reply → β} {b : β}
    (hx : (replyAtOnce? x).map f = some b) (h : Op.Ends x y) (hy : y = .ok reply) :
    f reply = b := by
  cases h with
  | failed e => cases hx
  | atOnce a =>
      cases hy
      exact Option.some.inj hx
  | later w resume t => cases hx

/-- An error that brings a request id of its own along. -/
def misnamed : BridgeError := .coded "taken" .targetTaken [("request_id", .string "r-2")]

theorem reject_misnamed_run (r : Request) :
    ∃ text, ∀ s : Service,
      ((reject "r-1" r misnamed).run s).answer = .ok (jsonResponse 500 text) := by
  have hbody : (errorBody (.build .targetTaken "taken" [("request_id", .string "r-2")]
      (some "r-1"))).Sendable := sendable_errorBody .targetTaken "r-1" (by
    simp only [List.mem_singleton, forall_eq]
    exact ⟨Json.isScalar_ofString _, Json.sendable_string _⟩)
  obtain ⟨text, -, hsent⟩ := respond_of_sendable (σ := Service) 500 hbody
  refine ⟨text, fun s => ?_⟩
  rw [reject, Op.answer_bind_ok (a := ()) rfl]
  exact hsent _

/-- The failure of an opening is told under the id that the client chose, and so is an error that
brings another one along. -/
theorem errors_have_one_shape_unopenable :
    (prompting [(idHeader, "r-1")]).isPreflight = false ∧
    (∃ o reply, anything.Finishes (handle ⟨0⟩ (prompting [(idHeader, "r-1")])) unopenable o ∧
      o.answer = .ok reply ∧ reply.response.status = 500 ∧ IsErrorBody "r-1" reply.response.body ∧
      o.log.getLast? = some (requestLine "r-1" (prompting [(idHeader, "r-1")]) reply)) ∧
    ∃ a, ((answering "r-1" (prompting [(idHeader, "r-1")])
        (Op.fail (.bridge misnamed) : Op Service Record) Record.toBody).run unopenable).answer =
          .ok a ∧
      a.response.status = 500 ∧ IsErrorBody "r-1" a.response.body := by
  have hr : (prompting [(idHeader, "r-1")]).isPreflight = false := by decide
  have hid : idOf (prompting [(idHeader, "r-1")]) unopenable = "r-1" := by decide
  obtain ⟨⟨o, ho⟩, hreplies, hanswers⟩ :=
    errors_have_one_shape ⟨0⟩ (prompting [(idHeader, "r-1")]) unopenable hr
  obtain ⟨reply, hreply, hbody, hline⟩ := hreplies o ho
  rw [hid] at hbody hline hanswers
  have hstatus : reply.response.status = 500 :=
    eq_of_replyAtOnce? (f := fun reply => reply.response.status) (by decide +kernel) ho.ends hreply
  -- the second error is told as soon as the operation has failed
  obtain ⟨text, hreject⟩ := reject_misnamed_run (prompting [(idHeader, "r-1")])
  have hanswer : ((answering "r-1" (prompting [(idHeader, "r-1")])
      (Op.fail (.bridge misnamed) : Op Service Record) Record.toBody).run unopenable).answer =
        .ok ⟨jsonResponse 500 text, none⟩ := by
    rw [answering, Op.answer_bind_ok (a := .error (.bridge misnamed)) rfl, conclude,
      Op.answer_bind_ok (hreject _)]
    rfl
  exact ⟨hr, ⟨o, reply, ho, hreply, hstatus, hbody (by omega), hline⟩, _, hanswer, rfl,
    hanswers _ _ _ _ _ hanswer (by simp [jsonResponse])⟩

end Http

end CommandBridge
