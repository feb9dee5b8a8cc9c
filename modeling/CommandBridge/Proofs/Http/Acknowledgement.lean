import CommandBridge.Proofs.Dispatch.Calls
import CommandBridge.Proofs.Http.Destination
import CommandBridge.Proofs.Http.Reply
import CommandBridge.Proofs.Service.Outcomes

/-!
# CommandBridge.Proofs.Http.Acknowledgement

What replies tell about what was done.  A tool call is answered with status 200 and the ticket of
its command if and only if the attached instance accepted that command, and a publication is
answered with status 200 if and only if it was stored, as long as the answer can be written and, of
a publication, the record has a body (`replies_tell_what_was_done`).

The answer repeats what the client sent, and is written when everything has been done.  So a command
with `NaN` in its arguments is accepted and answered with an internal error
(`accepted_and_not_acknowledged`), and so is a result that is stored and has a lone surrogate
(`stored_and_not_acknowledged`) or cannot be dumped.
-/

namespace CommandBridge

open ResultChannel

namespace Call

variable {call : Call} {now : Timestamp} {b : Bridge} {m : Nat}

/-- The attached instance can be opened, and accepts the command that a call becomes. -/
def Accepted (call : Call) (now : Timestamp) (b : Bridge) : Prop :=
  call.nameless? = none ∧ ∃ i, b.attached = some i ∧
    ((Bridge.ensureOpen i).run b).answer = .ok () ∧
    ∃ d, (call.delivered now i b).answer = .ok d ∧ d.accepted = true

/-- A call whose command is accepted is answered with its response. -/
theorem Accepted.run (h : call.Accepted now b) (hcap : b.host.results.capacity = m) :
    ((call.run now).run b).answer = .ok (call.response (call.command now b)) ∧
      ((call.run now).run b).state.stats = b.stats.count call.kind := by
  obtain ⟨hname, i, hi, hopen, htaken⟩ := h
  obtain ⟨hanswer, hstate⟩ :=
    run_of_taken hcap hname hi hopen (Bridge.refused?_eq_none_iff.mpr htaken)
  rw [hanswer, hstate]
  exact ⟨rfl, rfl⟩

/-- Any other call fails, and is not counted as a command that was handed over. -/
theorem run_of_not_accepted (h : ¬ call.Accepted now b) (hcap : b.host.results.capacity = m) :
    (∃ e, ((call.run now).run b).answer = .error e) ∧
      ((call.run now).run b).state.stats.dispatched = b.stats.dispatched := by
  cases hname : call.nameless? with
  | some what =>
      rw [run_of_nameless hname]
      exact ⟨⟨_, rfl⟩, rfl⟩
  | none =>
    obtain ⟨hanswer, hstate⟩ := run_of_named hname now b
    cases hi : b.attached with
    | none =>
        obtain ⟨hfails, hleft⟩ := Bridge.dispatch_unavailable now call.kind call.target
          call.arguments hi
        rw [hanswer, hstate, hfails, hleft]
        exact ⟨⟨_, rfl⟩, rfl⟩
    | some i =>
      cases hopen : ((Bridge.ensureOpen i).run b).answer with
      | error e =>
          obtain ⟨hfails, hleft⟩ := Bridge.dispatch_of_open_error now call.kind call.target
            call.arguments hi hopen
          obtain ⟨opened, host, hopened, -⟩ := Bridge.ensureOpen_frame b i
          rw [hanswer, hstate, hfails, hleft, hopened]
          exact ⟨⟨_, rfl⟩, rfl⟩
      | ok u =>
        cases hrefused : Bridge.refused? (call.delivered now i b) with
        | none =>
            exact absurd ⟨hname, i, hi, hopen, Bridge.refused?_eq_none_iff.mp hrefused⟩ h
        | some detail =>
            obtain ⟨hfails, hleft⟩ := run_of_refused hcap hname hi hopen hrefused
            rw [hfails, hleft]
            exact ⟨⟨_, rfl⟩, rfl⟩

theorem toBody_response_callTool (name : String) (args : Json) (c : Command) :
    ((Call.callTool name args).response c).toBody =
      .object [("status", .string "success"), ("tool", .string name), ("args", args),
        ("ticket", .string c.ticket), ("advisory", .bool true),
        ("message", Bridge.followUp c.ticket "tool result")] := by
  rfl

/-- The response to a tool call shows the arguments as they are shown to clients. -/
theorem shown_response_callTool (name : String) (args : Json) (c : Command) :
    ((Call.callTool name args).response c).toBody.shown =
      .object [("status", .string "success"), ("tool", .string name), ("args", args.shown),
        ("ticket", .string c.ticket), ("advisory", .bool true),
        ("message", Bridge.followUp c.ticket "tool result")] := by
  rw [toBody_response_callTool, Json.shown_object]
  · rfl
  · simp only [List.mem_cons, List.not_mem_nil, or_false, forall_eq_or_imp, forall_eq]
    decide

/-- It shows the ticket of the command. -/
theorem ticket_response_callTool (name : String) (args : Json) (c : Command) :
    ((Call.callTool name args).response c).toBody.shown.get? "ticket" =
      some (.string c.ticket) := by
  have hothers : ∀ k ∈ ["status", "tool", "args"], (k : Text) ≠ ("ticket" : Text) := by decide
  simp only [List.mem_cons, List.not_mem_nil, or_false, forall_eq_or_imp, forall_eq] at hothers
  simp [shown_response_callTool, Json.object, Json.get?, Json.lookup, hothers]

/-- It can be sent if its arguments can. -/
theorem sendable_response_callTool {name : String} {args : Json} {c : Command} :
    ((Call.callTool name args).response c).toBody.shown.Sendable ↔ args.shown.Sendable := by
  have hmessage : (Bridge.followUp c.ticket "tool result").Sendable := Json.sendable_string _
  rw [shown_response_callTool, Json.sendable_object]
  simp [hmessage]

end Call

namespace Http

variable {now : Timestamp} {id : String} {r : Request} {s : Service} {m : Nat}

/-! ## What an endpoint answers with -/

section Conclude

variable {σ α : Type} {body : α → Json} {t : σ} {reply : Reply}

/-- A result is answered with status 200, and a failure of the bridge with its own status. -/
theorem answer_of_conclude {o : Except Failure α} {a : Answer}
    (h : ((conclude id r body o).run t).answer = .ok a) :
    a.connection = none ∧ ((∃ v, o = .ok v ∧ a.response.status = 200) ∨
      ∃ e, o = .error (.bridge e) ∧ a.response.status = e.status) := by
  have hresponse : ∀ {x : Op σ Response} {status : Nat},
      ((do return ⟨← x, none⟩ : Op σ Answer).run t).answer = .ok a →
      (∀ response, (x.run t).answer = .ok response → response.status = status) →
      a.connection = none ∧ a.response.status = status := by
    intro x status ha hstatus
    cases hx : (x.run t).answer with
    | error e =>
        rw [Op.answer_bind_error hx] at ha
        exact absurd ha (by simp)
    | ok response =>
        rw [Op.answer_bind_ok hx] at ha
        rw [← Except.ok.inj ha]
        exact ⟨rfl, hstatus response hx⟩
  cases o with
  | ok v =>
      obtain ⟨hconnection, hstatus⟩ := hresponse h fun _ => status_of_respond
      exact ⟨hconnection, .inl ⟨v, rfl, hstatus⟩⟩
  | error e =>
      cases e with
      | bridge e =>
          obtain ⟨hconnection, hstatus⟩ := hresponse h fun response hreject => by
            rw [reject, Op.answer_bind_ok (a := ()) rfl] at hreject
            exact status_of_respond hreject
          exact ⟨hconnection, .inr ⟨e, rfl, hstatus⟩⟩
      | _ => exact absurd h (by simp [conclude])

/-- What is answered for a failure has the status of an error. -/
theorem status_of_conclude_error {e : Failure} {a : Answer}
    (h : ((conclude id r body (.error e)).run t).answer = .ok a) : 400 ≤ a.response.status := by
  obtain ⟨-, ⟨v, hv, -⟩ | ⟨f, -, hstatus⟩⟩ := answer_of_conclude h
  · exact absurd hv (by simp)
  · rw [hstatus]
    cases f <;> simp [BridgeError.status]

/-- A result that can be sent is told. -/
theorem Reply.Tells.of_sendable {a : α}
    (htells : reply.Tells ((conclude id r body (.ok a)).run t).answer)
    (h : (body a).shown.Sendable) :
    reply.response.status = 200 ∧ (body a).shown.writeCompact? = .ok reply.response.body := by
  obtain ⟨text, hwrite, htext⟩ := respond_of_sendable (σ := σ) 200 h
  rw [conclude, Op.answer_bind_ok (htext t)] at htells
  exact ⟨htells.1, hwrite.trans (congrArg _ htells.2.symm)⟩

/-- For one that cannot be sent, an internal error is told. -/
theorem Reply.Tells.of_not_sendable {a : α}
    (htells : reply.Tells ((conclude id r body (.ok a)).run t).answer)
    (h : ¬ (body a).shown.Sendable) : reply.response.status = 500 := by
  obtain ⟨e, he⟩ := respond_of_not_sendable 200 h t
  rw [conclude, Op.answer_bind_error he] at htells
  exact htells.1

/-- A reply tells of an error unless there is an answer with another status. -/
theorem Reply.Tells.error_le {x : Except Failure Answer} (htells : reply.Tells x)
    (h : ∀ a, x = .ok a → 400 ≤ a.response.status) : 400 ≤ reply.response.status := by
  cases x with
  | error e => exact htells.1 ▸ (by decide)
  | ok a => exact htells.1 ▸ h a rfl

end Conclude

/-- An error that was found before anything was asked has the status it was to have. -/
theorem status_of_refuse {σ : Type} {status : Nat} {code : ErrorCode} {message : String}
    {details : Details} {t : σ} {a : Answer}
    (h : ((do return ⟨← refuse id status code message details, none⟩ : Op σ Answer).run t).answer =
      .ok a) : a.response.status = status := by
  cases hrefuse : ((refuse (σ := σ) id status code message details).run t).answer with
  | error e =>
      rw [Op.answer_bind_error hrefuse] at h
      exact absurd h (by simp)
  | ok response =>
      rw [Op.answer_bind_ok hrefuse] at h
      rw [← Except.ok.inj h]
      exact status_of_respond hrefuse

/-! ## Tool calls -/

/-- A tool call over HTTP ends with what the bridge answered, whatever happened while its
acknowledgement was waited for, and leaves the counters as the bridge does. -/
theorem service_callTool (now : Timestamp) (name : String) (args : Json) (s : Service) :
    (∀ x, Op.Ends ((Service.callTool now name args).run s).answer x →
      x = (((Call.callTool name args).run now).run s.bridge).answer) ∧
    ((Service.callTool now name args).run s).state.bridge =
      (((Call.callTool name args).run now).run s.bridge).state := by
  have hbridge : ((Service.onBridge (Bridge.callTool now name args)).run s).answer =
      (((Call.callTool name args).run now).run s.bridge).answer := rfl
  cases hcall : (((Call.callTool name args).run now).run s.bridge).answer with
  | error e =>
      rw [hcall] at hbridge
      rw [Service.callTool, Op.answer_bind_error hbridge, Op.state_bind_error hbridge]
      exact ⟨fun x hx => by cases hx; rfl, rfl⟩
  | ok response =>
      rw [hcall] at hbridge
      rw [Service.callTool, Op.answer_bind_ok hbridge, Op.state_bind_ok hbridge,
        Op.answer_bind_ok (x := Op.get) rfl, Op.state_bind_ok (x := Op.get) rfl]
      split
      · exact ⟨fun x hx => by cases hx; rfl, rfl⟩
      · exact ⟨fun x hx => by cases hx; rfl, rfl⟩

/-- What a tool call comes to, for a body that can be read. -/
theorem ends_callTool {name : String} {args : Json} {a : Except Failure Answer}
    (hargs : toolArguments s.nesting r.body = .ok args)
    (h : Op.Ends ((callTool now id r name).run s).answer a) :
    ∃ t : Service, a = ((conclude id r CommandBridge.Response.toBody
      (((Call.callTool name args).run now).run s.bridge).answer).run t).answer := by
  rw [callTool, Op.run_get_bind, hargs] at h
  obtain ⟨x, t, hx, ha⟩ := h.of_onceOver
  rw [ha, (service_callTool now name args s).1 x hx]
  exact ⟨t, rfl⟩

/-- What a tool call comes to is an error if its command is not accepted. -/
theorem ends_callTool_of_not_accepted {name : String} {a : Answer}
    (hcap : s.results.capacity = m)
    (hnot : ∀ args, toolArguments s.nesting r.body = .ok args →
      ¬ (Call.callTool name args).Accepted now s.bridge)
    (h : Op.Ends ((callTool now id r name).run s).answer (.ok a)) : 400 ≤ a.response.status := by
  cases hargs : toolArguments s.nesting r.body with
  | ok args =>
      obtain ⟨t, ht⟩ := ends_callTool hargs h
      obtain ⟨⟨e, he⟩, -⟩ := Call.run_of_not_accepted (hnot args hargs) hcap
      rw [he] at ht
      exact status_of_conclude_error ht.symm
  | error e =>
      rw [callTool, Op.run_get_bind, hargs] at h
      cases e with
      | notJson => rw [status_of_refuse h.of_atOnce.symm]
      | failure e => cases h

/-- The counters after a tool call: only an accepted command is counted. -/
theorem dispatched_callTool (hcap : s.results.capacity = m) (now : Timestamp) (id : String)
    (r : Request) (name : String) :
    (∀ args, toolArguments s.nesting r.body = .ok args →
      (Call.callTool name args).Accepted now s.bridge →
      ((callTool now id r name).run s).state.bridge.stats = s.bridge.stats.count .callTool) ∧
    ((∀ args, toolArguments s.nesting r.body = .ok args →
        ¬ (Call.callTool name args).Accepted now s.bridge) →
      ((callTool now id r name).run s).state.bridge.stats.dispatched =
        s.bridge.stats.dispatched) := by
  have hcall : ∀ {P : DispatchStats → Prop} {args : Json},
      toolArguments s.nesting r.body = .ok args →
      P (((Call.callTool name args).run now).run s.bridge).state.stats →
      P ((callTool now id r name).run s).state.bridge.stats := by
    intro P args hargs hP
    rw [callTool, Op.run_get_bind, hargs]
    refine Op.state_onceOver (P := fun s : Service => P s.bridge.stats) ?_ fun x =>
      keeps_conclude _ _ _ _
    rwa [(service_callTool now name args s).2]
  constructor
  · intro args hargs haccepted
    exact hcall (P := (· = s.bridge.stats.count .callTool)) hargs (haccepted.run hcap).2
  · intro hnot
    cases hargs : toolArguments s.nesting r.body with
    | ok args =>
        exact hcall (P := fun d => d.dispatched = s.bridge.stats.dispatched) hargs
          (Call.run_of_not_accepted (hnot args hargs) hcap).2
    | error e =>
        rw [callTool, Op.run_get_bind, hargs]
        cases e with
        | notJson =>
            have hkeeps : (do
                return ⟨← refuse id 400 .inputNotJson "Invalid JSON body" [("tool", .string name)],
                  none⟩ : Op Service Answer).Keeps fun t =>
                t.bridge.stats.dispatched = s.bridge.stats.dispatched :=
              .bind (keeps_respond _ _) fun _ => .pure _
            exact hkeeps.bind (fun _ => .pure _) s rfl
        | failure e => rfl

/-! ## Publications -/

/-- A request stores a record: its body is a publication, whose ticket the result channel finds. -/
def Stores (now : Timestamp) (r : Request) (ticket : String) (s : Service) (x : Record) : Prop :=
  ∃ p, publication s.nesting (r.header? "content-type") r.body = .ok p ∧
    incoming? now ticket (.string p.status.text) p.result s.results = some x

variable {ticket : String}

/-- A request stores one record at most. -/
theorem Stores.unique {x x' : Record} (h : Stores now r ticket s x)
    (h' : Stores now r ticket s x') : x = x' := by
  obtain ⟨p, hp, hx⟩ := h
  obtain ⟨p', hp', hx'⟩ := h'
  obtain rfl := Except.ok.inj (hp.symm.trans hp')
  exact Option.some.inj (hx.symm.trans hx')

/-- A record that is stored is that of the ticket, if Redis holds nothing else under the ticket, and
has the outcome that was sent. -/
theorem Stores.outcome {x : Record} (h : Stores now r ticket s x) :
    (∃ p, publication s.nesting (r.header? "content-type") r.body = .ok p ∧
      x.status = p.status ∧ x.result = p.result) ∧
    ((∀ text, s.results.redis.lookup (redisKey ticket) = some text →
      ∃ stored : Record, text = stored.toBody.write ∧ stored.ticket = ticket) →
      x.ticket = ticket) := by
  obtain ⟨p, hp, hincoming⟩ := h
  obtain ⟨current, status, hget, hstatus, rfl⟩ := exists_of_incoming? hincoming
  rw [ResultStatus.ofJson?_text] at hstatus
  refine ⟨⟨p, hp, (Option.some.inj hstatus).symm, rfl⟩, fun hredis => ?_⟩
  show current.ticket = ticket
  cases shown_of_get hget with
  | cached hmem hticket => exact hticket
  | @stored now text hconn hlookup hread =>
      obtain ⟨stored, rfl, rfl⟩ := hredis text hlookup
      obtain ⟨result, rfl⟩ := exists_of_readStored_write hread
      rfl

/-- What a publication comes to and leaves, for a body that can be read. -/
theorem publishResult_run (now : Timestamp) (id : String) (s : Service) (ticket : String)
    {p : PublishRequest} (hp : publication s.nesting (r.header? "content-type") r.body = .ok p) :
    (∃ t : Service, ((publishResult now id r ticket).run s).answer =
      ((conclude id r (fun body => body)
        ((publishBody now ticket p.status p.result).run s.results).answer).run t).answer) ∧
    ((publishResult now id r ticket).run s).state.results =
      ((publishOutcome now ticket p.status p.result).run s.results).state := by
  rw [publishResult, Op.run_get_bind, hp]
  refine ⟨⟨_, Op.answer_bind_ok rfl⟩, ?_⟩
  dsimp only
  rw [answering, Op.state_bind_ok rfl, ← publishBody_state]
  exact keeps_conclude (P := fun t : Service => t.results =
    ((publishBody now ticket p.status p.result).run s.results).state) _ _ _ _ _ rfl

/-- Any other publication comes to an error and changes nothing. -/
theorem publishResult_of_error {e : PublishBodyError}
    (he : publication s.nesting (r.header? "content-type") r.body = .error e) :
    (∀ a, ((publishResult now id r ticket).run s).answer = .ok a → 400 ≤ a.response.status) ∧
    ((publishResult now id r ticket).run s).state = s := by
  rw [publishResult, Op.run_get_bind, he]
  cases e with
  | unparsable =>
      refine ⟨fun a ha => ?_, ?_⟩
      · rw [status_of_refuse ha]
      · exact Op.Keeps.bind (P := (· = s)) (keeps_respond _ _) (fun _ => .pure _) s rfl
  | invalid es =>
      refine ⟨fun a ha => ?_, ?_⟩
      · rw [status_of_refuse ha]
      · exact Op.Keeps.bind (P := (· = s)) (keeps_respond _ _) (fun _ => .pure _) s rfl
  | failure e => exact ⟨fun a ha => absurd ha (by simp), rfl⟩

/-- The body of a record is shown but for what is kept back of its result. -/
theorem sendable_record {x : Record} : x.toBody.shown.Sendable ↔ Json.Scalar x.result.shown := by
  have hbody : x.toBody = .object [("ticket", .string x.ticket), ("kind", .string x.kind.text),
      ("target", .string x.target), ("status", .string x.status.text),
      ("result", x.result.finiteOnly), ("updated_at", .string x.updatedAt)] := rfl
  have hresult : x.result.finiteOnly.shown.Sendable ↔ Json.Scalar x.result.shown := by
    rw [Json.shown_finiteOnly]
    exact ⟨fun h => (Json.scalar_finiteOnly _).mp h.scalar, fun h =>
      ⟨(Json.scalar_finiteOnly _).mpr h, Json.finiteOnly_finiteOnly _⟩⟩
  rw [hbody, Json.shown_object, Json.sendable_object, ← hresult]
  · simp
  · simp only [List.mem_cons, List.not_mem_nil, or_false, forall_eq_or_imp, forall_eq]
    decide

/-! ## Replies -/

/-- A request calls a tool with a command that the attached instance accepts. -/
def Dispatches (now : Timestamp) (r : Request) (name : String) (b : Bridge) : Prop :=
  ∃ args, toolArguments b.host.nesting r.body = .ok args ∧
    (Call.callTool name args).Accepted now b

/-- What the reply to a tool call tells. -/
structure ToolReply (now : Timestamp) (r : Request) (name : String) (s : Service)
    (reply : Reply) : Prop where
  /-- Status 200 tells that a command was accepted, and is told unless the arguments cannot be
  sent. -/
  acknowledged : reply.response.status = 200 ↔ ∃ args,
    toolArguments s.nesting r.body = .ok args ∧
    (Call.callTool name args).Accepted now s.bridge ∧ args.shown.Sendable
  /-- The ticket of the command is told with it. -/
  ticket : reply.response.status = 200 → ∃ args, ∃ body : Json,
    toolArguments s.nesting r.body = .ok args ∧
    body.get? "ticket" = some (.string ((Call.callTool name args).command now s.bridge).ticket) ∧
    body.writeCompact? = .ok reply.response.body
  /-- Every other status is that of an error. -/
  error : reply.response.status ≠ 200 → 400 ≤ reply.response.status
  /-- An error that is not an internal one tells that no command was accepted. -/
  retriable : reply.response.status ≠ 200 → reply.response.status < 500 →
    ¬ Dispatches now r name s.bridge
  /-- The counter of dispatches tells whether a command was accepted. -/
  counted : Dispatches now r name s.bridge →
    ((handle now r).run s).state.bridge.stats = s.bridge.stats.count .callTool
  /-- It tells as well that none was. -/
  uncounted : ¬ Dispatches now r name s.bridge →
    ((handle now r).run s).state.bridge.stats.dispatched = s.bridge.stats.dispatched

/-- What the reply to a publication tells. -/
structure PublicationReply (now : Timestamp) (r : Request) (ticket : String) (s : Service)
    (reply : Reply) : Prop where
  /-- Status 200 tells that an outcome was stored, and is told unless the record has no body or the
  result cannot be sent. -/
  acknowledged : reply.response.status = 200 ↔
    ∃ x, Stores now r ticket s x ∧ x.Dumpable ∧ Json.Scalar x.result.shown
  /-- The record is told with it. -/
  record : reply.response.status = 200 → ∃ x, Stores now r ticket s x ∧
    x.toBody.shown.writeCompact? = .ok reply.response.body
  /-- Every other status is that of an error. -/
  error : reply.response.status ≠ 200 → 400 ≤ reply.response.status
  /-- An error that is not an internal one tells that no outcome was stored. -/
  retriable : reply.response.status ≠ 200 → reply.response.status < 500 →
    ∀ x, ¬ Stores now r ticket s x
  /-- What is stored is the outcome that was sent, and it is stored on the ticket, if Redis holds
  nothing else under the ticket. -/
  outcome : ∀ x, Stores now r ticket s x →
    (∃ p, publication s.nesting (r.header? "content-type") r.body = .ok p ∧
      x.status = p.status ∧ x.result = p.result) ∧
    ((∀ text, s.results.redis.lookup (redisKey ticket) = some text →
      ∃ stored : Record, text = stored.toBody.write ∧ stored.ticket = ticket) →
      x.ticket = ticket)
  /-- What is stored is in the map when the endpoint is done. -/
  stored : ∀ id x, Stores now r ticket s x →
    find? x.ticket ((publishResult now id r ticket).run s).state.results.records = some x
  /-- If nothing is stored, the map is what it was. -/
  unstored : (∀ x, ¬ Stores now r ticket s x) → ∀ id,
    ((publishResult now id r ticket).run s).state.results.records = s.results.records

/-- A request that leads to an endpoint by posting is no preflight. -/
theorem isPreflight_of_post (h : r.method = "POST") : r.isPreflight = false := by
  simp [Request.isPreflight, h]

/-- The three ends of a tool call, in what is replied: its command is accepted and that can be told,
or cannot be told, or no command is accepted. -/
theorem reply_callTool {name : String} {a : Except Failure Answer} {reply : Reply}
    (hcap : s.results.capacity = m) (ha : Op.Ends ((callTool now id r name).run s).answer a)
    (htells : reply.Tells a) :
    (∃ args, toolArguments s.nesting r.body = .ok args ∧
      (Call.callTool name args).Accepted now s.bridge ∧ args.shown.Sendable ∧
      reply.response.status = 200 ∧
      ((Call.callTool name args).response
        ((Call.callTool name args).command now s.bridge)).toBody.shown.writeCompact? =
          .ok reply.response.body) ∨
    (∃ args, toolArguments s.nesting r.body = .ok args ∧
      (Call.callTool name args).Accepted now s.bridge ∧ ¬ args.shown.Sendable ∧
      reply.response.status = 500) ∨
    (¬ Dispatches now r name s.bridge ∧ 400 ≤ reply.response.status) := by
  by_cases h : Dispatches now r name s.bridge
  · obtain ⟨args, hargs, haccepted⟩ := h
    obtain ⟨t, rfl⟩ := ends_callTool hargs ha
    rw [(haccepted.run hcap).1] at htells
    by_cases hsendable : args.shown.Sendable
    · have htold := htells.of_sendable (Call.sendable_response_callTool.mpr hsendable)
      exact .inl ⟨args, hargs, haccepted, hsendable, htold.1, htold.2⟩
    · have htold := htells.of_not_sendable (mt Call.sendable_response_callTool.mp hsendable)
      exact .inr (.inl ⟨args, hargs, haccepted, hsendable, htold⟩)
  · refine .inr (.inr ⟨h, htells.error_le fun a' ha' => ?_⟩)
    subst ha'
    exact ends_callTool_of_not_accepted hcap (fun args hargs hacc => h ⟨args, hargs, hacc⟩) ha

theorem exists_toolReply {y : Except Failure Reply} {name : String} (hcap : s.results.capacity = m)
    (hdest : destination r.method r.path = .endpoint (.callTool name))
    (hy : Op.Ends ((handle now r).run s).answer y) :
    ∃ reply, y = .ok reply ∧ ToolReply now r name s reply := by
  have hr := isPreflight_of_post (destination_callTool.mp hdest).1
  have hanswer : ∀ id, answer now id r = callTool now id r name := fun id => by
    rw [answer, hdest]
    rfl
  obtain ⟨id, requests, a, reply, rfl, htells, ha⟩ := exists_reply hr hy
  rw [hanswer] at ha
  have hends := reply_callTool (s := { s with requests := requests }) hcap ha htells
  refine ⟨reply, rfl, ?_, ?_, ?_, ?_, ?_, ?_⟩
  · constructor
    · intro hstatus
      rcases hends with ⟨args, hargs, haccepted, hsendable, -, -⟩ | ⟨args, -, -, -, hother⟩ |
        ⟨-, hother⟩
      · exact ⟨args, hargs, haccepted, hsendable⟩
      · omega
      · omega
    · rintro ⟨args, hargs, haccepted, hsendable⟩
      rcases hends with ⟨args', -, -, -, hstatus, -⟩ | ⟨args', hargs', -, hunsendable, -⟩ |
        ⟨hnot, -⟩
      · exact hstatus
      · obtain rfl := Except.ok.inj (hargs.symm.trans hargs')
        exact absurd hsendable hunsendable
      · exact absurd ⟨args, hargs, haccepted⟩ hnot
  · intro hstatus
    rcases hends with ⟨args, hargs, -, -, -, hwrite⟩ | ⟨args, -, -, -, hother⟩ | ⟨-, hother⟩
    · exact ⟨args, _, hargs, Call.ticket_response_callTool _ _ _, hwrite⟩
    · omega
    · omega
  · intro hstatus
    rcases hends with ⟨args, -, -, -, hother, -⟩ | ⟨args, -, -, -, hother⟩ | ⟨-, hother⟩ <;> omega
  · intro hstatus hlt
    rcases hends with ⟨args, -, -, -, hother, -⟩ | ⟨args, -, -, -, hother⟩ | ⟨hnot, -⟩
    · omega
    · omega
    · exact hnot
  · rintro ⟨args, hargs, haccepted⟩
    refine stats_handle (P := (· = s.bridge.stats.count .callTool)) hr fun id requests => ?_
    rw [hanswer]
    exact (dispatched_callTool (s := { s with requests := requests }) hcap now id r name).1 args
      hargs haccepted
  · intro hnot
    refine stats_handle (P := fun d => d.dispatched = s.bridge.stats.dispatched) hr
      fun id requests => ?_
    rw [hanswer]
    exact (dispatched_callTool (s := { s with requests := requests }) hcap now id r name).2
      fun args hargs haccepted => hnot ⟨args, hargs, haccepted⟩

/-- The three ends of a publication, in what is replied: it is stored and that can be told, or
cannot be told, or nothing is stored. -/
theorem reply_publishResult {a : Except Failure Answer} {reply : Reply}
    (hcap : s.results.capacity = m) (ha : a = ((publishResult now id r ticket).run s).answer)
    (htells : reply.Tells a) :
    (∃ x, Stores now r ticket s x ∧ x.Dumpable ∧ Json.Scalar x.result.shown ∧
      reply.response.status = 200 ∧ x.toBody.shown.writeCompact? = .ok reply.response.body) ∨
    (∃ x, Stores now r ticket s x ∧ ¬ (x.Dumpable ∧ Json.Scalar x.result.shown) ∧
      reply.response.status = 500) ∨
    ((∀ x, ¬ Stores now r ticket s x) ∧ 400 ≤ reply.response.status) := by
  cases hp : publication s.nesting (r.header? "content-type") r.body with
  | error e =>
      exact .inr (.inr ⟨fun x ⟨p, hp', _⟩ => by simp [hp] at hp',
        htells.error_le fun a' ha' => (publishResult_of_error hp).1 a' (ha.symm.trans ha')⟩)
  | ok p =>
      obtain ⟨t, ht⟩ := (publishResult_run now id s ticket hp).1
      rw [ha, ht] at htells
      cases hincoming : incoming? now ticket (.string p.status.text) p.result s.results with
      | none =>
          rw [publishBody_answer_of_none hincoming] at htells
          refine .inr (.inr ⟨fun x ⟨p', hp', hx⟩ => ?_,
            htells.error_le fun _ => status_of_conclude_error⟩)
          obtain rfl := Except.ok.inj (hp.symm.trans hp')
          simp [hincoming] at hx
      | some x =>
          have hstores : Stores now r ticket s x := ⟨p, hp, hincoming⟩
          rw [publishBody_answer hcap hincoming] at htells
          by_cases hdump : x.Dumpable
          · rw [Record.dump_of_dumpable hdump] at htells
            by_cases hscalar : Json.Scalar x.result.shown
            · have htold := htells.of_sendable (sendable_record.mpr hscalar)
              exact .inl ⟨x, hstores, hdump, hscalar, htold.1, htold.2⟩
            · have htold := htells.of_not_sendable (mt sendable_record.mp hscalar)
              exact .inr (.inl ⟨x, hstores, fun h => hscalar h.2, htold⟩)
          · obtain ⟨f, -, hf⟩ := Record.dump_of_not_dumpable hdump
            rw [hf] at htells
            exact .inr (.inl ⟨x, hstores, fun h => hdump h.1, htells.1⟩)

theorem exists_publicationReply {y : Except Failure Reply} (hm : 1 ≤ m)
    (hcap : s.results.capacity = m)
    (hdest : destination r.method r.path = .endpoint (.publishResult ticket))
    (hy : Op.Ends ((handle now r).run s).answer y) :
    ∃ reply, y = .ok reply ∧ PublicationReply now r ticket s reply := by
  have hr := isPreflight_of_post (destination_publishResult.mp hdest).1
  obtain ⟨id, requests, a, reply, rfl, htells, ha⟩ := exists_reply hr hy
  have hanswer : answer now id r = Op.atOnce (publishResult now id r ticket) := by
    rw [answer, hdest]
    rfl
  rw [hanswer] at ha
  have hends := reply_publishResult (s := { s with requests := requests }) hcap ha.of_atOnce htells
  refine ⟨reply, rfl, ?_, ?_, ?_, ?_, fun x hx => hx.outcome, ?_, ?_⟩
  · constructor
    · intro hstatus
      rcases hends with ⟨x, hx, hdump, hscalar, -, -⟩ | ⟨x, -, -, hother⟩ | ⟨-, hother⟩
      · exact ⟨x, hx, hdump, hscalar⟩
      · omega
      · omega
    · rintro ⟨x, hx, htellable⟩
      rcases hends with ⟨x', -, -, -, hstatus, -⟩ | ⟨x', hx', hnot, -⟩ | ⟨hnot, -⟩
      · exact hstatus
      · exact absurd (hx'.unique hx ▸ htellable) hnot
      · exact absurd hx (hnot x)
  · intro hstatus
    rcases hends with ⟨x, hx, -, -, -, hwrite⟩ | ⟨x, -, -, hother⟩ | ⟨-, hother⟩
    · exact ⟨x, hx, hwrite⟩
    · omega
    · omega
  · intro hstatus
    rcases hends with ⟨x, -, -, -, hother, -⟩ | ⟨x, -, -, hother⟩ | ⟨-, hother⟩ <;> omega
  · intro hstatus hlt
    rcases hends with ⟨x, -, -, -, hother, -⟩ | ⟨x, -, -, hother⟩ | ⟨hnot, -⟩
    · omega
    · omega
    · exact hnot
  · rintro id x ⟨p, hp, hincoming⟩
    rw [(publishResult_run _ _ _ _ hp).2, publishOutcome, publish_state hcap hincoming]
    exact find?_kept hm _ _
  · intro hnot id
    cases hp : publication s.nesting (r.header? "content-type") r.body with
    | error e => rw [(publishResult_of_error hp).2]
    | ok p =>
        rw [(publishResult_run _ _ _ _ hp).2]
        cases hincoming : incoming? now ticket (.string p.status.text) p.result s.results with
        | some x => exact absurd ⟨p, hp, hincoming⟩ (hnot x)
        | none => rw [publishOutcome, publish_state_of_none hincoming]

/-- What replies tell about what was done: see `ToolReply` and `PublicationReply`.  Handling a
request comes to an end, and every end of one that leads to one of the two endpoints is a reply. -/
theorem replies_tell_what_was_done (now : Timestamp) (r : Request) {s : Service}
    (hcap : 1 ≤ s.results.capacity) :
    (∃ y, Op.Ends ((handle now r).run s).answer y) ∧
    ∀ y, Op.Ends ((handle now r).run s).answer y →
      (∀ name, destination r.method r.path = .endpoint (.callTool name) →
        ∃ reply, y = .ok reply ∧ ToolReply now r name s reply) ∧
      ∀ ticket, destination r.method r.path = .endpoint (.publishResult ticket) →
        ∃ reply, y = .ok reply ∧ PublicationReply now r ticket s reply := by
  obtain ⟨m, hm⟩ : ∃ m : Nat, s.results.capacity = m := ⟨s.results.capacity.toNat, by omega⟩
  exact ⟨Op.exists_ends _ s, fun y hy => ⟨fun name hdest => exists_toolReply hm hdest hy,
    fun ticket hdest => exists_publicationReply (by omega) hm hdest hy⟩⟩

/-- A service with an attached instance that accepts everything. -/
def attentive : Service :=
  { bridge :=
      { attached := some 0
        host := { instances := [{}], results := { capacity := 2, ttl := 60 } } } }

/-- A request that calls the tool `echo`. -/
def echoing (body : String) : Request :=
  ⟨"POST", "/mcp/tools/echo", some "/mcp/tools/echo", "", [], Utf8.encode body⟩

theorem destination_echoing (body : String) :
    destination (echoing body).method (echoing body).path = .endpoint (.callTool "echo") :=
  destination_callTool.mpr ⟨rfl, show "/mcp/tools/echo" = _ by decide, by decide, by decide⟩

theorem accepted_attentive (args : Json) :
    (Call.callTool "echo" args).Accepted ⟨0⟩ attentive.bridge :=
  ⟨rfl, 0, rfl, rfl, .accept, rfl, rfl⟩

/-- A call that can be told about is told about. -/
theorem replies_tell_what_was_done_echoing :
    1 ≤ attentive.results.capacity ∧
    destination (echoing "[1]").method (echoing "[1]").path = .endpoint (.callTool "echo") ∧
    ∃ reply, Op.Ends ((handle ⟨0⟩ (echoing "[1]")).run attentive).answer (.ok reply) ∧
      reply.response.status = 200 := by
  have hcap : 1 ≤ attentive.results.capacity := by decide
  have hargs : toolArguments attentive.nesting (echoing "[1]").body = .ok (.arr [.int 1]) := by
    decide +kernel
  have hsendable : (Json.arr [.int 1]).shown.Sendable := (Json.isOk_writeCompact? _).mp (by decide)
  obtain ⟨⟨y, hy⟩, hends⟩ := replies_tell_what_was_done ⟨0⟩ (echoing "[1]") hcap
  obtain ⟨reply, rfl, htells⟩ := (hends y hy).1 "echo" (destination_echoing _)
  exact ⟨hcap, destination_echoing _, reply, hy,
    htells.acknowledged.mpr ⟨_, hargs, accepted_attentive _, hsendable⟩⟩

/-- A command with `NaN` in its arguments is accepted, and answered with an internal error. -/
theorem accepted_and_not_acknowledged :
    destination (echoing "NaN").method (echoing "NaN").path = .endpoint (.callTool "echo") ∧
    Dispatches ⟨0⟩ (echoing "NaN") "echo" attentive.bridge ∧
    ∀ y, Op.Ends ((handle ⟨0⟩ (echoing "NaN")).run attentive).answer y →
      ∃ reply, y = .ok reply ∧ 500 ≤ reply.response.status := by
  have hargs : toolArguments attentive.nesting (echoing "NaN").body = .ok (.float .nan) := by
    decide +kernel
  have hunsendable : ¬ (Json.float .nan).shown.Sendable :=
    mt (Json.isOk_writeCompact? _).mpr (by decide)
  have hdispatches : Dispatches ⟨0⟩ (echoing "NaN") "echo" attentive.bridge :=
    ⟨_, hargs, accepted_attentive _⟩
  refine ⟨destination_echoing _, hdispatches, fun y hy => ?_⟩
  obtain ⟨reply, hreply, htells⟩ := exists_toolReply (m := 2) rfl (destination_echoing _) hy
  refine ⟨reply, hreply, ?_⟩
  have hstatus : reply.response.status ≠ 200 := by
    intro h
    obtain ⟨args, hargs', -, hsendable⟩ := htells.acknowledged.mp h
    obtain rfl := Except.ok.inj (hargs.symm.trans hargs')
    exact hunsendable hsendable
  by_contra hlt
  exact htells.retriable hstatus (by omega) hdispatches

/-- A service on which a command has been handed over under the ticket `t`. -/
def awaiting : Service :=
  { bridge := { host := { results := {
      capacity := 2
      ttl := 60
      records := [⟨"t", .callTool, "echo", .pending, .null, ""⟩] } } } }

/-- A request that publishes on the ticket `t`. -/
def publishing (body : String) : Request :=
  ⟨"POST", "/mcp/results/t", some "/mcp/results/t", "", [("content-type", "application/json")],
    Utf8.encode body⟩

theorem destination_publishing (body : String) :
    destination (publishing body).method (publishing body).path = .endpoint (.publishResult "t") :=
  destination_publishResult.mpr ⟨rfl, show "/mcp/results/t" = _ by decide, by decide, by decide⟩

/-- A result with a lone surrogate is stored, and answered with an internal error. -/
theorem stored_and_not_acknowledged :
    let r := publishing "\x7b\"result\": \"\\ud800\"\x7d"
    destination r.method r.path = .endpoint (.publishResult "t") ∧
    Stores ⟨0⟩ r "t" awaiting
      ⟨"t", .callTool, "echo", .success, .str [.surrogate 0], Timestamp.text ⟨0⟩⟩ ∧
    ∀ y, Op.Ends ((handle ⟨0⟩ r).run awaiting).answer y →
      ∃ reply, y = .ok reply ∧ 400 ≤ reply.response.status := by
  intro r
  have hstores : Stores ⟨0⟩ r "t" awaiting
      ⟨"t", .callTool, "echo", .success, .str [.surrogate 0], Timestamp.text ⟨0⟩⟩ :=
    ⟨⟨.success, .str [.surrogate 0]⟩, by decide +kernel, by decide +kernel⟩
  refine ⟨destination_publishing _, hstores, fun y hy => ?_⟩
  obtain ⟨reply, hreply, htells⟩ :=
    exists_publicationReply (m := 2) (by decide) rfl (destination_publishing _) hy
  refine ⟨reply, hreply, htells.error fun hstatus => ?_⟩
  obtain ⟨x, hx, -, hscalar⟩ := htells.acknowledged.mp hstatus
  obtain rfl := hstores.unique hx
  cases hscalar with
  | str h =>
      obtain ⟨c, hc⟩ := h (.surrogate 0) (by simp)
      exact absurd hc (by simp)

end Http

end CommandBridge
