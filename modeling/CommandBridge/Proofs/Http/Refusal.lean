import CommandBridge.Proofs.Dispatch.Failures
import CommandBridge.Proofs.Http.Acknowledgement
import CommandBridge.Proofs.Http.Uniform
import CommandBridge.Proofs.Service.Rest

/-!
# CommandBridge.Proofs.Http.Refusal

Requests that are refused, which is to be answered with a status from 400 to 499.  Such a request
leaves a service that is at rest as it was, but for what is counted about requests and what was
asked of Redis (`handle_refused`).

What each endpoint leaves in that case is said by one lemma (`Traceless`).  A call is refused for an
empty name only: every other failure of a call has another status, unless so much was stored while
its command was delivered that the command is forgotten (`Forgotten`).
-/

namespace CommandBridge

open ResultChannel

/-! ## Services that agree -/

namespace Service

/-- Services that agree in everything but how many requests were received, how many ids were
generated, and which calls Redis was given and is going to fail. -/
def Agree (s t : Service) : Prop :=
  ∃ redis requests, redis.entries = s.results.redis.entries ∧
    requests.failed = s.requests.failed ∧
    t = { s with
      bridge := s.bridge.withResults { s.results with redis := redis }
      requests := requests }

namespace Agree

variable {s t u : Service}

theorem refl (s : Service) : s.Agree s := ⟨_, _, rfl, rfl, rfl⟩

theorem symm (h : s.Agree t) : t.Agree s := by
  obtain ⟨redis, requests, hentries, hfailed, rfl⟩ := h
  exact ⟨s.results.redis, s.requests, hentries.symm, hfailed.symm, rfl⟩

theorem trans (h : s.Agree t) (h' : t.Agree u) : s.Agree u := by
  obtain ⟨redis, requests, hentries, hfailed, rfl⟩ := h
  obtain ⟨redis', requests', hentries', hfailed', rfl⟩ := h'
  exact ⟨redis', requests', hentries'.trans hentries, hfailed'.trans hfailed, rfl⟩

/-- Services that agree are at rest together. -/
theorem atRest (h : s.Agree t) (hs : s.AtRest) : t.AtRest := by
  obtain ⟨redis, requests, -, -, rfl⟩ := h
  exact ⟨hs.hungUp, hs.collected⟩

theorem capacity_eq (h : s.Agree t) : t.results.capacity = s.results.capacity := by
  obtain ⟨redis, requests, -, -, rfl⟩ := h
  rfl

end Agree

/-- What is asked of Redis for a ticket leaves what it holds. -/
theorem agree_consulted (s : Service) (ticket : String) :
    s.Agree { s with
      bridge := s.bridge.withResults { s.results with redis := consulted ticket s.results } } := by
  refine ⟨_, _, ?_, rfl, rfl⟩
  unfold consulted
  split
  · rw [Redis.get_state]
  · rfl

/-- An operation on the channel changes the channel. -/
theorem onResults_state {α : Type} (x : Op ResultChannel α) (s : Service) :
    ((onResults x).run s).state =
      { s with bridge := s.bridge.withResults (x.run s.results).state } := rfl

/-- An operation on the bridge that leaves the bridge leaves the service. -/
theorem onBridge_state {α : Type} {x : Op Bridge α} {s : Service}
    (h : (x.run s.bridge).state = s.bridge) : ((onBridge x).run s).state = s := by
  show { s with bridge := (x.run s.bridge).state } = s
  rw [h]

end Service

/-! ## Calls that are refused -/

/-- A failure of the bridge that is told with the status of a refusal. -/
def Failure.IsRefusal (e : Failure) : Prop :=
  ∃ f : BridgeError, e = .bridge f ∧ 400 ≤ f.status ∧ f.status ≤ 499

namespace Call

variable {call : Call} {now : Timestamp} {b : Bridge} {m : Nat}

/-- The command of a call was delivered and not taken, and its record is gone by then, so that the
reason cannot be recorded. -/
def Forgotten (call : Call) (now : Timestamp) (b : Bridge) : Prop :=
  call.nameless? = none ∧ ∃ i detail e, b.attached = some i ∧
    ((Bridge.ensureOpen i).run b).answer = .ok () ∧
    Bridge.refused? (call.delivered now i b) = some detail ∧
    (Bridge.rejection now (call.command now b) detail (call.delivered now i b).state).answer =
      .error e

/-- A command is not forgotten while fewer others are stored than the map can hold records. -/
theorem not_forgotten_of_few (hm : 1 ≤ m) (hcap : b.host.results.capacity = m)
    (hfew : ∀ i, b.attached = some i → ∃ steps, (call.delivered now i b).state.results =
      runAll steps (call.channelAtDelivery now i b) ∧ (call.othersStored now i b steps).card < m) :
    ¬ call.Forgotten now b := by
  rintro ⟨-, i, detail, e, hi, -, -, he⟩
  obtain ⟨steps, hrun, hfew⟩ := hfew i hi
  obtain ⟨hcap', current, hcurrent⟩ := exists_record_of_delivered hm hcap hrun hfew
  obtain ⟨hpublished, -⟩ := publishOutcome_of_find? now .error hm hcap' hcurrent
    (Bridge.dumpable_errorResult detail)
  rw [Bridge.rejection, hpublished] at he
  exact absurd he (by simp)

/-- A callback or a file queue stores nothing while it takes a command. -/
theorem not_forgotten_of_silent (hm : 1 ≤ m) (hcap : b.host.results.capacity = m)
    (hs : ∀ i, b.attached = some i → b.host.Silent i) : ¬ call.Forgotten now b := by
  refine not_forgotten_of_few hm hcap fun i hi => ?_
  have hready : (readied i b).host.Silent i := by
    unfold readied
    rw [Bridge.ensureOpen, Op.state_bind_ok (x := Op.get) rfl, Op.run_get]
    split
    · exact hs i hi
    · exact Host.silent_openInstance (hs i hi)
  refine ⟨[], Host.results_deliver now _ hready, ?_⟩
  have hnone : call.othersStored now i b [] = ∅ := rfl
  rw [hnone, Finset.card_empty]
  omega

/-- A call that is refused has no name and changes nothing, if its command is not forgotten. -/
theorem run_of_refusal (hcap : b.host.results.capacity = m) (hkept : ¬ call.Forgotten now b)
    {e : Failure} (he : ((call.run now).run b).answer = .error e) (hrefusal : e.IsRefusal) :
    ((call.run now).run b).state = b := by
  cases hname : call.nameless? with
  | some what => rw [run_of_nameless hname]
  | none =>
    obtain ⟨f, rfl, hlow, hhigh⟩ := hrefusal
    obtain ⟨hanswer, -⟩ := run_of_named hname now b
    exfalso
    cases hi : b.attached with
    | none =>
        obtain ⟨hfails, -⟩ := Bridge.dispatch_unavailable now call.kind call.target
          call.arguments hi
        rw [hanswer, hfails] at he
        obtain rfl : BridgeError.targetUnavailable b.label = f := by simpa [Except.map] using he
        simp [BridgeError.status] at hhigh
    | some i =>
      cases hopen : ((Bridge.ensureOpen i).run b).answer with
      | error e =>
          obtain ⟨hfails, -⟩ := Bridge.dispatch_of_open_error now call.kind call.target
            call.arguments hi hopen
          rw [hanswer, hfails] at he
          obtain rfl : e = .bridge f := by simpa [Except.map] using he
          obtain ⟨fault, hfault⟩ := Bridge.failsOnly_ensureOpen i b _ hopen
          exact absurd hfault (by simp)
      | ok u =>
        cases hrefused : Bridge.refused? (call.delivered now i b) with
        | none =>
            rw [(run_of_taken hcap hname hi hopen hrefused).1] at he
            exact absurd he (by simp)
        | some detail =>
            rw [(run_of_refused hcap hname hi hopen hrefused).1] at he
            cases hrecorded : (Bridge.rejection now (call.command now b) detail
                (call.delivered now i b).state).answer with
            | error e => exact hkept ⟨hname, i, detail, e, hi, hopen, hrefused, hrecorded⟩
            | ok r =>
                rw [hrecorded] at he
                obtain rfl := Failure.bridge.inj (Except.error.inj he)
                simp [BridgeError.status] at hhigh

end Call

namespace Http

variable {now : Timestamp} {id : String} {r : Request} {s : Service} {m : Nat}

/-! ## What endpoints leave -/

/-- The statuses of requests that are refused. -/
def IsRefusal (status : Nat) : Prop := 400 ≤ status ∧ status ≤ 499

/-- From `s`, an operation changes nothing, and no connection comes of it, if it ends in the answer
to a request that is refused. -/
def Traceless (x : Op Service (Progress Service Answer)) (s : Service) : Prop :=
  ∀ a, Op.Ends (x.run s).answer (.ok a) → IsRefusal a.response.status →
    (x.run s).answer = .ok (.done a) ∧ a.connection = none ∧ s.Agree (x.run s).state

theorem Traceless.atOnce {x : Op Service Answer} (h : ∀ a, (x.run s).answer = .ok a →
    IsRefusal a.response.status → a.connection = none ∧ s.Agree (x.run s).state) :
    Traceless (Op.atOnce x) s := by
  intro a hends hstatus
  have ha := hends.of_atOnce
  obtain ⟨hconnection, hagree⟩ := h a ha.symm hstatus
  rw [Op.atOnce, Op.answer_bind_ok ha.symm, Op.state_bind_ok ha.symm]
  exact ⟨rfl, hconnection, hagree⟩

/-- An operation that changes nothing and opens no connection. -/
theorem Traceless.of_keeps {x : Op Service Answer} (hkeeps : x.Keeps s.Agree)
    (hconnection : x.Yields (fun _ => True) fun a => a.connection = none) :
    Traceless (Op.atOnce x) s :=
  .atOnce fun a ha _ => ⟨hconnection s trivial a ha, hkeeps s (.refl s)⟩

/-- A response that is made of nothing of the service. -/
theorem traceless_response {x : Op Service Response} (hx : x.Keeps s.Agree)
    (f : Response → Response) : Traceless (Op.atOnce do return ⟨f (← x), none⟩) s :=
  .of_keeps (hx.bind fun _ => .pure _) (.bind fun _ => .pure rfl)

/-- An error that was found before anything was asked. -/
theorem traceless_refuse (status : Nat) (code : ErrorCode) (message : String)
    (details : Details) :
    Traceless (Op.atOnce do return ⟨← refuse id status code message details, none⟩) s :=
  traceless_response (keeps_respond _ _) _

/-- An operation that changes nothing where it fails with a refusal. -/
theorem traceless_answering {α : Type} {x : Op Service α} (body : α → Json)
    (h : ∀ e, (x.run s).answer = .error e → e.IsRefusal → s.Agree (x.run s).state) :
    Traceless (Op.atOnce (answering id r x body)) s := by
  refine .atOnce fun a ha hstatus => ?_
  have hattempt : (x.attempt.run s).answer = .ok (x.run s).answer := rfl
  rw [answering, Op.answer_bind_ok hattempt] at ha
  obtain ⟨hconnection, ⟨v, -, hok⟩ | ⟨e, he, herror⟩⟩ := answer_of_conclude ha
  · have := hstatus.1
    omega
  · refine ⟨hconnection, ?_⟩
    rw [answering, Op.state_bind_ok hattempt]
    exact keeps_conclude _ _ _ _ _ (h _ he ⟨e, rfl, herror ▸ hstatus⟩)

section Calls

variable (hcap : s.results.capacity = m)
include hcap

theorem agree_call (call : Call) (hkept : ¬ call.Forgotten now s.bridge) {e : Failure}
    (he : ((call.run now).run s.bridge).answer = .error e) (hrefusal : e.IsRefusal) :
    s.Agree ((Service.onBridge (call.run now)).run s).state := by
  rw [Service.onBridge_state (call.run_of_refusal hcap hkept he hrefusal)]
  exact .refl s

theorem traceless_call (call : Call) (hkept : ¬ call.Forgotten now s.bridge) :
    Traceless (Op.atOnce (answering id r (Service.onBridge (call.run now))
      CommandBridge.Response.toBody)) s :=
  traceless_answering _ fun _ he hrefusal => agree_call hcap call hkept he hrefusal

theorem traceless_callTool {name : String}
    (hkept : ∀ args, toolArguments s.nesting r.body = .ok args →
      ¬ (Call.callTool name args).Forgotten now s.bridge) :
    Traceless (callTool now id r name) s := by
  cases hargs : toolArguments s.nesting r.body with
  | error e =>
      rw [Traceless, callTool, Op.run_get_bind, hargs]
      cases e with
      | notJson => exact traceless_refuse _ _ _ _
      | failure e =>
          intro a hends _
          cases hends
  | ok args =>
      intro a hends hstatus
      obtain ⟨t, ht⟩ := ends_callTool hargs hends
      obtain ⟨hconnection, ⟨v, -, hok⟩ | ⟨e, he, herror⟩⟩ := answer_of_conclude ht.symm
      · have := hstatus.1
        omega
      have hrefusal : (Failure.bridge e).IsRefusal := ⟨e, rfl, herror ▸ hstatus⟩
      -- the call failed before its acknowledgement could be waited for
      have hcall : ((Service.onBridge (Bridge.callTool now name args)).run s).answer =
          .error (.bridge e) := he
      have hanswer : ((Service.callTool now name args).run s).answer = .error (.bridge e) :=
        Op.answer_bind_error hcall
      have hstate : s.Agree ((Service.callTool now name args).run s).state := by
        rw [Service.callTool, Op.state_bind_error hcall]
        exact agree_call hcap (.callTool name args) (hkept args hargs) he hrefusal
      rw [callTool, Op.run_get_bind, hargs] at hends ⊢
      obtain ⟨honce, hleft⟩ := Op.run_onceOver_of_error (f := conclude id r _) hanswer
      dsimp only at hends ⊢
      rw [honce] at hends ⊢
      have ha := hends.of_atOnce
      rw [hleft, Op.atOnce, Op.answer_bind_ok ha.symm, Op.state_bind_ok ha.symm]
      exact ⟨rfl, hconnection, keeps_conclude _ _ _ _ _ hstate⟩

end Calls

/-- A look-up changes nothing but what was asked of Redis. -/
theorem traceless_getResult (ticket : String) :
    Traceless (Op.atOnce (answering id r (Service.onResults (ResultChannel.getBody now ticket))
      fun body => body)) s := by
  refine traceless_answering _ fun _ _ _ => ?_
  rw [Service.onResults_state, getBody_state]
  exact s.agree_consulted ticket

theorem Traceless.get_bind {f : Service → Op Service (Progress Service Answer)}
    (h : Traceless (f s) s) : Traceless (Op.get >>= f) s := by
  rwa [Traceless, Op.run_get_bind]

/-- A publication that is refused is no more than a look-up: one that fails after it has stored its
record fails with a fault. -/
theorem traceless_publishResult (hcap : s.results.capacity = m) (ticket : String) :
    Traceless (Op.atOnce (publishResult now id r ticket)) s := by
  have hget : Op.atOnce (publishResult now id r ticket) = Op.get >>= fun s => Op.atOnce _ :=
    bind_assoc _ _ _
  rw [hget]
  refine .get_bind ?_
  split
  · next p _ =>
    refine traceless_answering _ fun e he hrefusal => ?_
    have hfailed : ((publishBody now ticket p.status p.result).run s.results).answer =
        .error e := he
    rw [Service.onResults_state, publishBody_state, publishOutcome]
    cases hincoming : incoming? now ticket (.string p.status.text) p.result s.results with
    | none =>
        rw [publish_state_of_none hincoming]
        exact s.agree_consulted ticket
    | some x =>
        rw [publishBody_answer hcap hincoming] at hfailed
        obtain ⟨f, rfl, -⟩ := hrefusal
        by_cases hdump : x.Dumpable
        · simp [Record.dump_of_dumpable hdump] at hfailed
        · obtain ⟨f', -, hf⟩ := Record.dump_of_not_dumpable hdump
          simp [hf] at hfailed
  · exact traceless_refuse _ _ _ _
  · exact traceless_refuse _ _ _ _
  · intro a hends _
    cases hends

/-- A request for the event stream is not refused. -/
theorem traceless_openEvents : Traceless (Op.atOnce openEvents) s := by
  have hstatus : openEvents.Yields (fun _ => True) fun a => a.response.status = 200 :=
    .bind fun _ => .bind fun _ => .bind fun _ => .pure rfl
  refine .atOnce fun a ha hrefusal => ?_
  have hok := hstatus s trivial a ha
  have := hrefusal.1
  omega

/-! ## Requests that are refused -/

/-- The call that a request becomes. -/
def Request.call? (nesting : Nat) (r : Request) : Option Call :=
  match destination r.method r.path with
  | .endpoint (.readResource uri) => some (.readResource (resourceUri r uri))
  | .endpoint (.callTool name) => (toolArguments nesting r.body).toOption.map (Call.callTool name)
  | .endpoint (.getPrompt name) => some (.getPrompt name)
  | _ => none

/-- No endpoint leaves a trace of a request that it refuses. -/
theorem traceless_answer (hcap : s.results.capacity = m)
    (hkept : ∀ call, r.call? s.nesting = some call → ¬ call.Forgotten now s.bridge) :
    Traceless (answer now id r) s := by
  have hlisting : ∀ {α : Type} (name : String) (part : Catalog → List α) (toJson : α → Json),
      Traceless (Op.atOnce (listing name part toJson)) s := fun name part toJson =>
    .of_keeps (.bind .get fun _ => .bind (keeps_respond _ _) fun _ => .pure _)
      (.bind fun _ => .bind fun _ => .pure rfl)
  unfold Request.call? at hkept
  unfold answer
  cases hdest : destination r.method r.path with
  | endpoint e =>
      rw [hdest] at hkept
      cases e with
      | listResources => exact hlisting _ _ _
      | listTools => exact hlisting _ _ _
      | listPrompts => exact hlisting _ _ _
      | readResource uri => exact traceless_call hcap (.readResource _) (hkept _ rfl)
      | callTool name =>
          refine traceless_callTool hcap fun args hargs => hkept _ ?_
          simp only [hargs, Except.toOption, Option.map_some]
      | getPrompt name => exact traceless_call hcap (.getPrompt _) (hkept _ rfl)
      | getResult ticket => exact traceless_getResult ticket
      | publishResult ticket => exact traceless_publishResult hcap ticket
      | events => exact traceless_openEvents
      | health =>
          exact .of_keeps (.bind .get fun _ => .bind (keeps_respond _ _) fun _ => .pure _)
            (.bind fun _ => .bind fun _ => .pure rfl)
      | metrics => exact .of_keeps (.bind .get fun _ => .pure _) (.bind fun _ => .pure rfl)
  | otherMethod allowed => exact traceless_response (keeps_respond _ _) _
  | otherPath path => exact .of_keeps (.pure _) (.pure rfl)
  | nowhere => exact traceless_refuse _ _ _ _

/-- What a browser is told changes headers only. -/
theorem Traceless.decorate {x : Op Service (Progress Service Answer)} (hx : Traceless x s)
    (o : Origins) :
    Traceless (x.andThen fun a => return { a with response := o.decorate r a.response }) s := by
  intro a hends hstatus
  obtain ⟨y, t, hy, ha⟩ := hends.of_onceOver
  cases y with
  | error e =>
      rw [Op.answer_bind_error (e := e) rfl] at ha
      cases ha
  | ok b =>
      obtain rfl : a = { b with response := o.decorate r b.response } := Except.ok.inj ha
      rw [(o.decorate_frame r b.response).1] at hstatus
      obtain ⟨hdone, hconnection, hagree⟩ := hx b hy hstatus
      obtain ⟨hanswer, hstate⟩ := Op.run_onceOver_of_done
        (f := fun y => do
          let a ← Op.ofExcept y
          return { a with response := o.decorate r a.response }) hdone
      rw [Op.andThen, hanswer, hstate]
      exact ⟨rfl, hconnection, hagree⟩

theorem traceless_answerBrowser (hcap : s.results.capacity = m)
    (hkept : ∀ call, r.call? s.nesting = some call → ¬ call.Forgotten now s.bridge) :
    Traceless (answerBrowser now id r) s := by
  unfold Traceless
  rw [answerBrowser, Op.run_get_bind]
  split
  · intro a hends _
    cases hends
    exact ⟨rfl, rfl, .refl s⟩
  · exact (traceless_answer hcap hkept).decorate _

/-- A request that is not answered with a server error is brought to its end with a word in the
log. -/
theorem complete_run_of_answer (id : String) (r : Request) {a : Answer}
    (h : a.response.status < 500) (s : Service) :
    ((complete id r (.ok a)).run s).answer =
        .ok ⟨a.response.setHeader idHeader id, none, a.connection⟩ ∧
      ((complete id r (.ok a)).run s).state = s := by
  unfold complete
  dsimp only
  rw [if_neg (by omega)]
  exact ⟨rfl, rfl⟩

/-- A request that is refused is over at once, and a service at rest that handled it agrees with
what it was before. -/
theorem handle_refused (hcap : s.results.capacity = m) (hrest : s.AtRest)
    (hkept : ∀ call, r.call? s.nesting = some call → ¬ call.Forgotten now s.bridge) {reply : Reply}
    (hends : Op.Ends ((handle now r).run s).answer (.ok reply))
    (hstatus : IsRefusal reply.response.status) :
    ((handle now r).run s).answer = .ok (.done reply) ∧
      s.Agree ((handle now r).run s).state := by
  obtain ⟨id, requests, hid, hreceived, hfailed⟩ := receive_run r s
  have hagree : s.Agree { s with requests := requests } := ⟨_, _, rfl, hfailed, rfl⟩
  rw [handle, Op.answer_bind_ok hid, hreceived] at hends ⊢
  rw [Op.state_bind_ok hid, hreceived]
  have htraceless : Traceless (answerBrowser now id r) { s with requests := requests } :=
    traceless_answerBrowser hcap hkept
  generalize { s with requests := requests } = t at *
  -- the answer is refused, and so is over at once
  obtain ⟨y, u, hy, hreply⟩ := hends.of_onceOver
  obtain ⟨v, hsettle⟩ := Service.total_settle now u
  obtain ⟨reply', hreply', htells⟩ := complete_run id r y ((Service.settle now).run u).state
  rw [Op.answer_bind_ok hsettle, hreply'] at hreply
  obtain rfl := Except.ok.inj hreply
  cases y with
  | error e =>
      have hhigh := hstatus.2
      rw [htells.1] at hhigh
      omega
  | ok a =>
      rw [htells.1] at hstatus
      obtain ⟨hdone, -, hanswered⟩ := htraceless a hy hstatus
      have hleft := hagree.trans hanswered
      have hlow : a.response.status < 500 := by
        have := hstatus.2
        omega
      obtain ⟨hcompleted, hstate⟩ :=
        complete_run_of_answer id r hlow ((answerBrowser now id r).run t).state
      obtain ⟨honce, honceState⟩ := Op.run_onceOver_of_done
        (f := fun answer => do
          Service.settle now
          complete id r answer) hdone
      have hsilent := Op.run_bind_of_silent (f := fun _ => complete id r (.ok a))
        (Service.settle_run (hleft.atRest hrest) now)
      have hanswer := (complete_run_of_answer id r hlow ((Service.settle now).run u).state).1
      rw [hreply'] at hanswer
      rw [← hsilent] at hcompleted hstate
      rw [honce, honceState, Op.atOnce, Op.answer_bind_ok hcompleted, Op.state_bind_ok hcompleted,
        hstate, Except.ok.inj hanswer]
      exact ⟨rfl, hleft⟩

end Http

end CommandBridge
