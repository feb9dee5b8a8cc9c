import CommandBridge.Proofs.Dispatch.Offline
import CommandBridge.Proofs.Http.Refusal

/-!
# CommandBridge.Proofs.Http.Erasure

Requests that are refused leave no trace: if some of them are erased from a run of the application,
everything else is told the same, and what is left agrees (`refusals_leave_no_trace`).  There is one
kind of request that is told the status of a refusal and does leave a trace: a call whose command is
delivered, not taken, and forgotten meanwhile (`forgotten_call_leaves_trace`).

The turns of a run are taken one after the other.  At each of them a request comes in, or the bridge
is used directly, or something happens in the background; it has its own reading of the clock, and
its own failures of Redis, so that erasing another turn does not change these.
-/

namespace CommandBridge

open Likeness

/-! ## Meeting failures of Redis -/

/-- A store that is going to fail as is said, counted from the next call. -/
def Redis.meeting (faults : Nat → RedisCommand → Option Fault) (r : Redis) : Redis :=
  { r with faults := fun n => faults (n - r.calls.length) }

namespace Service

/-- From now on the calls to Redis fail as is said. -/
def meet (faults : Nat → RedisCommand → Option Fault) : Op Service Unit :=
  onResults (ResultChannel.onRedis (Op.modify (Redis.meeting faults)))

/-- The service that meets failures of Redis. -/
def meeting (faults : Nat → RedisCommand → Option Fault) (s : Service) : Service :=
  ((meet faults).run s).state

variable {capacity : Int} {s t : Service}

theorem meet_run (faults : Nat → RedisCommand → Option Fault) (s : Service) :
    (meet faults).run s = ⟨.ok (), s.meeting faults, []⟩ := rfl

theorem agree_meeting (faults : Nat → RedisCommand → Option Fault) (s : Service) :
    s.Agree (s.meeting faults) := ⟨s.results.redis.meeting faults, s.requests, rfl, rfl, rfl⟩

/-- Services that agree cannot be told apart when they meet the same failures. -/
theorem Agree.states_meeting (h : s.Agree t) (faults : Nat → RedisCommand → Option Fault) :
    (interchangeable s.results.capacity).states (s.meeting faults) (t.meeting faults) := by
  obtain ⟨redis, requests, hentries, hfailed, rfl⟩ := h
  refine ⟨{ s.results with redis := redis.meeting faults }, requests,
    ⟨rfl, redis.meeting faults, ⟨hentries, fun n => ?_⟩, rfl⟩, hfailed, rfl⟩
  show faults (redis.calls.length + n - redis.calls.length) =
    faults (s.results.redis.calls.length + n - s.results.redis.calls.length)
  rw [Nat.add_sub_cancel_left, Nat.add_sub_cancel_left]

/-- Services that cannot be told apart agree. -/
theorem agree_of_states (h : (interchangeable capacity).states s t) :
    s.Agree t ∧ s.results.capacity = capacity := by
  obtain ⟨-, requests, ⟨hcapacity, redis, ⟨hentries, -⟩, rfl⟩, hfailed, rfl⟩ := h
  exact ⟨⟨redis, requests, hentries, hfailed, rfl⟩, hcapacity⟩

theorem respects_comeToRest (now : Timestamp) :
    (interchangeable capacity).Respects (comeToRest now) :=
  .bind (get_bind (fun _ _ _ => rfl) fun _ => .forM fun _ _ => respects_disconnect _) fun _ =>
    respects_settle now

end Service

namespace Http

open Service

/-! ## Turns -/

/-- Something that happens to an application. -/
inductive Event where
  /-- A request comes in. -/
  | request (r : Request)
  /-- The bridge is used directly, or something happens in the background. -/
  | action (a : Bridge.Action)

/-- What is told of an event. -/
inductive Told where
  | replied (reply : Reply)
  | answered (x : Except Failure Bridge.Action.Answer)

/-- Lets it happen. -/
def Event.run (now : Timestamp) : Event → Op Service Told
  | .request r => .replied <$> perform now (handle now r)
  | .action a => .answered <$> (onBridge (a.ask now)).attempt

/-- An event, the time at which it happens, and how the calls to Redis fail meanwhile. -/
structure Turn where
  now : Timestamp
  faults : Nat → RedisCommand → Option Fault
  event : Event

/-- Takes a turn.  What comes next finds the service at rest, so no two requests are answered at the
same time. -/
def Turn.take (t : Turn) : Op Service Told := do
  meet t.faults
  let told ← t.event.run t.now
  comeToRest t.now
  return told

/-- The service after a turn. -/
def Turn.after (t : Turn) (s : Service) : Service := (t.take.run s).state

/-- A turn at which a request is refused, and no command is forgotten while it is delivered.  To
have one forgotten, as many others must be stored meanwhile as the record map can hold
(`Call.not_forgotten_of_few`), which the adapters of the bridge never do
(`Call.not_forgotten_of_silent`). -/
def Turn.Refused (t : Turn) (s : Service) : Prop :=
  ∃ r reply, t.event = .request r ∧ (t.take.run s).answer = .ok (.replied reply) ∧
    IsRefusal reply.response.status ∧
    ∀ call, r.call? s.nesting = some call → ¬ call.Forgotten t.now (s.meeting t.faults).bridge

/-- What is told of an event, but for generated ids and the number of requests. -/
inductive SameTold : Event → Told → Told → Prop
  | replied {r : Request} {a b : Reply} (h : SameReply r a b) :
      SameTold (.request r) (.replied a) (.replied b)
  | answered (a : Bridge.Action) (x : Except Failure Bridge.Action.Answer) :
      SameTold (.action a) (.answered x) (.answered x)

variable {t : Turn} {s : Service} {m : Nat}

/-! ## One turn -/

theorem alike_event {capacity : Int} (now : Timestamp) (e : Event) :
    (interchangeable capacity).Alike (SameTold e) (e.run now) (e.run now) := by
  cases e with
  | request r => exact .map (alike_perform now (alike_handle now r)) fun _ _ => .replied
  | action a =>
      refine .map (.attempt_eq (respects_onBridge (Bridge.respects_ask
        ResultChannel.uniform_interchangeable ResultChannel.respects_close now a))) ?_
      rintro x _ rfl
      exact .answered a x

/-- Something is told of every event. -/
theorem Event.total_run (now : Timestamp) (e : Event) : (e.run now).Total := by
  cases e with
  | request r =>
      refine .map _ fun s => ?_
      obtain ⟨-, -, -, reply, hreply, -⟩ := exists_reply_of_ends (ends_perform now (handle now r) s)
      exact ⟨reply, hreply⟩
  | action a => exact .map _ (.attempt _)

theorem Turn.total_take (t : Turn) : t.take.Total :=
  .bind (fun s => ⟨_, congrArg Outcome.answer (meet_run t.faults s)⟩) fun _ =>
    .bind (t.event.total_run t.now) fun _ => .bind (total_comeToRest t.now) fun _ => .pure _

/-- Services that agree are told the same at a turn, and agree after it. -/
theorem Turn.alike_take {u : Service} (t : Turn) (h : s.Agree u) :
    Answers (SameTold t.event) (t.take.run s).answer (t.take.run u).answer ∧
      (t.after s).Agree (t.after u) ∧ (t.after s).results.capacity = s.results.capacity := by
  have hrest : (interchangeable s.results.capacity).Alike (SameTold t.event)
      (do
        let told ← t.event.run t.now
        comeToRest t.now
        return told)
      (do
        let told ← t.event.run t.now
        comeToRest t.now
        return told) :=
    .bind_rel complete_interchangeable (alike_event t.now t.event) fun _ _ hab =>
      .bind (respects_comeToRest t.now) fun _ => .pure hab
  have hout := hrest.outcomes (h.states_meeting t.faults) (complete_interchangeable _)
  rw [after, after, take, Op.run_bind_of_silent (meet_run t.faults s),
    Op.run_bind_of_silent (meet_run t.faults u)]
  obtain ⟨hagree, hcapacity⟩ := agree_of_states hout.state
  exact ⟨hout.answer, hagree, hcapacity⟩

/-- After a turn the service is at rest. -/
theorem Turn.atRest_after (t : Turn) (s : Service) : (t.after s).AtRest := by
  obtain ⟨told, htold⟩ := t.event.total_run t.now (s.meeting t.faults)
  rw [after, take, Op.run_bind_of_silent (meet_run t.faults s), Op.state_bind_ok htold,
    Op.state_bind_pure]
  exact atRest_comeToRest _ _

/-- What a turn at which a request is refused leaves agrees with what it found. -/
theorem Turn.Refused.agree (h : t.Refused s) (hcap : s.results.capacity = m)
    (hrest : s.AtRest) : s.Agree (t.after s) := by
  obtain ⟨r, reply, hevent, hanswer, hstatus, hkept⟩ := h
  have hmeeting := agree_meeting t.faults s
  have hrest' : (s.meeting t.faults).AtRest := hmeeting.atRest hrest
  have hcap' : (s.meeting t.faults).results.capacity = m := hmeeting.capacity_eq.trans hcap
  have hkept' : ∀ call, r.call? (s.meeting t.faults).nesting = some call →
      ¬ call.Forgotten t.now (s.meeting t.faults).bridge := hkept
  generalize hs' : s.meeting t.faults = s' at *
  have htake : t.take.run s = (do
      let told ← t.event.run t.now
      comeToRest t.now
      return told : Op Service Told).run s' := by
    rw [Turn.take, Op.run_bind_of_silent (meet_run t.faults s), hs']
  -- the reply is what handling the request comes to
  have hends := ends_perform t.now (handle t.now r) s'
  obtain ⟨-, -, -, reply', hreply', -⟩ := exists_reply_of_ends hends
  have htold : ((t.event.run t.now).run s').answer = .ok (.replied reply') ∧
      ((t.event.run t.now).run s').state = ((perform t.now (handle t.now r)).run s').state := by
    rw [hevent, Event.run, Op.run_map, hreply']
    exact ⟨rfl, rfl⟩
  obtain ⟨u, hu⟩ := total_comeToRest t.now ((t.event.run t.now).run s').state
  rw [htake, Op.answer_bind_ok htold.1, Op.answer_bind_ok hu] at hanswer
  obtain rfl : reply' = reply := Told.replied.inj (Except.ok.inj hanswer)
  -- so it was over at once, and there is nothing to come to rest from
  rw [hreply'] at hends
  obtain ⟨hdone, hagree⟩ := handle_refused hcap' hrest' hkept' hends hstatus
  have hleft := hagree.atRest hrest'
  obtain ⟨-, hstate⟩ := perform_run_of_done t.now hdone hleft
  rw [Turn.after, htake, Op.state_bind_ok htold.1, htold.2, hstate,
    Op.run_bind_of_silent (comeToRest_run hleft t.now)]
  exact hmeeting.trans hagree

/-! ## Runs -/

/-- All turns of a run in which some are marked to stay. -/
def all (turns : List (Turn × Bool)) : List Turn := turns.map Prod.fst

/-- The turns that stay. -/
def staying (turns : List (Turn × Bool)) : List Turn := (turns.filter Prod.snd).map Prod.fst

/-- Takes turns one after the other. -/
def takeAll (turns : List Turn) : Op Service (List Told) := turns.mapM Turn.take

/-- At every turn that does not stay, a request is refused. -/
def Erasable : List (Turn × Bool) → Service → Prop
  | [], _ => True
  | (t, stays) :: turns, s => (stays = false → t.Refused s) ∧ Erasable turns (t.after s)

/-- What is told at the turns that stay is the same in a run of all turns and a run of those. -/
inductive SameRun : List (Turn × Bool) → List Told → List Told → Prop
  | nil : SameRun [] [] []
  | staying {t : Turn} {a b : Told} (h : SameTold t.event a b) {turns : List (Turn × Bool)}
      {as bs : List Told} (hrest : SameRun turns as bs) :
      SameRun ((t, true) :: turns) (a :: as) (b :: bs)
  | erased (t : Turn) (a : Told) {turns : List (Turn × Bool)} {as bs : List Told}
      (hrest : SameRun turns as bs) : SameRun ((t, false) :: turns) (a :: as) bs

theorem takeAll_cons_run {turns : List Turn} {a : Told} {as : List Told}
    (ha : (t.take.run s).answer = .ok a)
    (has : ((takeAll turns).run (t.after s)).answer = .ok as) :
    ((takeAll (t :: turns)).run s).answer = .ok (a :: as) ∧
      ((takeAll (t :: turns)).run s).state = ((takeAll turns).run (t.after s)).state := by
  rw [takeAll, List.mapM_cons, Op.answer_bind_ok ha, Op.state_bind_ok ha]
  exact ⟨Op.answer_bind_ok has, Op.state_bind_ok has⟩

/-- From services that agree, a run of all turns and a run of those that stay. -/
theorem sameRun_of_agree {turns : List (Turn × Bool)} {u : Service}
    (hcap : s.results.capacity = m) (hrest : s.AtRest) (hagree : s.Agree u)
    (herasable : Erasable turns s) :
    ∃ as bs, ((takeAll (all turns)).run s).answer = .ok as ∧
      ((takeAll (staying turns)).run u).answer = .ok bs ∧ SameRun turns as bs ∧
      ((takeAll (all turns)).run s).state.Agree ((takeAll (staying turns)).run u).state := by
  induction turns generalizing s u with
  | nil => exact ⟨[], [], rfl, rfl, .nil, hagree⟩
  | cons marked turns ih =>
      obtain ⟨t, stays⟩ := marked
      obtain ⟨hrefused, hlater⟩ := herasable
      obtain ⟨a, ha⟩ := t.total_take s
      obtain ⟨htold, hagree', hcap'⟩ := t.alike_take hagree
      cases stays with
      | true =>
          obtain ⟨as, bs, has, hbs, hsame, hleft⟩ :=
            ih (hcap'.trans hcap) (t.atRest_after s) hagree' hlater
          obtain ⟨b, hb⟩ := t.total_take u
          obtain ⟨hall, hallState⟩ := takeAll_cons_run ha has
          obtain ⟨hstaying, hstayingState⟩ := takeAll_cons_run hb hbs
          rw [ha, hb] at htold
          have hab : SameTold t.event a b := by
            cases htold with
            | ok h => exact h
          refine ⟨a :: as, b :: bs, hall, hstaying, .staying hab hsame, ?_⟩
          show ((takeAll (t :: all turns)).run s).state.Agree
            ((takeAll (t :: staying turns)).run u).state
          rw [hallState, hstayingState]
          exact hleft
      | false =>
          have herased := (hrefused rfl).agree hcap hrest
          obtain ⟨as, bs, has, hbs, hsame, hleft⟩ :=
            ih (hcap'.trans hcap) (t.atRest_after s) (herased.symm.trans hagree) hlater
          obtain ⟨hall, hallState⟩ := takeAll_cons_run ha has
          refine ⟨a :: as, bs, hall, hbs, .erased t a hsame, ?_⟩
          show ((takeAll (t :: all turns)).run s).state.Agree _
          rw [hallState]
          exact hleft

/-- Requests that are refused have no effect.  If some of them are erased from a run of an
application, what is told at every other turn is the same but for generated ids and the number of
requests, and so is what the run leaves: the bridge with its tickets, counters and instances, the
record map in its order, the queues of subscribers, and what Redis holds. -/
theorem refusals_leave_no_trace (hcap : 0 ≤ s.results.capacity) (hrest : s.AtRest)
    {turns : List (Turn × Bool)} (herasable : Erasable turns s) :
    ∃ as bs, ((takeAll (all turns)).run s).answer = .ok as ∧
      ((takeAll (staying turns)).run s).answer = .ok bs ∧ SameRun turns as bs ∧
      ((takeAll (all turns)).run s).state.Agree ((takeAll (staying turns)).run s).state := by
  obtain ⟨m, hm⟩ := Int.eq_ofNat_of_zero_le hcap
  exact sameRun_of_agree hm hrest (.refl s) herasable

/-- The status that is told to a client. -/
def Told.status? : Told → Option Nat
  | .replied reply => some reply.response.status
  | .answered _ => none

theorem Turn.refused_of_status? {r : Request} (status : Nat) (hevent : t.event = .request r)
    (hcall : r.call? s.nesting = none)
    (htold : (t.take.run s).answer.map Told.status? = .ok (some status))
    (hstatus : IsRefusal status) : t.Refused s := by
  cases hanswer : (t.take.run s).answer with
  | error e => simp [hanswer, Except.map] at htold
  | ok told =>
      cases told with
      | answered x => simp [hanswer, Except.map, Told.status?] at htold
      | replied reply =>
          obtain rfl : reply.response.status = status := by
            simpa [hanswer, Except.map, Told.status?] using htold
          exact ⟨r, reply, hevent, hanswer, hstatus, fun call h => by simp [hcall] at h⟩

/-- A request that comes in while Redis is at work. -/
def asked (r : Request) : Turn := ⟨⟨0⟩, fun _ _ => none, .request r⟩

/-- A tool call between a body that is not JSON and a ticket that nobody drew. -/
def beset : List (Turn × Bool) :=
  [(asked (echoing "\x7b"), false), (asked (echoing "[1]"), true),
    (asked (.ofTarget "GET" "/mcp/results/none" [] []), false)]

theorem erasable_beset : Erasable beset attentive := by
  refine ⟨fun _ => ?_, nofun, fun _ => ?_, trivial⟩
  · exact Turn.refused_of_status? 400 rfl (by decide +kernel) (by decide +kernel)
      ⟨by decide, by decide⟩
  · exact Turn.refused_of_status? 404 rfl (by decide +kernel) (by decide +kernel)
      ⟨by decide, by decide⟩

/-- The tool call is delivered with the first ticket, with the other requests and without. -/
theorem refusals_leave_no_trace_beset :
    0 ≤ attentive.results.capacity ∧ attentive.AtRest ∧ Erasable beset attentive ∧
    (∃ as bs, ((takeAll (all beset)).run attentive).answer = .ok as ∧
      ((takeAll (staying beset)).run attentive).answer = .ok bs ∧ SameRun beset as bs) ∧
    ((takeAll (all beset)).run attentive).state.bridge.host.received 0 =
      [⟨.callTool, "echo", .arr [.int 1], ticketOf 1, Timestamp.text ⟨0⟩⟩] := by
  have hcap : 0 ≤ attentive.results.capacity := by decide
  have hrest : attentive.AtRest := ⟨nofun, nofun⟩
  obtain ⟨as, bs, has, hbs, hsame, redis, requests, -, -, hstate⟩ :=
    refusals_leave_no_trace hcap hrest erasable_beset
  refine ⟨hcap, hrest, erasable_beset, ⟨as, bs, has, hbs, hsame⟩, ?_⟩
  have hreceived : ((takeAll (staying beset)).run attentive).state.bridge.host.received 0 =
      [⟨.callTool, "echo", .arr [.int 1], ticketOf 1, Timestamp.text ⟨0⟩⟩] := by decide +kernel
  rw [hstate] at hreceived
  exact hreceived

/-- A service with room for one record, whose instance registers another command while one is
delivered to it, and does not take that one. -/
def forgetful : Service :=
  { bridge :=
      { attached := some 0
        host := {
          instances := [{ adapter := .recording { deliveries :=
            [⟨[.register ⟨.callTool, "echo", .null, "t", ""⟩], .ok (.rejected [])⟩] } }]
          results := { capacity := 1, ttl := 60 } } } }

/-- A call whose command is forgotten is told that its ticket is unknown, which is a refusal.  But
the command was delivered under a ticket of its own, and its failure was counted. -/
theorem forgotten_call_leaves_trace :
    let t := asked (echoing "[1]")
    forgetful.AtRest ∧ (t.take.run forgetful).answer.map Told.status? = .ok (some 404) ∧
      (t.after forgetful).bridge.stats.deliveryFailures = 1 ∧
      (t.after forgetful).bridge.ticketsDrawn = 1 ∧
      (t.after forgetful).bridge.host.received 0 =
        [⟨.callTool, "echo", .arr [.int 1], ticketOf 1, Timestamp.text ⟨0⟩⟩] := by
  refine ⟨⟨nofun, nofun⟩, ?_, ?_, ?_, ?_⟩ <;> decide +kernel

end Http

end CommandBridge
