import CommandBridge.Proofs.Dispatch.Uniform
import CommandBridge.Proofs.Results.Offline

/-!
# CommandBridge.Proofs.Dispatch.Offline

Redis makes no difference when it fails.  A run of a bridge, with any faults of Redis, and the same
run without Redis give the same answers and failures turn by turn, and leave the same bridge but for
Redis, if no look-up in Redis comes back with a record; the logs differ in warnings
(`run_offline`).
-/

namespace CommandBridge

open ResultChannel

/-! ## Answers -/

/-- What an operation on a channel answers with. -/
inductive ChannelAnswer where
  | done
  | record (r : Record)
  | place (n : Nat)
  | events (es : List Json)
  deriving DecidableEq

/-- Does an operation, and answers with what comes of it. -/
def ChannelOperation.ask (now : Timestamp) : ChannelOperation → Op ResultChannel ChannelAnswer
  | .register c => .record <$> ResultChannel.register now c
  | .publish ticket status result => .record <$> ResultChannel.publish now ticket status result
  | .get ticket => .record <$> ResultChannel.get now ticket
  | .subscribe limit => .place <$> ResultChannel.subscribe limit
  | .unsubscribe place => (fun _ => .done) <$> ResultChannel.unsubscribe place
  | .drain place => .events <$> ResultChannel.drain place

theorem Likeness.Uniform.ask {V : Likeness ResultChannel} (hV : V.Uniform) (now : Timestamp)
    (o : ChannelOperation) : V.Respects (o.ask now) := by
  have hmap : ∀ {α : Type} {f : α → ChannelAnswer} {x : Op ResultChannel α}, V.Respects x →
      V.Respects (f <$> x) := fun hx => .map hx fun _ _ => congrArg _
  cases o with
  | register command => exact hmap (hV.register now command)
  | publish ticket status result => exact hmap (hV.publish now ticket status result)
  | get ticket => exact hmap (hV.get now ticket)
  | subscribe limit => exact hmap (hV.subscribe limit)
  | unsubscribe place => exact hmap (hV.unsubscribe place)
  | drain place => exact hmap (hV.drain place)

namespace Bridge

/-- What an action answers with. -/
inductive Action.Answer where
  | done
  | detached (place : Option Nat)
  | response (r : Response)
  | channel (a : ChannelAnswer)

/-- Does an action, and answers with what comes of it. -/
def Action.ask (now : Timestamp) : Action → Op Bridge Action.Answer
  | .attach place => (fun _ => .done) <$> Bridge.attach place
  | .detach => .detached <$> Bridge.detach
  | .startup => (fun _ => .done) <$> Bridge.startup
  | .shutdown => (fun _ => .done) <$> Bridge.shutdown
  | .call c => .response <$> c.run now
  | .onChannel o => .channel <$> onResults (o.ask now)
  | .background x => (fun _ => .done) <$> onHost (x.run now)

/-- An action whose answer is left out is the action. -/
theorem Action.state_ask (now : Timestamp) (a : Action) (b : Bridge) :
    ((a.ask now).run b).state = ((a.run now).run b).state := by
  cases a with
  | onChannel o => cases o <;> simp [ask, run, ChannelOperation.ask, ChannelOperation.run,
      Bridge.onResults, Bridge.onHost, Host.onResults]
  | _ => simp [ask, run]

/-- What the turns of a run answer with, and what they log. -/
def outcomes : List Turn → Bridge → List (Except Failure Action.Answer × List Log.Entry)
  | [], _ => []
  | t :: turns, b =>
    (((t.action.ask t.now).run b).answer, ((t.action.ask t.now).run b).log) ::
      outcomes turns (t.after b)

/-- Everything that a bridge does respects what everything asked of a channel respects. -/
theorem respects_ask {V : Likeness ResultChannel} (hV : V.Uniform)
    (hclose : V.Respects ResultChannel.close) (now : Timestamp) (a : Action) :
    V.bridges.Respects (a.ask now) := by
  have hmap : ∀ {α : Type} {f : α → Action.Answer} {x : Op Bridge α}, V.bridges.Respects x →
      V.bridges.Respects (f <$> x) := fun hx => .map hx fun _ _ => congrArg _
  cases a with
  | attach i => exact hmap (respects_attach i)
  | detach => exact hmap respects_detach
  | startup => exact hmap respects_startup
  | shutdown => exact hmap (respects_shutdown hclose)
  | call c => exact hmap (respects_call hV now c)
  | onChannel o => exact hmap (respects_onResults (hV.ask now o))
  | background x => exact hmap (respects_onHost (Background.respects_run hV now x))

/-! ## Runs with and without Redis -/

/-- A bridge without Redis. -/
def offline (b : Bridge) : Bridge := b.withResults b.host.results.offline

/-- Redis as a bridge sees it. -/
def redis (b : Bridge) : Redis := b.host.results.redis

/-- The calls that Redis was given in a run. -/
def redisCalls (turns : List Turn) (b : Bridge) : List RedisCall :=
  (runAll turns b).redis.calls.drop b.redis.calls.length

variable {nesting : Nat} {r : Redis} {turns : List Turn} {b : Bridge}

theorem lost_runAll (turns : List Turn) (h : (beside nesting r).bridges.lost b) :
    (beside nesting r).bridges.lost (runAll turns b) := by
  induction turns generalizing b with
  | nil => exact h
  | cons t turns ih =>
      refine ih ?_
      show (beside nesting r).bridges.lost ((t.action.run t.now).run b).state
      rw [← Action.state_ask]
      exact (respects_ask (uniform_beside nesting r) transparent_close.respects t.now
        t.action).lost h

/-- A run with Redis beside the same run without. -/
theorem run_beside (hsince : b.host.results.Since nesting r)
    (h : ¬ (beside nesting r).bridges.lost (runAll turns b)) :
    runAll turns b.offline = (runAll turns b).offline ∧
      List.Forall₂ (fun x y => x.1 = y.1 ∧ Interspersed x.2 y.2) (outcomes turns b)
        (outcomes turns b.offline) := by
  induction turns generalizing b with
  | nil => exact ⟨rfl, .nil⟩
  | cons t turns ih =>
      have hstep : ¬ (beside nesting r).bridges.lost ((t.action.ask t.now).run b).state := by
        rw [Action.state_ask]
        exact fun hlost => h (lost_runAll turns hlost)
      obtain ⟨hanswer, ⟨c', hc, hstate⟩, hlog⟩ :=
        (respects_ask (uniform_beside nesting r) transparent_close.respects t.now
          t.action).outcomes (t := b.offline) ⟨_, .inl ⟨hsince, rfl⟩, rfl⟩ hstep
      obtain ⟨hsince', rfl⟩ := hc.resolve_right fun hlost => hstep hlost.1
      rw [Action.state_ask, Action.state_ask] at hstate
      rw [Action.state_ask] at hsince'
      have hafter : t.after b.offline = (t.after b).offline := hstate
      obtain ⟨hrun, hrest⟩ := ih (b := t.after b) hsince' h
      refine ⟨?_, ?_⟩
      · show runAll turns (t.after b.offline) = _
        rw [hafter]
        exact hrun
      · rw [outcomes, outcomes, hafter]
        exact .cons ⟨answers_eq.mp hanswer, hlog⟩ hrest

/-! ## Faults -/

theorem failsOnly_handOver (now : Timestamp) (i : Nat) (c : Command) :
    (handOver now i c).FailsOnly NoFault := by
  have hdeliver : (deliver now i c).FailsOnly NoFault := by
    refine .bind (.attempt _) fun r => ?_
    split
    · exact .pure _
    · exact .bind (.log _) fun _ => .pure _
  have hreject : ∀ detail, (reject now c detail).FailsOnly NoFault := by
    intro detail
    -- the record of a rejection has a body, so its publication fails with no fault at all
    have hpublish : ∀ now ticket status,
        (ResultChannel.publish now ticket status (errorResult detail)).FailsOnly NoFault :=
      fun _ _ _ => (failsOnly_publish _ _ _ _).mono fun e he f hf => by
        simpa [show _ = none from dumpable_errorResult detail] using he f hf
    exact .bind (.modify _) fun _ => .bind (.event _ _ _ _) fun _ =>
      .bind (.discard (.on (.on (hpublish _ _ _)))) fun _ => .fail nofun
  have haccept : (accept c).FailsOnly NoFault :=
    .bind (.modify _) fun _ => .bind (fun _ _ he => absurd he (by simp)) fun _ => .event _ _ _ _
  refine .bind (.discard (.on (.on (failsOnly_register now c)))) fun _ => .bind hdeliver fun d => ?_
  dsimp only
  split
  · exact .bind (hreject _) fun _ => .pure _
  · exact .bind haccept fun _ => .pure _

/-- Channels that are not compared. -/
def anyChannel : Likeness ResultChannel where
  states _ _ := True
  logs _ _ := True
  states_of_lost _ _ := trivial
  logs_refl _ := trivial
  logs_append _ _ _ _ _ _ := trivial

/-- A fault that comes out of a dispatch is one of opening the instance, which has nothing to do
with the channel. -/
theorem fault_of_dispatch {now : Timestamp} {kind : DispatchKind} {target : String}
    {arguments : Json} {f : Fault}
    (h : ((dispatch now kind target arguments).run b).answer = .error (.fault f)) :
    ∃ i, b.attached = some i ∧
      ∀ c, ((ensureOpen i).run (b.withResults c)).answer = .error (.fault f) := by
  cases hb : b.attached with
  | none =>
      rw [(dispatch_unavailable now kind target arguments hb).1] at h
      simp at h
  | some i =>
      refine ⟨i, rfl, fun c => ?_⟩
      have hsame := ((respects_ensureOpen (V := anyChannel) i).outcomes (s := b)
        (t := b.withResults c) ⟨c, trivial, rfl⟩ id).answer
      rw [← answers_eq.mp hsame]
      cases hopen : ((ensureOpen i).run b).answer with
      | error e =>
          rw [(dispatch_of_open_error now kind target arguments hb hopen).1] at h
          rw [Except.error.inj h]
      | ok u =>
          rw [(dispatch_of_open_ok now kind target arguments hb hopen).1] at h
          exact absurd rfl (failsOnly_handOver _ _ _ _ _ h f)

/-- Redis is transparent when it fails.  Take a run of a bridge with any faults of Redis, in which
every look-up in Redis fails or finds nothing.  Without Redis the same run gives the same answers
and failures at every turn, and leaves the same bridge in all but Redis: records and their
order, queues, counters and delivered commands.  Its log is that of the run with Redis less the
warnings about Redis.  In no run does a fault of Redis come out of a channel or a dispatch: the
one fault of a channel is that of the dump of a published result. -/
theorem run_offline
    (hfruitless : Redis.Fruitless b.host.results.nesting (redisCalls turns b) b.redis) :
    runAll turns b.offline = (runAll turns b).offline ∧
    List.Forall₂ (fun x y => x.1 = y.1 ∧ Interspersed x.2 y.2) (outcomes turns b)
      (outcomes turns b.offline) ∧
    (∀ now (c : ResultChannel) (f : Fault),
      (∀ command, ((register now command).run c).answer ≠ .error (.fault f)) ∧
      (∀ ticket, ((get now ticket).run c).answer ≠ .error (.fault f)) ∧
      ∀ ticket status result,
        ((publish now ticket status result).run c).answer = .error (.fault f) →
          result.dumpFault? Json.dumpLimit = some f) ∧
    ∀ now kind target arguments (b : Bridge) (f : Fault),
      ((dispatch now kind target arguments).run b).answer = .error (.fault f) →
        ∃ i, b.attached = some i ∧
          ∀ c, ((ensureOpen i).run (b.withResults c)).answer = .error (.fault f) := by
  have hfound : ¬ (beside b.host.results.nesting b.redis).bridges.lost (runAll turns b) := by
    rintro ⟨-, calls, hcalls, hfound⟩
    have hmade : redisCalls turns b = calls := by
      have hlog : (runAll turns b).redis.calls = b.redis.calls ++ calls := by
        rw [redis, hcalls, Redis.calls_replay]
      rw [redisCalls, hlog, List.drop_left]
    exact hfound (hmade ▸ hfruitless)
  obtain ⟨hrun, houtcomes⟩ := run_beside ⟨rfl, [], rfl⟩ hfound
  refine ⟨hrun, houtcomes, ?_, fun _ _ _ _ _ _ => fault_of_dispatch⟩
  intro now c f
  exact ⟨fun command h => failsOnly_register now command c _ h f rfl,
    fun ticket h => failsOnly_get now ticket c _ h f rfl,
    fun ticket status result h => failsOnly_publish now ticket status result c _ h f rfl⟩

/-- A bridge whose Redis fails the first write and every look-up. -/
def broken : Bridge where
  attached := some 0
  host := {
    instances := [{}]
    results := {
      capacity := 2
      ttl := 60
      connected := true
      redis := { faults := fun n command =>
        if n = 0 ∨ command = .get then some (.ofMessage .connection "down") else none } } }

/-- A call whose record is not written through, and a look-up of another ticket. -/
def asking : List Turn :=
  [⟨⟨0⟩, .call (.callTool "echo" .null)⟩, ⟨⟨1⟩, .onChannel (.get "7")⟩]

/-- Both turns lead to a fault of Redis, and log a warning more than they do without. -/
theorem run_offline_broken :
    Redis.Fruitless broken.host.results.nesting (redisCalls asking broken) broken.redis ∧
    runAll asking broken.offline = (runAll asking broken).offline ∧
    (outcomes asking broken).map (fun x => x.2.length) = [2, 1] ∧
    (outcomes asking broken.offline).map (fun x => x.2.length) = [1, 0] := by
  have hcalls : ∃ text, redisCalls asking broken =
      [.setex (redisKey (ticketOf 1)) 60 text, .get (redisKey "7")] := ⟨_, rfl⟩
  have hfruitless :
      Redis.Fruitless broken.host.results.nesting (redisCalls asking broken) broken.redis := by
    obtain ⟨text, hcalls⟩ := hcalls
    rw [hcalls]
    refine ⟨fun key hkey => nofun, fun key hkey hfinds => ?_, trivial⟩
    have hfault := hfinds.1
    rw [Redis.faults_after] at hfault
    simp [broken, redis] at hfault
  exact ⟨hfruitless, (run_offline hfruitless).1, by decide +kernel, by decide +kernel⟩

end Bridge

end CommandBridge
