import CommandBridge.Proofs.Instance.Uniform
import CommandBridge.Proofs.Results.StoredText
import CommandBridge.Proofs.Results.Storing

/-!
# CommandBridge.Proofs.Results.Offline

A channel with Redis next to the same channel without it.  As long as no look-up in Redis comes back
with a record (`Fruitless`), everything that is asked of the two is answered alike, and leaves them
the same but for Redis itself: a fault of Redis is one more warning in the log, and no more
(`uniform_offline`).

Which look-ups there were is read off the calls that Redis was given, so a run is taken into account
with everything that happens on the channel during it, also during deliveries.  A channel whose
Redis did come back with a record is lost to the comparison.
-/

namespace CommandBridge

open ResultChannel

/-! ## The calls that Redis was given -/

namespace Redis

/-- The store after a call. -/
def after (r : Redis) : RedisCall → Redis
  | .get key => ((Redis.get key).run r).state
  | .setex key ttl text => ((Redis.setex key ttl text).run r).state
  | call => { r with calls := r.calls ++ [call] }

/-- The store after some calls. -/
def replay (calls : List RedisCall) (r : Redis) : Redis := calls.foldl after r

/-- A look-up that does not fail and comes back with the text of a record, to a reader that gives up
at a depth of `nesting`. -/
def Finds (nesting : Nat) (r : Redis) (key : String) : Prop :=
  r.faults r.calls.length .get = none ∧
    ∃ text now record, r.lookup key = some text ∧ readStored nesting now text = .ok record

/-- Calls of which no look-up comes back with a record: each fails or finds nothing. -/
def Fruitless (nesting : Nat) : List RedisCall → Redis → Prop
  | [], _ => True
  | call :: calls, r =>
    (∀ key, call = .get key → ¬ r.Finds nesting key) ∧ Fruitless nesting calls (r.after call)

theorem attemptCall_run (command : RedisCommand) (call : RedisCall) (r : Redis) :
    (attemptCall command call).run r =
      ⟨match r.faults r.calls.length command with
        | some f => .error (.fault f)
        | none => .ok (),
        { r with calls := r.calls ++ [call] }, []⟩ := rfl

/-- A look-up fails if the faults say so, and otherwise answers with what is there. -/
theorem get_run (r : Redis) (key : String) :
    (Redis.get key).run r =
      ⟨match r.faults r.calls.length .get with
        | some f => .error (.fault f)
        | none => .ok (r.lookup key),
        { r with calls := r.calls ++ [.get key] }, []⟩ := by
  rw [Redis.get, Op.run_bind, attemptCall_run]
  cases r.faults r.calls.length .get <;> rfl

theorem setex_log (r : Redis) (key : String) (ttl : Int) (text : String) :
    ((Redis.setex key ttl text).run r).log = [] := by
  rw [Redis.setex, Op.run_bind, attemptCall_run]
  cases r.faults r.calls.length .setex <;> rfl

theorem calls_after (r : Redis) (call : RedisCall) : (r.after call).calls = r.calls ++ [call] := by
  cases call with
  | get key => rw [after, get_state]
  | setex key ttl text =>
      rw [after, Redis.setex, Op.run_bind, attemptCall_run]
      cases r.faults r.calls.length .setex <;> rfl
  | _ => rfl

theorem faults_after (r : Redis) (call : RedisCall) : (r.after call).faults = r.faults := by
  cases call with
  | get key => rw [after, get_state]
  | setex key ttl text =>
      rw [after, Redis.setex, Op.run_bind, attemptCall_run]
      cases r.faults r.calls.length .setex <;> rfl
  | _ => rfl

theorem calls_replay (calls : List RedisCall) (r : Redis) :
    (replay calls r).calls = r.calls ++ calls := by
  induction calls generalizing r with
  | nil => simp [replay]
  | cons call calls ih =>
      have hstep : replay (call :: calls) r = replay calls (r.after call) := rfl
      rw [hstep, ih, calls_after, List.append_assoc]
      rfl

theorem replay_append (calls calls' : List RedisCall) (r : Redis) :
    replay (calls ++ calls') r = replay calls' (replay calls r) := List.foldl_append

theorem fruitless_append (nesting : Nat) (calls calls' : List RedisCall) (r : Redis) :
    Fruitless nesting (calls ++ calls') r ↔
      Fruitless nesting calls r ∧ Fruitless nesting calls' (replay calls r) := by
  induction calls generalizing r with
  | nil => simp [Fruitless, replay]
  | cons call calls ih =>
      rw [List.cons_append, Fruitless, Fruitless, ih, and_assoc]
      rfl

end Redis

/-! ## Logs with more warnings -/

/-- A warning about a look-up or a write that came to nothing. -/
def Log.Entry.IsRedisWarning (e : Log.Entry) : Prop :=
  ∃ name ∈ ["result_get_failed", "result_set_failed"], ∃ fields,
    e = Log.event .results .warning name fields

/-- A log that is another one with warnings about Redis in between. -/
inductive Interspersed : List Log.Entry → List Log.Entry → Prop
  | nil : Interspersed [] []
  | both (e : Log.Entry) {l l' : List Log.Entry} (h : Interspersed l l') :
      Interspersed (e :: l) (e :: l')
  | warning {e : Log.Entry} (he : e.IsRedisWarning) {l l' : List Log.Entry}
      (h : Interspersed l l') : Interspersed (e :: l) l'

namespace Interspersed

theorem refl (l : List Log.Entry) : Interspersed l l := by
  induction l with
  | nil => exact .nil
  | cons e l ih => exact .both e ih

theorem append {l₁ l₂ k₁ k₂ : List Log.Entry} (hl : Interspersed l₁ l₂)
    (hk : Interspersed k₁ k₂) : Interspersed (l₁ ++ k₁) (l₂ ++ k₂) := by
  induction hl with
  | nil => exact hk
  | both e _ ih => exact .both e ih
  | warning he _ ih => exact .warning he ih

end Interspersed

/-! ## Channels with and without Redis -/

namespace ResultChannel

/-- A channel without Redis. -/
def offline (c : ResultChannel) : ResultChannel := { c with connected := false, redis := {} }

/-- A channel that reads as deep as `nesting`, and whose Redis was given calls since it was `r`. -/
def Since (nesting : Nat) (r : Redis) (c : ResultChannel) : Prop :=
  c.nesting = nesting ∧ ∃ calls, c.redis = r.replay calls

/-- Channels with a Redis that was given calls since it was `r`, next to themselves without. -/
def beside (nesting : Nat) (r : Redis) : Likeness ResultChannel where
  states c c' := c.Since nesting r ∧ c' = c.offline ∨
    (c.nesting = nesting ∧ ∃ calls, c.redis = r.replay calls ∧ ¬ Redis.Fruitless nesting calls r) ∧
      c' = c
  lost c := c.nesting = nesting ∧
    ∃ calls, c.redis = r.replay calls ∧ ¬ Redis.Fruitless nesting calls r
  logs := Interspersed
  states_of_lost _ hc := .inr ⟨hc, rfl⟩
  logs_refl := .refl
  logs_append _ _ _ _ := .append

variable {α β : Type} {nesting : Nat} {r : Redis} {now : Timestamp} {ticket : String}

/-- An operation to which Redis makes no difference, unless a look-up comes back with a record. -/
def Transparent (x : Op ResultChannel α) : Prop :=
  ∀ c, (x.run c).state.nesting = c.nesting ∧
    ∃ calls, (x.run c).state.redis = c.redis.replay calls ∧
    (¬ Redis.Fruitless c.nesting calls c.redis ∨
      (x.run c).answer = (x.run c.offline).answer ∧
        (x.run c.offline).state = (x.run c).state.offline ∧
        Interspersed (x.run c).log (x.run c.offline).log)

theorem Transparent.respects {x : Op ResultChannel α} (hx : Transparent x) :
    (beside nesting r).Respects x := by
  -- what was lost stays lost, since calls only come after those that were made
  have hlost : ∀ c, (beside nesting r).lost c → (beside nesting r).lost (x.run c).state := by
    rintro c ⟨rfl, calls, hcalls, hfound⟩
    obtain ⟨hnesting, calls', hcalls', -⟩ := hx c
    refine ⟨hnesting, calls ++ calls', ?_, ?_⟩
    · rw [hcalls', hcalls, Redis.replay_append]
    · rw [Redis.fruitless_append]
      exact fun h => hfound h.1
  rintro c _ (⟨⟨rfl, calls, hcalls⟩, rfl⟩ | ⟨hc, -⟩)
  · refine ⟨hlost c, ?_⟩
    obtain ⟨hnesting, calls', hcalls', hout⟩ := hx c
    have hall : (x.run c).state.redis = r.replay (calls ++ calls') := by
      rw [hcalls', hcalls, Redis.replay_append]
    refine hout.imp (fun hfound => ⟨hnesting, _, hall, ?_⟩) ?_
    · rw [Redis.fruitless_append, ← hcalls]
      exact fun h => hfound h.2
    · rintro ⟨hanswer, hstate, hlog⟩
      exact ⟨answers_eq.mpr hanswer, .inl ⟨⟨hnesting, _, hall⟩, hstate⟩, hlog⟩
  · exact ⟨hlost c, .inl (hlost c hc)⟩

/-- An operation that does not touch Redis is transparent, if it does the same without. -/
theorem Transparent.of_untouched {x : Op ResultChannel α}
    (hnesting : ∀ c : ResultChannel, (x.run c).state.nesting = c.nesting)
    (hredis : ∀ c : ResultChannel, (x.run c).state.redis = c.redis)
    (hsame : ∀ c : ResultChannel,
      x.run c.offline = ⟨(x.run c).answer, (x.run c).state.offline, (x.run c).log⟩) :
    Transparent x := by
  intro c
  refine ⟨hnesting c, [], hredis c, .inr ?_⟩
  rw [hsame]
  exact ⟨rfl, rfl, .refl _⟩

/-! ## The operations of a channel -/

variable {c : ResultChannel}

/-- A record that is fetched was found; nothing is logged. -/
theorem fetch_run (now : Timestamp) (ticket : String) (c : ResultChannel) :
    ((fetch now ticket).run c).log = [] ∧
      ∀ x, ((fetch now ticket).run c).answer = .ok (some x) →
        c.redis.Finds c.nesting (redisKey ticket) := by
  rw [fetch, Op.run_bind, Op.run_get]
  dsimp only
  rw [Op.run_bind, onRedis, Op.run_on, Redis.get_run]
  cases hfault : c.redis.faults c.redis.calls.length .get with
  | some f => simp
  | none =>
      cases hlookup : c.redis.lookup (redisKey ticket) with
      | none => simp
      | some text =>
          dsimp only
          split
          · simp
          · cases hread : readStored c.nesting now text with
            | error e => simp [Except.map]
            | ok x => exact ⟨by simp, fun _ _ => ⟨hfault, text, now, x, hlookup, hread⟩⟩

/-- A ticket that is not in the map is looked up in Redis. -/
theorem get_run_of_fetch (hconn : c.connected = true) (hfind : find? ticket c.records = none) :
    (get now ticket).run c =
      match (fetch now ticket).run c with
      | ⟨.ok (some x), c', log⟩ => ⟨.ok x, c', log⟩
      | ⟨.ok none, c', log⟩ => ⟨.error (.bridge (.resultNotFound ticket)), c', log⟩
      | ⟨.error e, c', log⟩ => ⟨.error (.bridge (.resultNotFound ticket)), c', log ++
          [Log.event .results .warning "result_get_failed"
            [("ticket", .string ticket), ("error", .str e.text)]]⟩ := by
  rw [get, Op.run_bind, Op.run_get]
  simp only [hfind, hconn, if_true, Op.run_bind, Op.run_attempt, List.nil_append]
  rcases (fetch now ticket).run c with ⟨e | _ | x, c', log⟩ <;> simp [Op.event]

theorem transparent_get (now : Timestamp) (ticket : String) : Transparent (get now ticket) := by
  intro c
  refine ⟨by rw [get_state], ?_⟩
  cases hfind : find? ticket c.records with
  | some x =>
      refine ⟨[], ?_, .inr ?_⟩
      · rw [get_run_of_find? hfind]
        rfl
      · rw [get_run_of_find? hfind, get_run_of_find? (c := c.offline) hfind]
        exact ⟨rfl, rfl, .nil⟩
  | none =>
      have hmemory : ∀ d : ResultChannel, d.connected = false → find? ticket d.records = none →
          (get now ticket).run d = ⟨.error (.bridge (.resultNotFound ticket)), d, []⟩ := by
        intro d hconn hfind
        simp [get, hfind, hconn]
      have hoffline := hmemory c.offline rfl hfind
      cases hconn : c.connected with
      | false =>
          refine ⟨[], ?_, .inr ?_⟩
          · rw [hmemory c hconn hfind]
            rfl
          · rw [hmemory c hconn hfind, hoffline]
            exact ⟨rfl, rfl, .nil⟩
      | true =>
          have hstate : ((get now ticket).run c).state =
              { c with redis := c.redis.replay [.get (redisKey ticket)] } := by
            rw [get_state, consulted, if_pos ⟨hconn, hfind⟩]
            rfl
          refine ⟨[.get (redisKey ticket)], by rw [hstate], ?_⟩
          obtain ⟨hlog, hfound⟩ := fetch_run now ticket c
          rw [get_run_of_fetch hconn hfind] at hstate ⊢
          rw [hoffline]
          rcases hfetch : (fetch now ticket).run c with ⟨e | _ | x, c', log⟩ <;>
            simp only [hfetch] at hlog hfound hstate ⊢ <;> subst hlog hstate
          · exact .inr ⟨trivial, rfl, .warning ⟨_, by simp, _, rfl⟩ .nil⟩
          · exact .inr ⟨trivial, rfl, .nil⟩
          · exact .inl fun h => h.1 _ rfl (hfound x rfl)

/-- A record is put into the map, and written through if that did not fail. -/
theorem store_run (x : Record) (c : ResultChannel) :
    (store x).run c =
      match evict c.capacity (insertNewest x c.records) with
      | .error e => ⟨.error e, { c with records := [] }, []⟩
      | .ok kept =>
        if c.connected then
          match (writeThrough x).run { c with records := kept } with
          | ⟨.ok _, c', log⟩ => ⟨.ok (), c', log⟩
          | ⟨.error e, c', log⟩ => ⟨.ok (), c', log ++
              [Log.event .results .warning "result_set_failed"
                [("ticket", .string x.ticket), ("error", .str e.text)]]⟩
        else ⟨.ok (), { c with records := kept }, []⟩ := by
  cases hevict : evict c.capacity (insertNewest x c.records) with
  | error e =>
      have hinsert : (insert x).run c = ⟨.error e, { c with records := [] }, []⟩ := by
        show insert x c = _
        rw [insert, hevict]
      rw [store, Op.run_bind, hinsert]
  | ok kept =>
      rw [store, Op.run_bind, insert_run_of_ok hevict]
      simp only [Op.run_bind, Op.run_get, List.nil_append]
      cases hconn : c.connected with
      | false => rfl
      | true =>
          simp only [if_true, Op.run_bind, Op.run_attempt]
          rcases (writeThrough x).run _ with ⟨_ | _, c', log⟩ <;> simp [Op.event]

theorem writeThrough_log (x : Record) (c : ResultChannel) : ((writeThrough x).run c).log = [] := by
  rw [writeThrough]
  cases x.dump <;> simp [onRedis, Redis.setex_log]

/-- Writing a record through is one call, or none if the record has no body. -/
theorem exists_written (x : Record) (c : ResultChannel) :
    ∃ calls, written x c = c.redis.replay calls := by
  rw [written]
  split
  · exact ⟨[.setex (redisKey x.ticket) c.ttl x.toBody.write], rfl⟩
  · exact ⟨[], rfl⟩

theorem transparent_store (x : Record) : Transparent (store x) := by
  rintro ⟨capacity, ttl, records, queues, connected, redis, nesting⟩
  rw [store_run, store_run]
  simp only [offline]
  cases evict capacity (insertNewest x records) with
  | error e => exact ⟨rfl, [], rfl, .inr ⟨rfl, rfl, .nil⟩⟩
  | ok kept =>
      cases connected with
      | false => exact ⟨rfl, [], rfl, .inr ⟨rfl, rfl, .nil⟩⟩
      | true =>
          have hlog := writeThrough_log x ⟨capacity, ttl, kept, queues, true, redis, nesting⟩
          have hstate := writeThrough_state
            (c := ⟨capacity, ttl, kept, queues, true, redis, nesting⟩) rfl x
          obtain ⟨calls, hcalls⟩ :=
            exists_written x ⟨capacity, ttl, kept, queues, true, redis, nesting⟩
          rcases hwrite : (writeThrough x).run ⟨capacity, ttl, kept, queues, true, redis, nesting⟩
            with ⟨e | _, c', log⟩ <;>
            rw [hwrite] at hlog hstate <;> subst hlog hstate <;> simp only [if_true, hwrite]
          · exact ⟨trivial, calls, hcalls, .inr ⟨rfl, rfl, .warning ⟨_, by simp, _, rfl⟩ .nil⟩⟩
          · exact ⟨trivial, calls, hcalls, .inr ⟨rfl, rfl, .nil⟩⟩

theorem transparent_broadcast (x : Record) : Transparent (broadcast x) := by
  refine .of_untouched (fun c => ?_) (fun c => ?_) fun c => ?_ <;> rw [broadcast_run]
  rw [broadcast_run]
  rfl

/-- Everything that is asked of a channel is transparent. -/
theorem uniform_beside (nesting : Nat) (r : Redis) : (beside nesting r).Uniform where
  register now command := .bind (transparent_store _).respects fun _ => .pure rfl
  publish now ticket status result := by
    have hstatus : (beside nesting r).Respects (checkStatus status) :=
      Likeness.respects_checkStatus status
    exact .bind (transparent_get now ticket).respects fun _ => .bind hstatus fun _ =>
      .bind (transparent_store _).respects fun _ => .bind (.event _ _ _ _) fun _ =>
        .bind (transparent_broadcast _).respects fun _ => .pure rfl
  get now ticket := (transparent_get now ticket).respects
  subscribe limit := (Transparent.of_untouched (fun _ => rfl) (fun _ => rfl) fun _ => rfl).respects
  unsubscribe place := (Transparent.of_untouched (fun _ => rfl) (fun _ => rfl) fun _ => rfl).respects
  drain place := (Transparent.of_untouched (fun _ => rfl) (fun _ => rfl) fun _ => rfl).respects

/-- Letting go of Redis is all that closing a channel is. -/
theorem transparent_close : Transparent close := by
  rintro ⟨capacity, ttl, records, queues, connected, redis, nesting⟩
  cases connected with
  | false => exact ⟨rfl, [], rfl, .inr ⟨rfl, rfl, .nil⟩⟩
  | true => exact ⟨rfl, [.close], rfl, .inr ⟨rfl, rfl, .nil⟩⟩

/-! ## What a channel fails with -/

/-- A failure that is no fault of anything that the bridge works with. -/
def NoFault (e : Failure) : Prop := ∀ f, e ≠ .fault f

theorem failsOnly_get (now : Timestamp) (ticket : String) : (get now ticket).FailsOnly NoFault := by
  intro c e he f
  rw [get_answer_of_error he]
  exact nofun

/-- There is one way for eviction to fail. -/
theorem eq_nothingToEvict {capacity : Int} {records : List Record} {e : Failure}
    (h : evict capacity records = .error e) : e = .nothingToEvict := by
  induction records with
  | nil =>
      rw [evict] at h
      split at h
      · exact (Except.error.inj h).symm
      · exact absurd h (by simp)
  | cons r rest ih =>
      rw [evict] at h
      split at h
      · exact ih h
      · exact absurd h (by simp)

theorem failsOnly_store (x : Record) : (store x).FailsOnly NoFault := by
  intro c e he f
  rw [store_run] at he
  cases hkept : evict c.capacity (insertNewest x c.records) with
  | error e' =>
      rw [hkept, eq_nothingToEvict hkept] at he
      rw [← Except.error.inj he]
      exact nofun
  | ok kept =>
      rw [hkept] at he
      simp only at he
      split at he
      · split at he <;> exact absurd he (by simp)
      · exact absurd he (by simp)

theorem failsOnly_register (now : Timestamp) (command : Command) :
    (register now command).FailsOnly NoFault :=
  .bind (failsOnly_store _) fun _ => .pure _

/-- A failure that is no fault but that of a dump of `result`. -/
def NoFaultBut (result : Json) (e : Failure) : Prop :=
  ∀ f, e = .fault f → result.dumpFault? Json.dumpLimit = some f

/-- No fault of Redis comes out of a publication: the one fault there can be is that of the dump of
its result, which is the same without Redis. -/
theorem failsOnly_publish (now : Timestamp) (ticket : String) (status result : Json) :
    (publish now ticket status result).FailsOnly (NoFaultBut result) := by
  have hstatus : (checkStatus status).FailsOnly (NoFaultBut result) := by
    unfold checkStatus
    split
    · exact .pure _
    · exact .fail nofun
  have hbroadcast : ∀ (x : Record) s, (broadcast (x.withOutcome now s result)).FailsOnly
      (NoFaultBut result) := by
    intro x s c e he f hf
    rw [broadcast_run, Record.dump] at he
    subst hf
    cases hdump : result.dumpFault? Json.dumpLimit with
    | none => simp [Record.withOutcome, hdump, Except.map] at he
    | some f' => simpa [Record.withOutcome, hdump, Except.map] using he
  have hnone : ∀ e, NoFault e → NoFaultBut result e := fun e he f hf => absurd hf (he f)
  exact .bind ((failsOnly_get now ticket).mono hnone) fun x => .bind hstatus fun s =>
    .bind ((failsOnly_store _).mono hnone) fun _ => .bind (.event _ _ _ _) fun _ =>
      .bind (hbroadcast x s) fun _ => .pure _

end ResultChannel

end CommandBridge
