import CommandBridge.Proofs.Instance.Uniform
import CommandBridge.Proofs.Results.Storing
import CommandBridge.Results.Stream

/-!
# CommandBridge.Proofs.Results.Interchange

Channels that differ only in what their Redis was asked before.  As long as the two stores hold the
same texts and are going to fail at the same calls from now on, nothing that is asked of the two
channels tells them apart (`storing_interchangeable`, `uniform_interchangeable`).
-/

namespace CommandBridge

open Likeness

/-! ## Redis -/

namespace Redis

/-- Stores that hold the same texts, and are going to fail at the same calls.  Logs are not
compared. -/
def interchangeable : Likeness Redis where
  states r r' := r'.entries = r.entries ∧
    ∀ n, r'.faults (r'.calls.length + n) = r.faults (r.calls.length + n)
  logs _ _ := True
  logs_refl _ := trivial
  logs_append _ _ _ _ _ _ := trivial

theorem complete_interchangeable : interchangeable.Complete := fun _ => id

/-- Stores that were given one more call each. -/
theorem states_note {r r' : Redis} (h : interchangeable.states r r') (call : RedisCall) :
    interchangeable.states { r with calls := r.calls ++ [call] }
      { r' with calls := r'.calls ++ [call] } := by
  obtain ⟨hentries, hfaults⟩ := h
  refine ⟨hentries, fun n => ?_⟩
  have hlater := hfaults (1 + n)
  rw [← Nat.add_assoc, ← Nat.add_assoc] at hlater
  show r'.faults ((r'.calls ++ [call]).length + n) = r.faults ((r.calls ++ [call]).length + n)
  rw [List.length_append, List.length_append, List.length_singleton, hlater]

theorem respects_note (call : RedisCall) : interchangeable.Respects (note call) :=
  .modify (fun _ _ h => states_note h call) fun _ => id

theorem respects_attemptCall (command : RedisCommand) (call : RedisCall) :
    interchangeable.Respects (attemptCall command call) := by
  refine complete_interchangeable.alike fun r r' h => ⟨?_, states_note h call, trivial⟩
  have hnext := h.2 0
  rw [Nat.add_zero, Nat.add_zero] at hnext
  rw [answers_eq]
  simp only [attemptCall, Op.run, hnext]

theorem respects_get (key : String) : interchangeable.Respects (Redis.get key) := by
  refine .bind (respects_attemptCall _ _) fun _ => .get_bind fun r r' ⟨hentries, _⟩ => .pure ?_
  rw [lookup, lookup, hentries]

theorem respects_setex (key : String) (ttl : Int) (text : String) :
    interchangeable.Respects (Redis.setex key ttl text) := by
  refine .bind (respects_attemptCall _ _) fun _ => .modify (fun r r' ⟨hentries, hfaults⟩ => ?_)
    fun _ => id
  refine ⟨?_, hfaults⟩
  show (key, text) :: _ = (key, text) :: _
  rw [hentries]

end Redis

/-! ## Channels -/

namespace ResultChannel

/-- Channels of a capacity that differ in their Redis only, with stores that are
interchangeable. -/
def interchangeable (capacity : Int) : Likeness ResultChannel where
  states c c' := c.capacity = capacity ∧
    ∃ r, Redis.interchangeable.states c.redis r ∧ c' = { c with redis := r }
  logs _ _ := True
  logs_refl _ := trivial
  logs_append _ _ _ _ _ _ := trivial

variable {capacity : Int} {α β : Type}

theorem complete_interchangeable : (interchangeable capacity).Complete := fun _ => id

theorem respects_onRedis {x : Op Redis α} (hx : Redis.interchangeable.Respects x) :
    (interchangeable capacity).Respects (onRedis x) := by
  refine .on hx ?_ ?_ (fun _ => id) (fun _ _ => id) fun _ _ => id
  · rintro c _ ⟨-, r, hr, rfl⟩
    exact hr
  · rintro c _ r r' ⟨hcapacity, -, -, rfl⟩ hr
    exact ⟨hcapacity, r', hr, rfl⟩

/-- An operation that does the same whatever Redis is like. -/
theorem respects_of_same {x : Op ResultChannel α}
    (hkeep : ∀ c : ResultChannel,
      (x.run c).state.capacity = c.capacity ∧ (x.run c).state.redis = c.redis)
    (hsame : ∀ (c : ResultChannel) r, (x.run { c with redis := r }).answer = (x.run c).answer ∧
      (x.run { c with redis := r }).state = { (x.run c).state with redis := r }) :
    (interchangeable capacity).Respects x := by
  refine complete_interchangeable.alike ?_
  rintro c _ ⟨hcapacity, r, hr, rfl⟩
  obtain ⟨hanswer, hstate⟩ := hsame c r
  obtain ⟨hkeepCapacity, hkeepRedis⟩ := hkeep c
  exact ⟨answers_eq.mpr hanswer.symm, ⟨hkeepCapacity.trans hcapacity, r, hkeepRedis ▸ hr, hstate⟩,
    trivial⟩

/-- What was asked of Redis before is not looked at to look up and to store records. -/
theorem storing_interchangeable : (interchangeable capacity).Storing where
  records := by
    rintro c _ ⟨-, r, -, rfl⟩
    rfl
  connected := by
    rintro c _ ⟨-, r, -, rfl⟩
    rfl
  ttl := by
    rintro c _ ⟨-, r, -, rfl⟩
    rfl
  nesting := by
    rintro c _ ⟨-, r, -, rfl⟩
    rfl
  insert x := by
    have hrun : ∀ c : ResultChannel, (insert x).run c = insert x c := fun _ => rfl
    refine respects_of_same (fun c => ?_) fun c r => ?_
    · rw [hrun, insert]
      cases evict c.capacity (insertNewest x c.records) <;> exact ⟨rfl, rfl⟩
    · rw [hrun, hrun, insert, insert]
      cases evict c.capacity (insertNewest x c.records) <;> exact ⟨rfl, rfl⟩
  lookup key := respects_onRedis (Redis.respects_get key)
  write key ttl text := respects_onRedis (Redis.respects_setex key ttl text)

theorem respects_subscribe (limit : Int) : (interchangeable capacity).Respects (subscribe limit) :=
  respects_of_same (fun _ => ⟨rfl, rfl⟩) fun _ _ => ⟨rfl, rfl⟩

theorem respects_unsubscribe (place : Nat) :
    (interchangeable capacity).Respects (unsubscribe place) :=
  respects_of_same (fun _ => ⟨rfl, rfl⟩) fun _ _ => ⟨rfl, rfl⟩

theorem uniform_interchangeable : (interchangeable capacity).Uniform where
  register now command := storing_interchangeable.respects_register now command
  publish now ticket status result := by
    have hbroadcast : ∀ x, (interchangeable capacity).Respects (broadcast x) := fun _ =>
      .bind (.ofExcept (answers_eq.mpr rfl)) fun _ =>
        respects_of_same (fun _ => ⟨rfl, rfl⟩) fun _ _ => ⟨rfl, rfl⟩
    exact .bind (storing_interchangeable.respects_get now ticket) fun _ =>
      .bind (respects_checkStatus status) fun _ =>
      .bind (storing_interchangeable.respects_store _) fun _ => .bind (.event _ _ _ _) fun _ =>
      .bind (hbroadcast _) fun _ => .pure rfl
  get now ticket := storing_interchangeable.respects_get now ticket
  subscribe := respects_subscribe
  unsubscribe := respects_unsubscribe
  drain _ := respects_of_same (fun _ => ⟨rfl, rfl⟩) fun _ _ => ⟨rfl, rfl⟩

theorem respects_getBody (now : Timestamp) (ticket : String) :
    (interchangeable capacity).Respects (getBody now ticket) :=
  .bind (uniform_interchangeable.get now ticket) fun _ => .ofExcept (answers_eq.mpr rfl)

theorem respects_publishBody (now : Timestamp) (ticket : String) (status : ResultStatus)
    (result : Json) :
    (interchangeable capacity).Respects (publishBody now ticket status result) :=
  .bind (uniform_interchangeable.publish now ticket _ result) fun _ => .ofExcept (answers_eq.mpr rfl)

/-- Letting go of Redis is noted there. -/
theorem respects_close : (interchangeable capacity).Respects close := by
  refine .get_bind ?_
  rintro c _ ⟨-, r, -, rfl⟩
  refine .ite (fun _ => ?_) fun _ => .pure rfl
  exact .bind (respects_onRedis (Redis.respects_note _)) fun _ =>
    respects_of_same (fun _ => ⟨rfl, rfl⟩) fun _ _ => ⟨rfl, rfl⟩

theorem respects_nextEvent? (place : Nat) :
    (interchangeable capacity).Respects (nextEvent? place) := by
  have hrun : ∀ c : ResultChannel, (nextEvent? place).run c = nextEvent? place c := fun _ => rfl
  refine respects_of_same (fun c => ?_) fun c r => ?_
  · rw [hrun, nextEvent?]
    cases (c.queues[place]?.map (·.pending)).getD [] <;> exact ⟨rfl, rfl⟩
  · rw [hrun, hrun, nextEvent?, nextEvent?]
    cases (c.queues[place]?.map (·.pending)).getD [] <;> exact ⟨rfl, rfl⟩

end ResultChannel

/-! ## Event streams -/

namespace EventStream

open ResultChannel

variable {capacity : Int}

theorem respects_next (s : EventStream) : (interchangeable capacity).Respects s.next := by
  unfold next
  split
  · exact .pure rfl
  · refine .bind (respects_subscribe _) fun q => .get_bind ?_
    rintro c _ ⟨-, r, -, rfl⟩
    exact .pure rfl
  · refine .ite (fun _ => .bind (respects_unsubscribe _) fun _ => .pure rfl) fun _ =>
      .ite (fun _ => .pure rfl) fun _ => .bind (respects_nextEvent? _) fun e => ?_
    cases e <;> exact .pure rfl

theorem respects_close (s : EventStream) : (interchangeable capacity).Respects s.close := by
  unfold close
  dsimp only
  split
  · exact .bind (respects_unsubscribe _) fun _ => .pure rfl
  · exact .pure rfl

end EventStream

end CommandBridge
