import CommandBridge.Proofs.Results.Run
import CommandBridge.Proofs.Results.Storing

/-!
# CommandBridge.Proofs.Results.Subscriptions

What subscribers are sent.  A run is looked at step by step (`moments`), so that what is published
at each step and what a queue holds there can be named.  A subscriber has received what it drained
and what is still in its queue, and that is what was published between its subscription and the
end of it, save what came while the queue was full (`subscriber_receives`).

Records and queues hardly meet: look-ups and stores are `Blind` to queues, and a publication is
one that tells nobody (`publishQuietly`) followed by a broadcast.  So a subscriber's own queue is
all that a run has to be followed with (`solo`), and nobody else makes a difference to it.
No capacity of the map is assumed, so stores may fail here.
-/

namespace CommandBridge

/-- States that are the same state. -/
def Likeness.same (σ : Type) : Likeness σ where
  states := Eq

theorem Likeness.respects_same {σ α : Type} (x : Op σ α) : (Likeness.same σ).Respects x := by
  rintro s _ rfl
  exact ⟨id, .inr ⟨answers_eq.mpr rfl, rfl, rfl⟩⟩

namespace ResultChannel

/-! ## Operations that do not look at queues -/

/-- Channels that differ in their queues only, which are `qs` and `qs'`. -/
def apart (qs qs' : List EventQueue) : Likeness ResultChannel where
  states c c' := c.queues = qs ∧ c' = { c with queues := qs' }

/-- An operation that neither reads nor changes queues. -/
def Blind {α : Type} (x : Op ResultChannel α) : Prop := ∀ qs qs', (apart qs qs').Respects x

variable {α β : Type} {c : ResultChannel} {m : Nat} {place : Nat} {limit : Int} {now : Timestamp}
  {ticket : String} {status result : Json}

namespace Blind

theorem queues_run {x : Op ResultChannel α} (hx : Blind x) (c : ResultChannel) :
    (x.run c).state.queues = c.queues :=
  ((hx c.queues c.queues).outcomes ⟨rfl, rfl⟩ id).state.1

/-- With other queues an operation does the same, and leaves those. -/
theorem run_queues {x : Op ResultChannel α} (hx : Blind x) (c : ResultChannel)
    (qs : List EventQueue) :
    x.run { c with queues := qs } =
      ⟨(x.run c).answer, { (x.run c).state with queues := qs }, (x.run c).log⟩ := by
  obtain ⟨hanswer, ⟨-, hstate⟩, hlog⟩ := (hx c.queues qs).outcomes (s := c) ⟨rfl, rfl⟩ id
  rw [answers_eq.mp hanswer, hlog, ← hstate]

theorem bind {x : Op ResultChannel α} {f : α → Op ResultChannel β} (hx : Blind x)
    (hf : ∀ a, Blind (f a)) : Blind (x >>= f) := fun qs qs' => .bind (hx qs qs') fun a => hf a qs qs'

theorem pure (a : α) : Blind (Pure.pure a) := fun _ _ => .pure rfl

theorem event (source : Log.Source) (level : Log.Level) (name : String)
    (fields : List (String × Json)) : Blind (Op.event source level name fields) :=
  fun _ _ => .event _ _ _ _

theorem discard {x : Op ResultChannel α} (hx : Blind x) : Blind (Functor.discard x) :=
  fun qs qs' => .discard (hx qs qs')

theorem onRedis (x : Op Redis α) : Blind (onRedis x) := by
  refine fun qs qs' => .on (Likeness.respects_same x) ?_ ?_ (fun _ => id) (fun _ _ => id)
    (fun _ _ => id)
  · rintro c _ ⟨-, rfl⟩
    rfl
  · rintro c _ r _ ⟨hqs, rfl⟩ rfl
    exact ⟨hqs, rfl⟩

end Blind

/-- Queues are not looked at to look up and to store records. -/
theorem storing_apart (qs qs' : List EventQueue) : (apart qs qs').Storing where
  records := by
    rintro c _ ⟨-, rfl⟩
    rfl
  connected := by
    rintro c _ ⟨-, rfl⟩
    rfl
  ttl := by
    rintro c _ ⟨-, rfl⟩
    rfl
  nesting := by
    rintro c _ ⟨-, rfl⟩
    rfl
  insert r := by
    rintro c _ ⟨hqs, rfl⟩
    refine ⟨id, .inr ?_⟩
    show (apart qs qs').Outcomes Eq (insert r c) (insert r { c with queues := qs' })
    unfold insert
    cases evict c.capacity (insertNewest r c.records) <;>
      exact ⟨answers_eq.mpr rfl, ⟨hqs, rfl⟩, rfl⟩
  lookup key := Blind.onRedis _ qs qs'
  write key ttl text := Blind.onRedis _ qs qs'

theorem blind_get (now : Timestamp) (ticket : String) : Blind (get now ticket) :=
  fun qs qs' => (storing_apart qs qs').respects_get now ticket

theorem blind_store (r : Record) : Blind (store r) :=
  fun qs qs' => (storing_apart qs qs').respects_store r

theorem blind_checkStatus (status : Json) : Blind (checkStatus status) :=
  fun _ _ => Likeness.respects_checkStatus status

theorem blind_register (now : Timestamp) (command : Command) : Blind (register now command) :=
  .bind (blind_store _) fun _ => .pure _

/-! ## Publishing is telling nobody, and then everybody -/

/-- Takes in the outcome of a ticket's command without telling subscribers.  As if they were to be
told, this fails if the record has no body. -/
def publishQuietly (now : Timestamp) (ticket : String) (status result : Json) :
    Op ResultChannel Record := do
  let current ← get now ticket
  let status ← checkStatus status
  let r := current.withOutcome now status result
  store r
  Op.event .results .info "result_published"
    [("ticket", .string ticket), ("kind", .string r.kind.text), ("target", .string r.target),
      ("status", .string r.status.text)]
  let _ ← Op.ofExcept r.dump
  return r

/-- Only the body of the record is ever offered to queues. -/
theorem broadcast_eq (r : Record) :
    broadcast r = (do
      let _ ← Op.ofExcept r.dump
      Op.modify fun c : ResultChannel => { c with queues := c.queues.map (.offer r.toBody) }) := by
  by_cases hr : r.Dumpable
  · rw [broadcast, Record.dump_of_dumpable hr]
    rfl
  · obtain ⟨f, -, hf⟩ := Record.dump_of_not_dumpable hr
    rw [broadcast, hf]
    rfl

theorem publish_eq (now : Timestamp) (ticket : String) (status result : Json) :
    publish now ticket status result = (do
      let r ← publishQuietly now ticket status result
      Op.modify fun c => { c with queues := c.queues.map (.offer r.toBody) }
      return r) := by
  simp only [publish, publishQuietly, broadcast_eq, bind_assoc, pure_bind]

theorem blind_publishQuietly (now : Timestamp) (ticket : String) (status result : Json) :
    Blind (publishQuietly now ticket status result) :=
  .bind (blind_get now ticket) fun _ => .bind (blind_checkStatus status) fun _ =>
    .bind (blind_store _) fun _ => .bind (.event _ _ _ _) fun _ =>
      .bind (fun _ _ => .ofExcept (answers_eq.mpr rfl)) fun _ => .pure _

/-- What becomes of queues when a publication succeeds or fails. -/
def announced (answer : Except Failure Record) (qs : List EventQueue) : List EventQueue :=
  match answer with
  | .ok r => qs.map (EventQueue.offer r.toBody)
  | .error _ => qs

theorem publish_run (now : Timestamp) (ticket : String) (status result : Json)
    (c : ResultChannel) (qs : List EventQueue) :
    (publish now ticket status result).run { c with queues := qs } =
      ⟨((publishQuietly now ticket status result).run c).answer,
        { ((publishQuietly now ticket status result).run c).state with
          queues := announced ((publishQuietly now ticket status result).run c).answer qs },
        ((publishQuietly now ticket status result).run c).log⟩ := by
  rw [publish_eq, Op.run_bind, (blind_publishQuietly now ticket status result).run_queues]
  rcases (publishQuietly now ticket status result).run c with ⟨_ | r, c', log⟩
  · rfl
  · simp [announced, Except.map]

/-- No queue makes a difference to what a publication answers, stores or logs. -/
theorem publish_same (now : Timestamp) (ticket : String) (status result : Json)
    (c : ResultChannel) (qs : List EventQueue) :
    (publish now ticket status result).run { c with queues := qs } =
      ⟨((publish now ticket status result).run c).answer,
        { ((publish now ticket status result).run c).state with
          queues := announced ((publish now ticket status result).run c).answer qs },
        ((publish now ticket status result).run c).log⟩ := by
  have hself := publish_run now ticket status result c c.queues
  rw [publish_run, hself]

/-- A publication that succeeds is offered to every queue; one that fails is offered to none. -/
theorem publish_queues (now : Timestamp) (ticket : String) (status result : Json)
    (c : ResultChannel) :
    ((publish now ticket status result).run c).state.queues =
      announced ((publish now ticket status result).run c).answer c.queues :=
  congrArg (fun o => o.state.queues) (publish_same now ticket status result c c.queues)

/-! ## Runs, step by step -/

/-- A step of a run, and the channel that it finds. -/
structure Moment where
  step : Step
  channel : ResultChannel

/-- The steps of a run, each with the channel that it finds. -/
def moments : List Step → ResultChannel → List Moment
  | [], _ => []
  | s :: rest, c => ⟨s, c⟩ :: moments rest (s.after c)

/-- The events in a queue. -/
def held (place : Nat) (c : ResultChannel) : List Json :=
  (c.queues[place]?.map (·.pending)).getD []

namespace Moment

/-- The body of the record that is published, if the step is a publication and succeeds; then there
is one. -/
def published? (x : Moment) : Option Json :=
  match x.step.operation with
  | .publish ticket status result =>
    ((publish x.step.now ticket status result).run x.channel).answer.toOption.map Record.toBody
  | _ => none

/-- What a subscriber gets, if the step is a drain of its queue. -/
def drained? (place : Nat) (x : Moment) : Option (List Json) :=
  match x.step.operation with
  | .drain p => if p = place then ((drain p).run x.channel).answer.toOption else none
  | _ => none

/-- Whether a queue for `limit` events holds that many. -/
def isFull (place : Nat) (limit : Int) (x : Moment) : Bool :=
  0 < limit && (held place x.channel).length = limit

/-- Whether a subscriber leaves. -/
def isEnd (place : Nat) (x : Moment) : Bool := x.step.operation = .unsubscribe place

end Moment

/-- What a subscriber gets, drain by drain. -/
def drains (place : Nat) (steps : List Step) (c : ResultChannel) : List (List Json) :=
  (moments steps c).filterMap (Moment.drained? place)

/-- The bodies of what is published until a subscriber leaves, each when it was published, save
what comes while its queue for `limit` events is full. -/
def sent (place : Nat) (limit : Int) (steps : List Step) (c : ResultChannel) : List Json :=
  (((moments steps c).takeWhile fun x => !x.isEnd place).filter
    fun x => !x.isFull place limit).filterMap Moment.published?

/-! ## One step and one queue -/

/-- What becomes of a subscriber's queue in a step. -/
def Moment.queueAfter (place : Nat) (x : Moment) (q : EventQueue) : EventQueue :=
  match x.step.operation with
  | .publish _ _ _ => (x.published?.map q.offer).getD q
  | .unsubscribe p => if p = place then { q with isOpen := false } else q
  | .drain p => if p = place then { q with pending := [] } else q
  | _ => q

variable {s : Step} {q : EventQueue}

theorem Step.queues_after_publish (h : s.operation = .publish ticket status result) :
    (s.after c).queues =
      announced ((publish s.now ticket status result).run c).answer c.queues := by
  rw [Step.after, h, ChannelOperation.run, Op.run_discard]
  exact publish_queues s.now ticket status result c

/-- The queue of a subscriber after a step. -/
theorem Step.queues_after_getElem? (hq : c.queues[place]? = some q) :
    (s.after c).queues[place]? = some (Moment.queueAfter place ⟨s, c⟩ q) := by
  unfold Moment.queueAfter
  cases hop : s.operation with
  | register command =>
      rw [Step.after, hop, ChannelOperation.run, (Blind.discard (blind_register _ _)).queues_run]
      exact hq
  | get ticket =>
      rw [Step.after, hop, ChannelOperation.run, (Blind.discard (blind_get _ _)).queues_run]
      exact hq
  | publish ticket status result =>
      simp only [Step.queues_after_publish hop, Moment.published?, hop]
      cases ((publish s.now ticket status result).run c).answer with
      | error e => exact hq
      | ok r => simp [announced, hq, Except.toOption]
  | subscribe limit =>
      have hlt : place < c.queues.length := (List.getElem?_eq_some_iff.mp hq).1
      rw [Step.after, hop]
      exact (List.getElem?_append_left hlt).trans hq
  | unsubscribe p =>
      rw [Step.after, hop]
      show (c.queues.modify p _)[place]? = _
      rw [List.getElem?_modify, hq]
      by_cases hp : p = place <;> simp [hp]
  | drain p =>
      rw [Step.after, hop]
      show (c.queues.modify p _)[place]? = _
      rw [List.getElem?_modify, hq]
      by_cases hp : p = place <;> simp [hp]

/-- A queue that holds no more than it may. -/
structure Fits (limit : Int) (q : EventQueue) : Prop where
  limited : q.limit = limit
  bound : 0 < limit → (q.pending.length : Int) ≤ limit

theorem Fits.hasRoom_iff (h : Fits limit q) :
    q.hasRoom = !(0 < limit && (q.pending.length : Int) = limit) := by
  have hbound := h.bound
  rw [EventQueue.hasRoom, h.limited, Bool.eq_iff_iff]
  simp only [Bool.or_eq_true, decide_eq_true_eq, Bool.not_eq_true', Bool.and_eq_false_iff,
    decide_eq_false_iff_not]
  omega

theorem Fits.offer (h : Fits limit q) (event : Json) : Fits limit (q.offer event) := by
  unfold EventQueue.offer
  split
  · next hroom =>
    refine ⟨h.limited, fun hpos => ?_⟩
    have hlt := (Bool.and_eq_true_iff.mp hroom).2
    rw [EventQueue.hasRoom, h.limited] at hlt
    simp only [Bool.or_eq_true, decide_eq_true_eq] at hlt
    simp only [List.length_append, List.length_singleton]
    omega
  · exact h

theorem Fits.shorten (h : Fits limit q) {pending : List Json}
    (hle : pending.length ≤ q.pending.length) : Fits limit { q with pending := pending } :=
  ⟨h.limited, fun hpos => (Int.ofNat_le.mpr hle).trans (h.bound hpos)⟩

namespace Moment

variable {x : Moment}

/-- What a subscriber gets from a step in the end, if it is there: the body that is published,
unless its queue is full. -/
def sent? (place : Nat) (limit : Int) (x : Moment) : Option Json :=
  if x.isFull place limit then none else x.published?

theorem fits_queueAfter (h : Fits limit q) : Fits limit (x.queueAfter place q) := by
  unfold queueAfter
  split
  · cases x.published? with
    | none => exact h
    | some event => exact h.offer event
  · split
    · exact ⟨h.limited, h.bound⟩
    · exact h
  · split
    · exact h.shorten (Nat.zero_le _)
    · exact h
  · exact h

/-- A queue stays open until its subscriber leaves. -/
theorem isOpen_queueAfter : (x.queueAfter place q).isOpen = (q.isOpen && !x.isEnd place) := by
  obtain ⟨⟨now, operation⟩, c⟩ := x
  cases operation with
  | publish ticket status result =>
      simp only [queueAfter, isEnd]
      cases published? ⟨⟨now, .publish ticket status result⟩, c⟩ with
      | none => simp
      | some event =>
          simp only [Option.map_some, Option.getD_some, EventQueue.offer]
          split <;> simp
  | unsubscribe p => by_cases hp : p = place <;> simp [queueAfter, isEnd, hp]
  | drain p => by_cases hp : p = place <;> simp [queueAfter, isEnd, hp]
  | _ => simp [queueAfter, isEnd]

/-- What is drained in a step and what the queue holds then is what it held, with what the step
sends at the end. -/
theorem drained_append_pending (hq : x.channel.queues[place]? = some q) (h : Fits limit q) :
    (x.drained? place).getD [] ++ (x.queueAfter place q).pending =
      q.pending ++ if q.isOpen && !x.isEnd place then (x.sent? place limit).toList else [] := by
  obtain ⟨⟨now, operation⟩, c⟩ := x
  have hheld : held place c = q.pending := by simp [held, hq]
  cases operation with
  | publish ticket status result =>
      have hend : isEnd place ⟨⟨now, .publish ticket status result⟩, c⟩ = false := by simp [isEnd]
      have hfull : isFull place limit ⟨⟨now, .publish ticket status result⟩, c⟩ = !q.hasRoom := by
        rw [h.hasRoom_iff, isFull, hheld, Bool.not_not]
      simp only [drained?, queueAfter, hend, sent?, hfull, Option.getD_none, List.nil_append,
        Bool.not_false, Bool.and_true]
      cases published? ⟨⟨now, .publish ticket status result⟩, c⟩ with
      | none => simp
      | some event =>
          cases hopen : q.isOpen <;> cases hroom : q.hasRoom <;>
            simp [EventQueue.offer, hopen, hroom]
  | unsubscribe p =>
      have hpending : (queueAfter place ⟨⟨now, .unsubscribe p⟩, c⟩ q).pending = q.pending := by
        simp only [queueAfter]
        split <;> rfl
      simp [drained?, hpending, sent?, published?]
  | drain p =>
      by_cases hp : p = place
      · subst hp
        have hdrain : ((drain p).run c).answer = .ok q.pending := by
          show Except.ok (held p c) = _
          rw [hheld]
        simp [drained?, hdrain, Except.toOption, queueAfter, sent?, published?]
      · simp [drained?, hp, queueAfter, sent?, published?]
  | _ => simp [drained?, queueAfter, sent?, published?]

end Moment

/-! ## Whole runs -/

theorem drains_cons (place : Nat) (s : Step) (steps : List Step) (c : ResultChannel) :
    drains place (s :: steps) c =
      (Moment.drained? place ⟨s, c⟩).toList ++ drains place steps (s.after c) := by
  rw [drains, moments, List.filterMap_cons]
  cases Moment.drained? place ⟨s, c⟩ <;> rfl

theorem sent_cons (place : Nat) (limit : Int) (s : Step) (steps : List Step) (c : ResultChannel) :
    sent place limit (s :: steps) c =
      if Moment.isEnd place ⟨s, c⟩ then []
      else (Moment.sent? place limit ⟨s, c⟩).toList ++ sent place limit steps (s.after c) := by
  rw [sent, moments, List.takeWhile_cons]
  cases Moment.isEnd place ⟨s, c⟩ with
  | true => simp
  | false =>
      simp only [Bool.not_false, if_true, Bool.false_eq_true, if_false, List.filter_cons,
        Moment.sent?, sent]
      cases Moment.isFull place limit ⟨s, c⟩ with
      | true => simp
      | false =>
          simp only [Bool.not_false, if_true, Bool.false_eq_true, if_false, List.filterMap_cons]
          cases Moment.published? ⟨s, c⟩ <;> simp

/-- What a subscriber drains in a run and what its queue holds at the end, if it held `q` at the
start. -/
theorem drains_append_held (steps : List Step) (hq : c.queues[place]? = some q)
    (h : Fits limit q) :
    (drains place steps c).flatten ++ held place (runAll steps c) =
      q.pending ++ if q.isOpen then sent place limit steps c else [] := by
  induction steps generalizing c q with
  | nil => simp [drains, moments, held, sent, hq]
  | cons s rest ih =>
      have hstep := Moment.drained_append_pending (x := ⟨s, c⟩) hq h
      have hflat : ∀ d : Option (List Json), d.toList.flatten = d.getD [] := by
        intro d
        cases d <;> simp
      rw [drains_cons, runAll_cons, List.flatten_append, hflat, List.append_assoc,
        ih (Step.queues_after_getElem? hq) (Moment.fits_queueAfter h), ← List.append_assoc, hstep,
        Moment.isOpen_queueAfter, sent_cons]
      cases hopen : q.isOpen <;> cases hend : Moment.isEnd place ⟨s, c⟩ <;> simp

/-- Queues keep their places. -/
theorem length_queues_le (s : Step) (c : ResultChannel) :
    c.queues.length ≤ (s.after c).queues.length := by
  by_contra hlt
  have hlast := List.getElem?_eq_getElem (Nat.lt_of_not_le hlt)
  have hsome := Step.queues_after_getElem? (s := s) hlast
  rw [List.getElem?_eq_none le_rfl] at hsome
  exact absurd hsome (by simp)

theorem length_queues_le_runAll (steps : List Step) (c : ResultChannel) :
    c.queues.length ≤ (runAll steps c).queues.length := by
  induction steps generalizing c with
  | nil => exact le_rfl
  | cons s rest ih => exact (length_queues_le s c).trans (ih _)

theorem length_queues_subscribe (hs : s.operation = .subscribe limit) :
    (s.after c).queues.length = c.queues.length + 1 := by
  rw [Step.after, hs]
  exact List.length_append

/-! ## One subscriber alone -/

/-- A channel as it is for one subscriber: its queue, if it has one, is the only one. -/
def solo (place : Nat) (c : ResultChannel) : ResultChannel :=
  { c with queues := c.queues[place]?.toList }

/-- A step as it is for one subscriber, if it concerns the subscriber or the records. -/
def Step.alone? (place : Nat) (s : Step) : Option Step :=
  match s.operation with
  | .subscribe _ => none
  | .unsubscribe p => if p = place then some ⟨s.now, .unsubscribe 0⟩ else none
  | .drain p => if p = place then some ⟨s.now, .drain 0⟩ else none
  | _ => some s

theorem held_solo (place : Nat) (c : ResultChannel) : held 0 (c.solo place) = held place c := by
  cases h : c.queues[place]? <;> simp [held, solo, h]

/-- Changing one queue of a list, as the subscriber at a place sees it. -/
theorem toList_modify (qs : List EventQueue) (p place : Nat) (f : EventQueue → EventQueue) :
    (qs.modify p f)[place]?.toList =
      if p = place then qs[place]?.toList.modify 0 f else qs[place]?.toList := by
  rw [List.getElem?_modify]
  by_cases hp : p = place <;> cases qs[place]? <;> simp [hp]

theorem Blind.solo_run {x : Op ResultChannel α} (hx : Blind x) (place : Nat) (c : ResultChannel) :
    (x.run c).state.solo place = (x.run (c.solo place)).state := by
  rw [solo, solo, hx.run_queues c c.queues[place]?.toList, hx.queues_run]

theorem publish_solo (place : Nat) (c : ResultChannel) :
    ((publish now ticket status result).run c).state.solo place =
      ((publish now ticket status result).run (c.solo place)).state := by
  rw [solo, solo, publish_same now ticket status result c c.queues[place]?.toList, publish_queues]
  cases ((publish now ticket status result).run c).answer with
  | error e => rfl
  | ok r => cases h : c.queues[place]? <;> simp [announced, h]

/-- A step that does not give the subscriber's place away is for one subscriber what it would be
without the others. -/
theorem solo_after (s : Step)
    (hplace : place < c.queues.length ∨ (s.after c).queues.length ≤ place) :
    (s.after c).solo place =
      ((s.alone? place).map fun s => s.after (c.solo place)).getD (c.solo place) := by
  obtain ⟨now, operation⟩ := s
  have hmodify : ∀ p f, ({ c with queues := c.queues.modify p f } : ResultChannel).solo place =
      if p = place then { c.solo place with queues := (c.solo place).queues.modify 0 f }
      else c.solo place := by
    intro p f
    rw [solo, toList_modify]
    split <;> rfl
  cases operation with
  | register command => exact (Blind.discard (blind_register now command)).solo_run place c
  | get ticket => exact (Blind.discard (blind_get now ticket)).solo_run place c
  | publish ticket status result =>
      rw [Step.alone?, Option.map_some, Option.getD_some, Step.after, Step.after,
        ChannelOperation.run, Op.run_discard, Op.run_discard]
      exact publish_solo place c
  | subscribe limit =>
      show { c with queues := (c.queues ++ [_])[place]?.toList } = c.solo place
      have hlength := length_queues_subscribe (s := ⟨now, .subscribe limit⟩) (c := c) rfl
      rcases hplace with hlt | hge
      · rw [List.getElem?_append_left hlt]
        rfl
      · rw [solo, List.getElem?_eq_none (by rw [List.length_append, List.length_singleton]; omega),
          List.getElem?_eq_none (by omega)]
  | unsubscribe p =>
      refine (hmodify p _).trans ?_
      by_cases hp : p = place
      · simp only [Step.alone?, hp, if_true]
        rfl
      · simp only [Step.alone?, hp, if_false]
        rfl
  | drain p =>
      refine (hmodify p _).trans ?_
      by_cases hp : p = place
      · simp only [Step.alone?, hp, if_true]
        rfl
      · simp only [Step.alone?, hp, if_false]
        rfl

/-- What a subscriber drains in a step is the same without the others. -/
theorem drained?_solo (s : Step) (place : Nat) (c : ResultChannel) :
    Moment.drained? place ⟨s, c⟩ =
      (s.alone? place).bind fun s => Moment.drained? 0 ⟨s, c.solo place⟩ := by
  obtain ⟨now, operation⟩ := s
  cases operation with
  | drain p =>
      by_cases hp : p = place
      · subst hp
        simp only [Moment.drained?, Step.alone?, if_true, Option.bind_some]
        show some (held p c) = some (held 0 (c.solo p))
        rw [held_solo]
      · simp [Moment.drained?, Step.alone?, hp]
  | unsubscribe p => by_cases hp : p = place <;> simp [Moment.drained?, Step.alone?, hp]
  | _ => simp [Moment.drained?, Step.alone?]

/-- What a subscriber drains and what its channel looks like in the end is the same without the
others, if its place is not given away in the run. -/
theorem solo_runAll (steps : List Step)
    (hplace : place < c.queues.length ∨ (runAll steps c).queues.length ≤ place) :
    drains place steps c = drains 0 (steps.filterMap (Step.alone? place)) (c.solo place) ∧
      (runAll steps c).solo place =
        runAll (steps.filterMap (Step.alone? place)) (c.solo place) := by
  induction steps generalizing c with
  | nil => exact ⟨rfl, rfl⟩
  | cons s rest ih =>
      rw [runAll_cons] at hplace
      have hle := length_queues_le s c
      have hle' := length_queues_le_runAll rest (s.after c)
      have hstep : (s.after c).solo place =
          ((s.alone? place).map fun s => s.after (c.solo place)).getD (c.solo place) :=
        solo_after s (by omega)
      obtain ⟨hdrains, hrest⟩ := ih (c := s.after c) (by omega)
      rw [drains_cons, runAll_cons, hdrains, hrest, drained?_solo, hstep, List.filterMap_cons]
      cases s.alone? place with
      | none => exact ⟨rfl, rfl⟩
      | some s' => exact ⟨(drains_cons 0 s' _ _).symm, rfl⟩

/-! ## What a subscriber receives -/

/-- Whatever a channel and its run are like, a subscriber that subscribes in it for `limit` events
receives what is published from then on until it leaves: what it drains, followed by what is still
in its queue, is the bodies of all outcomes published in between, each once and in their order,
save those that come while the queue is full.  That is what it would receive, drain by drain, in
the run in which nobody else subscribes.  A registration is sent to nobody, and a publication
answers, stores and logs the same for all queues, full or not. -/
theorem subscriber_receives (c : ResultChannel) (before after : List Step) (now : Timestamp)
    (limit : Int) :
    let place := (runAll before c).queues.length
    let start := runAll (before ++ [⟨now, .subscribe limit⟩]) c
    let aloneAfter := after.filterMap (Step.alone? place)
    let aloneStart := runAll (before.filterMap (Step.alone? place) ++ [⟨now, .subscribe limit⟩])
      { c with queues := [] }
    ((subscribe limit).run (runAll before c)).answer = .ok place ∧
    (drains place after start).flatten ++ held place (runAll after start) =
      sent place limit after start ∧
    drains place after start = drains 0 aloneAfter aloneStart ∧
    held place (runAll after start) = held 0 (runAll aloneAfter aloneStart) ∧
    (∀ now command (c : ResultChannel), ((register now command).run c).state.queues = c.queues) ∧
    ∀ now ticket status result (c : ResultChannel) qs,
      (publish now ticket status result).run { c with queues := qs } =
        ⟨((publish now ticket status result).run c).answer,
          { ((publish now ticket status result).run c).state with
            queues := announced ((publish now ticket status result).run c).answer qs },
          ((publish now ticket status result).run c).log⟩ := by
  intro place start aloneAfter aloneStart
  have hqueues : start.queues = (runAll before c).queues ++ [⟨limit, [], true⟩] := by
    simp only [start, runAll_append]
    rfl
  have hq : start.queues[place]? = some ⟨limit, [], true⟩ := by
    rw [hqueues]
    exact List.getElem?_concat_length
  have hlt : place < start.queues.length := (List.getElem?_eq_some_iff.mp hq).1
  have hempty : c.solo place = { c with queues := [] } := by
    rw [solo, List.getElem?_eq_none (length_queues_le_runAll before c)]
    rfl
  have hstart : start.solo place = aloneStart := by
    have hbefore : (runAll before c).solo place =
        runAll (before.filterMap (Step.alone? place)) (c.solo place) :=
      (solo_runAll before (.inr le_rfl)).2
    simp only [aloneStart, runAll_append, ← hempty, ← hbefore]
    rw [solo, hq]
    simp only [start, runAll_append]
    rw [solo, List.getElem?_eq_none le_rfl]
    rfl
  obtain ⟨hdrains, hsolo⟩ := solo_runAll (c := start) after (.inl hlt)
  rw [hstart] at hdrains hsolo
  refine ⟨rfl, ?_, hdrains, ?_, ?_, ?_⟩
  · exact drains_append_held after hq ⟨rfl, fun hpos => hpos.le⟩
  · rw [← hsolo, held_solo]
  · exact fun now command c => (blind_register now command).queues_run c
  · exact fun now ticket status result c qs => publish_same now ticket status result c qs

end ResultChannel

end CommandBridge
