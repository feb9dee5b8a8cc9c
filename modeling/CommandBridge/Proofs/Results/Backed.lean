import CommandBridge.Proofs.Results.History
import CommandBridge.Proofs.Results.StoredText

/-!
# CommandBridge.Proofs.Results.Backed

With a Redis that fails no call, what is evicted from the map is not lost.  At any later point a
ticket that was registered shows what its last store answered with (`get_eq_last_stored`): a
look-up gives that body, the text under its key is read as that body, and so was the last event
about it, if there is one.  The capacity of the map makes no difference.

The proof keeps `Backed` along a run: the records of the map and the texts in Redis are those of the
last stores.  What a step stores is then a function of the history
(`Backed.stores?_eq`), so channels of all capacities have one history (`history_eq_of_backed`).

All of this is about results that are `Restorable`.  A result that cannot be dumped reaches neither
Redis nor a subscriber, so its ticket shows an older record once it is evicted
(`undumpable_result_is_lost`).
-/

namespace CommandBridge.ResultChannel

/-! ## The last store of a ticket -/

namespace Step

/-- The ticket that a step registers or publishes on. -/
def subject? (s : Step) : Option String :=
  match s.operation with
  | .register command => some command.ticket
  | .publish ticket _ _ => some ticket
  | _ => none

/-- The result that a step publishes. -/
def result? (s : Step) : Option Json :=
  match s.operation with
  | .publish _ _ result => some result
  | _ => none

end Step

/-- What the last registration of a ticket or publication on it stored. -/
def lastStored? (h : List Stored) (ticket : String) : Option Record :=
  (h.filter fun x => x.step.subject? = some ticket).getLast?.map Stored.record

/-- The event that a store broadcasts, if it is a publication and its record has a body. -/
def Stored.event? (x : Stored) : Option Json :=
  match x.step.operation with
  | .publish _ _ _ => x.record.dump.toOption
  | _ => none

/-- All that a history broadcasts. -/
def events (h : List Stored) : List Json := h.filterMap Stored.event?

/-- The last event about a ticket. -/
def lastEvent? (es : List Json) (ticket : String) : Option Json :=
  (es.filter fun e => e.get? "ticket" = some (.string ticket)).getLast?

theorem lastStored?_concat (h : List Stored) (x : Stored) (ticket : String) :
    lastStored? (h ++ [x]) ticket =
      if x.step.subject? = some ticket then some x.record else lastStored? h ticket := by
  rw [lastStored?, List.filter_append, List.getLast?_append, lastStored?]
  by_cases hx : x.step.subject? = some ticket <;> simp [hx]

/-- A ticket with a store has a last one. -/
theorem exists_lastStored? {h : List Stored} {x : Stored} {ticket : String} (hx : x ∈ h)
    (hsubject : x.step.subject? = some ticket) : ∃ r, lastStored? h ticket = some r := by
  have hne : h.filter (fun x => x.step.subject? = some ticket) ≠ [] := by
    apply List.ne_nil_of_mem
    exact List.mem_filter.mpr ⟨hx, by simpa using hsubject⟩
  rw [lastStored?, List.getLast?_eq_some_getLast hne]
  exact ⟨_, rfl⟩

theorem lastEvent?_concat (es : List Json) (e : Json) (ticket : String) :
    lastEvent? (es ++ [e]) ticket =
      if e.get? "ticket" = some (.string ticket) then some e else lastEvent? es ticket := by
  rw [lastEvent?, List.filter_append, List.getLast?_append, lastEvent?]
  by_cases he : e.get? "ticket" = some (.string ticket) <;> simp [he]

theorem events_append (h h' : List Stored) : events (h ++ h') = events h ++ events h' :=
  List.filterMap_append

/-- A body is about the ticket of its record. -/
theorem toBody_about (r : Record) (ticket : String) :
    r.toBody.get? "ticket" = some (.string ticket) ↔ r.ticket = ticket := by
  have hget : r.toBody.get? "ticket" = some (.string r.ticket) := rfl
  rw [hget]
  constructor
  · intro h
    have htext : Text.ofString r.ticket = Text.ofString ticket := by
      simpa [Json.string] using h
    have hback := congrArg Text.toString? htext
    rw [Text.toString?_ofString, Text.toString?_ofString] at hback
    exact Option.some.inj hback
  · rintro rfl
    rfl

/-- One more store is the last event about its ticket, if it is a publication. -/
theorem lastEvent?_events_concat (h : List Stored) (x : Stored) (ticket : String) :
    lastEvent? (events (h ++ [x])) ticket =
      if x.event?.isSome ∧ x.ticket = ticket then some x.record.toBody
      else lastEvent? (events h) ticket := by
  cases hevent : x.event? with
  | none =>
      have hsame : events (h ++ [x]) = events h := by
        rw [events_append]
        simp [events, hevent]
      rw [hsame]
      simp
  | some e =>
      have hbody : e = x.record.toBody := by
        unfold Stored.event? at hevent
        split at hevent
        · cases hdump : x.record.dump with
          | error f => simp [hdump, Except.toOption] at hevent
          | ok body =>
              obtain rfl : body = e := by simpa [hdump, Except.toOption] using hevent
              exact Record.eq_toBody_of_dump hdump
        · exact absurd hevent (by simp)
      have hmore : events (h ++ [x]) = events h ++ [x.record.toBody] := by
        rw [events_append]
        simp [events, hevent, hbody]
      rw [hmore, lastEvent?_concat]
      simp only [toBody_about, Option.isSome_some, true_and]
      rfl

/-! ## The invariant -/

/-- What is known of the record that was stored last on a ticket. -/
structure Accounted (h : List Stored) (ticket : String) (r : Record) : Prop where
  keyed : r.ticket = ticket
  restorable : r.result.Restorable
  origin : ∃ command registered, registration? h ticket = some (command, registered) ∧
    r.kind = command.kind ∧ r.target = command.target

/-- A channel whose map and whose Redis hold what was stored last. -/
structure Backed (m : Nat) (h : List Stored) (c : ResultChannel) : Prop where
  capacity : c.capacity = m
  connected : c.connected = true
  reliable : c.redis.Reliable
  deep : Json.dumpLimit < c.nesting
  cached : ∀ r ∈ c.records, lastStored? h r.ticket = some r
  stored : ∀ t, c.redis.lookup (redisKey t) = (lastStored? h t).map fun r => r.toBody.write
  accounted : ∀ t r, lastStored? h t = some r → Accounted h t r
  subjects : ∀ x ∈ h, x.step.subject? = some x.ticket
  dumpable : ∀ x ∈ h, x.record.Dumpable
  announced : ∀ t e, lastEvent? (events h) t = some e →
    (lastStored? h t).map Record.toBody = some e

variable {c d : ResultChannel} {m n : Nat} {h : List Stored} {ticket : String} {r : Record}

/-- A later store leaves the command of a ticket as it was registered. -/
theorem Accounted.concat (hr : Accounted h ticket r) (x : Stored) :
    Accounted (h ++ [x]) ticket r where
  keyed := hr.keyed
  restorable := hr.restorable
  origin := by
    obtain ⟨command, registered, hreg, hkind, htarget⟩ := hr.origin
    refine ⟨command, registered, ?_, hkind, htarget⟩
    rw [registration?_concat, hreg, Option.some_or]

namespace Backed

/-! ## What a backed channel answers -/

/-- What is in the map is the last store. -/
theorem lastStored?_of_find? (hc : Backed m h c) (hfind : find? ticket c.records = some r) :
    lastStored? h ticket = some r := by
  have hcached := hc.cached r (List.mem_of_find?_eq_some hfind)
  rwa [ticket_of_find? hfind] at hcached

/-- A ticket shows its last store, from the map or from Redis. -/
theorem get_answer (hc : Backed m h c) (hlast : lastStored? h ticket = some r)
    (now : Timestamp) :
    ((get now ticket).run c).answer = .ok r ∨
      ((get now ticket).run c).answer = .ok r.finiteOnly := by
  cases hfind : find? ticket c.records with
  | some r' =>
      have hcached := hc.lastStored?_of_find? hfind
      rw [hlast] at hcached
      obtain rfl := Option.some.inj hcached
      left
      rw [get_run_of_find? hfind]
  | none =>
      have hlookup : c.redis.lookup (redisKey ticket) = some r.toBody.write := by
        rw [hc.stored, hlast, Option.map_some]
      right
      exact get_answer_of_lookup hc.connected hc.reliable hfind hlookup
        (hc.accounted _ _ hlast).restorable hc.deep now

/-- A ticket without a store is not found. -/
theorem get_answer_of_none (hc : Backed m h c) (hlast : lastStored? h ticket = none)
    (now : Timestamp) :
    ((get now ticket).run c).answer = .error (.bridge (.resultNotFound ticket)) := by
  have hfind : find? ticket c.records = none := by
    cases hfind : find? ticket c.records with
    | none => rfl
    | some r' =>
        have hcached := hc.lastStored?_of_find? hfind
        rw [hlast] at hcached
        exact absurd hcached (by simp)
  have hlookup : c.redis.lookup (redisKey ticket) = none := by
    rw [hc.stored, hlast, Option.map_none]
  exact get_answer_of_lookup_none hc.connected hc.reliable hfind hlookup now

/-- A publication goes on from the last store, wherever it was found. -/
theorem incoming?_eq (hc : Backed m h c) (hlast : lastStored? h ticket = some r)
    {status : Json} {s : ResultStatus} (hs : ResultStatus.ofJson? status = some s)
    (now : Timestamp) (result : Json) :
    incoming? now ticket status result c = some (r.withOutcome now s result) := by
  rcases hc.get_answer hlast now with hget | hget
  · exact incoming?_of_ok hget hs
  · rw [incoming?_of_ok hget hs]
    rfl

theorem publish_answer (hc : Backed m h c) (hlast : lastStored? h ticket = some r)
    {status : Json} {s : ResultStatus} (hs : ResultStatus.ofJson? status = some s)
    (now : Timestamp) {result : Json} (hresult : result.Dumpable) :
    ((publish now ticket status result).run c).answer = .ok (r.withOutcome now s result) := by
  rcases hc.get_answer hlast now with hget | hget
  · exact publish_answer_of_dumpable hc.capacity hget hs hresult
  · rw [publish_answer_of_dumpable hc.capacity hget hs hresult]
    rfl

end Backed

/-- What a step stores, if it registers or publishes, by the history. -/
def Step.storesAfter (s : Step) (h : List Stored) : Option Record :=
  match s.operation with
  | .register command => some (Record.ofCommand command s.now)
  | .publish ticket status result => do
    let r ← lastStored? h ticket
    let status ← ResultStatus.ofJson? status
    return r.withOutcome s.now status result
  | _ => none

/-- The history alone determines what a step stores. -/
theorem Backed.stores?_eq (hc : Backed m h c) (s : Step) : s.stores? c = s.storesAfter h := by
  obtain ⟨now, operation⟩ := s
  cases operation with
  | publish ticket status result =>
      simp only [Step.stores?, Step.storesAfter]
      cases hlast : lastStored? h ticket with
      | none => simp [incoming?, hc.get_answer_of_none hlast now, Except.toOption]
      | some r =>
          cases hs : ResultStatus.ofJson? status with
          | none => simp [incoming?, hs]
          | some s => rw [hc.incoming?_eq hlast hs now result]; rfl
  | _ => rfl

/-! ## Steps -/

/-- Storing a record keeps a channel backed, if the record is accounted for and nothing was
broadcast about a ticket that is registered. -/
theorem Backed.store (hc : Backed m h c) {x : Stored} (hcap : d.capacity = m)
    (hconn : d.connected = true) (hreliable : d.redis.Reliable)
    (hdeep : Json.dumpLimit < d.nesting)
    (hrecords : d.records = kept m x.record c.records)
    (hredis : ∀ t, d.redis.lookup (redisKey t) =
      if t = x.ticket then some x.record.toBody.write else c.redis.lookup (redisKey t))
    (hsubject : x.step.subject? = some x.ticket) (hx : Accounted (h ++ [x]) x.ticket x.record)
    (hquiet : x.event? = none → lastEvent? (events h) x.ticket = none) :
    Backed m (h ++ [x]) d := by
  have hlast : ∀ t, lastStored? (h ++ [x]) t =
      if t = x.ticket then some x.record else lastStored? h t := by
    intro t
    rw [lastStored?_concat, hsubject]
    simp only [Option.some.injEq, eq_comm]
  refine ⟨hcap, hconn, hreliable, hdeep, ?cached, ?stored, ?accounted, ?subjects, ?dumpable,
    ?announced⟩
  case cached =>
    intro r hr
    rw [hrecords] at hr
    rw [hlast]
    rcases mem_kept hr with rfl | ⟨hr, hne⟩
    · exact if_pos rfl
    · rw [if_neg (show ¬ r.ticket = x.ticket from hne), hc.cached r hr]
  case stored =>
    intro t
    rw [hredis, hlast, hc.stored]
    split <;> rfl
  case accounted =>
    intro t r hr
    rw [hlast] at hr
    split at hr
    · next ht =>
      obtain rfl := Option.some.inj hr
      rw [ht]
      exact hx
    · exact (hc.accounted t r hr).concat x
  case subjects =>
    intro y hy
    rcases List.mem_append.mp hy with hy | hy
    · exact hc.subjects y hy
    · rw [List.mem_singleton.mp hy]
      exact hsubject
  case dumpable =>
    intro y hy
    rcases List.mem_append.mp hy with hy | hy
    · exact hc.dumpable y hy
    · rw [List.mem_singleton.mp hy]
      exact hx.restorable.dumpable
  case announced =>
    intro t e he
    rw [lastEvent?_events_concat] at he
    rw [hlast]
    split at he
    · next hevent =>
      rw [if_pos hevent.2.symm, Option.map_some, he]
    · next hnot =>
      by_cases ht : t = x.ticket
      · have hnone : x.event? = none := by
          cases hevent : x.event? with
          | none => rfl
          | some e' => exact absurd ⟨by rw [hevent]; rfl, ht.symm⟩ hnot
        rw [ht, hquiet hnone] at he
        exact absurd he (by simp)
      · rw [if_neg ht, hc.announced t e he]

/-- Nothing was broadcast about a fresh ticket. -/
theorem Backed.fresh (hc : Backed m h c) (hfresh : registration? h ticket = none) :
    lastEvent? (events h) ticket = none := by
  cases he : lastEvent? (events h) ticket with
  | none => rfl
  | some e =>
      obtain ⟨r, hlast, -⟩ := Option.map_eq_some_iff.mp (hc.announced ticket e he)
      obtain ⟨command, registered, hreg, -⟩ := (hc.accounted ticket r hlast).origin
      rw [hfresh] at hreg
      exact absurd hreg (by simp)

theorem Step.reliable_redisAsked (hc : c.redis.Reliable) (s : Step) :
    (s.redisAsked c).Reliable := by
  unfold redisAsked
  split
  · exact reliable_consulted hc _
  · exact reliable_consulted hc _
  · exact hc

theorem Step.lookup_redisAsked (s : Step) (c : ResultChannel) (key : String) :
    (s.redisAsked c).lookup key = c.redis.lookup key := by
  unfold redisAsked
  split
  · exact lookup_consulted _ key c
  · exact lookup_consulted _ key c
  · rfl

/-- A step that stores nothing keeps a channel backed. -/
theorem Backed.after_of_none (hc : Backed m h c) {s : Step} (hr : s.stores? c = none) :
    Backed m h (s.after c) := by
  have hrecords := Step.records_after_of_none hc.capacity hr
  have hredis : (s.after c).redis = s.redisAsked c := by
    rw [s.redis_after hc.capacity, Step.redisAfter, hr]
  refine ⟨s.capacity_after hc.capacity, ?_, ?_, ?_, hrecords ▸ hc.cached, fun t => ?_,
    hc.accounted, hc.subjects, hc.dumpable, hc.announced⟩
  · rw [s.connected_after hc.capacity, hc.connected]
  · rw [hredis]
    exact s.reliable_redisAsked hc.reliable
  · rw [s.nesting_after hc.capacity]
    exact hc.deep
  · rw [hredis, s.lookup_redisAsked, hc.stored]

/-- A step that stores a record keeps a channel backed, if the record is accounted for and nothing
was broadcast about a ticket that is registered. -/
theorem Backed.after_of_some (hc : Backed m h c) {s : Step} (hr : s.stores? c = some r)
    (hsubject : s.subject? = some r.ticket) (hx : Accounted (h ++ [⟨s, r⟩]) r.ticket r)
    (hquiet : Stored.event? ⟨s, r⟩ = none → lastEvent? (events h) r.ticket = none) :
    Backed m (h ++ [⟨s, r⟩]) (s.after c) := by
  have hasked := s.reliable_redisAsked hc.reliable
  have hredis : (s.after c).redis = written r { c with redis := s.redisAsked c } := by
    rw [s.redis_after hc.capacity, Step.redisAfter, hr]
  refine hc.store (s.capacity_after hc.capacity) ?_ ?_ ?_
    (Step.records_after_of_some hc.capacity hr) (fun t => ?_) hsubject hx hquiet
  · rw [s.connected_after hc.capacity, hc.connected]
  · rw [hredis]
    exact reliable_written hasked r
  · rw [s.nesting_after hc.capacity]
    exact hc.deep
  · have hchanged : ({ c with redis := s.redisAsked c } : ResultChannel).connected = true :=
      hc.connected
    rw [hredis, lookup_written hchanged hasked.takesWrites hx.restorable.dumpable,
      s.lookup_redisAsked]
    rfl

/-- One step keeps a channel backed, if what it registers is fresh and what it publishes can be
read back. -/
theorem Backed.after (hc : Backed m h c) (s : Step)
    (hfresh : ∀ t ∈ s.registered?, registration? h t = none)
    (hresult : ∀ j ∈ s.result?, j.Restorable) :
    Backed m (h ++ (s.stored? c).toList) (s.after c) := by
  cases hr : s.stores? c with
  | none =>
      simp only [Step.stored?, hr, Option.map_none, Option.toList_none, List.append_nil]
      exact hc.after_of_none hr
  | some r =>
      have hstores := hr
      simp only [Step.stored?, hr, Option.map_some, Option.toList_some]
      rw [hc.stores?_eq] at hr
      obtain ⟨now, operation⟩ := s
      cases operation with
      | register command =>
          have hnew := hfresh command.ticket (by simp [Step.registered?])
          obtain rfl : Record.ofCommand command now = r := Option.some.inj hr
          refine hc.after_of_some hstores rfl ⟨rfl, ⟨⟨0, .null⟩, rfl⟩, ?_⟩ fun _ => hc.fresh hnew
          refine ⟨command, now, ?_, rfl, rfl⟩
          rw [registration?_concat]
          simp [registrationOn, Record.ofCommand, hnew]
      | publish ticket status result =>
          simp only [Step.storesAfter] at hr
          obtain ⟨current, hlast, hr⟩ := Option.bind_eq_some_iff.mp hr
          obtain ⟨status', hstatus, hr⟩ := Option.bind_eq_some_iff.mp hr
          obtain rfl : current.withOutcome now status' result = r := Option.some.inj hr
          have hcurrent := hc.accounted ticket current hlast
          obtain rfl : current.ticket = ticket := hcurrent.keyed
          have hrestorable : result.Restorable := hresult result (by simp [Step.result?])
          refine hc.after_of_some hstores rfl ⟨rfl, hrestorable, (hcurrent.concat _).origin⟩ ?_
          -- the outcome was broadcast, so there is nothing to show
          intro hevent
          rw [Stored.event?,
            Record.dump_of_dumpable (dumpable_withOutcome.mpr hrestorable.dumpable)] at hevent
          exact absurd hevent (by simp [Except.toOption])
      | get ticket => simp [Step.storesAfter] at hr
      | subscribe limit => simp [Step.storesAfter] at hr
      | unsubscribe place => simp [Step.storesAfter] at hr
      | drain place => simp [Step.storesAfter] at hr

/-! ## Runs -/

/-- Whether a run registers fresh tickets only and publishes results that can be read back. -/
structure Sound (h : List Stored) (steps : List Step) : Prop where
  nodup : (registeredTickets steps).Nodup
  fresh : ∀ t ∈ registeredTickets steps, registration? h t = none
  results : ∀ s ∈ steps, ∀ j ∈ s.result?, j.Restorable

theorem Sound.rest {s : Step} {rest : List Step} (hs : Sound h (s :: rest)) :
    Sound (h ++ (s.stored? c).toList) rest where
  nodup := nodup_rest hs.nodup
  fresh := fresh_after hs.nodup hs.fresh
  results := fun s' hs' => hs.results s' (List.mem_cons_of_mem _ hs')

theorem Backed.after_sound (hc : Backed m h c) {s : Step} {rest : List Step}
    (hs : Sound h (s :: rest)) : Backed m (h ++ (s.stored? c).toList) (s.after c) :=
  hc.after s (fresh_head hs.fresh) (hs.results s List.mem_cons_self)

/-- A run keeps a channel backed. -/
theorem Backed.runAll {steps : List Step} (hc : Backed m h c) (hs : Sound h steps) :
    Backed m (h ++ history steps c) (runAll steps c) := by
  induction steps generalizing h c with
  | nil => simpa [history] using hc
  | cons s rest ih =>
      rw [history, ← List.append_assoc, runAll_cons]
      exact ih (hc.after_sound hs) hs.rest

/-- The capacity of the map makes no difference to what a run stores. -/
theorem history_eq_of_backed {steps : List Step} (hc : Backed m h c) (hd : Backed n h d)
    (hs : Sound h steps) : history steps c = history steps d := by
  induction steps generalizing h c d with
  | nil => rfl
  | cons s rest ih =>
      have hstored : s.stored? c = s.stored? d := by
        rw [Step.stored?, Step.stored?, hc.stores?_eq, hd.stores?_eq]
      have hd' := hd.after_sound hs
      rw [← hstored] at hd'
      rw [history, history, hstored, ih (hc.after_sound hs) hd' hs.rest]

/-! ## What subscribers see -/

/-- Whether an operation leaves a queue to itself: its subscriber neither goes nor takes anything
out. -/
def Step.Leaves (place : Nat) (s : Step) : Prop :=
  s.operation ≠ .unsubscribe place ∧ s.operation ≠ .drain place

variable {place : Nat} {q : EventQueue}

theorem offer_unbounded (hopen : q.isOpen = true) (hlimit : q.limit ≤ 0) (e : Json) :
    EventQueue.offer e q = { q with pending := q.pending ++ [e] } := by
  rw [EventQueue.offer, EventQueue.hasRoom, hopen, decide_eq_true hlimit]
  rfl

/-- A step adds its event to an open queue that is not bounded, and nothing else. -/
theorem Step.queue_after (hcap : c.capacity = m) {s : Step} (hs : s.Leaves place)
    (hq : c.queues[place]? = some q) (hopen : q.isOpen = true) (hlimit : q.limit ≤ 0) :
    (s.after c).queues[place]? =
      some { q with pending := q.pending ++ events (s.stored? c).toList } := by
  rw [s.queues_after hcap]
  obtain ⟨now, operation⟩ := s
  cases operation with
  | register command =>
      have hevent : ∀ r, Stored.event? ⟨⟨now, .register command⟩, r⟩ = none := fun _ => rfl
      simp [queuesAfter, stored?, stores?, events, hevent, hq]
  | publish ticket status result =>
      cases hr : Step.stores? ⟨now, .publish ticket status result⟩ c with
      | none => simp [queuesAfter, stored?, hr, events, hq]
      | some r =>
          by_cases hdump : r.Dumpable
          · simp [queuesAfter, stored?, hr, events, Stored.event?, hq, offered, hdump,
              Record.dump_of_dumpable hdump, Except.toOption, offer_unbounded hopen hlimit]
          · obtain ⟨f, -, hf⟩ := Record.dump_of_not_dumpable hdump
            simp [queuesAfter, stored?, hr, events, Stored.event?, hq, offered, hdump, hf,
              Except.toOption]
  | get ticket => simp [queuesAfter, stored?, stores?, events, hq]
  | subscribe limit =>
      obtain ⟨hplace, -⟩ := List.getElem?_eq_some_iff.mp hq
      simp [queuesAfter, stored?, stores?, events, List.getElem?_append_left hplace, hq]
  | unsubscribe place' =>
      have hne : place' ≠ place := fun heq => hs.1 (congrArg _ heq)
      simp [queuesAfter, stored?, stores?, events, List.getElem?_modify_ne, hne, hq]
  | drain place' =>
      have hne : place' ≠ place := fun heq => hs.2 (congrArg _ heq)
      simp [queuesAfter, stored?, stores?, events, List.getElem?_modify_ne, hne, hq]

/-- A subscriber without a bound is sent all that a run broadcasts. -/
theorem queue_runAll {steps : List Step} (hcap : c.capacity = m)
    (hsteps : ∀ s ∈ steps, s.Leaves place) (hq : c.queues[place]? = some q)
    (hopen : q.isOpen = true) (hlimit : q.limit ≤ 0) :
    (runAll steps c).queues[place]? =
      some { q with pending := q.pending ++ events (history steps c) } := by
  induction steps generalizing c q with
  | nil => simp [history, events, hq]
  | cons s rest ih =>
      have hafter := Step.queue_after hcap (hsteps s List.mem_cons_self) hq hopen hlimit
      have hrest := ih (s.capacity_after hcap)
        (fun s' hs' => hsteps s' (List.mem_cons_of_mem _ hs')) hafter hopen hlimit
      rw [runAll_cons, hrest, history, events_append, List.append_assoc]

/-! ## What a ticket shows -/

/-- What can be seen of a ticket in a channel: a look-up gives its body, the text in Redis is read
as that body, and a publication on it goes on from its command. -/
structure Shows (c : ResultChannel) (ticket : String) (command : Command) (body : Json) :
    Prop where
  got : ∀ now, ∃ r, ((get now ticket).run c).answer = .ok r ∧ r.dump = .ok body
  text : ∃ text, c.redis.lookup (redisKey ticket) = some text ∧
    Json.readNested c.nesting text = .ok body
  published : ∀ now status s result, ResultStatus.ofJson? status = some s → result.Dumpable →
    ∃ r, ((publish now ticket status result).run c).answer = .ok r ∧
      r.ticket = ticket ∧ r.kind = command.kind ∧ r.target = command.target

theorem Backed.shows (hc : Backed m h c) {command : Command} {registered : Timestamp}
    (hlast : lastStored? h ticket = some r)
    (hreg : registration? h ticket = some (command, registered)) :
    Shows c ticket command r.toBody where
  got := by
    intro now
    have hbody : r.dump = .ok r.toBody :=
      Record.dump_of_dumpable (hc.accounted _ _ hlast).restorable.dumpable
    rcases hc.get_answer hlast now with hget | hget
    · exact ⟨r, hget, hbody⟩
    · exact ⟨r.finiteOnly, hget, by rw [Record.dump_finiteOnly, hbody]⟩
  text := by
    refine ⟨r.toBody.write, ?_,
      readNested_write_toBody (hc.accounted _ _ hlast).restorable hc.deep⟩
    rw [hc.stored, hlast, Option.map_some]
  published := by
    intro now status s result hs hresult
    have hr := hc.accounted ticket r hlast
    obtain ⟨command', registered', hreg', hkind, htarget⟩ := hr.origin
    rw [hreg] at hreg'
    obtain ⟨rfl, rfl⟩ := Prod.mk.inj (Option.some.inj hreg')
    exact ⟨_, hc.publish_answer hlast hs now hresult, hr.keyed, hkind, htarget⟩

/-- A ticket that was ever published on has its last store as its last event. -/
theorem Backed.lastEvent?_eq (hc : Backed m h c) (hlast : lastStored? h ticket = some r)
    {x : Stored} (hx : x ∈ h) {status result : Json}
    (hpublish : x.step.operation = .publish ticket status result) :
    lastEvent? (events h) ticket = some r.toBody := by
  have hticket : x.record.ticket = ticket := by
    have hsubject := hc.subjects x hx
    rw [Step.subject?, hpublish] at hsubject
    exact (Option.some.inj hsubject).symm
  have hevent : x.record.toBody ∈ events h := by
    refine List.mem_filterMap.mpr ⟨x, hx, ?_⟩
    rw [Stored.event?, hpublish, Record.dump_of_dumpable (hc.dumpable x hx)]
    rfl
  have hne : (events h).filter (fun e => e.get? "ticket" = some (.string ticket)) ≠ [] := by
    apply List.ne_nil_of_mem
    exact List.mem_filter.mpr ⟨hevent, by simpa using (toBody_about _ _).mpr hticket⟩
  cases he : lastEvent? (events h) ticket with
  | none => exact absurd (List.getLast?_eq_none_iff.mp he) hne
  | some e =>
      have hannounced := hc.announced ticket e he
      rwa [hlast, Option.map_some, eq_comm] at hannounced

/-- A channel without records is backed by a Redis without any. -/
theorem backed_nil (hcap : c.capacity = m) (hconn : c.connected = true)
    (hreliable : c.redis.Reliable) (hdeep : Json.dumpLimit < c.nesting) (hempty : c.records = [])
    (hkeys : ∀ t, c.redis.lookup (redisKey t) = none) : Backed m [] c where
  capacity := hcap
  connected := hconn
  reliable := hreliable
  deep := hdeep
  cached := by simp [hempty]
  stored := hkeys
  accounted := by simp [lastStored?]
  subjects := by simp
  dumpable := by simp
  announced := by simp [events, lastEvent?]

/-- With a Redis that fails no call, and while all results can be restored, every ticket that was
registered shows its last store at any later point, whether or not it is still in the map, and for
every capacity of the map: a look-up and the text in Redis give the body that the last registration
or publication answered with, a publication succeeds and keeps kind and target, and the last event
about the ticket, if there was any, is that body, in what a subscriber without a bound is sent. -/
theorem get_eq_last_stored {steps : List Step} (hcap : c.capacity = m)
    (hconn : c.connected = true) (hreliable : c.redis.Reliable)
    (hdeep : Json.dumpLimit < c.nesting) (hempty : c.records = [])
    (hkeys : ∀ t, c.redis.lookup (redisKey t) = none) (hfresh : (registeredTickets steps).Nodup)
    (hresults : ∀ s ∈ steps, ∀ j ∈ s.result?, j.Restorable)
    (ht : ticket ∈ registeredTickets steps) :
    ∃ last command registered,
      successes steps c = history steps c ∧
      lastStored? (history steps c) ticket = some last ∧
      registration? (history steps c) ticket = some (command, registered) ∧
      Shows (runAll steps c) ticket command last.toBody ∧
      (∀ n : Nat, Shows (runAll steps { c with capacity := n }) ticket command last.toBody) ∧
      (∀ x ∈ history steps c, ∀ status result,
        x.step.operation = .publish ticket status result →
          lastEvent? (events (history steps c)) ticket = some last.toBody) ∧
      ∀ place q, c.queues[place]? = some q → q.isOpen = true → q.limit ≤ 0 →
        (∀ s ∈ steps, s.Leaves place) →
          (runAll steps c).queues[place]? =
            some { q with pending := q.pending ++ events (history steps c) } := by
  have hsound : Sound [] steps := ⟨hfresh, fun _ _ => rfl, hresults⟩
  have hstart : Backed m [] c := backed_nil hcap hconn hreliable hdeep hempty hkeys
  have hrun := hstart.runAll hsound
  rw [List.nil_append] at hrun
  -- every registration is a store, so there is a last one
  obtain ⟨x, hx, rfl⟩ := List.mem_map.mp (mem_storedTickets_of_registered steps hcap ht)
  obtain ⟨last, hlast⟩ := exists_lastStored? hx (hrun.subjects x hx)
  obtain ⟨command, registered, hreg, -, -⟩ := (hrun.accounted _ _ hlast).origin
  refine ⟨last, command, registered, ?_, hlast, hreg, hrun.shows hlast hreg, ?_, ?_, ?_⟩
  · rw [successes_eq_filter steps hcap, List.filter_eq_self]
    exact fun y hy => by simpa using hrun.dumpable y hy
  · intro n
    have hstart' : Backed n [] { c with capacity := n } :=
      backed_nil rfl hconn hreliable hdeep hempty hkeys
    have hrun' := hstart'.runAll hsound
    rw [← history_eq_of_backed hstart hstart' hsound, List.nil_append] at hrun'
    exact hrun'.shows hlast hreg
  · intro y hy status result hpublish
    exact hrun.lastEvent?_eq hlast hy hpublish
  · intro place q hq hopen hlimit hsteps
    exact queue_runAll hcap hsteps hq hopen hlimit

/-- A channel for one record, on a Redis. -/
def small : ResultChannel := { capacity := 1, ttl := 60, connected := true }

/-- A run on which the second ticket evicts the first, for which this result was published. -/
def eviction (result : Json) : List Step :=
  [⟨⟨0⟩, .register ⟨.callTool, "echo", .null, "1", ""⟩⟩,
    ⟨⟨1⟩, .publish "1" (.string "success") result⟩,
    ⟨⟨2⟩, .register ⟨.getPrompt, "plan", .null, "2", ""⟩⟩]

/-- A result with a number that is not finite. -/
def unbounded : Json := .arr [.float .nan, .int 7]

/-- The evicted ticket shows its result, with null in the place of the number. -/
theorem evicted_ticket_shows_result :
    find? "1" (runAll (eviction unbounded) small).records = none ∧
    ∃ r body, ((get ⟨9⟩ "1").run (runAll (eviction unbounded) small)).answer = .ok r ∧
      r.dump = .ok body ∧ body.get? "result" = some (.arr [.null, .int 7]) := by
  refine ⟨by decide +kernel, ?_⟩
  have hresults : ∀ s ∈ eviction unbounded, ∀ j ∈ s.result?, j.Restorable := by
    have hread : Json.Readable 1 unbounded := by
      refine .arr fun j hj => ?_
      rcases List.mem_pair.mp hj with rfl | rfl
      · exact .float _
      · exact .int (by decide)
    have hrestorable : unbounded.Restorable := ⟨⟨1, hread⟩, by decide⟩
    simpa [eviction, Step.result?] using hrestorable
  have hfresh : (registeredTickets (eviction unbounded)).Nodup := by decide
  have hticket : "1" ∈ registeredTickets (eviction unbounded) := by decide
  obtain ⟨last, command, registered, -, hlast, -, hshows, -⟩ :=
    get_eq_last_stored (m := 1) (c := small) rfl rfl (fun _ _ => rfl) (by decide) rfl
      (fun _ => rfl) hfresh hresults hticket
  obtain ⟨r, hget, hbody⟩ := hshows.got ⟨9⟩
  refine ⟨r, _, hget, hbody, ?_⟩
  have hsome : (lastStored? (history (eviction unbounded) small) "1").bind
      (fun r => r.toBody.get? "result") = some (.arr [.null, .int 7]) := by decide +kernel
  rwa [hlast] at hsome

/-- A result that is nested deeper than a dump goes is stored in the map only: once its ticket is
evicted, that is pending again. -/
theorem undumpable_result_is_lost :
    (find? "1" (runAll ((eviction (.nested 255 .null)).take 2) small).records).map Record.status =
      some .success ∧
    (((get ⟨9⟩ "1").run (runAll (eviction (.nested 255 .null)) small)).answer.toOption).map
      Record.status = some .pending := by
  constructor <;> decide +kernel

end CommandBridge.ResultChannel
