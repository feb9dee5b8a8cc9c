import CommandBridge.Proofs.Alike
import CommandBridge.Proofs.Dispatch.Calls

/-!
# CommandBridge.Proofs.Dispatch.Timeless

What a call does is the same at any time.  `Bridge.timeless` is a bridge without its times: without
the clock, the times of its records and of the commands that were given to recording instances, and
without the queues of subscribers, whose events tell times.  A call made of two bridges that are
otherwise equal, at two readings of the clock, gets the same answer or failure and leaves bridges
that are otherwise equal again (`Call.untimed_run`), as long as the channel is memory only and the
call goes to an open recording instance.

A `Station` is what a call does not change.  It is part of the likeness, so that what is known about
the bridges before a call is known after it, too.
-/

namespace CommandBridge

/-! ## Leaving times out -/

/-- A command without the time at which it was issued. -/
def Command.timeless (c : Command) : Command := { c with issuedAt := "" }

/-- A record without the time at which it was stored. -/
def Record.timeless (r : Record) : Record := { r with updatedAt := "" }

/-- A channel without the times of its records, and without its queues. -/
def ResultChannel.timeless (c : ResultChannel) : ResultChannel :=
  { c with records := c.records.map Record.timeless, queues := [] }

/-- A recording instance without the times of its commands. -/
def Recording.timeless (r : Recording) : Recording :=
  { r with received := r.received.map Command.timeless }

/-- An instance without the times of the commands that it was given. -/
def Adapter.timeless : Adapter → Adapter
  | .recording r => .recording r.timeless
  | a => a

/-- An instance without the times of the commands that it was given. -/
def Instance.timeless (a : Instance) : Instance := { a with adapter := a.adapter.timeless }

/-- What the instances share, without times. -/
def Host.timeless (h : Host) : Host :=
  { h with
    instances := h.instances.map Instance.timeless
    results := h.results.timeless
    clock := 0 }

/-- A bridge without times. -/
def Bridge.timeless (b : Bridge) : Bridge := { b with host := b.host.timeless }

section

variable {c c' : Command}

theorem Command.kind_congr (h : c.timeless = c'.timeless) : c.kind = c'.kind := by
  simpa only [timeless] using congrArg Command.kind h

theorem Command.target_congr (h : c.timeless = c'.timeless) : c.target = c'.target := by
  simpa only [timeless] using congrArg Command.target h

theorem Command.ticket_congr (h : c.timeless = c'.timeless) : c.ticket = c'.ticket := by
  simpa only [timeless] using congrArg Command.ticket h

end

/-! ## What a call does not change -/

/-- The place of an open recording instance, the number of records that are kept, the delay of
acknowledgements, and the time. -/
structure Station where
  place : Nat
  capacity : Int
  delay : Nat
  clock : Nat

/-- What the instances share if there is a recording instance at its place, the channel is memory
only and no collector has anything to do. -/
structure Host.Poised (w : Station) (h : Host) : Prop where
  place : w.place < h.instances.length
  recording : ∃ r, (h.instanceAt w.place).adapter = .recording r
  memory : h.results.connected = false
  capacity : h.results.capacity = w.capacity
  idle : ∀ c ∈ h.collectors, FileQueue.dueTime? c = none
  clock : h.clock = w.clock

/-- A bridge whose attached instance is the recording one, and open. -/
structure Bridge.Poised (w : Station) (b : Bridge) : Prop where
  attached : b.attached = some w.place
  opened : b.opened = some w.place
  delay : b.ackDelay = w.delay
  host : b.host.Poised w

namespace Likeness

/-- Two memory-only channels that are equal but for times. -/
def untimedResults (capacity : Int) : Likeness ResultChannel where
  states c c' := c.timeless = c'.timeless ∧ c.connected = false ∧ c.capacity = capacity
  logs _ _ := True
  logs_refl _ := trivial
  logs_append _ _ _ _ _ _ := trivial

/-- Two hosts that are equal but for times. -/
def untimedHosts (w w' : Station) : Likeness Host where
  states h h' := h.timeless = h'.timeless ∧ h.Poised w ∧ h'.Poised w'
  logs _ _ := True
  logs_refl _ := trivial
  logs_append _ _ _ _ _ _ := trivial

/-- Two bridges that are equal but for times. -/
def untimed (w w' : Station) : Likeness Bridge where
  states b b' := b.timeless = b'.timeless ∧ b.Poised w ∧ b'.Poised w'
  logs _ _ := True
  logs_refl _ := trivial
  logs_append _ _ _ _ _ _ := trivial

end Likeness

open Likeness

variable {w w' : Station} {now now' : Timestamp}

theorem complete_untimedResults (capacity : Int) : (untimedResults capacity).Complete := fun _ => id

theorem complete_untimed : (untimed w w').Complete := fun _ => id

/-! ## The result channel -/

namespace ResultChannel

variable {capacity : Int}

theorem find?_timeless (ticket : String) (records : List Record) :
    find? ticket (records.map Record.timeless) = (find? ticket records).map Record.timeless := by
  rw [find?, find?, List.find?_map]
  rfl

theorem evict_timeless (capacity : Int) (records : List Record) :
    evict capacity (records.map Record.timeless) =
      (evict capacity records).map (List.map Record.timeless) := by
  induction records with
  | nil =>
      simp only [List.map_nil, evict]
      split <;> rfl
  | cons r rest ih =>
      simp only [List.map_cons, evict, List.length_cons, List.length_map]
      split
      · exact ih
      · rfl

theorem insertNewest_timeless (r : Record) (records : List Record) :
    insertNewest r.timeless (records.map Record.timeless) =
      (insertNewest r records).map Record.timeless := by
  simp only [insertNewest, List.map_append, List.filter_map, List.map_cons, List.map_nil]
  rfl

/-- Which records are evicted is decided by their order alone. -/
theorem insert_timeless (r : Record) (c : ResultChannel) :
    ((insert r).run c).answer = ((insert r.timeless).run c.timeless).answer ∧
      ((insert r).run c).state.timeless =
        { ((insert r.timeless).run c.timeless).state with queues := [] } := by
  have hevict : evict c.timeless.capacity (insertNewest r.timeless c.timeless.records) =
      (evict c.capacity (insertNewest r c.records)).map (List.map Record.timeless) := by
    rw [← evict_timeless, ← insertNewest_timeless]
    rfl
  simp only [Op.run, insert, hevict]
  cases evict c.capacity (insertNewest r c.records) with
  | error e => exact ⟨rfl, rfl⟩
  | ok kept => exact ⟨rfl, rfl⟩

theorem untimed_insert {r r' : Record} (h : r.timeless = r'.timeless) :
    (untimedResults capacity).Alike Eq (insert r) (insert r') := by
  refine (complete_untimedResults _).alike ?_
  rintro c c' ⟨hc, hmemory, hcapacity⟩
  obtain ⟨hanswer, hstate⟩ := insert_timeless r c
  obtain ⟨hanswer', hstate'⟩ := insert_timeless r' c'
  have hkeeps : ∃ kept, ((insert r).run c).state = { c with records := kept } := by
    simp only [Op.run, insert]
    split <;> exact ⟨_, rfl⟩
  obtain ⟨kept, hkept⟩ := hkeeps
  refine ⟨?_, ⟨?_, ?_, ?_⟩, trivial⟩
  · rw [hanswer, hanswer', h, hc]
    exact answers_eq.mpr rfl
  · rw [hstate, hstate', h, hc]
  · rw [hkept]
    exact hmemory
  · rw [hkept]
    exact hcapacity

theorem untimed_store {r r' : Record} (h : r.timeless = r'.timeless) :
    (untimedResults capacity).Alike Eq (store r) (store r') := by
  refine .bind (untimed_insert h) fun _ => .get_bind ?_
  rintro c c' ⟨hc, hmemory, -⟩
  have hmemory' : c'.connected = false := (congrArg ResultChannel.connected hc).symm.trans hmemory
  rw [hmemory, hmemory']
  exact .pure rfl

theorem timeless_ofCommand (c : Command) (now : Timestamp) :
    (Record.ofCommand c now).timeless = ⟨c.timeless.ticket, c.timeless.kind, c.timeless.target,
      .pending, .null, ""⟩ := rfl

theorem timeless_withOutcome (now : Timestamp) (status : ResultStatus) (result : Json)
    (r : Record) : (r.withOutcome now status result).timeless =
      { r.timeless with status := status, result := result } := rfl

theorem untimed_register {c c' : Command} (h : c.timeless = c'.timeless) :
    (untimedResults capacity).Alike (fun r r' => r.timeless = r'.timeless) (register now c)
      (register now' c') := by
  have hrecord : (Record.ofCommand c now).timeless = (Record.ofCommand c' now').timeless := by
    rw [timeless_ofCommand, timeless_ofCommand, h]
  exact .bind (untimed_store hrecord) fun _ => .pure hrecord

/-- What is known about a ticket is known without looking at times. -/
theorem untimed_get (ticket : String) :
    (untimedResults capacity).Alike (fun r r' => r.timeless = r'.timeless) (get now ticket)
      (get now' ticket) := by
  refine .get_bind ?_
  rintro c c' ⟨hc, hmemory, -⟩
  have hmemory' : c'.connected = false := (congrArg ResultChannel.connected hc).symm.trans hmemory
  have hfound : (find? ticket c.records).map Record.timeless =
      (find? ticket c'.records).map Record.timeless := by
    rw [← find?_timeless, ← find?_timeless]
    exact congrArg (find? ticket ·.records) hc
  cases hr : find? ticket c.records with
  | none =>
      have hr' : find? ticket c'.records = none := by simpa [hr, eq_comm] using hfound
      simp only [hr', hmemory, hmemory', Bool.false_eq_true, if_false]
      exact .bind (.pure rfl) fun _ => .fail _
  | some r =>
      obtain ⟨r', hr', hsame⟩ : ∃ r', find? ticket c'.records = some r' ∧
          r.timeless = r'.timeless := by
        simpa [hr, eq_comm] using hfound
      simp only [hr']
      exact .pure hsame

/-- Whether a record has a body is known without looking at times. -/
theorem untimed_broadcast {r r' : Record} (h : r.timeless = r'.timeless) :
    (untimedResults capacity).Alike Eq (broadcast r) (broadcast r') := by
  have hresult : r.result = r'.result := by
    simpa only [Record.timeless] using congrArg Record.result h
  have hdump : Answers (fun _ _ => True) r.dump r'.dump := by
    rw [Record.dump, Record.dump, hresult]
    split
    · exact .ok trivial
    · exact .error _
  exact .bind_rel (complete_untimedResults _) (.ofExcept hdump) fun _ _ _ =>
    .modify (fun _ _ hc => hc) fun _ => id

theorem untimed_publish (ticket : String) (status result : Json) :
    (untimedResults capacity).Alike (fun r r' => r.timeless = r'.timeless)
      (publish now ticket status result) (publish now' ticket status result) := by
  refine .bind_rel (complete_untimedResults _) (untimed_get ticket) fun r r' h => ?_
  have hstatus : (untimedResults capacity).Respects (checkStatus status) := by
    unfold checkStatus
    split
    · exact .pure rfl
    · exact .fail _
  refine .bind hstatus fun s => ?_
  have hrecord : (r.withOutcome now s result).timeless =
      (r'.withOutcome now' s result).timeless := by
    rw [timeless_withOutcome, timeless_withOutcome, h]
  exact .bind (untimed_store hrecord) fun _ => .bind (.log trivial) fun _ =>
    .bind (untimed_broadcast hrecord) fun _ => .pure hrecord

end ResultChannel

/-- An operation does the same on both channels, whatever it tells about times. -/
theorem ChannelOperation.untimed_run (capacity : Int) (o : ChannelOperation) :
    (untimedResults capacity).Alike Eq (o.run now) (o.run now') := by
  -- what becomes of a queue is not compared
  have hqueues : ∀ {f : ResultChannel → ResultChannel} {α : Type} {a : ResultChannel → α},
      (∀ c, ∃ queues, f c = { c with queues := queues }) →
      (untimedResults capacity).Alike (fun _ _ => True) (fun c => ⟨.ok (a c), f c, []⟩)
        (fun c => ⟨.ok (a c), f c, []⟩) := by
    intro f α a hf
    refine (complete_untimedResults _).alike ?_
    rintro c c' ⟨hc, hkept⟩
    obtain ⟨queues, hleft⟩ := hf c
    obtain ⟨queues', hleft'⟩ := hf c'
    simp only [Op.run, hleft, hleft']
    exact ⟨.ok trivial, ⟨hc, hkept⟩, trivial⟩
  cases o with
  | register c => exact .discard (ResultChannel.untimed_register rfl)
  | publish ticket status result => exact .discard (ResultChannel.untimed_publish _ _ _)
  | get ticket => exact .discard (ResultChannel.untimed_get _)
  | subscribe limit => exact .discard (hqueues fun c => ⟨_, rfl⟩)
  | unsubscribe place => exact .modify (fun _ _ h => h) fun _ => id
  | drain place => exact .discard (hqueues fun c => ⟨_, rfl⟩)

/-! ## The hosts -/

namespace Host

variable {h h' : Host} {α : Type}

theorem instanceAt_timeless (h : Host) (i : Nat) :
    h.timeless.instanceAt i = (h.instanceAt i).timeless := by
  simp only [instanceAt, timeless, List.getElem?_map]
  cases h.instances[i]? <;> rfl

/-- Two instances at the same place of hosts that are equal but for times. -/
theorem timeless_instanceAt (hh : h.timeless = h'.timeless) (i : Nat) :
    (h.instanceAt i).timeless = (h'.instanceAt i).timeless := by
  rw [← instanceAt_timeless, ← instanceAt_timeless, hh]

theorem timeless_modify {f g : Instance → Instance} {i : Nat} (hh : h.timeless = h'.timeless)
    (hfg : (f (h.instanceAt i)).timeless = (g (h'.instanceAt i)).timeless) :
    ({ h with instances := h.instances.modify i f } : Host).timeless =
      ({ h' with instances := h'.instances.modify i g } : Host).timeless := by
  have hinstances : h.instances.map Instance.timeless = h'.instances.map Instance.timeless :=
    congrArg Host.instances hh
  have hmodify : (h.instances.modify i f).map Instance.timeless =
      (h'.instances.modify i g).map Instance.timeless := by
    refine List.ext_getElem? fun j => ?_
    have hj := congrArg (·[j]?) hinstances
    simp only [List.getElem?_map] at hj
    simp only [List.getElem?_map, List.getElem?_modify]
    by_cases hij : i = j
    · subst hij
      simp only [instanceAt] at hfg
      cases ha : h.instances[i]? <;> cases ha' : h'.instances[i]? <;> simp_all
    · simpa [hij] using hj
  exact congrArg (fun instances => { h.timeless with instances := instances }) hmodify |>.trans
    (congrArg (fun k : Host => { k with
      instances := (h'.instances.modify i g).map Instance.timeless }) hh)

theorem Poised.modify {f : Instance → Instance} (hh : h.Poised w)
    (hf : ∃ r, (f (h.instanceAt w.place)).adapter = .recording r) :
    ({ h with instances := h.instances.modify w.place f } : Host).Poised w where
  place := by simpa using hh.place
  recording := by
    rw [instanceAt_modify, if_pos ⟨rfl, hh.place⟩]
    exact hf
  memory := hh.memory
  capacity := hh.capacity
  idle := hh.idle
  clock := hh.clock

theorem untimed_onResults {A : α → α → Prop} {x y : Op ResultChannel α}
    (hxy : (untimedResults w.capacity).Alike A x y) :
    (untimedHosts w w').Alike A (onResults x) (onResults y) := by
  refine .on hxy ?_ ?_ (fun _ => id) (fun _ _ => id) fun _ _ => id
  · rintro h h' ⟨hh, hp, -⟩
    exact ⟨congrArg Host.results hh, hp.memory, hp.capacity⟩
  · rintro h h' c c' ⟨hh, hp, hp'⟩ ⟨hc, hmemory, hcapacity⟩
    have hkept : h.timeless.results.capacity = h'.timeless.results.capacity := by rw [hh]
    refine ⟨?_, { hp with memory := hmemory, capacity := hcapacity }, { hp' with
      memory := (congrArg ResultChannel.connected hc).symm.trans hmemory
      capacity := ?_ }⟩
    · exact congrArg (fun c => { h.timeless with results := c }) hc |>.trans
        (congrArg (fun k : Host => { k with results := c'.timeless }) hh)
    · calc
        c'.capacity = c.capacity := (congrArg ResultChannel.capacity hc).symm
        _ = h.results.capacity := hcapacity.trans hp.capacity.symm
        _ = w'.capacity := hkept.trans hp'.capacity

end Host

namespace Recording

theorem untimed_put (hw : w'.place = w.place) {r r' : Recording} (h : r.timeless = r'.timeless) :
    (untimedHosts w w').Alike Eq (put w.place r) (put w.place r') := by
  refine .modify ?_ fun _ => id
  rintro k k' ⟨hk, hp, hp'⟩
  refine ⟨Host.timeless_modify hk ?_, hp.modify ⟨r, rfl⟩, ?_⟩
  · have ha := Host.timeless_instanceAt hk w.place
    exact congrArg₂ (fun (a : Instance) r => { a with adapter := .recording r }) ha h
  · rw [← hw]
    exact hp'.modify ⟨r', rfl⟩

/-- An action is about a ticket, not about the time of its command. -/
theorem operation_congr {c c' : Command} (h : c.timeless = c'.timeless) (action : ChannelAction) :
    action.operation c = action.operation c' := by
  have hticket := Command.ticket_congr h
  induction action with
  | attempt action ih => exact ih
  | publish ticket status result => rw [ChannelAction.operation, ChannelAction.operation, hticket]
  | get ticket => rw [ChannelAction.operation, ChannelAction.operation, hticket]
  | _ => rfl

theorem untimed_act {c c' : Command} (h : c.timeless = c'.timeless) (action : ChannelAction) :
    (untimedHosts w w').Alike Eq (act now w.place c action) (act now' w.place c' action) := by
  refine .get_bind ?_
  rintro k k' ⟨hk, -, -⟩
  have hholds : (k.instanceAt w.place).holdsChannel = (k'.instanceAt w.place).holdsChannel := by
    simpa only [Instance.timeless] using
      congrArg Instance.holdsChannel (Host.timeless_instanceAt hk w.place)
  have hact : (untimedHosts w w').Alike Eq
      (if (k.instanceAt w.place).holdsChannel then
        Host.onResults ((action.operation c).run now)
      else Op.fail (.fault (noChannel (action.operation c).name)))
      (if (k'.instanceAt w.place).holdsChannel then
        Host.onResults ((action.operation c').run now')
      else Op.fail (.fault (noChannel (action.operation c').name))) := by
    rw [hholds, operation_congr h]
    exact .ite (fun _ => Host.untimed_onResults (ChannelOperation.untimed_run _ _)) fun _ => .fail _
  exact .ite (fun _ => .discard hact.attempt) fun _ => hact

/-- A script is followed in the same way at any time. -/
theorem untimed_deliver (hw : w'.place = w.place) {c c' : Command} (h : c.timeless = c'.timeless)
    {r r' : Recording} (hr : r.timeless = r'.timeless) :
    (untimedHosts w w').Alike Eq (r.deliver now w.place c) (r'.deliver now' w.place c') := by
  have hnoting : (Host.noting c r).timeless = (Host.noting c' r').timeless := by
    simp only [timeless, Recording.mk.injEq] at hr
    simp [timeless, Host.noting, hr, h]
  have hscript : r.deliveries = r'.deliveries := by
    simpa only [timeless] using congrArg Recording.deliveries hr
  rw [deliver, deliver, ← Host.noting, ← Host.noting, hscript]
  refine .bind (untimed_put hw hnoting) fun _ => .bind (.forM fun action _ => untimed_act h action)
    fun _ => ?_
  split
  · exact .pure rfl
  · exact .fail _

end Recording

theorem Host.untimed_deliver (hw : w'.place = w.place) {c c' : Command}
    (h : c.timeless = c'.timeless) :
    (untimedHosts w w').Alike Eq (deliver now w.place c) (deliver now' w.place c') := by
  refine .get_bind ?_
  rintro k k' ⟨hk, hp, hp'⟩
  obtain ⟨r, hr⟩ := hp.recording
  obtain ⟨r', hr'⟩ := hp'.recording
  rw [hw] at hr'
  have hadapters := congrArg Instance.adapter (timeless_instanceAt hk w.place)
  simp only [Instance.timeless, hr, hr', Adapter.timeless, Adapter.recording.injEq] at hadapters
  rw [hr, hr']
  exact Recording.untimed_deliver hw h hadapters

/-! ## The bridges -/

namespace Bridge

variable {α : Type}

theorem untimed_onHost {A : α → α → Prop} {x y : Op Host α}
    (hxy : (untimedHosts w w').Alike A x y) : (untimed w w').Alike A (onHost x) (onHost y) := by
  refine .on hxy ?_ ?_ (fun _ => id) (fun _ _ => id) fun _ _ => id
  · rintro b b' ⟨hb, hp, hp'⟩
    exact ⟨congrArg Bridge.host hb, hp.host, hp'.host⟩
  · rintro b b' h h' ⟨hb, hp, hp'⟩ ⟨hh, hhp, hhp'⟩
    refine ⟨?_, { hp with host := hhp }, { hp' with host := hhp' }⟩
    exact congrArg (fun k => { b.timeless with host := k }) hh |>.trans
      (congrArg (fun d : Bridge => { d with host := h'.timeless }) hb)

theorem untimed_onResults {A : α → α → Prop} {x y : Op ResultChannel α}
    (hxy : (untimedResults w.capacity).Alike A x y) :
    (untimed w w').Alike A (onResults x) (onResults y) :=
  untimed_onHost (Host.untimed_onResults hxy)

/-- Counting has no part in times. -/
theorem untimed_count (f : DispatchStats → DispatchStats) :
    (untimed w w').Respects (Op.modify fun b => { b with stats := f b.stats }) := by
  refine .modify ?_ fun _ => id
  rintro b b' ⟨hb, hp, hp'⟩
  exact ⟨congrArg (fun d : Bridge => { d with stats := f d.stats }) hb, { hp with }, { hp' with }⟩

theorem untimed_ensureOpen : (untimed w w').Respects (ensureOpen w.place) := by
  refine .get_bind ?_
  rintro b b' ⟨hb, hp, -⟩
  have hopened' : b'.opened = some w.place := (congrArg Bridge.opened hb).symm.trans hp.opened
  rw [hp.opened, hopened', if_pos rfl]
  exact .pure rfl

theorem untimed_drawTicket : (untimed w w').Respects drawTicket := by
  refine complete_untimed.alike ?_
  rintro b b' ⟨hb, hp, hp'⟩
  have hdrawn : b.ticketsDrawn = b'.ticketsDrawn := by
    simpa only [timeless] using congrArg Bridge.ticketsDrawn hb
  refine ⟨?_, ⟨?_, { hp with }, { hp' with }⟩, trivial⟩
  · exact answers_eq.mpr (congrArg (fun n => Except.ok (ticketOf (n + 1))) hdrawn)
  · exact congrArg (fun d : Bridge => { d with ticketsDrawn := d.ticketsDrawn + 1 }) hb

theorem untimed_deliver (hw : w'.place = w.place) {c c' : Command} (h : c.timeless = c'.timeless) :
    (untimed w w').Alike Eq (deliver now w.place c) (deliver now' w.place c') := by
  refine .bind (untimed_onHost (Host.untimed_deliver hw h)).attempt_eq fun r => ?_
  cases r with
  | ok d => exact .pure rfl
  | error e => exact .bind (.log trivial) fun _ => .pure rfl

theorem untimed_reject {c c' : Command} (h : c.timeless = c'.timeless) (detail : Text) :
    (untimed w w').Alike Eq (reject now c detail) (reject now' c' detail) := by
  rw [reject, reject, Command.kind_congr h, Command.target_congr h, Command.ticket_congr h]
  exact .bind (untimed_count fun s => { s with deliveryFailures := s.deliveryFailures + 1 })
    fun _ => .bind (.log trivial) fun _ =>
    .bind (.discard (untimed_onResults (ResultChannel.untimed_publish _ _ _))) fun _ => .fail _

theorem untimed_accept {c c' : Command} (h : c.timeless = c'.timeless) :
    (untimed w w').Alike Eq (accept c) (accept c') := by
  rw [accept, accept, Command.kind_congr h]
  exact .bind (untimed_count fun s => s.count c'.kind) fun _ =>
    .get_bind fun _ _ _ => .log trivial

theorem untimed_handOver (hw : w'.place = w.place) {c c' : Command}
    (h : c.timeless = c'.timeless) :
    (untimed w w').Alike (fun d d' => d.timeless = d'.timeless) (handOver now w.place c)
      (handOver now' w.place c') := by
  refine .bind (.discard (untimed_onResults (ResultChannel.untimed_register h))) fun _ =>
    .bind (untimed_deliver hw h) fun d => ?_
  cases refusalOf d with
  | some detail => exact .bind (untimed_reject h detail) fun _ => .pure h
  | none => exact .bind (untimed_accept h) fun _ => .pure h

theorem timeless_issued (kind : DispatchKind) (target : String) (arguments : Json)
    (ticket time time' : String) : (⟨kind, target, arguments, ticket, time⟩ : Command).timeless =
      (⟨kind, target, arguments, ticket, time'⟩ : Command).timeless := rfl

theorem untimed_dispatch (hw : w'.place = w.place) (kind : DispatchKind) (target : String)
    (arguments : Json) :
    (untimed w w').Alike (fun c c' => c.timeless = c'.timeless)
      (dispatch now kind target arguments) (dispatch now' kind target arguments) := by
  refine .get_bind ?_
  rintro b b' ⟨-, hp, hp'⟩
  rw [hp.attached, hp'.attached, hw]
  exact .bind untimed_ensureOpen fun _ => .bind untimed_drawTicket fun _ =>
    untimed_handOver hw (timeless_issued _ _ _ _ _ _)

end Bridge

namespace Call

/-- A response tells the ticket of its command, and no time. -/
theorem response_congr (call : Call) {c c' : Command} (h : c.timeless = c'.timeless) :
    call.response c = call.response c' := by
  cases call <;> simp only [response, Command.ticket_congr h]

/-- A call gets the same answer at any time, and leaves what it leaves at any time. -/
theorem untimed_run (hw : w'.place = w.place) (call : Call) :
    (untimed w w').Alike Eq (call.run now) (call.run now') := by
  have hdispatch : ∀ (call : Call) (kind : DispatchKind) (target : String) (arguments : Json),
      (untimed w w').Alike Eq
        (Bridge.dispatch now kind target arguments >>= fun c => pure (call.response c))
        (Bridge.dispatch now' kind target arguments >>= fun c => pure (call.response c)) :=
    fun call _ _ _ => .bind_rel complete_untimed (Bridge.untimed_dispatch hw _ _ _)
      fun _ _ h => .pure (call.response_congr h)
  cases call with
  | readResource uri =>
      simp only [run, Bridge.readResource]
      exact .ite (fun _ => .bind (.event _ _ _ _) fun _ => hdispatch (.readResource uri) _ _ _)
        fun _ => hdispatch (.readResource uri) _ _ _
  | callTool name arguments =>
      simp only [run, Bridge.callTool]
      exact .ite (fun _ => .bind (.fail _) fun _ => hdispatch (.callTool name arguments) _ _ _)
        fun _ => hdispatch (.callTool name arguments) _ _ _
  | getPrompt name =>
      simp only [run, Bridge.getPrompt]
      exact .ite (fun _ => .bind (.fail _) fun _ => hdispatch (.getPrompt name) _ _ _)
        fun _ => hdispatch (.getPrompt name) _ _ _

end Call

end CommandBridge
