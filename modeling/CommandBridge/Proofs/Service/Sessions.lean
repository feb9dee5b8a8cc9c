import CommandBridge.Proofs.Results.Subscriptions
import CommandBridge.Service.Clock

/-!
# CommandBridge.Proofs.Service.Sessions

Event streams and direct subscribers on one channel, in any interleaving of what they do and of what
is published.  A session is a service, the frames that are being waited for, and the direct
subscribers; a `Move` is one thing that happens.

What a move does to queues and streams is said once (`Change`, `change_step`), and everything
about runs is derived from that.  A move that cannot take place does nothing: a stream answers one
caller at a time, so it is neither asked nor closed while a frame of it is waited for, and time
never passes by the end of a wait.
-/

namespace CommandBridge

open ResultChannel

/-- A frame that was asked for at the time `begun` and is waited for. -/
structure Underway where
  place : Nat
  begun : Nat
  wait : Wait
  resume : Op Service (Option Frame)

/-- A direct subscriber: the place of its queue, and whether it has not left. -/
structure Subscriber where
  place : Nat
  subscribed : Bool

/-- What a move tells: how asking for a frame was answered, where no frame says that the stream has
ended; that the client of a stream is gone, or a stream was closed; what was published. -/
inductive Told where
  | nothing
  | answer (place : Nat) (frame : Option Frame)
  | disconnected (place : Nat)
  | closed (place : Nat)
  | published (body : Json)

/-- A service in use by event streams and direct subscribers. -/
structure Session where
  service : Service
  underway : List Underway := []
  subscribers : List Subscriber := []

/-- Something that happens in a session.  Direct subscribers go by their number, so that each of
them uses its own queue only. -/
inductive Move where
  | openStream (heartbeat : Nat) (positive : 0 < heartbeat)
  | next (place : Nat)
  | resume (place : Nat)
  | wait (time : Nat)
  | disconnect (place : Nat)
  | close (place : Nat)
  | ask (now : Timestamp) (o : ChannelOperation)

namespace Session

/-- The frame of a stream that is waited for, if there is one. -/
def underwayAt (x : Session) (place : Nat) : Option Underway :=
  x.underway.find? fun u => u.place = place

/-- Whether a stream is there and can be asked. -/
def isIdle (x : Session) (place : Nat) : Bool :=
  place < x.service.streams.length && (x.underwayAt place).isNone

/-- Asks a stream for its next frame. -/
def next (place : Nat) (x : Session) : Session × Told :=
  if x.isIdle place then
    let o := (Service.nextFrame place).run x.service
    match o.answer with
    | .ok (.done f) => ({ x with service := o.state }, .answer place f)
    | .ok (.suspended w resume) =>
      ({ x with
        service := o.state
        underway := x.underway ++ [⟨place, x.service.clock, w, resume⟩] }, .nothing)
    | .error _ => ({ x with service := o.state }, .nothing)
  else (x, .nothing)

/-- Goes on with a stream whose wait is over. -/
def resume (place : Nat) (x : Session) : Session × Told :=
  match x.underwayAt place with
  | none => (x, .nothing)
  | some u =>
    if x.service.isOver u.wait then
      let o := u.resume.run x.service
      ({ x with service := o.state, underway := x.underway.filter fun v => v.place ≠ place },
        match o.answer with
        | .ok f => .answer place f
        | .error _ => .nothing)
    else (x, .nothing)

/-- The time that can be waited for: that of the next wait that ends, or an earlier one. -/
def horizon (x : Session) (time : Nat) : Nat :=
  x.underway.foldl (fun t u => min t u.wait.deadline) time

/-- Asks something of the channel. -/
def ask (now : Timestamp) (o : ChannelOperation) (x : Session) : Session × Told :=
  match o with
  | .publish ticket status result =>
    let o := (Service.onResults (publish now ticket status result)).run x.service
    ({ x with service := o.state },
      match o.answer with
      | .ok r => .published r.toBody
      | .error _ => .nothing)
  | .subscribe limit =>
    let o := (Service.onResults (subscribe limit)).run x.service
    ({ x with
      service := o.state
      subscribers := x.subscribers ++ (o.answer.toOption.map fun p => ⟨p, true⟩).toList },
      .nothing)
  | .unsubscribe k =>
    match x.subscribers[k]? with
    | none => (x, .nothing)
    | some s =>
      ({ x with
        service := ((Service.onResults (unsubscribe s.place)).run x.service).state
        subscribers := x.subscribers.modify k fun s => { s with subscribed := false } }, .nothing)
  | .drain k =>
    match x.subscribers[k]? with
    | none => (x, .nothing)
    | some s =>
      ({ x with service := ((Service.onResults (drain s.place)).run x.service).state }, .nothing)
  | o => ({ x with service := ((Service.onResults (o.run now)).run x.service).state }, .nothing)

end Session

/-- The session after a move, and what the move tells. -/
def Move.step : Move → Session → Session × Told
  | .openStream heartbeat _, x =>
    ({ x with service := ((Service.openStream heartbeat).run x.service).state }, .nothing)
  | .next place, x => x.next place
  | .resume place, x => x.resume place
  | .wait time, x =>
    ({ x with service := ((Service.setClock (x.horizon time)).run x.service).state }, .nothing)
  | .disconnect place, x =>
    if place < x.service.streams.length then
      ({ x with service := ((Service.disconnectStream place).run x.service).state },
        .disconnected place)
    else (x, .nothing)
  | .close place, x =>
    if x.isIdle place then
      ({ x with service := ((Service.closeStream place).run x.service).state }, .closed place)
    else (x, .nothing)
  | .ask now o, x => x.ask now o

/-! ## What a move does -/

namespace Session

/-- What moves are about. -/
structure View where
  clock : Nat
  queues : List EventQueue
  streams : List EventStream
  underway : List Underway
  subscribers : List Subscriber

/-- What moves are about in a session. -/
def view (x : Session) : View :=
  ⟨x.service.clock, x.service.results.queues, x.service.streams, x.underway, x.subscribers⟩

/-- The events in a queue. -/
def View.held (v : View) (place : Nat) : List Json :=
  (v.queues[place]?.map (·.pending)).getD []

/-- A queue after its subscriber left. -/
def shut (q : EventQueue) : EventQueue := { q with isOpen := false }

/-- The queue of a stream. -/
def liveQueue? (st : EventStream) : Option Nat :=
  match st.phase with
  | .live q => some q
  | _ => none

/-- What waiting for a frame of the stream at a place, which has the queue `q`, is. -/
def awaiting (place begun heartbeat q : Nat) : Underway :=
  ⟨place, begun, ⟨begun + heartbeat, some q⟩, some <$> Service.onResults (Service.frameAfterWait q)⟩

/-- All that a move can do. -/
inductive Change (v : View) : View → Told → Prop
  /-- Nothing that matters here. -/
  | idle : Change v v .nothing
  | opened {heartbeat : Nat} (positive : 0 < heartbeat) :
      Change v { v with streams := v.streams ++ [⟨heartbeat, .fresh, false⟩] } .nothing
  /-- A stream is asked for the first time: it subscribes and is ready. -/
  | ready {i : Nat} {st : EventStream} (hst : v.streams[i]? = some st) (hfresh : st.phase = .fresh)
      (backend : String) :
      Change v { v with
        queues := v.queues ++ [⟨defaultLimit, [], true⟩]
        streams := v.streams.modify i fun st => { st with phase := .live v.queues.length } }
        (.answer i (some (.ready backend)))
  /-- A stream is asked whose client is gone: it unsubscribes and ends. -/
  | ended {i q : Nat} {st : EventStream} (hst : v.streams[i]? = some st)
      (hlive : st.phase = .live q) (hgone : st.disconnected = true)
      (hidle : ∀ u ∈ v.underway, u.place ≠ i) :
      Change v { v with
        queues := v.queues.modify q shut
        streams := v.streams.modify i fun st => { st with phase := .ended } } (.answer i none)
  /-- A stream is asked that has ended before. -/
  | silent {i : Nat} {st : EventStream} (hst : v.streams[i]? = some st) (hended : st.phase = .ended) :
      Change v v (.answer i none)
  /-- The oldest event of a stream's queue is its next frame, at once or after a wait. -/
  | event {i q : Nat} {st : EventStream} {e : Json} {rest : List Json} {underway : List Underway}
      (hst : v.streams[i]? = some st) (hlive : st.phase = .live q) (hheld : v.held q = e :: rest)
      (hunderway : ∀ u ∈ underway, u ∈ v.underway) :
      Change v { v with
        queues := v.queues.modify q fun q => { q with pending := rest }
        underway := underway } (.answer i (some (.result e)))
  /-- A wait ended without an event. -/
  | heartbeat {i q : Nat} {st : EventStream} {underway : List Underway}
      (hst : v.streams[i]? = some st) (hlive : st.phase = .live q) (hheld : v.held q = [])
      (hunderway : ∀ u ∈ underway, u ∈ v.underway) :
      Change v { v with underway := underway } (.answer i (some .heartbeat))
  /-- A stream without an event is asked: its next frame is waited for. -/
  | waiting {i q : Nat} {st : EventStream} (hst : v.streams[i]? = some st)
      (hlive : st.phase = .live q) :
      Change v { v with underway := v.underway ++ [awaiting i v.clock st.heartbeat q] } .nothing
  /-- Time passes, to the end of the next wait at most. -/
  | passed {time : Nat} (hwaits : ∀ u ∈ v.underway, time ≤ u.wait.deadline) :
      Change v { v with clock := time } .nothing
  | gone {i : Nat} {st : EventStream} (hst : v.streams[i]? = some st) :
      Change v { v with
        streams := v.streams.modify i fun st => { st with disconnected := true } }
        (.disconnected i)
  /-- A stream is closed that has a queue. -/
  | closed {i q : Nat} {st : EventStream} (hst : v.streams[i]? = some st)
      (hlive : st.phase = .live q) (hidle : ∀ u ∈ v.underway, u.place ≠ i) :
      Change v { v with
        queues := v.queues.modify q shut
        streams := v.streams.modify i fun st => { st with phase := .ended } } (.closed i)
  /-- A stream is closed that has no queue, or none any more. -/
  | dropped {i : Nat} {st : EventStream} (hst : v.streams[i]? = some st)
      (hlive : liveQueue? st = none) :
      Change v { v with
        streams := v.streams.modify i fun st => { st with phase := .ended } } (.closed i)
  | published (body : Json) :
      Change v { v with queues := v.queues.map (EventQueue.offer body) } (.published body)
  | subscribed (limit : Int) :
      Change v { v with
        queues := v.queues ++ [⟨limit, [], true⟩]
        subscribers := v.subscribers ++ [⟨v.queues.length, true⟩] } .nothing
  | left {k : Nat} {s : Subscriber} (hs : v.subscribers[k]? = some s) :
      Change v { v with
        queues := v.queues.modify s.place shut
        subscribers := v.subscribers.modify k fun s => { s with subscribed := false } } .nothing
  | drained {k : Nat} {s : Subscriber} (hs : v.subscribers[k]? = some s) :
      Change v { v with
        queues := v.queues.modify s.place fun q => { q with pending := [] } } .nothing

/-- Every heartbeat is positive, and what is waited for is a frame of a live stream, for no longer
than its heartbeat. -/
structure Orderly (v : View) : Prop where
  positive : ∀ st ∈ v.streams, 0 < st.heartbeat
  underway : ∀ u ∈ v.underway, ∃ st q, v.streams[u.place]? = some st ∧ st.phase = .live q ∧
    u = awaiting u.place u.begun st.heartbeat q ∧ v.clock ≤ u.begun + st.heartbeat

/-! ## What the operations of a service do -/

theorem modify_congr {α : Type} {l : List α} {i : Nat} {a : α} {f g : α → α} (ha : l[i]? = some a)
    (hfg : f a = g a) : l.modify i f = l.modify i g := by
  rw [List.modify_eq_set_getElem?, List.modify_eq_set_getElem?, ha]
  exact congrArg (l.set i) hfg

theorem modify_self {α : Type} {l : List α} {i : Nat} {a : α} (ha : l[i]? = some a) :
    l.modify i (fun _ => a) = l := by
  rw [modify_congr (f := fun _ => a) (g := id) ha rfl, List.modify_id]

variable {x : Session} {i q : Nat} {st : EventStream}

/-- A service with another result channel. -/
def withResults (c : ResultChannel) (s : Service) : Service :=
  { s with bridge := { s.bridge with host := { s.bridge.host with results := c } } }

/-- The session with what an operation on the channel leaves. -/
theorem view_onResults {α : Type} (x : Session) (o : Op ResultChannel α)
    (underway : List Underway) (subscribers : List Subscriber) :
    view ⟨((Service.onResults o).run x.service).state, underway, subscribers⟩ =
      ⟨x.view.clock, (o.run x.service.results).state.queues, x.view.streams, underway,
        subscribers⟩ := rfl

/-- The oldest event of a queue is taken out. -/
theorem nextEvent?_run (c : ResultChannel) (q : Nat) :
    (nextEvent? q).run c =
      match held q c with
      | [] => ⟨.ok none, c, []⟩
      | event :: rest =>
        ⟨.ok (some event),
          { c with queues := c.queues.modify q fun q => { q with pending := rest } }, []⟩ := rfl

theorem frameAfterWait_run (c : ResultChannel) (q : Nat) :
    (Service.frameAfterWait q).run c =
      match held q c with
      | [] => ⟨.ok .heartbeat, c, []⟩
      | event :: rest =>
        ⟨.ok (.result event),
          { c with queues := c.queues.modify q fun q => { q with pending := rest } }, []⟩ := by
  rw [Service.frameAfterWait, Op.run_bind, nextEvent?_run]
  cases held q c <;> rfl

/-- A stream is asked on the channel, and put back. -/
theorem nextFrame_run (s : Service) (hst : s.streams[i]? = some st) :
    (Service.nextFrame i).run s =
      match st.next.run s.results with
      | ⟨.error e, c, log⟩ =>
        ⟨.error e, withResults c s, log⟩
      | ⟨.ok (st', step), c, log⟩ =>
        ⟨.ok (match step, st'.phase with
          | .frame f, _ => .done (some f)
          | .waiting, .live q => .suspended ⟨s.clock + st'.heartbeat, some q⟩
              (some <$> Service.onResults (Service.frameAfterWait q))
          | _, _ => .done none),
          { withResults c s with streams := s.streams.modify i fun _ => st' }, log⟩ := by
  rw [Service.nextFrame, Op.run_bind, Op.run_get]
  simp only [hst, List.nil_append]
  have hrun : (Service.onResults st.next).run s =
      ⟨(st.next.run s.results).answer, withResults (st.next.run s.results).state s,
        (st.next.run s.results).log⟩ := rfl
  rw [Op.run_bind, hrun]
  rcases st.next.run s.results with ⟨e | ⟨st', step⟩, c, log⟩
  · rfl
  · simp only [Op.run_bind, Service.putStream, Op.run_modify]
    rcases step with f | _ | _ <;> rcases st'.phase <;> simp [withResults]

/-- Asking a stream on the channel. -/
theorem eventStream_next_run (hheartbeat : 0 < st.heartbeat) (c : ResultChannel) :
    st.next.run c =
      match st.phase with
      | .ended => ⟨.ok (st, .ended), c, []⟩
      | .fresh =>
        ⟨.ok ({ st with phase := .live c.queues.length }, .frame (.ready c.backend)),
          { c with queues := c.queues ++ [⟨defaultLimit, [], true⟩] }, []⟩
      | .live q =>
        if st.disconnected then
          ⟨.ok ({ st with phase := .ended }, .ended),
            { c with queues := c.queues.modify q shut }, []⟩
        else
          match ResultChannel.held q c with
          | [] => ⟨.ok (st, .waiting), c, []⟩
          | event :: rest =>
            ⟨.ok (st, .frame (.result event)),
              { c with queues := c.queues.modify q fun q => { q with pending := rest } }, []⟩ := by
  have hne : st.heartbeat ≠ 0 := by omega
  rw [EventStream.next]
  cases hphase : st.phase with
  | ended => rfl
  | fresh => rfl
  | live q =>
      cases hgone : st.disconnected with
      | true => rfl
      | false =>
          simp only [Bool.false_eq_true, if_false, if_neg hne]
          rw [Op.run_bind, nextEvent?_run]
          cases ResultChannel.held q c <;> rfl

/-- Closing a stream on the channel. -/
theorem eventStream_close_run (st : EventStream) (c : ResultChannel) :
    st.close.run c =
      ⟨.ok { st with phase := .ended },
        match st.phase with
        | .live q => { c with queues := c.queues.modify q shut }
        | _ => c, []⟩ := by
  rw [EventStream.close]
  cases st.phase <;> rfl

/-! ## Every move is a change -/

theorem held_view (x : Session) (q : Nat) : x.view.held q = ResultChannel.held q x.service.results :=
  rfl

/-- What an idle stream is. -/
theorem exists_of_isIdle (h : x.isIdle i = true) :
    (∃ st, x.service.streams[i]? = some st) ∧ ∀ u ∈ x.view.underway, u.place ≠ i := by
  rw [isIdle, Bool.and_eq_true, decide_eq_true_eq] at h
  refine ⟨⟨_, List.getElem?_eq_getElem h.1⟩, fun u hu => ?_⟩
  have hnone := Option.isNone_iff_eq_none.mp h.2
  rw [underwayAt, List.find?_eq_none] at hnone
  simpa using hnone u hu

section Asking

variable (hidle : x.isIdle i = true) (hst : x.service.streams[i]? = some st)
  (hheartbeat : 0 < st.heartbeat)
include hidle hst hheartbeat

/-- A stream that is asked for the first time subscribes and is ready. -/
theorem next_fresh (hfresh : st.phase = .fresh) :
    (x.next i).1.view = { x.view with
      queues := x.view.queues ++ [⟨defaultLimit, [], true⟩]
      streams := x.view.streams.modify i fun st =>
        { st with phase := .live x.view.queues.length } } ∧
    (x.next i).2 = .answer i (some (.ready x.service.results.backend)) := by
  have hmodify := modify_congr (f := fun _ : EventStream =>
    { st with phase := .live x.service.results.queues.length })
    (g := fun st => { st with phase := .live x.service.results.queues.length }) hst rfl
  rw [next, if_pos hidle, nextFrame_run _ hst, eventStream_next_run hheartbeat, hfresh]
  simp only [hmodify, and_true]
  rfl

/-- A stream whose client is gone unsubscribes and ends. -/
theorem next_gone (hlive : st.phase = .live q) (hgone : st.disconnected = true) :
    (x.next i).1.view = { x.view with
      queues := x.view.queues.modify q shut
      streams := x.view.streams.modify i fun st => { st with phase := .ended } } ∧
    (x.next i).2 = .answer i none := by
  have hmodify := modify_congr (f := fun _ : EventStream => { st with phase := .ended })
    (g := fun st => { st with phase := .ended }) hst rfl
  rw [next, if_pos hidle, nextFrame_run _ hst, eventStream_next_run hheartbeat, hlive]
  simp only [if_pos hgone, hmodify, and_true]
  rfl

/-- The oldest event of a stream is its next frame. -/
theorem next_event (hlive : st.phase = .live q) (hhere : st.disconnected = false) {e : Json}
    {rest : List Json} (hheld : x.view.held q = e :: rest) :
    (x.next i).1.view = { x.view with
      queues := x.view.queues.modify q fun q => { q with pending := rest } } ∧
    (x.next i).2 = .answer i (some (.result e)) := by
  have hsame : (x.service.streams.modify i fun _ => st) = x.service.streams := modify_self hst
  rw [held_view] at hheld
  rw [next, if_pos hidle, nextFrame_run _ hst, eventStream_next_run hheartbeat, hlive]
  simp only [hhere, Bool.false_eq_true, if_false, hheld, hsame, and_true]
  rfl

/-- A stream without an event waits. -/
theorem next_waiting (hlive : st.phase = .live q) (hhere : st.disconnected = false)
    (hheld : x.view.held q = []) :
    (x.next i).1.view = { x.view with
      underway := x.view.underway ++ [awaiting i x.view.clock st.heartbeat q] } ∧
    (x.next i).2 = .nothing := by
  have hsame : (x.service.streams.modify i fun _ => st) = x.service.streams := modify_self hst
  rw [held_view] at hheld
  rw [next, if_pos hidle, nextFrame_run _ hst, eventStream_next_run hheartbeat, hlive]
  simp only [hhere, Bool.false_eq_true, if_false, hheld, hlive, hsame, and_true]
  rfl

/-- A stream that has ended gives no frame. -/
theorem next_ended (hended : st.phase = .ended) :
    (x.next i).1.view = x.view ∧ (x.next i).2 = .answer i none := by
  have hsame : (x.service.streams.modify i fun _ => st) = x.service.streams := modify_self hst
  rw [next, if_pos hidle, nextFrame_run _ hst, eventStream_next_run hheartbeat, hended]
  simp only [hsame, and_true]
  rfl

end Asking

/-- What comes of a wait that is over. -/
theorem awaiting_run (s : Service) (place begun heartbeat q : Nat) :
    (awaiting place begun heartbeat q).resume.run s =
      match ResultChannel.held q s.results with
      | [] => ⟨.ok (some .heartbeat), s, []⟩
      | event :: rest =>
        ⟨.ok (some (.result event)),
          withResults { s.results with
            queues := s.results.queues.modify q fun q => { q with pending := rest } } s, []⟩ := by
  have hrun : (Service.onResults (Service.frameAfterWait q)).run s =
      ⟨((Service.frameAfterWait q).run s.results).answer,
        withResults ((Service.frameAfterWait q).run s.results).state s,
        ((Service.frameAfterWait q).run s.results).log⟩ := rfl
  rw [awaiting, Op.run_map, hrun, frameAfterWait_run]
  cases ResultChannel.held q s.results <;> rfl

section Waiting

variable {begun heartbeat : Nat} (hu : x.underwayAt i = some (awaiting i begun heartbeat q))
include hu

omit hu in
/-- When a wait is over. -/
theorem isOver_awaiting (x : Session) (i begun heartbeat q : Nat) :
    x.service.isOver (awaiting i begun heartbeat q).wait = true ↔
      begun + heartbeat ≤ x.view.clock ∨ x.view.held q ≠ [] := by
  rw [Service.isOver, Bool.or_eq_true, decide_eq_true_eq, View.held]
  show _ ∨ (x.view.queues[q]?.any fun e => !e.pending.isEmpty) = true ↔ _
  cases x.view.queues[q]? with
  | none => simp [awaiting, view]
  | some e => simp [awaiting, view]

/-- A wait that is not over goes on. -/
theorem resume_early (hearly : x.view.clock < begun + heartbeat) (hheld : x.view.held q = []) :
    x.resume i = (x, .nothing) := by
  have hover : ¬ x.service.isOver (awaiting i begun heartbeat q).wait = true := by
    rw [isOver_awaiting]
    exact not_or.mpr ⟨by omega, not_not.mpr hheld⟩
  rw [resume, hu]
  simp only [if_neg hover]

/-- An event that has come is the frame that was waited for. -/
theorem resume_event {e : Json} {rest : List Json} (hheld : x.view.held q = e :: rest) :
    (x.resume i).1.view = { x.view with
      queues := x.view.queues.modify q fun q => { q with pending := rest }
      underway := x.view.underway.filter fun v => v.place ≠ i } ∧
    (x.resume i).2 = .answer i (some (.result e)) := by
  have hover := (isOver_awaiting x i begun heartbeat q).mpr (.inr (by simp [hheld]))
  rw [held_view] at hheld
  rw [resume, hu]
  simp only [if_pos hover, awaiting_run, hheld, and_true]
  rfl

/-- A heartbeat is the frame if no event has come. -/
theorem resume_heartbeat (hlate : begun + heartbeat ≤ x.view.clock) (hheld : x.view.held q = []) :
    (x.resume i).1.view = { x.view with
      underway := x.view.underway.filter fun v => v.place ≠ i } ∧
    (x.resume i).2 = .answer i (some .heartbeat) := by
  have hover := (isOver_awaiting x i begun heartbeat q).mpr (.inl hlate)
  rw [held_view] at hheld
  rw [resume, hu]
  simp only [if_pos hover, awaiting_run, hheld, and_true]
  rfl

end Waiting

theorem change_next (hx : Orderly x.view) (i : Nat) :
    Change x.view (x.next i).1.view (x.next i).2 := by
  by_cases hidle : x.isIdle i = true
  · obtain ⟨⟨st, hst⟩, hfree⟩ := exists_of_isIdle hidle
    have hpositive := hx.positive st (List.mem_of_getElem? hst)
    cases hphase : st.phase with
    | ended =>
        obtain ⟨hview, htold⟩ := next_ended hidle hst hpositive hphase
        rw [hview, htold]
        exact .silent hst hphase
    | fresh =>
        obtain ⟨hview, htold⟩ := next_fresh hidle hst hpositive hphase
        rw [hview, htold]
        exact .ready hst hphase _
    | live q =>
        cases hgone : st.disconnected with
        | true =>
            obtain ⟨hview, htold⟩ := next_gone hidle hst hpositive hphase hgone
            rw [hview, htold]
            exact .ended hst hphase hgone hfree
        | false =>
            cases hheld : x.view.held q with
            | nil =>
                obtain ⟨hview, htold⟩ := next_waiting hidle hst hpositive hphase hgone hheld
                rw [hview, htold]
                exact .waiting hst hphase
            | cons event rest =>
                obtain ⟨hview, htold⟩ := next_event hidle hst hpositive hphase hgone hheld
                rw [hview, htold]
                exact .event hst hphase hheld fun _ => id
  · rw [next, if_neg hidle]
    exact .idle

/-- What is waited for, where something is. -/
theorem exists_awaiting (hx : Orderly x.view) {u : Underway} (hu : x.underwayAt i = some u) :
    ∃ st q, x.view.streams[i]? = some st ∧ st.phase = .live q ∧
      u = awaiting i u.begun st.heartbeat q ∧ x.view.clock ≤ u.begun + st.heartbeat := by
  have hplace : u.place = i := by simpa using List.find?_some hu
  obtain ⟨st, q, hst, hlive, hwait, hclock⟩ := hx.underway u (List.mem_of_find?_eq_some hu)
  rw [hplace] at hst hwait
  exact ⟨st, q, hst, hlive, hwait, hclock⟩

theorem change_resume (hx : Orderly x.view) (i : Nat) :
    Change x.view (x.resume i).1.view (x.resume i).2 := by
  cases hu : x.underwayAt i with
  | none =>
      rw [resume, hu]
      exact .idle
  | some u =>
      obtain ⟨st, q, hst, hlive, hwait, -⟩ := exists_awaiting hx hu
      rw [hwait] at hu
      have hsub : ∀ u ∈ x.view.underway.filter (fun v => v.place ≠ i), u ∈ x.view.underway :=
        fun u hu => (List.mem_filter.mp hu).1
      cases hheld : x.view.held q with
      | cons event rest =>
          obtain ⟨hview, htold⟩ := resume_event hu hheld
          rw [hview, htold]
          exact .event hst hlive hheld hsub
      | nil =>
          by_cases hlate : u.begun + st.heartbeat ≤ x.view.clock
          · obtain ⟨hview, htold⟩ := resume_heartbeat hu hlate hheld
            rw [hview, htold]
            exact .heartbeat hst hlive hheld hsub
          · rw [resume_early hu (by omega) hheld]
            exact .idle

/-- No wait ends before the time that can be waited for. -/
theorem horizon_le (x : Session) (time : Nat) :
    ∀ u ∈ x.underway, x.horizon time ≤ u.wait.deadline := by
  have hfold : ∀ (us : List Underway) (t : Nat),
      us.foldl (fun t u => min t u.wait.deadline) t ≤ t ∧
        ∀ u ∈ us, us.foldl (fun t u => min t u.wait.deadline) t ≤ u.wait.deadline := by
    intro us
    induction us with
    | nil => simp
    | cons v us ih =>
        intro t
        obtain ⟨hle, hall⟩ := ih (min t v.wait.deadline)
        rw [List.foldl_cons]
        refine ⟨by omega, fun u hu => ?_⟩
        rcases List.mem_cons.mp hu with rfl | hu
        · omega
        · exact hall u hu
  exact (hfold x.underway time).2

theorem change_ask (now : Timestamp) (o : ChannelOperation) (x : Session) :
    Change x.view (x.ask now o).1.view (x.ask now o).2 := by
  -- what neither reads nor changes queues is no change at all
  have hblind : ∀ {α : Type} {o : Op ResultChannel α}, Blind o →
      Change x.view
        (view { x with service := ((Service.onResults o).run x.service).state }) .nothing := by
    intro α o ho
    rw [view_onResults, ho.queues_run]
    exact .idle
  cases o with
  | register command => exact hblind (Blind.discard (blind_register now command))
  | get ticket => exact hblind (Blind.discard (blind_get now ticket))
  | publish ticket status result =>
      rw [ask, view_onResults, publish_queues]
      have hanswer : ((Service.onResults (publish now ticket status result)).run x.service).answer =
          ((publish now ticket status result).run x.service.results).answer := rfl
      rw [hanswer]
      cases ((publish now ticket status result).run x.service.results).answer with
      | error e => exact .idle
      | ok r => exact .published r.toBody
  | subscribe limit => exact .subscribed limit
  | unsubscribe k =>
      unfold ask
      dsimp only
      split
      · exact .idle
      · next s hs => exact .left hs
  | drain k =>
      unfold ask
      dsimp only
      split
      · exact .idle
      · next s hs => exact .drained hs

theorem change_close (hidle : x.isIdle i = true) :
    Change x.view
      (view { x with service := ((Service.closeStream i).run x.service).state }) (.closed i) := by
  obtain ⟨⟨st, hst⟩, hfree⟩ := exists_of_isIdle hidle
  have hmodify := modify_congr (f := fun _ : EventStream => { st with phase := .ended })
    (g := fun st => { st with phase := .ended }) hst rfl
  have hrun : (Service.closeStream i).run x.service =
      ⟨.ok (),
        { withResults (st.close.run x.service.results).state x.service with
          streams := x.service.streams.modify i fun st => { st with phase := .ended } }, []⟩ := by
    have hclose : (Service.onResults st.close).run x.service =
        ⟨(st.close.run x.service.results).answer,
          withResults (st.close.run x.service.results).state x.service,
          (st.close.run x.service.results).log⟩ := rfl
    rw [Service.closeStream, Op.run_bind, Op.run_get]
    simp only [hst, List.nil_append]
    rw [Op.run_bind, hclose, eventStream_close_run, ← hmodify]
    rfl
  rw [hrun, eventStream_close_run]
  cases hphase : st.phase with
  | live q => exact .closed hst hphase hfree
  | _ => exact .dropped hst (by rw [liveQueue?, hphase])

/-- All that a move can do is one of the changes. -/
theorem change_step (hx : Orderly x.view) (m : Move) :
    Change x.view (m.step x).1.view (m.step x).2 := by
  cases m with
  | openStream heartbeat positive => exact .opened positive
  | next i => exact change_next hx i
  | resume i => exact change_resume hx i
  | wait time =>
      have hwaits : ∀ u ∈ x.view.underway,
          max x.service.clock (x.horizon time) ≤ u.wait.deadline := by
        intro u hu
        obtain ⟨st, q, -, -, hwait, hclock⟩ := hx.underway u hu
        have hhorizon := horizon_le x time u hu
        have hdeadline : u.wait.deadline = u.begun + st.heartbeat := by rw [hwait]; rfl
        have hnow : x.view.clock = x.service.clock := rfl
        omega
      exact .passed hwaits
  | disconnect i =>
      unfold Move.step
      dsimp only
      split
      · next hi => exact .gone (List.getElem?_eq_getElem hi)
      · exact .idle
  | close i =>
      unfold Move.step
      dsimp only
      split
      · next hidle => exact change_close hidle
      · exact .idle
  | ask now o => exact change_ask now o x

end Session

end CommandBridge
