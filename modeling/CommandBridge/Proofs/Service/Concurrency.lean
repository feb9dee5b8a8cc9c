import CommandBridge.Proofs.Dispatch.Room
import CommandBridge.Proofs.Results.Offline
import CommandBridge.Proofs.Service.Passing

/-!
# CommandBridge.Proofs.Service.Concurrency

Calls that are made together.  A call does at once everything it does to the bridge; all that is
left of a tool call then is the wait for its acknowledgement.  So calls that are started together
have done to the bridge what calls made one after the other do (`starts_run`), only that the latter
let time pass in between, which makes no difference but for times (`inTurn_run`).

`concurrent_calls` puts both together: the commands are all delivered before the clock moves, no
call is answered otherwise than it would be in turn, and all acknowledgements are waited for at
once.
-/

namespace CommandBridge

open Likeness ResultChannel

/-- A call and the time at which it is made. -/
structure Ask where
  now : Timestamp
  call : Call

namespace Bridge

variable {w w' : Station} {b b' : Bridge}

/-- What calls are answered with, one after the other. -/
def replies : List Ask → Bridge → List (Except Failure Response)
  | [], _ => []
  | a :: asks, b =>
    ((a.call.run a.now).run b).answer :: replies asks ((a.call.run a.now).run b).state

/-- What calls leave, one after the other. -/
def left (asks : List Ask) (b : Bridge) : Bridge :=
  asks.foldl (fun b a => ((a.call.run a.now).run b).state) b

/-- The commands that calls become if some tickets were drawn before. -/
def commandsOf (drawn : Nat) (asks : List Ask) : List Command :=
  asks.mapIdx fun k a => ⟨a.call.kind, a.call.target, a.call.arguments,
    ticketOf (drawn + k + 1), a.now.text⟩

/-- Two runs of a call, at two times. -/
theorem outcomes_run (hw : w'.place = w.place) (call : Call) (now now' : Timestamp)
    (hb : b.Poised w) (hb' : b'.Poised w') (hsame : b.timeless = b'.timeless) :
    (untimed w w').Outcomes Eq ((call.run now).run b) ((call.run now').run b') :=
  (Call.untimed_run hw call).outcomes ⟨hsame, hb, hb'⟩ id

theorem Poised.run (hb : b.Poised w) (call : Call) (now : Timestamp) :
    ((call.run now).run b).state.Poised w :=
  (outcomes_run rfl call now now hb hb rfl).state.2.1

theorem Poised.left (hb : b.Poised w) (asks : List Ask) : (b.left asks).Poised w := by
  induction asks generalizing b with
  | nil => exact hb
  | cons a asks ih => exact ih (hb.run a.call a.now)

theorem Poised.ensureOpen (hb : b.Poised w) :
    ((Bridge.ensureOpen w.place).run b).answer = .ok () := by
  rw [Bridge.ensureOpen, Op.run_get_bind, if_pos hb.opened]
  rfl

/-! ## Deliveries -/

/-- A call with a name draws a ticket and gives the instance its command, unless the record map
cannot keep any record at all. -/
theorem received_run (hb : b.Poised w) (hcap : 0 ≤ w.capacity) {call : Call}
    (hname : call.nameless? = none) (now : Timestamp) :
    ((call.run now).run b).state.ticketsDrawn = b.ticketsDrawn + 1 ∧
      ((call.run now).run b).state.host.received w.place =
        b.host.received w.place ++ [call.command now b] := by
  obtain ⟨m, hm⟩ : ∃ m : Nat, b.host.results.capacity = m :=
    ⟨w.capacity.toNat, by rw [hb.host.capacity]; omega⟩
  obtain ⟨r, hr⟩ := hb.host.recording
  have hreceived : (call.delivered now w.place b).state.received w.place =
      b.host.received w.place ++ [call.command now b] := by
    rw [Call.received_delivered hb.host.place (by rw [hr]; rfl), if_pos rfl]
  cases hrefused : refused? (call.delivered now w.place b) with
  | none =>
      rw [(Call.run_of_taken hm hname hb.attached hb.ensureOpen hrefused).2]
      exact ⟨rfl, hreceived⟩
  | some detail =>
      rw [(Call.run_of_refused hm hname hb.attached hb.ensureOpen hrefused).2]
      exact ⟨rfl, hreceived⟩

/-- Where the record map cannot keep any record at all, a call fails and is not delivered. -/
theorem run_of_no_room (hb : b.Poised w) (hcap : w.capacity < 0) {call : Call}
    (hname : call.nameless? = none) (now : Timestamp) :
    ((call.run now).run b).answer = .error .nothingToEvict ∧
      ((call.run now).run b).state.host.received w.place = b.host.received w.place := by
  have hnone : b.host.results.capacity < 0 := by
    rw [hb.host.capacity]
    exact hcap
  obtain ⟨hanswer, -, hreceived, -⟩ := Call.run_of_no_room hnone hname hb.attached hb.ensureOpen
  exact ⟨hanswer, hreceived w.place⟩

/-- Calls give the instance their commands in order. -/
theorem received_left (hb : b.Poised w) (hcap : 0 ≤ w.capacity) {asks : List Ask}
    (hnamed : ∀ a ∈ asks, a.call.nameless? = none) :
    (b.left asks).host.received w.place =
      b.host.received w.place ++ commandsOf b.ticketsDrawn asks := by
  induction asks generalizing b with
  | nil => simp [left, commandsOf]
  | cons a asks ih =>
      obtain ⟨hdrawn, hreceived⟩ :=
        received_run hb hcap (hnamed a List.mem_cons_self) a.now
      have hrest := ih (hb.run a.call a.now) fun a' ha' => hnamed a' (List.mem_cons_of_mem a ha')
      rw [hdrawn, hreceived] at hrest
      have hcommands : commandsOf b.ticketsDrawn (a :: asks) =
          a.call.command a.now b :: commandsOf (b.ticketsDrawn + 1) asks := by
        simp only [commandsOf, List.mapIdx_cons, Call.command]
        congr 2
        funext k a
        rw [show b.ticketsDrawn + (k + 1) + 1 = b.ticketsDrawn + 1 + k + 1 by omega]
      rw [hcommands, List.append_cons]
      exact hrest

theorem left_of_no_room (hb : b.Poised w) (hcap : w.capacity < 0) {asks : List Ask}
    (hnamed : ∀ a ∈ asks, a.call.nameless? = none) :
    b.replies asks = asks.map (fun _ => .error .nothingToEvict) ∧
      (b.left asks).host.received w.place = b.host.received w.place := by
  induction asks generalizing b with
  | nil => exact ⟨rfl, rfl⟩
  | cons a asks ih =>
      obtain ⟨hanswer, hreceived⟩ :=
        run_of_no_room hb hcap (hnamed a List.mem_cons_self) a.now
      obtain ⟨hreplies, hrest⟩ :=
        ih (hb.run a.call a.now) fun a' ha' => hnamed a' (List.mem_cons_of_mem a ha')
      exact ⟨by rw [replies, hanswer, hreplies]; rfl, hrest.trans hreceived⟩

end Bridge

/-! ## Starting -/

/-- Whether an answer acknowledges a tool call that the instance accepted. -/
def Ask.isAcknowledged (a : Ask) : Except Failure Response → Bool
  | .ok _ => a.call.kind = .callTool
  | .error _ => false

namespace Service

variable {w w' : Station} {s : Service} {asks asks' : List Ask}

/-- Makes a call; a tool call is acknowledged after the acknowledgement delay. -/
def ask (a : Ask) : Op Service (Progress Service Response) :=
  match a.call with
  | .callTool name arguments => callTool a.now name arguments
  | call => Op.atOnce (onBridge (call.run a.now))

/-- A call that was started. -/
def begun (w : Station) (a : Ask) (r : Except Failure Response) : Started Response :=
  if a.isAcknowledged r ∧ w.delay ≠ 0 then .waiting ⟨w.clock + w.delay, none⟩ (Op.ofExcept r)
  else .over r

theorem due_begun (w : Station) (a : Ask) (r : Except Failure Response) :
    Due (w.clock + w.delay) (begun w a r) r := by
  unfold begun
  split
  · next h =>
    cases r with
    | ok x => exact .waiting x
    | error e => simp [Ask.isAcknowledged] at h
  · exact .over r

/-- How far an operation has come that was started. -/
def startedOf {α : Type} : Except Failure (Progress Service α) → Started α
  | .ok (.done a) => .over (.ok a)
  | .ok (.suspended w resume) => .waiting w resume
  | .error e => .over (.error e)

theorem start_run {α : Type} (x : Op Service (Progress Service α)) (s : Service) :
    ((start x).run s).answer = .ok (startedOf (x.run s).answer) ∧
      ((start x).run s).state = (x.run s).state := by
  rw [start, Op.answer_bind_ok (a := (x.run s).answer) rfl,
    Op.state_bind_ok (a := (x.run s).answer) rfl]
  rcases (x.run s).answer with e | a | ⟨w, resume⟩ <;> exact ⟨rfl, rfl⟩

/-- A call that is no tool call is over at once. -/
theorem atOnce_run (w : Station) {call : Call} (hkind : call.kind ≠ .callTool) (now : Timestamp)
    (s : Service) :
    startedOf ((Op.atOnce (onBridge (call.run now))).run s).answer =
        begun w ⟨now, call⟩ ((call.run now).run s.bridge).answer ∧
      ((Op.atOnce (onBridge (call.run now))).run s).state =
        { s with bridge := ((call.run now).run s.bridge).state } := by
  refine ⟨?_, Op.state_bind_pure _ _ _⟩
  have hanswer : ((onBridge (call.run now)).run s).answer =
    ((call.run now).run s.bridge).answer := rfl
  cases hr : ((call.run now).run s.bridge).answer with
  | error e =>
      rw [Op.atOnce, Op.answer_bind_error (hanswer.trans hr)]
      rfl
  | ok r =>
      rw [Op.atOnce, Op.answer_bind_ok (hanswer.trans hr)]
      simp [startedOf, begun, Ask.isAcknowledged, hkind]

/-- A tool call that was accepted waits for its acknowledgement, if there is a delay. -/
theorem callTool_run (hs : s.bridge.Poised w) (now : Timestamp) (name : String)
    (arguments : Json) :
    let o := ((Call.callTool name arguments).run now).run s.bridge
    startedOf ((callTool now name arguments).run s).answer =
        begun w ⟨now, .callTool name arguments⟩ o.answer ∧
      ((callTool now name arguments).run s).state = { s with bridge := o.state } := by
  intro o
  have hleft : o.state.Poised w := hs.run (.callTool name arguments) now
  have hrun : (onBridge (Bridge.callTool now name arguments)).run s =
    ⟨o.answer, { s with bridge := o.state }, o.log⟩ := rfl
  rw [callTool, Op.run_bind, hrun]
  cases o.answer with
  | error e => exact ⟨by simp [startedOf, begun, Ask.isAcknowledged], rfl⟩
  | ok r =>
      have hclock : o.state.host.clock = w.clock := hleft.host.clock
      simp only [Op.run_get_bind, hleft.delay]
      by_cases hdelay : w.delay = 0
      · simp [startedOf, begun, hdelay]
      · refine ⟨?_, by rw [if_neg hdelay]; rfl⟩
        simp only [Op.run_pure, startedOf, begun, Ask.isAcknowledged, Call.kind, clock, hclock,
          hdelay, ne_eq, not_false_eq_true, decide_true, and_self, if_true, if_false]
        rfl

/-- A call does at once all it does to the bridge. -/
theorem ask_run (hs : s.bridge.Poised w) (a : Ask) :
    startedOf ((ask a).run s).answer = begun w a ((a.call.run a.now).run s.bridge).answer ∧
      ((ask a).run s).state = { s with bridge := ((a.call.run a.now).run s.bridge).state } := by
  obtain ⟨now, call⟩ := a
  cases call with
  | readResource uri => exact atOnce_run w (by simp [Call.kind]) now s
  | getPrompt name => exact atOnce_run w (by simp [Call.kind]) now s
  | callTool name arguments => exact callTool_run hs now name arguments

/-- Calls that are started together have done to the bridge what they do one after the other. -/
theorem starts_run (hs : s.bridge.Poised w) (asks : List Ask) :
    (((asks.map ask).mapM start).run s).answer =
        .ok (List.zipWith (begun w) asks (s.bridge.replies asks)) ∧
      (((asks.map ask).mapM start).run s).state = { s with bridge := s.bridge.left asks } := by
  induction asks generalizing s with
  | nil => exact ⟨rfl, rfl⟩
  | cons a asks ih =>
      obtain ⟨hanswer, hstate⟩ := start_run (ask a) s
      obtain ⟨hbegun, hleft⟩ := ask_run hs a
      rw [hbegun] at hanswer
      rw [hleft] at hstate
      obtain ⟨hanswers, hstates⟩ := ih (s := ((start (ask a)).run s).state)
        (hstate ▸ hs.run a.call a.now)
      rw [List.map_cons, List.mapM_cons, Op.answer_bind_ok hanswer, Op.state_bind_ok hanswer,
        Op.answer_bind_ok hanswers, Op.state_bind_ok hanswers, hstates, hstate]
      exact ⟨rfl, rfl⟩

/-! ## Waiting for the acknowledgements -/

/-- Whether some tool call is acknowledged. -/
def acknowledges (asks : List Ask) (rs : List (Except Failure Response)) : Bool :=
  (List.zipWith Ask.isAcknowledged asks rs).any id

theorem due_zipWith (w : Station) (asks : List Ask) (b : Bridge) :
    List.Forall₂ (Due (w.clock + w.delay)) (List.zipWith (begun w) asks (b.replies asks))
      (b.replies asks) := by
  induction asks generalizing b with
  | nil => exact .nil
  | cons a asks ih => exact .cons (due_begun w a _) (ih _)

/-- Nothing is waited for if there is no delay, or nothing to acknowledge. -/
theorem filterMap_deadline?_eq_nil (w : Station) (asks : List Ask)
    (rs : List (Except Failure Response)) :
    (List.zipWith (begun w) asks rs).filterMap deadline? = [] ↔
      w.delay = 0 ∨ acknowledges asks rs = false := by
  induction asks generalizing rs with
  | nil => simp [acknowledges]
  | cons a asks ih =>
      cases rs with
      | nil => simp [acknowledges]
      | cons r rs =>
          have hrest := ih rs
          simp only [acknowledges, List.zipWith_cons_cons, List.any_cons, id_eq] at hrest ⊢
          cases hr : a.isAcknowledged r with
          | false => simpa [begun, hr, deadline?] using hrest
          | true =>
              by_cases hdelay : w.delay = 0
              · simpa [begun, hr, hdelay, deadline?] using hrest
              · simp [begun, hr, hdelay, deadline?]

/-- Calls that are gathered are answered as in turn, and take one delay or none. -/
theorem gather_ask_run (hs : s.bridge.Poised w) (now : Timestamp) (asks : List Ask) :
    ((gather now (asks.map ask)).run s).answer = .ok (s.bridge.replies asks) ∧
      { s with bridge := s.bridge.left asks }.Passes
        (w.clock + if acknowledges asks (s.bridge.replies asks) then w.delay else 0)
        ((gather now (asks.map ask)).run s).state := by
  obtain ⟨hanswer, hstate⟩ := starts_run hs asks
  have hleft := hs.left asks
  have hclock : Service.clock { s with bridge := s.bridge.left asks } = w.clock := hleft.host.clock
  obtain ⟨hreplies, hpasses⟩ := gather_run now hanswer hstate hleft.host.idle
    (due_zipWith w asks s.bridge) (by omega)
  refine ⟨hreplies, ?_⟩
  convert hpasses using 1
  have hwaits := filterMap_deadline?_eq_nil w asks (s.bridge.replies asks)
  rw [hclock]
  cases hacknowledges : acknowledges asks (s.bridge.replies asks) with
  | false => simp [hwaits.mpr (.inr hacknowledges)]
  | true =>
      by_cases hdelay : w.delay = 0
      · simp [hdelay]
      · rw [if_neg (mt hwaits.mp (by simp [hdelay, hacknowledges]))]
        simp

/-! ## Calls in turn -/

/-- Makes calls one after the other, each when the one before is over. -/
def inTurn (asks : List Ask) : Op Service (List (Except Failure Response)) :=
  asks.mapM fun a => (perform a.now (ask a)).attempt

/-- A call that is performed leaves what the call leaves, some time later. -/
theorem perform_ask_run (hs : s.bridge.Poised w) (a : Ask) :
    ((perform a.now (ask a)).run s).answer = ((a.call.run a.now).run s.bridge).answer ∧
      ∃ clock, { s with bridge := ((a.call.run a.now).run s.bridge).state }.Passes clock
        ((perform a.now (ask a)).run s).state := by
  obtain ⟨hanswer, hstate⟩ := start_run (ask a) s
  obtain ⟨hbegun, hleft⟩ := ask_run hs a
  have hkept := hs.run a.call a.now
  have hclock : Service.clock { s with bridge := ((a.call.run a.now).run s.bridge).state } =
    w.clock := hkept.host.clock
  exact perform_run a.now hanswer (hstate.trans hleft) hkept.host.idle
    (hbegun ▸ due_begun w a _) (by omega)

/-- Calls made in turn are answered, and leave the bridge, as calls made at once, whenever they are
made. -/
theorem inTurn_run {b : Bridge} (hw : w'.place = w.place) (hb : b.Poised w)
    (hs : s.bridge.Poised w') (hsame : b.timeless = s.bridge.timeless)
    (hcalls : asks'.map Ask.call = asks.map Ask.call) :
    ((inTurn asks').run s).answer = .ok (b.replies asks) ∧
      ((inTurn asks').run s).state.bridge.timeless = (b.left asks).timeless := by
  induction asks generalizing asks' b s w' with
  | nil =>
      obtain rfl := List.map_eq_nil_iff.mp hcalls
      exact ⟨rfl, hsame.symm⟩
  | cons a asks ih =>
      obtain ⟨a', asks', rfl, hcall, hrest⟩ := List.map_eq_cons_iff.mp hcalls
      have houtcomes := Bridge.outcomes_run hw a.call a.now a'.now hb hs hsame
      obtain ⟨hstates, -, hleft⟩ := houtcomes.state
      obtain ⟨hanswer, clock, queues, hlater⟩ := perform_ask_run hs a'
      rw [hcall, ← answers_eq.mp houtcomes.answer] at hanswer
      rw [hcall] at hlater
      have hafter : ((perform a'.now (ask a')).run s).state.bridge.Poised
          { w' with clock := clock } := by
        rw [hlater]
        exact hleft.later clock queues
      have hplace : ({ w' with clock := clock } : Station).place = w.place := hw
      have hagain : ((a.call.run a.now).run b).state.timeless =
          ((perform a'.now (ask a')).run s).state.bridge.timeless := by
        rw [hlater, Bridge.timeless_later]
        exact hstates
      obtain ⟨hreplies, hend⟩ := ih hplace (hb.run a.call a.now) hafter hagain hrest
      have hattempt : ((perform a'.now (ask a')).attempt.run s).answer =
          .ok ((a.call.run a.now).run b).answer := congrArg Except.ok hanswer
      have hstate : ((perform a'.now (ask a')).attempt.run s).state =
          ((perform a'.now (ask a')).run s).state := rfl
      rw [inTurn, List.mapM_cons, Op.answer_bind_ok hattempt, Op.state_bind_ok hattempt, hstate]
      rw [inTurn] at hreplies hend
      rw [Op.answer_bind_ok hreplies, Op.state_bind_ok hreplies]
      exact ⟨rfl, hend⟩

/-! ## Calls made together -/

/-- A service whose attached instance is the recording one at a place, and open, with a memory-only
channel and no collector that has anything to do. -/
def Poised (i : Nat) (s : Service) : Prop :=
  s.bridge.Poised ⟨i, s.results.capacity, s.bridge.ackDelay, s.clock⟩

/-- Calls that are made together do not wait for each other and do not disturb each other.

* Once all of them are started, and the clock has not moved yet, the instance was given their
  commands in order, and no more are to come.  This takes a record map that can keep some number of
  records: with a negative capacity no command can be tracked, so none is delivered and every call
  fails with the failure of the map.
* They are answered as in turn, and leave the bridge as in turn but for times: the same records in
  the same order, the same counters, the same tickets and the same commands.
* The time that passes is one acknowledgement delay if a tool call is acknowledged, and none if
  there is none. -/
theorem concurrent_calls {i : Nat} (hs : s.Poised i)
    (hnamed : ∀ a ∈ asks, a.call.nameless? = none)
    (hcalls : asks'.map Ask.call = asks.map Ask.call) (now : Timestamp) :
    let started := (((asks.map ask).mapM start).run s).state
    let together := (gather now (asks.map ask)).run s
    started.clock = s.clock ∧
      (0 ≤ s.results.capacity → started.bridge.host.received i =
        s.bridge.host.received i ++ Bridge.commandsOf s.bridge.ticketsDrawn asks) ∧
      (s.results.capacity < 0 →
        started.bridge.host.received i = s.bridge.host.received i ∧
        together.answer = .ok (asks.map fun _ => .error .nothingToEvict)) ∧
      together.state.bridge.host.received i = started.bridge.host.received i ∧
      ∃ rs, together.answer = .ok rs ∧ ((inTurn asks').run s).answer = .ok rs ∧
        together.state.bridge.timeless = ((inTurn asks').run s).state.bridge.timeless ∧
        together.state.clock = s.clock + if acknowledges asks rs then s.bridge.ackDelay else 0 := by
  intro started together
  obtain ⟨-, hstarted⟩ := starts_run hs asks
  obtain ⟨hreplies, hpasses⟩ := gather_ask_run hs now asks
  obtain ⟨hinTurn, hend⟩ := inTurn_run rfl hs hs rfl hcalls
  obtain ⟨queues, hlater⟩ := id hpasses
  have hbridge : started.bridge = s.bridge.left asks := congrArg Service.bridge hstarted
  refine ⟨?_, fun hcap => ?_, fun hcap => ?_, ?_, _, hreplies, hinTurn, ?_, hpasses.clock⟩
  · rw [Service.clock, hbridge]
    exact (hs.left asks).host.clock
  · rw [hbridge]
    exact Bridge.received_left hs hcap hnamed
  · obtain ⟨hfail, hreceived⟩ := Bridge.left_of_no_room hs hcap hnamed
    exact ⟨by rw [hbridge]; exact hreceived, hreplies.trans (by rw [hfail])⟩
  · rw [hbridge, hlater, Bridge.received_later]
  · rw [hend, hlater, Bridge.timeless_later]

/-- A service with an acknowledgement delay of five, whose instance is open and follows a script. -/
def openedWith (capacity : Int) (deliveries : List ScriptedDelivery) : Service where
  bridge := {
    attached := some 0
    opened := some 0
    ackDelay := 5
    host := {
      instances := [{ adapter := .recording { deliveries := deliveries }, holdsChannel := true }]
      results := { capacity := capacity, ttl := 60 } } }

theorem poised_openedWith (capacity : Int) (deliveries : List ScriptedDelivery) :
    (openedWith capacity deliveries).Poised 0 where
  attached := rfl
  opened := rfl
  delay := rfl
  host := ⟨by simp [openedWith], ⟨_, rfl⟩, rfl, rfl, by simp [openedWith], rfl⟩

/-- Two tool calls and a prompt. -/
def mixed : List Ask :=
  [⟨⟨0⟩, .callTool "echo" .null⟩, ⟨⟨0⟩, .callTool "echo" (.int 1)⟩, ⟨⟨0⟩, .getPrompt "greet"⟩]

/-- If the first of two tool calls is refused, the other one's acknowledgement is waited for. -/
theorem concurrent_calls_mixed :
    let s := openedWith 2 [⟨[], .ok (.rejected [])⟩]
    let together := (gather ⟨0⟩ (mixed.map ask)).run s
    together.state.bridge.host.received 0 = Bridge.commandsOf 0 mixed ∧
      together.state.clock = 5 ∧
      ∃ rs, together.answer = .ok rs ∧ ((inTurn mixed).run s).answer = .ok rs := by
  have hs := poised_openedWith 2 [⟨[], .ok (.rejected [])⟩]
  have hnamed : ∀ a ∈ mixed, a.call.nameless? = none := by decide
  have hcalls : mixed.map Ask.call = mixed.map Ask.call := rfl
  obtain ⟨-, hreceived, -, hkept, rs, hrs, hinTurn, -, hclock⟩ :=
    concurrent_calls hs hnamed hcalls ⟨0⟩
  have hacknowledged : ((gather ⟨0⟩ (mixed.map ask)).run
      (openedWith 2 [⟨[], .ok (.rejected [])⟩])).answer.toOption.map (acknowledges mixed) =
        some true := by
    decide +kernel
  rw [hrs] at hacknowledged
  rw [if_pos (Option.some.inj hacknowledged)] at hclock
  refine ⟨?_, hclock, rs, hrs, hinTurn⟩
  rw [hkept, hreceived (by decide)]
  rfl

/-- With a negative capacity a call is not delivered. -/
theorem concurrent_calls_without_room :
    let s := openedWith (-1) []
    let asks : List Ask := [⟨⟨0⟩, .getPrompt "greet"⟩]
    s.Poised 0 ∧ (∀ a ∈ asks, a.call.nameless? = none) ∧
      ((gather ⟨0⟩ (asks.map ask)).run s).state.bridge.host.received 0 ≠
        s.bridge.host.received 0 ++ Bridge.commandsOf s.bridge.ticketsDrawn asks := by
  refine ⟨poised_openedWith _ _, by decide, ?_⟩
  decide +kernel

end Service

end CommandBridge
