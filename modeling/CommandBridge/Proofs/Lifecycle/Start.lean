import CommandBridge.Lifecycle.Basic
import CommandBridge.Proofs.Progress
import CommandBridge.Proofs.Keeps

/-!
# CommandBridge.Proofs.Lifecycle.Start

What a start and a stop come to.  A start takes a socket, a web server and a thread, one after the
other, and then waits; `Start` has a case for each place where that ends.  The wait is bounded by
the number of looks that it may take, and these are enough: whether it finds the web server started
depends only on the web server (`awaitStart_run`).
-/

namespace CommandBridge

/-- Whether a run of the web server goes on until the server is stopped. -/
def ServerRun.goesOn (r : ServerRun) : Bool := r ≠ .exits && r ≠ .crashes

/-- The web server of a run has started within some nanoseconds, if it is looked for again and
again: every look that comes too early for it comes in time. -/
def ServerRun.StartsWithin (r : ServerRun) (timeout : Nat) : Prop :=
  ∃ milliseconds, r = .startsAfter milliseconds ∧
    ∀ looks, Lifecycle.pollInterval * looks < milliseconds →
      Lifecycle.pollInterval * looks * 1000000 < timeout

namespace Machine

/-- The machine after a socket was closed. -/
def closing (m : Machine) (place : Nat) : Machine :=
  match m.listeners[place]? with
  | none => m
  | some socket =>
    { m with
      calls := m.calls ++ [.closeListener socket.port]
      listeners := m.listeners.modify place fun s => { s with isOpen := false } }

theorem closeListener_run (m : Machine) (place : Nat) :
    (closeListener place).run m = ⟨.ok (), m.closing place, []⟩ := by
  rw [closeListener, Op.run_bind, Op.run_get]
  cases hplace : m.listeners[place]? with
  | none => simp [hplace, closing]
  | some socket => simp [hplace, closing, note]

/-- What a socket answers that is asked for its port: one that is closed does not know it. -/
def toldPort (m : Machine) (place : Nat) : Except Failure Int :=
  match m.listeners[place]? with
  | some ⟨port, true⟩ => .ok port
  | _ => .error (.fault closedFault)

theorem portOf_run (m : Machine) (place : Nat) :
    (portOf place).run m = ⟨m.toldPort place, m, []⟩ := by
  rw [portOf, Op.run_get_bind, toldPort]
  rcases m.listeners[place]? with _ | ⟨port, _ | _⟩ <;> rfl

end Machine

namespace Lifecycle

variable {l : Lifecycle} {timeout : Nat} {port : Int} {place : Nat}

/-- What the next binding comes to. -/
def nextBinding (l : Lifecycle) : Binding := l.machine.bindings.head?.getD (.binds none)

/-- What the next run of the web server comes to. -/
def nextRun (l : Lifecycle) : ServerRun := l.machine.runs.head?.getD (.startsAfter 0)

/-- The name of the level as the web server is told it. -/
def webLevel (l : Lifecycle) : String := l.level.text.toLower

/-- The server after it asked for a socket in vain. -/
def unbound (l : Lifecycle) : Lifecycle :=
  { l with
    machine := { l.machine with
      bindings := l.machine.bindings.tail
      calls := l.machine.calls ++ [.bind l.host l.port (.ofHost l.host) Machine.backlog] } }

/-- The server after it got a socket that is bound to a port. -/
def bound (port : Int) (l : Lifecycle) : Lifecycle :=
  { l.unbound with
    listener := some l.machine.listeners.length
    machine := { l.unbound.machine with listeners := l.machine.listeners ++ [⟨port, true⟩] } }

theorem bindListener_of_fails {f : Fault} (h : l.nextBinding = .fails f) :
    bindListener.run l = ⟨.error (bindFailure l.host l.port f), l.unbound, []⟩ := by
  have hbind : (Machine.bind l.host l.port).run l.machine =
      ⟨.error (.fault f), l.unbound.machine, []⟩ := by
    rw [nextBinding] at h
    simp only [Machine.bind, Machine.note, Op.run_bind, Op.run_modify, Op.run_get, Op.run_put, h]
    rfl
  simp only [bindListener, Op.run_bind, Op.run_get, Op.run_attempt, onMachine, Op.run_on, hbind]
  rfl

theorem bindListener_of_binds {other : Option Int} (h : l.nextBinding = .binds other) :
    bindListener.run l = ⟨.ok (), l.bound (other.getD l.port), []⟩ := by
  have hbind : (Machine.bind l.host l.port).run l.machine =
      ⟨.ok l.machine.listeners.length, (l.bound (other.getD l.port)).machine, []⟩ := by
    rw [nextBinding] at h
    simp only [Machine.bind, Machine.note, Op.run_bind, Op.run_modify, Op.run_get, Op.run_put, h]
    rfl
  simp only [bindListener, Op.run_bind, Op.run_get, Op.run_attempt, onMachine, Op.run_on, hbind]
  rfl

/-- What a server answers that is asked for its port. -/
def toldPort (l : Lifecycle) : Except Failure (Option Int) :=
  match l.listener with
  | none => .ok none
  | some place => (l.machine.toldPort place).map some

theorem boundPort_run (l : Lifecycle) : boundPort.run l = ⟨l.toldPort, l, []⟩ := by
  rw [boundPort, Op.run_get_bind, toldPort]
  cases l.listener with
  | none => rfl
  | some place =>
      simp only [Op.run_map, onMachine, Op.run_on, Machine.portOf_run]

/-- The server after it gave its web server a thread. -/
def launched (port : Int) (l : Lifecycle) : Lifecycle :=
  { l with
    thread := some ⟨l.nextRun, l.machine.clock, l.nextRun.goesOn⟩
    shouldExit := false
    machine := { l.machine with
      runs := l.machine.runs.tail
      calls := l.machine.calls ++ [.makeServer l.host port l.webLevel,
        .makeThread "graph-bridge-http", .runServer port] } }

theorem runServer_of_refused {f : Fault} (h : l.machine.refusal l.webLevel = some f) (port : Int) :
    (runServer port).run l = ⟨.error (.fault f), l, []⟩ := by
  rw [webLevel] at h
  simp only [runServer, Op.run_bind, Op.run_get, h]
  rfl

theorem runServer_of_taken (h : l.machine.refusal l.webLevel = none) (port : Int) :
    ((runServer port).run l).answer = .ok () ∧
      ((runServer port).run l).state = l.launched port := by
  have hnext : ∀ m : Machine, Machine.nextRun.run m =
      ⟨.ok (m.runs.head?.getD (.startsAfter 0)), { m with runs := m.runs.tail }, []⟩ := fun _ => rfl
  rw [webLevel] at h
  simp only [runServer, Op.run_bind, Op.run_get, h, onMachine, Op.run_on, Machine.note,
    Op.run_modify, hnext, List.append_assoc, List.cons_append, List.nil_append]
  by_cases hcrash : l.machine.runs.head?.getD (.startsAfter 0) = .crashes
  · simp only [if_pos hcrash]
    exact ⟨rfl, rfl⟩
  · simp only [if_neg hcrash]
    exact ⟨rfl, rfl⟩

/-! ## Waiting for the start -/

/-- The server some milliseconds later. -/
def later (milliseconds : Nat) (l : Lifecycle) : Lifecycle :=
  { l with machine := { l.machine with clock := l.machine.clock + milliseconds } }

theorem sleep_run (milliseconds : Nat) :
    (onMachine (Machine.sleep milliseconds)).run l = ⟨.ok (), l.later milliseconds, []⟩ := rfl

theorem later_later (m n : Nat) : (l.later m).later n = l.later (m + n) := by
  simp only [later, Nat.add_assoc]

/-- The web server of a thread starts before `deadline`, in nanoseconds, if it is looked for from
`clock` on: every look that comes too early for it comes before the deadline. -/
def StartsBy (t : ServerThread) (clock deadline : Nat) : Prop :=
  ∃ milliseconds, t.run = .startsAfter milliseconds ∧
    ∀ looks, clock + pollInterval * looks < t.begun + milliseconds →
      (clock + pollInterval * looks) * 1000000 < deadline

variable {t : ServerThread} {clock deadline : Nat}

theorem startsBy_of_hasStarted (h : t.hasStarted clock = true) : StartsBy t clock deadline := by
  rw [ServerThread.hasStarted] at h
  split at h
  · next milliseconds hrun =>
    have hstarted : t.begun + milliseconds ≤ clock := of_decide_eq_true h
    exact ⟨milliseconds, hrun, fun looks hearly => by omega⟩
  · exact absurd h (by simp)

/-- A look that finds the web server on its way leaves it to the later ones. -/
theorem startsBy_iff_of_not_hasStarted (h : t.hasStarted clock = false) :
    StartsBy t clock deadline ↔
      clock * 1000000 < deadline ∧ StartsBy t (clock + pollInterval) deadline := by
  have hnext : ∀ looks, clock + pollInterval * (looks + 1) =
      clock + pollInterval + pollInterval * looks := by
    intro looks
    rw [Nat.mul_add, Nat.mul_one]
    omega
  constructor
  · rintro ⟨milliseconds, hrun, hlooks⟩
    have hearly : clock < t.begun + milliseconds := by
      rw [ServerThread.hasStarted, hrun] at h
      simpa using h
    refine ⟨hlooks 0 hearly, milliseconds, hrun, fun looks hlook => ?_⟩
    rw [← hnext] at hlook ⊢
    exact hlooks (looks + 1) hlook
  · rintro ⟨hnow, milliseconds, hrun, hlooks⟩
    refine ⟨milliseconds, hrun, fun looks hlook => ?_⟩
    cases looks with
    | zero => exact hnow
    | succ looks =>
        rw [hnext] at hlook ⊢
        exact hlooks looks hlook

theorem goesOn_of_startsBy (h : StartsBy t clock deadline) : t.run.goesOn = true := by
  obtain ⟨milliseconds, hrun, -⟩ := h
  rw [hrun]
  rfl

/-- A look at a web server that has not started waits for the next one, unless it is too late. -/
theorem awaitStart_succ (ht : l.thread = some t) (looks : Nat) :
    (awaitStart deadline (looks + 1)).run l =
      if t.hasStarted l.machine.clock then ⟨.ok true, l, []⟩
      else if deadline ≤ l.machine.clock * 1000000 || !t.isAlive then ⟨.ok false, l, []⟩
      else (awaitStart deadline looks).run (l.later pollInterval) := by
  rw [awaitStart, Op.run_bind, Op.run_get]
  simp only [ht]
  split
  · rfl
  · split
    · rfl
    · rw [Op.run_bind, sleep_run]
      rfl

/-- The wait comes to an end, and says whether the web server started in time. -/
theorem awaitStart_run {looks : Nat} (ht : l.thread = some t) (halive : t.isAlive = t.run.goesOn)
    (hlooks : deadline ≤ (l.machine.clock + pollInterval * looks) * 1000000) :
    ∃ started waited, (awaitStart deadline (looks + 1)).run l = ⟨.ok started, l.later waited, []⟩ ∧
      (started = true ↔ StartsBy t l.machine.clock deadline) := by
  induction looks generalizing l with
  | zero =>
      rw [awaitStart_succ ht]
      cases hstarted : t.hasStarted l.machine.clock with
      | true => exact ⟨true, 0, rfl, by simp [startsBy_of_hasStarted hstarted]⟩
      | false =>
          refine ⟨false, 0, ?_, ?_⟩
          · have hlate : deadline ≤ l.machine.clock * 1000000 := hlooks
            rw [if_neg (by simp), if_pos (by simp [hlate])]
            rfl
          · have hlate : ¬ l.machine.clock * 1000000 < deadline := Nat.not_lt.mpr hlooks
            simp [startsBy_iff_of_not_hasStarted hstarted, hlate]
  | succ looks ih =>
      rw [awaitStart_succ ht]
      cases hstarted : t.hasStarted l.machine.clock with
      | true => exact ⟨true, 0, rfl, by simp [startsBy_of_hasStarted hstarted]⟩
      | false =>
          rw [if_neg (by simp)]
          split
          · next hover =>
            refine ⟨false, 0, rfl, ?_⟩
            rw [Bool.or_eq_true, decide_eq_true_iff, Bool.not_eq_true', halive] at hover
            rcases hover with hlate | hdead
            · simp [startsBy_iff_of_not_hasStarted hstarted, Nat.not_lt.mpr hlate]
            · refine iff_of_false (by simp) fun hstarts => ?_
              rw [goesOn_of_startsBy hstarts] at hdead
              exact absurd hdead (by simp)
          · next hover =>
            rw [Bool.or_eq_true, decide_eq_true_iff, not_or, Nat.not_le] at hover
            obtain ⟨started, waited, hrun, hiff⟩ := ih (l := l.later pollInterval) ht (by
              rw [Nat.mul_add, Nat.mul_one, Nat.add_comm (pollInterval * looks), ← Nat.add_assoc]
                at hlooks
              exact hlooks)
            refine ⟨started, pollInterval + waited, by rw [hrun, later_later], ?_⟩
            rw [hiff, startsBy_iff_of_not_hasStarted hstarted]
            exact (and_iff_right hover.1).symm

/-! ## Stopping -/

/-- The server after its thread was asked to come to an end. -/
def leaving (timeout : Option Json) (l : Lifecycle) : Lifecycle :=
  if l.thread.isSome then
    { l with
      shouldExit := true
      machine := { l.machine with calls := l.machine.calls ++ [.join timeout] } }
  else l

/-- The server after its thread came to an end and its socket was closed. -/
def closed (l : Lifecycle) : Lifecycle :=
  { l with
    thread := l.thread.map fun t => { t with isAlive := false }
    machine := (l.listener.map l.machine.closing).getD l.machine }

theorem closeListener_run (l : Lifecycle) :
    closeListener.run l = ⟨.ok (), { l with machine := l.closed.machine }, []⟩ := by
  rw [closeListener, Op.run_bind, Op.run_get]
  obtain ⟨host, port, level, listener, thread, shouldExit, machine⟩ := l
  cases listener with
  | none => rfl
  | some place => simp [onMachine, closed, Machine.closeListener_run]

/-- The wait for the thread ends, unless it is interrupted. -/
theorem joinThread_run (timeout : Option Json) (l : Lifecycle) :
    (joinThread timeout).run { l with shouldExit := true } =
      if timeout.isNone && l.machine.isInterrupted then
        ⟨.ok .interrupted, { l with
          shouldExit := true
          machine := { l.machine with calls := l.machine.calls ++ [.join timeout] } }, []⟩
      else
        ⟨.ok .ended, { l with
          thread := l.thread.map fun t => { t with isAlive := false }
          shouldExit := true
          machine := { l.machine with calls := l.machine.calls ++ [.join timeout] } }, []⟩ := by
  have hjoin : ∀ m : Machine, (Machine.join timeout).run m =
      ⟨.ok (if timeout.isNone && m.isInterrupted then .interrupted else .ended),
        { m with calls := m.calls ++ [.join timeout] }, []⟩ := fun _ => rfl
  rw [joinThread, Op.run_bind, onMachine, Op.run_on, hjoin]
  dsimp only
  cases timeout.isNone && l.machine.isInterrupted <;> rfl

/-- A stop comes to an end, unless someone interrupts its wait, which has to have no end. -/
theorem stop_state (timeout : Option Json) (l : Lifecycle) :
    ((stop timeout).run l).state =
      if l.thread.isSome && (timeout.isNone && l.machine.isInterrupted) then l.leaving timeout
      else (l.leaving timeout).closed := by
  rw [stop, Op.run_get_bind]
  cases hthread : l.thread.isSome with
  | false =>
      have hnone : l.thread = none := by simpa using hthread
      simp [leaving, closed, hnone, Op.run_bind, closeListener_run, Op.event]
  | true =>
      have hleaving : l.leaving timeout = { l with
          shouldExit := true
          machine := { l.machine with calls := l.machine.calls ++ [.join timeout] } } := by
        rw [leaving, if_pos hthread]
      simp only [if_true, Bool.true_and, Op.run_bind, Op.run_put, joinThread_run, hleaving]
      cases timeout.isNone && l.machine.isInterrupted with
      | true => simp
      | false => simp [closed, Op.run_bind, closeListener_run, Op.event]

/-- A stop whose wait has an end comes to an end. -/
theorem stop_answer (timeout : Json) (l : Lifecycle) :
    ((stop (some timeout)).run l).answer = .ok .ended := by
  rw [stop, Op.run_get_bind]
  cases hthread : l.thread.isSome with
  | false =>
      simp [Op.run_bind, closeListener_run, Op.event]
      rfl
  | true =>
      simp [joinThread_run, Op.run_bind, closeListener_run, Op.event]
      rfl

/-! ## Starting -/

theorem total_announce (port : Int) : (announce port).Total :=
  .bind .get fun _ => .bind (.event _ _ _ _) fun _ => .bind (.log _) fun _ =>
    .bind (.log _) fun _ => .forM (fun _ => .log _) _

/-- Saying where the server listens leaves it as it is. -/
theorem keeps_announce (P : Lifecycle → Prop) (port : Int) : (announce port).Keeps P :=
  .bind .get fun _ => .bind (.event _ _ _ _) fun _ => .bind (.log _) fun _ =>
    .bind (.log _) fun _ => .forM fun _ _ => .log _

theorem announce_run (port : Int) (l : Lifecycle) :
    ((announce port).run l).answer = .ok () ∧ ((announce port).run l).state = l := by
  obtain ⟨_, hanswer⟩ := total_announce port l
  exact ⟨hanswer, keeps_announce (· = l) port l rfl⟩

/-- What a start of a server that has a thread fails with.  It is a fault if its port cannot be
told. -/
def startedFailure (l : Lifecycle) : Failure :=
  match l.toldPort with
  | .ok port => startupFailure "Bridge server already started"
      [("host", .string l.host), ("port", .ofOption (port.map .int))]
  | .error e => e

/-- The failure of a start whose web server did not start in time. -/
def lateFailure (l : Lifecycle) (port : Int) : Failure :=
  startupFailure "Bridge server did not finish starting"
    [("host", .string l.host), ("port", .int port)]

/-- What a start comes to: what it answers with, and the server that it leaves. -/
inductive Start (timeout : Nat) (l : Lifecycle) : Except Failure Unit → Lifecycle → Prop where
  /-- The server has a thread. -/
  | again (hthread : l.thread.isSome) : Start timeout l (.error l.startedFailure) l
  /-- There is no socket to be had. -/
  | bindFails {f : Fault} (hthread : l.thread = none) (hbinding : l.nextBinding = .fails f) :
      Start timeout l (.error (bindFailure l.host l.port f)) l.unbound
  /-- The web server refuses the level. -/
  | refused {port : Option Int} {f : Fault} (hthread : l.thread = none)
      (hbinding : l.nextBinding = .binds port) (hrefusal : l.machine.refusal l.webLevel = some f) :
      Start timeout l (.error (.fault f)) (l.bound (port.getD l.port))
  /-- The web server starts in time. -/
  | started {port : Option Int} {waited : Nat} (hthread : l.thread = none)
      (hbinding : l.nextBinding = .binds port) (hrefusal : l.machine.refusal l.webLevel = none)
      (hstarts : l.nextRun.StartsWithin timeout) :
      Start timeout l (.ok ())
        (((l.bound (port.getD l.port)).launched (port.getD l.port)).later waited)
  /-- The web server does not start in time, so it is stopped again. -/
  | late {port : Option Int} {waited : Nat} (hthread : l.thread = none)
      (hbinding : l.nextBinding = .binds port) (hrefusal : l.machine.refusal l.webLevel = none)
      (hlate : ¬ l.nextRun.StartsWithin timeout) :
      Start timeout l (.error (l.lateFailure (port.getD l.port)))
        ((((l.bound (port.getD l.port)).launched (port.getD l.port)).later waited).leaving
          (some stopTimeout)).closed

/-- A web server that a thread has just begun to run. -/
theorem startsBy_iff_startsWithin (hbegun : t.begun = clock) :
    StartsBy t clock (clock * 1000000 + timeout) ↔ t.run.StartsWithin timeout := by
  unfold StartsBy ServerRun.StartsWithin
  simp only [hbegun, Nat.add_lt_add_iff_left, Nat.add_mul]

/-- What a start does after it gave its web server a thread. -/
def finish (host : String) (port : Int) (timeout : Nat) : Op Lifecycle Unit := do
  let deadline := (← Op.get).machine.clock * 1000000 + timeout
  if ← awaitStart deadline (timeout / (pollInterval * 1000000) + 2) then announce port
  else
    discard (stop (some stopTimeout))
    Op.fail (startupFailure "Bridge server did not finish starting"
      [("host", .string host), ("port", .int port)])

/-- The wait of a start takes as long as the start may take. -/
theorem le_looks (clock timeout : Nat) :
    clock * 1000000 + timeout ≤
      (clock + pollInterval * (timeout / (pollInterval * 1000000) + 1)) * 1000000 := by
  have htimeout : timeout ≤ pollInterval * 1000000 * (timeout / (pollInterval * 1000000) + 1) :=
    Nat.le_of_lt (Nat.lt_mul_div_succ timeout (by decide))
  rw [Nat.add_mul, Nat.mul_right_comm]
  exact Nat.add_le_add_left htimeout _

theorem finish_run (host : String) (port : Int) (timeout : Nat) (ht : l.thread = some t)
    (hbegun : t.begun = l.machine.clock) (halive : t.isAlive = t.run.goesOn) :
    ∃ waited,
      (t.run.StartsWithin timeout ∧ ((finish host port timeout).run l).answer = .ok () ∧
        ((finish host port timeout).run l).state = l.later waited) ∨
      (¬ t.run.StartsWithin timeout ∧
        ((finish host port timeout).run l).answer =
          .error (startupFailure "Bridge server did not finish starting"
            [("host", .string host), ("port", .int port)]) ∧
        ((finish host port timeout).run l).state =
          ((l.later waited).leaving (some stopTimeout)).closed) := by
  obtain ⟨started, waited, hrun, hstarted⟩ :=
    awaitStart_run ht halive (le_looks l.machine.clock timeout)
  rw [startsBy_iff_startsWithin hbegun] at hstarted
  refine ⟨waited, ?_⟩
  rw [finish, Op.run_get_bind, Op.run_bind_of_silent hrun]
  cases started with
  | true => exact .inl ⟨hstarted.mp rfl, announce_run port (l.later waited)⟩
  | false =>
      refine .inr ⟨fun h => absurd (hstarted.mpr h) (by simp), ?_⟩
      have hstop : ((discard (stop (some stopTimeout))).run (l.later waited)).answer = .ok () := by
        rw [Op.run_discard, stop_answer]
        rfl
      have hstate : ((discard (stop (some stopTimeout))).run (l.later waited)).state =
          ((l.later waited).leaving (some stopTimeout)).closed := by
        rw [Op.run_discard, stop_state]
        simp
      rw [if_neg (by simp), Op.answer_bind_ok hstop, Op.state_bind_ok hstop, hstate]
      exact ⟨rfl, rfl⟩

/-- A start of a server with a thread does nothing. -/
theorem start_run_of_thread (hthread : l.thread.isSome = true) :
    (start timeout).run l = ⟨.error l.startedFailure, l, []⟩ := by
  have hport := boundPort_run l
  rw [start, Op.run_get_bind, if_pos hthread, startedFailure]
  cases htold : l.toldPort with
  | ok port =>
      rw [htold] at hport
      rw [Op.run_bind_of_silent hport]
      rfl
  | error e =>
      rw [htold] at hport
      rw [Op.run_bind_of_error hport]

/-- A start of a server without a thread. -/
theorem start_run (hthread : l.thread = none) :
    (start timeout).run l =
      (do
        bindListener
        match ← boundPort with
        | none => Op.fail (.fault Machine.closedFault)
        | some port =>
          runServer port
          finish l.host port timeout : Op Lifecycle Unit).run l := by
  rw [start, Op.run_get_bind, if_neg (by simp [hthread])]
  rfl

theorem start_run_of_binds {other : Option Int} (hthread : l.thread = none)
    (hbinding : l.nextBinding = .binds other) :
    (start timeout).run l =
      (do
        runServer (other.getD l.port)
        finish l.host (other.getD l.port) timeout : Op Lifecycle Unit).run
          (l.bound (other.getD l.port)) := by
  have hport : (l.bound (other.getD l.port)).toldPort = .ok (some (other.getD l.port)) := by
    simp only [toldPort, bound, Machine.toldPort, List.getElem?_concat_length]
    rfl
  have hrun := boundPort_run (l.bound (other.getD l.port))
  rw [hport] at hrun
  rw [start_run hthread, Op.run_bind_of_silent (bindListener_of_binds hbinding),
    Op.run_bind_of_silent hrun]

theorem start_spec (timeout : Nat) (l : Lifecycle) :
    Start timeout l ((start timeout).run l).answer ((start timeout).run l).state := by
  cases hthread : l.thread with
  | some t =>
      have hsome : l.thread.isSome = true := by rw [hthread]; rfl
      rw [start_run_of_thread hsome]
      exact .again hsome
  | none =>
      cases hbinding : l.nextBinding with
      | fails f =>
          rw [start_run hthread, Op.run_bind_of_error (bindListener_of_fails hbinding)]
          exact .bindFails hthread hbinding
      | binds other =>
          rw [start_run_of_binds hthread hbinding]
          cases hrefusal : l.machine.refusal l.webLevel with
          | some f =>
              have hrefused : (l.bound (other.getD l.port)).machine.refusal
                  (l.bound (other.getD l.port)).webLevel = some f := hrefusal
              rw [Op.run_bind_of_error (runServer_of_refused hrefused _)]
              exact .refused hthread hbinding hrefusal
          | none =>
              obtain ⟨hanswer, hstate⟩ :=
                runServer_of_taken (l := l.bound (other.getD l.port)) hrefusal (other.getD l.port)
              rw [Op.answer_bind_ok hanswer, Op.state_bind_ok hanswer, hstate]
              obtain ⟨waited, ⟨hstarts, hanswer, hstate⟩ | ⟨hlate, hanswer, hstate⟩⟩ :=
                finish_run l.host (other.getD l.port) timeout
                  (l := (l.bound (other.getD l.port)).launched (other.getD l.port)) rfl rfl rfl
              · rw [hanswer, hstate]
                exact .started hthread hbinding hrefusal hstarts
              · rw [hanswer, hstate]
                exact .late hthread hbinding hrefusal hlate

end Lifecycle

end CommandBridge
