import CommandBridge.Proofs.Lifecycle.Start
import Mathlib.Data.List.Basic

/-!
# CommandBridge.Proofs.Lifecycle.Requests

Servers that are started and stopped, again and again, whatever becomes of their sockets and of
their web server.  A server that was made starts at most once (`Lifecycle.starts_once`).  The
invariant is `Lifecycle.Sound`: a server made a thread if it has one, and has a socket then.

Two things go wrong.  The socket of a server that was stopped is closed, so that a further start
fails when it asks for the port, before it can say that the server was started.  And a web server
that refuses the level leaves the socket listening.
-/

namespace CommandBridge

/-! ## Sockets -/

/-- A socket of a machine listens. -/
def Machine.IsOpen (m : Machine) (place : Nat) : Prop :=
  ∃ port, m.listeners[place]? = some ⟨port, true⟩

/-- Closing a socket leaves the other ones as they are. -/
theorem Machine.isOpen_closing (m : Machine) (place other : Nat) :
    (m.closing place).IsOpen other ↔ m.IsOpen other ∧ other ≠ place := by
  unfold closing IsOpen
  cases hplace : m.listeners[place]? with
  | none =>
      refine ⟨fun h => ⟨h, ?_⟩, fun h => h.1⟩
      rintro rfl
      obtain ⟨port, hport⟩ := h
      rw [hplace] at hport
      exact absurd hport (by simp)
  | some socket =>
      simp only [List.getElem?_modify]
      by_cases hother : place = other
      · subst hother
        simp [hplace]
      · simp [hother, Ne.symm hother]

/-- A socket that was closed does not know its port. -/
theorem Machine.toldPort_closing (m : Machine) (place : Nat) :
    (m.closing place).toldPort place = .error (.fault closedFault) := by
  unfold closing toldPort
  cases hplace : m.listeners[place]? with
  | none => simp [hplace]
  | some socket => simp [hplace]

theorem Machine.IsOpen.ne_length {m : Machine} {place : Nat} (h : m.IsOpen place) :
    place ≠ m.listeners.length := by
  rintro rfl
  obtain ⟨port, hport⟩ := h
  exact absurd hport (by simp)

/-- The sockets of a server that got one more. -/
theorem Lifecycle.isOpen_bound {l : Lifecycle} (port : Int) (place : Nat) :
    (l.bound port).machine.IsOpen place ↔
      l.machine.IsOpen place ∨ place = l.machine.listeners.length := by
  unfold Machine.IsOpen Lifecycle.bound
  simp only [List.getElem?_append]
  split
  · next hlt => simp [Nat.ne_of_lt hlt]
  · next hle =>
    have hnone : l.machine.listeners[place]? = none := by simpa using Nat.not_lt.mp hle
    simp [hnone, List.getElem?_singleton]
    omega

theorem Machine.length_listeners_closing (m : Machine) (place : Nat) :
    (m.closing place).listeners.length = m.listeners.length := by
  unfold closing
  split <;> simp

/-- A call that only brings something to its end. -/
def MachineCall.isEnding : MachineCall → Bool
  | .closeListener _ | .join _ => true
  | _ => false

def MachineCall.isThread : MachineCall → Bool
  | .makeThread _ => true
  | _ => false

/-- Of a machine it was asked more, but only to bring things to their end. -/
def Machine.OnlyEnds (m m' : Machine) : Prop :=
  ∃ more, m'.calls = m.calls ++ more ∧ ∀ c ∈ more, c.isEnding

namespace Machine.OnlyEnds

theorem refl (m : Machine) : m.OnlyEnds m := ⟨[], by simp⟩

theorem trans {m₁ m₂ m₃ : Machine} (h : m₁.OnlyEnds m₂) (h' : m₂.OnlyEnds m₃) : m₁.OnlyEnds m₃ := by
  obtain ⟨more, hmore, hends⟩ := h
  obtain ⟨more', hmore', hends'⟩ := h'
  refine ⟨more ++ more', by rw [hmore', hmore, List.append_assoc], fun c hc => ?_⟩
  rcases List.mem_append.mp hc with hc | hc
  · exact hends c hc
  · exact hends' c hc

theorem closing (m : Machine) (place : Nat) : m.OnlyEnds (m.closing place) := by
  unfold Machine.closing
  split
  · exact refl m
  · exact ⟨_, rfl, by simp [MachineCall.isEnding]⟩

/-- No thread is made by the way. -/
theorem countP_isThread {m m' : Machine} (h : m.OnlyEnds m') :
    m'.calls.countP MachineCall.isThread = m.calls.countP MachineCall.isThread := by
  obtain ⟨more, hmore, hends⟩ := h
  have hnone : more.countP MachineCall.isThread = 0 := by
    refine List.countP_eq_zero.mpr fun c hc => ?_
    have := hends c hc
    cases c <;> simp_all [MachineCall.isEnding, MachineCall.isThread]
  rw [hmore, List.countP_append, hnone, Nat.add_zero]

end Machine.OnlyEnds

namespace Lifecycle

variable {l : Lifecycle}

/-- The socket of a server. -/
def socket (l : Lifecycle) : Option Listener :=
  l.listener.bind fun place => l.machine.listeners[place]?

@[simp] theorem isSome_thread_leaving (timeout : Option Json) (l : Lifecycle) :
    (l.leaving timeout).thread.isSome = l.thread.isSome := by
  unfold leaving
  split <;> rfl

theorem onlyEnds_leaving (timeout : Option Json) (l : Lifecycle) :
    l.machine.OnlyEnds (l.leaving timeout).machine := by
  unfold leaving
  split
  · exact ⟨_, rfl, by simp [MachineCall.isEnding]⟩
  · exact .refl _

theorem onlyEnds_closed (l : Lifecycle) : l.machine.OnlyEnds l.closed.machine := by
  unfold closed
  cases l.listener with
  | none => exact .refl _
  | some place => exact .closing _ place

/-! ## Requests -/

/-- What is asked of a server.  The web server may refuse other levels each time, and a wait that
has no end may be interrupted or not. -/
inductive Request where
  | start (timeout : Nat) (refusal : String → Option Fault)
  | stop (timeout : Option Json) (isInterrupted : Bool)

/-- The server when the web server refuses some levels. -/
def refusing (refusal : String → Option Fault) (l : Lifecycle) : Lifecycle :=
  { l with machine := { l.machine with refusal := refusal } }

/-- The server when waits that have no end are interrupted, or not. -/
def interrupted (isInterrupted : Bool) (l : Lifecycle) : Lifecycle :=
  { l with machine := { l.machine with isInterrupted := isInterrupted } }

/-- The server after what was asked of it. -/
def next (l : Lifecycle) : Request → Lifecycle
  | .start timeout refusal => ((start timeout).run (l.refusing refusal)).state
  | .stop timeout isInterrupted => ((stop timeout).run (l.interrupted isInterrupted)).state

/-- The server after all that was asked of it. -/
def after (l : Lifecycle) (asked : List Request) : Lifecycle := asked.foldl next l

/-- Whether what was asked is a start, and it succeeded. -/
def succeeds (l : Lifecycle) : Request → Bool
  | .start timeout refusal => ((start timeout).run (l.refusing refusal)).answer.isOk
  | .stop _ _ => false

/-- How many starts succeed. -/
def successes (l : Lifecycle) : List Request → Nat
  | [] => 0
  | r :: rs => (if l.succeeds r then 1 else 0) + (l.next r).successes rs

/-- What holds of a server whatever was asked of it: it made a thread if it has one, and then it has
a socket, open or not. -/
structure Sound (l : Lifecycle) : Prop where
  threads : l.machine.calls.countP MachineCall.isThread = if l.thread.isSome then 1 else 0
  socket : l.thread.isSome → ∃ place, l.listener = some place ∧ place < l.machine.listeners.length

namespace Sound

/-- A server without a thread, of a machine that made none. -/
theorem of_no_thread (hthread : l.thread = none)
    (hcalls : l.machine.calls.countP MachineCall.isThread = 0) : l.Sound where
  threads := by rw [hthread, hcalls]; rfl
  socket h := absurd h (by simp [hthread])

theorem countP_of_no_thread (hl : l.Sound) (hthread : l.thread = none) :
    l.machine.calls.countP MachineCall.isThread = 0 := by
  rw [hl.threads, hthread]
  rfl

theorem unbound (hl : l.Sound) (hthread : l.thread = none) : l.unbound.Sound :=
  .of_no_thread hthread <| by
    simp [Lifecycle.unbound, hl.countP_of_no_thread hthread, MachineCall.isThread]

theorem bound (hl : l.Sound) (hthread : l.thread = none) (port : Int) : (l.bound port).Sound :=
  .of_no_thread hthread ((hl.unbound hthread).countP_of_no_thread hthread)

theorem launched (hl : l.Sound) (hthread : l.thread = none) (port : Int) :
    ((l.bound port).launched port).Sound where
  threads := by
    have hbound := (hl.bound hthread port).countP_of_no_thread hthread
    simp [Lifecycle.launched, hbound, MachineCall.isThread, List.countP_cons]
  socket _ := ⟨l.machine.listeners.length, rfl, by simp [Lifecycle.launched, Lifecycle.bound]⟩

theorem of_onlyEnds {s : Lifecycle} (hl : l.Sound) (hends : l.machine.OnlyEnds s.machine)
    (hthread : s.thread.isSome = l.thread.isSome) (hlistener : s.listener = l.listener)
    (hlength : s.machine.listeners.length = l.machine.listeners.length) : s.Sound where
  threads := by rw [hends.countP_isThread, hl.threads, hthread]
  socket h := by
    rw [hlistener, hlength]
    exact hl.socket (hthread ▸ h)

theorem later (hl : l.Sound) (milliseconds : Nat) : (l.later milliseconds).Sound :=
  hl.of_onlyEnds (.refl _) rfl rfl rfl

theorem leaving (hl : l.Sound) (timeout : Option Json) : (l.leaving timeout).Sound := by
  refine hl.of_onlyEnds (onlyEnds_leaving timeout l) ?_ ?_ ?_ <;>
    · unfold Lifecycle.leaving
      split <;> rfl

theorem closed (hl : l.Sound) : l.closed.Sound := by
  refine hl.of_onlyEnds (onlyEnds_closed l) (Option.isSome_map ..) rfl ?_
  unfold Lifecycle.closed
  cases l.listener with
  | none => rfl
  | some place => exact Machine.length_listeners_closing _ place

theorem start (hl : l.Sound) (timeout : Nat) : ((Lifecycle.start timeout).run l).state.Sound := by
  have hstart := start_spec timeout l
  generalize ((Lifecycle.start timeout).run l).state = s at hstart ⊢
  generalize ((Lifecycle.start timeout).run l).answer = answer at hstart
  cases hstart with
  | again _ => exact hl
  | bindFails hthread hbinding => exact hl.unbound hthread
  | refused hthread hbinding hrefusal => exact hl.bound hthread _
  | started hthread hbinding hrefusal hstarts => exact (hl.launched hthread _).later _
  | late hthread hbinding hrefusal hlate =>
      exact (((hl.launched hthread _).later _).leaving _).closed

theorem stop (hl : l.Sound) (timeout : Option Json) :
    ((Lifecycle.stop timeout).run l).state.Sound := by
  rw [stop_state]
  split
  · exact hl.leaving timeout
  · exact (hl.leaving timeout).closed

theorem refusing (hl : l.Sound) (refusal : String → Option Fault) : (l.refusing refusal).Sound :=
  ⟨hl.threads, hl.socket⟩

theorem interrupted (hl : l.Sound) (isInterrupted : Bool) : (l.interrupted isInterrupted).Sound :=
  ⟨hl.threads, hl.socket⟩

theorem next (hl : l.Sound) (r : Request) : (l.next r).Sound := by
  cases r with
  | start timeout refusal => exact (hl.refusing refusal).start timeout
  | stop timeout isInterrupted => exact (hl.interrupted isInterrupted).stop timeout

theorem after (hl : l.Sound) (asked : List Request) : (l.after asked).Sound := by
  induction asked generalizing l with
  | nil => exact hl
  | cons r asked ih => exact ih (hl.next r)

end Sound

/-! ## One thread -/

/-- A server that has a thread keeps it, and only brings things to their end. -/
theorem onlyEnds_next (hthread : l.thread.isSome) (r : Request) :
    (l.next r).thread.isSome ∧ l.machine.OnlyEnds (l.next r).machine := by
  cases r with
  | start timeout refusal =>
      have hagain : (l.refusing refusal).thread.isSome = true := hthread
      rw [next, start_run_of_thread hagain]
      exact ⟨hthread, .refl _⟩
  | stop timeout isInterrupted =>
      rw [next, stop_state]
      have hends : l.machine.OnlyEnds ((l.interrupted isInterrupted).leaving timeout).machine :=
        onlyEnds_leaving timeout (l.interrupted isInterrupted)
      have hleaving : ((l.interrupted isInterrupted).leaving timeout).thread.isSome := by
        rw [isSome_thread_leaving]
        exact hthread
      split
      · exact ⟨hleaving, hends⟩
      · exact ⟨(Option.isSome_map ..).trans hleaving, hends.trans (onlyEnds_closed _)⟩

theorem onlyEnds_after (hthread : l.thread.isSome) (asked : List Request) :
    (l.after asked).thread.isSome ∧ l.machine.OnlyEnds (l.after asked).machine := by
  induction asked generalizing l with
  | nil => exact ⟨hthread, .refl _⟩
  | cons r asked ih =>
      obtain ⟨hnext, hends⟩ := onlyEnds_next hthread r
      obtain ⟨hafter, hmore⟩ := ih hnext
      exact ⟨hafter, hends.trans hmore⟩

/-- A start that succeeds leaves a thread, and is not one of a server that has a thread. -/
theorem thread_of_succeeds {r : Request} (h : l.succeeds r = true) :
    l.thread = none ∧ (l.next r).thread.isSome := by
  cases r with
  | stop timeout isInterrupted => exact absurd h (by simp [succeeds])
  | start timeout refusal =>
      rw [succeeds] at h
      rw [next]
      have hstart := start_spec timeout (l.refusing refusal)
      generalize ((start timeout).run (l.refusing refusal)).state = s at hstart ⊢
      generalize ((start timeout).run (l.refusing refusal)).answer = answer at hstart h
      cases hstart with
      | started hthread hbinding hrefusal hstarts => exact ⟨hthread, rfl⟩
      | _ => exact absurd h (by simp [Except.isOk, Except.toBool])

/-- A server starts once, and not any more if it has a thread. -/
theorem successes_le (l : Lifecycle) (asked : List Request) :
    l.successes asked ≤ if l.thread.isSome then 0 else 1 := by
  induction asked generalizing l with
  | nil => exact Nat.zero_le _
  | cons r asked ih =>
      have hrest := ih (l.next r)
      rw [successes]
      cases hsucceeds : l.succeeds r with
      | true =>
          obtain ⟨hthread, hnext⟩ := thread_of_succeeds hsucceeds
          rw [if_pos hnext, Nat.le_zero] at hrest
          simp [hthread, hrest]
      | false =>
          cases hthread : l.thread.isSome with
          | true =>
              rw [if_pos (onlyEnds_next hthread r).1] at hrest
              simpa using hrest
          | false =>
              have hone : (if (l.next r).thread.isSome then 0 else 1) ≤ 1 := by split <;> decide
              simpa using Nat.le_trans hrest hone

/-! ## What a start does -/

/-- What a start of a server does. -/
structure StartOutcome (timeout : Nat) (l : Lifecycle) (answer : Except Failure Unit)
    (s : Lifecycle) : Prop where
  /-- A server that has a thread is left as it is, and the start fails: it says that the server was
  started if its socket still listens. -/
  again : l.thread.isSome → s = l ∧ ∃ socket, l.socket = some socket ∧
    answer = .error (if socket.isOpen then
      startupFailure "Bridge server already started"
        [("host", .string l.host), ("port", .int socket.port)]
      else .fault Machine.closedFault)
  /-- It succeeds if there is a socket to be had, and a web server that starts in time. -/
  succeeds : answer = .ok () ↔ l.thread = none ∧ (∃ port, l.nextBinding = .binds port) ∧
    l.machine.refusal l.webLevel = none ∧ l.nextRun.StartsWithin timeout
  /-- A server that was started runs, and its socket listens. -/
  running : answer = .ok () → s.isRunning ∧ ∃ port, s.socket = some ⟨port, true⟩
  /-- Without a socket there is no thread either. -/
  bindFails : ∀ f, l.thread = none → l.nextBinding = .fails f →
    answer = .error (bindFailure l.host l.port f) ∧ s.thread = none ∧
      s.machine.listeners = l.machine.listeners ∧
      s.machine.calls = l.machine.calls ++ [.bind l.host l.port (.ofHost l.host) Machine.backlog]
  /-- A web server that refuses the level gets no thread, but the socket is left behind. -/
  refused : ∀ port f, l.thread = none → l.nextBinding = .binds port →
    l.machine.refusal l.webLevel = some f →
      answer = .error (.fault f) ∧ s.thread = none ∧
        s.machine.listeners = l.machine.listeners ++ [⟨port.getD l.port, true⟩] ∧
        s.machine.calls = l.machine.calls ++ [.bind l.host l.port (.ofHost l.host) Machine.backlog]
  /-- A web server that does not start in time is over. -/
  late : ∀ port, l.thread = none → l.nextBinding = .binds port →
    l.machine.refusal l.webLevel = none → ¬ l.nextRun.StartsWithin timeout →
      answer = .error (l.lateFailure (port.getD l.port)) ∧ s.thread.isSome ∧ s.isRunning = false
  /-- No start that fails leaves a socket listening that it bound, unless the level is refused. -/
  released : l.machine.refusal l.webLevel = none → answer ≠ .ok () →
    ∀ place, s.machine.IsOpen place ↔ l.machine.IsOpen place

namespace Start

variable {answer : Except Failure Unit} {s : Lifecycle}

theorem succeeds_iff (h : Start timeout l answer s) :
    answer = .ok () ↔ l.thread = none ∧ (∃ port, l.nextBinding = .binds port) ∧
      l.machine.refusal l.webLevel = none ∧ l.nextRun.StartsWithin timeout := by
  cases h with
  | again hthread => simp [Option.isSome_iff_ne_none.mp hthread]
  | bindFails hthread hbinding => simp [hbinding]
  | refused hthread hbinding hrefusal => simp [hrefusal]
  | started hthread hbinding hrefusal hstarts => simp [hthread, hbinding, hrefusal, hstarts]
  | late hthread hbinding hrefusal hlate => simp [hlate]

theorem of_bindFails {f : Fault} (h : Start timeout l answer s) (hthread : l.thread = none)
    (hbinding : l.nextBinding = .fails f) :
    answer = .error (bindFailure l.host l.port f) ∧ s = l.unbound := by
  cases h <;> simp_all

theorem of_refused {port : Option Int} {f : Fault} (h : Start timeout l answer s)
    (hthread : l.thread = none) (hbinding : l.nextBinding = .binds port)
    (hrefusal : l.machine.refusal l.webLevel = some f) :
    answer = .error (.fault f) ∧ s = l.bound (port.getD l.port) := by
  cases h <;> simp_all

/-- A start whose web server is late stops it and closes the socket. -/
theorem of_late {port : Option Int} (h : Start timeout l answer s)
    (hthread : l.thread = none) (hbinding : l.nextBinding = .binds port)
    (hrefusal : l.machine.refusal l.webLevel = none) (hlate : ¬ l.nextRun.StartsWithin timeout) :
    answer = .error (l.lateFailure (port.getD l.port)) ∧ ∃ waited,
      s = ((((l.bound (port.getD l.port)).launched (port.getD l.port)).later waited).leaving
        (some stopTimeout)).closed := by
  cases h <;> simp_all
  exact ⟨_, rfl⟩

theorem isRunning_of_ok (h : Start timeout l (.ok ()) s) :
    s.isRunning = true ∧ ∃ port, s.socket = some ⟨port, true⟩ := by
  cases h with
  | @started port waited _ _ _ hstarts =>
      refine ⟨?_, port.getD l.port, List.getElem?_concat_length⟩
      obtain ⟨milliseconds, hrun, -⟩ := hstarts
      have hnext : (l.bound (port.getD l.port)).nextRun = .startsAfter milliseconds := hrun
      simp [isRunning, later, launched, hnext, ServerRun.goesOn]

/-- The socket of a start whose web server is late is the only one that it closes. -/
theorem isOpen_of_late (port : Int) (waited place : Nat) :
    ((((l.bound port).launched port).later waited).leaving
        (some stopTimeout)).closed.machine.IsOpen place ↔ l.machine.IsOpen place := by
  have hclosed : ((((l.bound port).launched port).later waited).leaving
      (some stopTimeout)).closed.machine.IsOpen place ↔
        (l.bound port).machine.IsOpen place ∧ place ≠ l.machine.listeners.length :=
    Machine.isOpen_closing _ _ _
  rw [hclosed, isOpen_bound]
  constructor
  · rintro ⟨hopen | rfl, hplace⟩
    · exact hopen
    · exact absurd rfl hplace
  · exact fun hopen => ⟨.inl hopen, hopen.ne_length⟩

end Start

/-- What a server that has a thread says to a start depends on its socket. -/
theorem Sound.startedFailure_eq (hl : l.Sound) (hthread : l.thread.isSome) :
    ∃ socket, l.socket = some socket ∧
      l.startedFailure = if socket.isOpen then
        startupFailure "Bridge server already started"
          [("host", .string l.host), ("port", .int socket.port)]
        else .fault Machine.closedFault := by
  obtain ⟨place, hlistener, hplace⟩ := hl.socket hthread
  refine ⟨l.machine.listeners[place], by simp [Lifecycle.socket, hlistener, hplace], ?_⟩
  simp only [startedFailure, toldPort, hlistener, Machine.toldPort,
    List.getElem?_eq_getElem hplace]
  rcases l.machine.listeners[place] with ⟨port, _ | _⟩ <;> rfl

theorem Sound.startOutcome (timeout : Nat) (hl : l.Sound) :
    StartOutcome timeout l ((Lifecycle.start timeout).run l).answer
      ((Lifecycle.start timeout).run l).state := by
  have hstart := start_spec timeout l
  constructor
  case again =>
    intro hthread
    obtain ⟨socket, hsocket, hfailure⟩ := hl.startedFailure_eq hthread
    rw [start_run_of_thread hthread]
    exact ⟨rfl, socket, hsocket, by rw [hfailure]⟩
  case succeeds => exact hstart.succeeds_iff
  case running =>
    intro hok
    rw [hok] at hstart
    exact hstart.isRunning_of_ok
  case bindFails =>
    intro f hthread hbinding
    obtain ⟨hanswer, hstate⟩ := hstart.of_bindFails hthread hbinding
    rw [hanswer, hstate]
    exact ⟨rfl, hthread, rfl, rfl⟩
  case refused =>
    intro port f hthread hbinding hrefusal
    obtain ⟨hanswer, hstate⟩ := hstart.of_refused hthread hbinding hrefusal
    rw [hanswer, hstate]
    exact ⟨rfl, hthread, rfl, rfl⟩
  case late =>
    intro port hthread hbinding hrefusal hlate
    obtain ⟨hanswer, waited, hstate⟩ := hstart.of_late hthread hbinding hrefusal hlate
    rw [hanswer, hstate]
    exact ⟨rfl, rfl, rfl⟩
  case released =>
    intro hrefusal hfails place
    generalize ((Lifecycle.start timeout).run l).state = s at hstart ⊢
    generalize ((Lifecycle.start timeout).run l).answer = answer at hstart hfails
    cases hstart with
    | again _ => rfl
    | bindFails _ _ => rfl
    | refused _ _ hrefused => exact absurd hrefused (by simp [hrefusal])
    | started _ _ _ _ => exact absurd rfl hfails
    | late _ _ _ _ => exact Start.isOpen_of_late _ _ _

/-- Whatever is asked of a new server, at most one start succeeds, and at most one thread is made.
Once there is a thread no more is asked of the machine than to bring things to their end.  And what
the next start does is known. -/
theorem starts_once (settings : ServerSettings) (host : Option String) (port : Option Int)
    (level : Json) (bindings : List Binding) (runs : List ServerRun) (clock : Nat)
    (asked rest : List Request) (timeout : Nat) (refusal : String → Option Fault) :
    let new := create settings host port level
      { bindings := bindings, runs := runs, clock := clock }
    let l := new.after asked
    let start := (start timeout).run (l.refusing refusal)
    new.successes asked ≤ 1 ∧
      l.machine.calls.countP MachineCall.isThread ≤ 1 ∧
      (l.thread.isSome → (l.after rest).thread.isSome ∧
        l.machine.OnlyEnds (l.after rest).machine) ∧
      StartOutcome timeout (l.refusing refusal) start.answer start.state := by
  intro new l start
  have hl : l.Sound := (Sound.of_no_thread rfl rfl : new.Sound).after asked
  refine ⟨successes_le new asked, ?_, fun hthread => onlyEnds_after hthread rest,
    (hl.refusing refusal).startOutcome timeout⟩
  rw [hl.threads]
  split <;> decide

/-- After a stop a start cannot even say that the server was started, since the socket is closed. -/
theorem start_of_stopped (hl : l.Sound) (hthread : l.thread.isSome) (timeout : Nat)
    (wait : Json) (isInterrupted : Bool) :
    ((start timeout).run (l.next (.stop (some wait) isInterrupted))).answer =
      .error (.fault Machine.closedFault) := by
  have hleaving := (hl.interrupted isInterrupted).leaving (some wait)
  have hleft : ((l.interrupted isInterrupted).leaving (some wait)).thread.isSome = true :=
    (isSome_thread_leaving _ _).trans hthread
  obtain ⟨place, hlistener, -⟩ := hleaving.socket hleft
  have hstopped : l.next (.stop (some wait) isInterrupted) =
      ((l.interrupted isInterrupted).leaving (some wait)).closed := by
    rw [next, stop_state]
    simp
  rw [hstopped]
  generalize (l.interrupted isInterrupted).leaving (some wait) = s at hlistener hleft
  have htold : s.closed.toldPort = .error (.fault Machine.closedFault) := by
    simp [toldPort, closed, hlistener, Machine.toldPort_closing]
    rfl
  have hagain : s.closed.thread.isSome = true := (Option.isSome_map ..).trans hleft
  rw [start_run_of_thread hagain, startedFailure, htold]

/-- A server that was started, stopped and started again complains about its socket.  And one whose
level is refused leaves its socket listening. -/
theorem start_after_stop_and_refusal :
    let new : Lifecycle := { host := "127.0.0.1", port := 3100, level := .info }
    let started := new.next (.start startTimeout refuseUnknownLevel)
    let stopped := started.next (.stop (some stopTimeout) false)
    let unknown := { new with level := .notset }
    new.succeeds (.start startTimeout refuseUnknownLevel) ∧
      ((start startTimeout).run stopped).answer = .error (.fault Machine.closedFault) ∧
      ((start startTimeout).run unknown).answer = .error (.fault ⟨.key, [.string "notset"]⟩) ∧
      ((start startTimeout).run unknown).state.machine.IsOpen 0 := by
  intro new started stopped unknown
  have hnew : new.Sound := .of_no_thread rfl rfl
  have hinfo : refuseUnknownLevel new.webLevel = none := by decide +kernel
  have hnotset : refuseUnknownLevel unknown.webLevel = some ⟨.key, [.string "notset"]⟩ := by
    decide +kernel
  have hsucceeds : new.succeeds (.start startTimeout refuseUnknownLevel) := by
    have hok := (start_spec startTimeout (new.refusing refuseUnknownLevel)).succeeds_iff.mpr
      ⟨rfl, ⟨none, rfl⟩, hinfo, 0, rfl, fun looks hlooks => absurd hlooks (Nat.not_lt_zero _)⟩
    rw [succeeds, hok]
    rfl
  obtain ⟨hanswer, hstate⟩ := (start_spec startTimeout unknown).of_refused rfl rfl hnotset
  refine ⟨hsucceeds, ?_, hanswer, 3100, ?_⟩
  · exact start_of_stopped (hnew.next _) (thread_of_succeeds hsucceeds).2 startTimeout stopTimeout
      false
  · rw [hstate]
    rfl

end Lifecycle

end CommandBridge
