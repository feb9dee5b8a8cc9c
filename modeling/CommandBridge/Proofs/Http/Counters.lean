import CommandBridge.Proofs.Dispatch.Catalogs
import CommandBridge.Proofs.Http.Course
import CommandBridge.Proofs.Http.Destination
import CommandBridge.Proofs.Http.Erasure
import CommandBridge.Proofs.Json.Digits

/-!
# CommandBridge.Proofs.Http.Counters

The counters of an application.  Over any run they count the requests and the server errors, and
each request leaves one line about itself (`requests_are_counted`).

1. The text of the metrics consists of lines, of which some are samples: the values of counters
   (`shows_metricsText`).
2. A request is counted when it comes in and, if it is told a server error, when the reply goes out;
   everything else that happens is `besides` (`perform_handle`).
3. So each turn adds what its event and what is told of it say (`Turn.accounted`), and a run adds
   the sum.
-/

namespace CommandBridge

open Trail

namespace Http

/-! ## The text of the metrics -/

/-- A text on one line. -/
abbrev OneLine (text : String) : Prop := '\n' ∉ text.toList

theorem OneLine.append {a b : String} (ha : OneLine a) (hb : OneLine b) : OneLine (a ++ b) := by
  rw [OneLine, String.toList_append, List.mem_append, not_or]
  exact ⟨ha, hb⟩

theorem oneLine_toString (n : Nat) : OneLine (toString n) := by
  intro h
  rw [Nat.toString_eq_repr, Nat.repr, String.toList_ofList] at h
  exact absurd (Json.isDigit_of_mem_toDigits h) (by decide)

/-- A line that is not a comment. -/
abbrev IsSample (line : String) : Prop := line.toList.head? ≠ some '#'

/-- A counter whose name, help, type and labels are on one line. -/
structure Metric.Plain (m : Metric) : Prop where
  name : OneLine m.name ∧ m.name.toList.head? = some 'm'
  help : OneLine m.help
  type : OneLine m.type
  labels : ∀ v ∈ m.values, OneLine v.1

/-- All counters of a service are plain. -/
theorem plain_metrics (s : Service) : ∀ m ∈ metrics s, m.Plain := by
  have hplain : ∀ {name help type : String} {values : List (String × Nat)},
      (OneLine name ∧ name.toList.head? = some 'm') ∧ OneLine help ∧ OneLine type →
      (∀ v ∈ values, OneLine v.1) → Metric.Plain ⟨name, help, type, values⟩ :=
    fun h hlabels => ⟨h.1, h.2.1, h.2.2, hlabels⟩
  have hone : ∀ {n : Nat}, ∀ v ∈ [("", n)], OneLine v.1 := by simp [OneLine]
  have hkinds : ∀ v ∈ DispatchKind.all.map fun k => (kindLabel k, s.bridge.stats.dispatched k),
      OneLine v.1 := by
    intro v hv
    obtain ⟨k, -, rfl⟩ := List.mem_map.mp hv
    show OneLine (kindLabel k)
    cases k <;> decide
  simp only [metrics, List.forall_mem_cons, List.not_mem_nil, false_imp_iff, implies_true, and_true]
  exact ⟨hplain (by decide) hone, hplain (by decide) hone, hplain (by decide) hkinds,
    hplain (by decide) hone, hplain (by decide) hone, hplain (by decide) hone⟩

/-- What is written about a counter is written on lines. -/
theorem Metric.Plain.oneLine {m : Metric} (h : m.Plain) : ∀ line ∈ m.lines, OneLine line := by
  have hspace : OneLine " " := by decide
  have hhelp : OneLine ("# HELP " ++ m.name ++ " " ++ m.help) :=
    ((OneLine.append (by decide) h.name.1).append hspace).append h.help
  have htype : OneLine ("# TYPE " ++ m.name ++ " " ++ m.type) :=
    ((OneLine.append (by decide) h.name.1).append hspace).append h.type
  have hvalues : ∀ line ∈ m.values.map fun v => m.name ++ v.1 ++ " " ++ toString v.2,
      OneLine line := by
    intro line hline
    obtain ⟨v, hv, rfl⟩ := List.mem_map.mp hline
    exact ((h.name.1.append (h.labels v hv)).append hspace).append (oneLine_toString v.2)
  rw [Metric.lines]
  exact List.forall_mem_append.mpr
    ⟨List.forall_mem_cons.mpr ⟨hhelp, List.forall_mem_singleton.mpr htype⟩, hvalues⟩

/-- The samples of a counter are its values. -/
theorem Metric.Plain.filter_isSample {m : Metric} (h : m.Plain) :
    m.lines.filter IsSample = m.values.map fun v => m.name ++ v.1 ++ " " ++ toString v.2 := by
  have hvalues : ∀ line ∈ m.values.map fun v => m.name ++ v.1 ++ " " ++ toString v.2,
      IsSample line := by
    intro line hline
    obtain ⟨v, -, rfl⟩ := List.mem_map.mp hline
    simp [h.name.2]
  have hcomments : ["# HELP " ++ m.name ++ " " ++ m.help, "# TYPE " ++ m.name ++ " " ++
      m.type].filter IsSample = [] := by simp
  rw [Metric.lines, List.filter_append, hcomments, List.nil_append]
  exact List.filter_eq_self.mpr fun line hline => by simpa using hvalues line hline

/-- What the metrics say about requests, dispatches and subscribers. -/
def samples (requests : RequestStats) (stats : DispatchStats) (subscribers : Nat) : List String :=
  ["mcp_requests_total " ++ toString requests.received,
    "mcp_errors_total " ++ toString requests.failed] ++
  DispatchKind.all.map (fun k =>
    "mcp_dispatch_total" ++ kindLabel k ++ " " ++ toString (stats.dispatched k)) ++
  ["mcp_delivery_failures_total " ++ toString stats.deliveryFailures,
    "mcp_target_unavailable_total " ++ toString stats.targetUnavailable,
    "mcp_event_subscribers " ++ toString subscribers]

/-- A text consists of lines, and the samples among them are these. -/
def Shows (text : String) (values : List String) : Prop :=
  ∃ lines : List String, text = String.join (lines.map (· ++ "\n")) ∧
    (∀ line ∈ lines, OneLine line) ∧ lines.filter IsSample = values

theorem shows_metricsText (s : Service) : Shows (metricsText s)
    (samples s.requests s.bridge.stats s.results.subscriberCount) := by
  refine ⟨(metrics s).flatMap Metric.lines, by rw [metricsText, List.map_flatMap], ?_, ?_⟩
  · intro line hline
    obtain ⟨m, hm, hline⟩ := List.mem_flatMap.mp hline
    exact (plain_metrics s m hm).oneLine line hline
  · rw [List.filter_flatMap,
      List.flatMap_congr fun m hm => (plain_metrics s m hm).filter_isSample]
    simp [metrics, samples, DispatchKind.all]

/-! ## Requests -/

variable {W : Trail Service} {now : Timestamp} {id : String} {r : Request} {s : Service}

theorem besides_answerBrowser : besides.FollowsThrough (answerBrowser now id r) := by
  refine .after .get fun s => .ite (.done _) (.onceOver besides_answer fun a => ?_)
  exact .bind (.ofExcept a) fun _ => .pure _

/-- Only GET requests see the metrics. -/
theorem isPreflight_of_metrics (h : destination r.method r.path = .endpoint .metrics) :
    r.isPreflight = false := by
  simp [Request.isPreflight, ← (fits_of_destination h).1, Endpoint.route]

example : destination "GET" "/metrics" = .endpoint .metrics := by decide +kernel

/-- What is answered to a request for the metrics. -/
theorem metrics_finishes {p : Outcome Service Answer}
    (hdest : destination r.method r.path = .endpoint .metrics)
    (h : W.Finishes (answerBrowser now id r) s p) :
    ∃ a, p.answer = .ok a ∧ a.response.status = 200 ∧ a.response.body = metricsText s := by
  obtain ⟨q, hq, rfl⟩ := answerBrowser_finishes (isPreflight_of_metrics hdest) h
  have hanswer : answer now id r =
      Op.atOnce (do return ⟨.plain 200 (metricsText (← Op.get)), none⟩) := by
    rw [answer, hdest]
    rfl
  rw [hanswer] at hq
  obtain rfl := hq.of_atOnce
  exact ⟨_, rfl, (origins s).decorate_frame r _⟩

/-- A request is replied to, and counted, and leaves one line, which says what was replied.  A
request for the metrics is told what is counted once it has come in. -/
theorem perform_handle (now : Timestamp) (r : Request) (s : Service) :
    ∃ reply u l, (Service.perform now (handle now r)).run s = ⟨.ok reply, u, l⟩ ∧
      u.requests.received = s.requests.received + 1 ∧
      u.requests.failed =
        s.requests.failed + (if 500 ≤ reply.response.status then 1 else 0) ∧
      l.filter IsRequestLine = [requestLine (idOf r s) r reply] ∧
      (destination r.method r.path = .endpoint .metrics →
        reply.response.status = 200 ∧ reply.response.body = metricsText (received r s)) := by
  obtain ⟨o, u, k, hfinishes, hafter, hrun⟩ := Service.finishes_perform Service.besides_settle
    Service.besides_setClock now (handle now r) s
  obtain ⟨p, t, l, reply, before, hp, hsettle, hreply, hbefore, rfl⟩ := handle_finishes hfinishes
  have hanswered := hp.passes besides_answerBrowser
  have hsettled := Service.besides_settle now p.state
  rw [hsettle] at hsettled
  -- nothing but coming in and going out counts
  have hrequests : u.requests = (counted reply (received r s)).requests := by
    rw [hafter.1, counted, counted, hsettled.1, hanswered.1]
  obtain ⟨identified, hreceived⟩ := received_eq r s
  refine ⟨reply, u, _, hrun, ?_, ?_, ?_, fun hdest => ?_⟩
  · rw [hrequests, hreceived]
    rfl
  · rw [hrequests, hreceived]
    rfl
  · simp only [List.filter_append, Log.filter_isOneOf_eq_nil hanswered.2,
      Log.filter_isOneOf_eq_nil hsettled.2, Log.filter_isOneOf_eq_nil hbefore,
      Log.filter_isOneOf_eq_nil hafter.2, List.nil_append, List.append_nil]
    exact Log.filter_isOneOf_eq_self
      (List.forall_mem_singleton.mpr (isRequestLine_requestLine _ r reply))
  · obtain ⟨a, ha, hstatus, hbody⟩ := metrics_finishes hdest hp
    rw [ha] at hreply
    cases hreply with
    | answered a => exact ⟨hstatus, hbody⟩

/-! ## Turns -/

/-- A request. -/
def Event.isRequest : Event → Bool
  | .request _ => true
  | .action _ => false

/-- A reply with a server error. -/
def Told.isServerError : Told → Bool
  | .replied reply => 500 ≤ reply.response.status
  | .answered _ => false

/-- What an event adds to the counters of requests, and the lines it leaves about requests, given
what is told of it. -/
inductive Accounted (s : Service) : Event → Told → RequestStats → List Log.Entry → Prop
  /-- A request counts, and so does a server error.  The metrics tell what is counted once the
  request has come in. -/
  | request (r : Request) (reply : Reply) (identified : Nat)
      (hmetrics : destination r.method r.path = .endpoint .metrics →
        reply.response.status = 200 ∧ Shows reply.response.body
          (samples { s.requests with received := s.requests.received + 1 } s.bridge.stats
            s.results.subscriberCount)) :
      Accounted s (.request r) (.replied reply)
        ⟨s.requests.received + 1,
          s.requests.failed + (if 500 ≤ reply.response.status then 1 else 0), identified⟩
        [requestLine (idOf r s) r reply]
  /-- Nothing else counts. -/
  | action (a : Bridge.Action) (x : Except Failure Bridge.Action.Answer) :
      Accounted s (.action a) (.answered x) s.requests []

/-- What comes of an event is accounted for. -/
theorem Event.accounted (e : Event) (now : Timestamp) (s : Service) :
    ∃ told u l, (e.run now).run s = ⟨.ok told, u, l⟩ ∧
      Accounted s e told u.requests (l.filter IsRequestLine) := by
  cases e with
  | request r =>
      obtain ⟨reply, u, l, hrun, hreceived, hfailed, hline, hmetrics⟩ := perform_handle now r s
      refine ⟨.replied reply, u, l, by rw [Event.run, Op.run_map, hrun]; rfl, ?_⟩
      have hrequests : u.requests = ⟨s.requests.received + 1,
          s.requests.failed + (if 500 ≤ reply.response.status then 1 else 0),
          u.requests.identified⟩ := by
        rw [← hreceived, ← hfailed]
      rw [hline, hrequests]
      refine .request r reply _ fun hdest => ?_
      obtain ⟨hstatus, hbody⟩ := hmetrics hdest
      obtain ⟨identified, heq⟩ := received_eq r s
      have hshows := shows_metricsText (received r s)
      rw [heq] at hshows
      exact ⟨hstatus, by rw [hbody, heq]; exact hshows⟩
  | action a =>
      obtain ⟨hrequests, hlines⟩ := Service.besides_onBridge (a.logs_ask now) s
      rcases hrun : (Service.onBridge (a.ask now)).run s with ⟨x, u, l⟩
      rw [hrun] at hrequests hlines
      refine ⟨.answered x, u, l, by rw [Event.run, Op.run_map, Op.run_attempt, hrun]; rfl, ?_⟩
      rw [hrequests, Log.filter_isOneOf_eq_nil hlines]
      exact .action a x

/-- Failures of Redis to come change nothing that is counted. -/
theorem Accounted.of_meeting {faults : Nat → RedisCommand → Option Fault} {e : Event} {told : Told}
    {requests : RequestStats} {l : List Log.Entry}
    (h : Accounted (s.meeting faults) e told requests l) : Accounted s e told requests l := by
  cases h with
  | request r reply identified hmetrics => exact .request r reply identified hmetrics
  | action a x => exact .action a x

/-- What comes of a turn is accounted for. -/
theorem Turn.accounted (t : Turn) (s : Service) :
    ∃ told l, t.take.run s = ⟨.ok told, t.after s, l⟩ ∧
      Accounted s t.event told (t.after s).requests (l.filter IsRequestLine) := by
  obtain ⟨told, u, l, hrun, haccounted⟩ := t.event.accounted t.now (s.meeting t.faults)
  obtain ⟨x, hx⟩ := Service.total_comeToRest t.now u
  obtain ⟨hrequests, hlines⟩ := Service.besides_comeToRest t.now u
  rcases hrest : (Service.comeToRest t.now).run u with ⟨y, v, k⟩
  rw [hrest] at hx hrequests hlines
  obtain rfl : y = .ok x := hx
  have htake : t.take.run s = ⟨.ok told, v, l ++ (k ++ [])⟩ := by
    rw [take, Op.run_bind_of_silent (Service.meet_run t.faults s), Op.run_bind_of_run hrun,
      Op.run_bind_of_run hrest]
    rfl
  have hafter : t.after s = v := by rw [after, htake]
  refine ⟨told, _, by rw [hafter]; exact htake, ?_⟩
  rw [hafter, hrequests, List.append_nil, List.filter_append, Log.filter_isOneOf_eq_nil hlines,
    List.append_nil]
  exact haccounted.of_meeting

theorem Accounted.received {e : Event} {told : Told} {requests : RequestStats}
    {l : List Log.Entry} (h : Accounted s e told requests l) :
    requests.received = s.requests.received + if e.isRequest then 1 else 0 := by
  cases h <;> rfl

theorem Accounted.failed {e : Event} {told : Told} {requests : RequestStats}
    {l : List Log.Entry} (h : Accounted s e told requests l) :
    requests.failed = s.requests.failed + if told.isServerError then 1 else 0 := by
  cases h with
  | request r reply identified hmetrics => simp [Told.isServerError]
  | action a x => rfl

/-! ## Runs -/

/-- A run counts the requests and the server errors. -/
theorem takeAll_counts (turns : List Turn) (s : Service) :
    ∃ told u l, (takeAll turns).run s = ⟨.ok told, u, l⟩ ∧
      u.requests.received = s.requests.received + turns.countP (·.event.isRequest) ∧
      u.requests.failed = s.requests.failed + told.countP (·.isServerError) := by
  -- the other turns start from what the first one leaves
  induction turns generalizing s with
  | nil => exact ⟨[], s, [], rfl, rfl, rfl⟩
  | cons t turns ih =>
      obtain ⟨a, l, hrun, haccounted⟩ := t.accounted s
      obtain ⟨as, u, k, hrest, hreceived, hfailed⟩ := ih (t.after s)
      refine ⟨a :: as, u, l ++ (k ++ []), ?_, ?_, ?_⟩
      · rw [takeAll, List.mapM_cons, Op.run_bind_of_run hrun, ← takeAll, Op.run_bind_of_run hrest]
        rfl
      · rw [hreceived, haccounted.received, List.countP_cons]
        omega
      · rw [hfailed, haccounted.failed, List.countP_cons]
        omega

/-- Requests are counted.  After any turns of an application, the counters have gone up by the
number of requests among them and by the number of those that were told a server error, however that
came about.  Every request that comes in then leaves one line about itself, with its id, its method,
its path and the status it is told.  If it leads to the metrics, these show the counters, the
request itself included, and what the bridge has counted about dispatches. -/
theorem requests_are_counted (turns : List Turn) (s : Service) :
    ∃ told u log, (takeAll turns).run s = ⟨.ok told, u, log⟩ ∧
      u.requests.received = s.requests.received + turns.countP (·.event.isRequest) ∧
      u.requests.failed = s.requests.failed + told.countP (·.isServerError) ∧
      ∀ (now : Timestamp) (faults : Nat → RedisCommand → Option Fault) (r : Request),
        ∃ reply v lines,
          (Turn.take ⟨now, faults, .request r⟩).run u = ⟨.ok (.replied reply), v, lines⟩ ∧
          lines.filter IsRequestLine = [requestLine (idOf r u) r reply] ∧
          (destination r.method r.path = .endpoint .metrics →
            reply.response.status = 200 ∧ Shows reply.response.body
              (samples { u.requests with received := u.requests.received + 1 } u.bridge.stats
                u.results.subscriberCount)) := by
  obtain ⟨told, u, log, hrun, hreceived, hfailed⟩ := takeAll_counts turns s
  refine ⟨told, u, log, hrun, hreceived, hfailed, fun now faults r => ?_⟩
  obtain ⟨told', l, htake, haccounted⟩ := Turn.accounted ⟨now, faults, .request r⟩ u
  generalize hlines : l.filter IsRequestLine = lines at haccounted
  generalize (Turn.after ⟨now, faults, .request r⟩ u).requests = requests at haccounted
  cases haccounted with
  | request r reply identified hmetrics => exact ⟨reply, _, l, htake, hlines, hmetrics⟩

end Http

end CommandBridge
