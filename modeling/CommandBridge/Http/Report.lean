import CommandBridge.Service.Basic

/-!
# CommandBridge.Http.Report

What the service tells about itself: its health, as JSON, and its counters, as lines of
text.
-/

namespace CommandBridge.Http

/-- The health of a service. -/
def health (s : Service) : Json :=
  let b := s.bridge
  let attached := b.attached.isSome
  .object ([("status", .string (if attached then "healthy" else "degraded")),
    ("server_name", .string s.settings.serverName),
    ("version", .string s.settings.serverVersion),
    ("target", .string (if attached then "attached" else "unavailable")),
    ("target_label", .string b.label),
    ("instance", .ofOption (b.attached.map fun i => .object (b.host.describe i))),
    ("result_backend", .string s.results.backend)] ++ b.catalog.summary)

/-- A counter of the service: what it counts, its type, and its values, each with a label. -/
structure Metric where
  name : String
  help : String
  type : String
  values : List (String × Nat)

/-- The lines about a counter. -/
def Metric.lines (m : Metric) : List String :=
  ["# HELP " ++ m.name ++ " " ++ m.help, "# TYPE " ++ m.name ++ " " ++ m.type]
    ++ m.values.map fun v => m.name ++ v.1 ++ " " ++ toString v.2

/-- The label of a kind of command. -/
def kindLabel (k : DispatchKind) : String := "\x7bkind=\"" ++ k.text ++ "\"\x7d"

/-- The counters of a service. -/
def metrics (s : Service) : List Metric :=
  let d := s.bridge.stats
  [⟨"mcp_requests_total", "Total HTTP requests", "counter", [("", s.requests.received)]⟩,
    ⟨"mcp_errors_total", "Requests answered with a server error", "counter",
      [("", s.requests.failed)]⟩,
    ⟨"mcp_dispatch_total", "Commands delivered to the application", "counter",
      DispatchKind.all.map fun k => (kindLabel k, d.dispatched k)⟩,
    ⟨"mcp_delivery_failures_total", "Commands the channel refused", "counter",
      [("", d.deliveryFailures)]⟩,
    ⟨"mcp_target_unavailable_total", "Dispatches with no attached instance", "counter",
      [("", d.targetUnavailable)]⟩,
    ⟨"mcp_event_subscribers", "Open result event streams", "gauge",
      [("", s.results.subscriberCount)]⟩]

/-- The text about all counters. -/
def metricsText (s : Service) : String :=
  String.join ((metrics s).flatMap fun m => m.lines.map (· ++ "\n"))

end CommandBridge.Http
