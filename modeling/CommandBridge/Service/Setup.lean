import CommandBridge.Service.Basic

/-!
# CommandBridge.Service.Setup

Setting up a service.  What is not given, or given as zero or as an empty text where
that makes no sense, is taken from the settings.
-/

namespace CommandBridge

/-- What can be chosen about a service; times are in seconds.  `nesting` is how deep the interpreter
that runs it lets JSON texts be nested. -/
structure ServiceOptions where
  catalog : Catalog := .projectGraph
  label : Option String := none
  capacity : Option Int := none
  ttl : Option Int := none
  ackDelay : Option Binary64 := none
  redis : Option Redis := none
  nesting : Nat := Json.usualNesting

/-- Nanoseconds in a second. -/
def nanosecondsPerSecond : Nat := 1000000000

namespace ServiceOptions

/-- A number that counts if it is given and not zero. -/
def numberOr (fallback : Int) : Option Int → Int
  | some 0 | none => fallback
  | some n => n

/-- A text that counts if it is given and not empty. -/
def textOr (fallback : String) : Option String → String
  | some "" | none => fallback
  | some s => s

/-- The result channel. -/
def channel (o : ServiceOptions) (settings : BridgeSettings) : ResultChannel where
  capacity := numberOr settings.maxTrackedResults o.capacity
  ttl := numberOr settings.resultTtlSeconds o.ttl
  connected := o.redis.isSome
  redis := o.redis.getD {}
  nesting := o.nesting

/-- The service. -/
def create (o : ServiceOptions) (server : ServerSettings) (settings : BridgeSettings) :
    Except Fault Service := do
  let delay ← match o.ackDelay with
    | some x => .ok x
    | none => settings.toolAckDelay
  return {
    bridge := {
      catalog := o.catalog
      label := textOr settings.targetLabel o.label
      ackDelay := if delay.isPositive then max (delay.scaled nanosecondsPerSecond) 1 else 0
      host := { results := o.channel settings, nesting := o.nesting } }
    server := server
    settings := settings }

end ServiceOptions

/-- The nearest double-precision number of a JSON number. -/
def Json.toNumber? : Json → Option Binary64
  | .int i => Binary64.ofInt? i
  | .float x => some x
  | _ => none

/-- A file queue in a directory that looks for response files at an interval in seconds. -/
def FileQueue.create (settings : BridgeSettings) (directory : Option String)
    (interval : Option Json) : Except Fault FileQueue := do
  let interval ← match interval with
    | some j => .ok j
    | none => settings.queuePollInterval.map Json.float
  return {
    directory := .ofString (ServiceOptions.textOr settings.queueDir directory)
    interval := interval
    nanoseconds := (interval.toNumber?.map (·.scaled nanosecondsPerSecond)).getD 0 }

namespace Service

/-- Puts a new instance into the slot. -/
def attachNew (a : Instance) : Op Service Unit := do
  let place ← onHost (Host.create a)
  onBridge (Bridge.attach place)

/-- The service as it runs unless something else is asked for: with a file queue in
the directory of the settings. -/
def attachDefault : Op Service Unit := do
  let s ← Op.get
  let q ← Op.ofExcept ((FileQueue.create s.settings s.settings.queueDir none).mapError .fault)
  attachNew { name := "file_queue", adapter := .fileQueue q }

end Service

end CommandBridge
