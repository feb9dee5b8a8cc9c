import CommandBridge.Results.Record
import CommandBridge.Results.Redis

/-!
# CommandBridge.Results.Channel

The result channel: it keeps the records of dispatched commands, takes in
outcomes and tells subscribers about them.

1. The record map holds at most `capacity` records, oldest store first.  Storing
   a record moves it to the end; what is too much goes from the front.
2. While Redis is connected, each record is also written through to it, and a
   ticket that is not in the map is looked up there.  A fault of
   Redis is logged and has no other effect, and neither has a record without a body.
3. A published outcome goes to every open subscriber queue that has room.
   A registration goes to none.

The body of a published record is made for Redis and made again for the subscribers, which is after
the record was stored and the publication logged.  A publication whose record has no body fails only
then: the record stays, and no subscriber is told.
-/

namespace CommandBridge

/-- A subscriber's queue of record bodies, not bounded if `limit` is not positive. -/
structure EventQueue where
  limit : Int
  pending : List Json := []
  isOpen : Bool := true
  deriving DecidableEq, Repr

namespace EventQueue

/-- Whether a queue takes another event. -/
def hasRoom (q : EventQueue) : Bool := q.limit ≤ 0 || q.pending.length < q.limit

/-- A queue after an event was offered to it. -/
def offer (event : Json) (q : EventQueue) : EventQueue :=
  if q.isOpen && q.hasRoom then { q with pending := q.pending ++ [event] } else q

end EventQueue

/-- The result channel.  Queues are known by their place in the list and stay
there when they are closed, with what is left in them.  `nesting` is how deep a stored text can be
nested before the reader gives up. -/
structure ResultChannel where
  capacity : Int
  ttl : Int
  records : List Record := []
  queues : List EventQueue := []
  connected : Bool := false
  redis : Redis := {}
  nesting : Nat := Json.usualNesting

namespace ResultChannel

/-- Where records can be found again. -/
def backend (c : ResultChannel) : String := if c.connected then "redis" else "memory"

/-- The number of open queues. -/
def subscriberCount (c : ResultChannel) : Nat := (c.queues.filter (·.isOpen)).length

/-! ## The record map -/

/-- The record of a ticket in a map. -/
def find? (ticket : String) (records : List Record) : Option Record :=
  records.find? fun r => r.ticket = ticket

/-- Drops records from the front until there are no more than `capacity`.  For a
negative capacity there is always one to drop, also when the map is empty. -/
def evict (capacity : Int) : List Record → Except Failure (List Record)
  | [] => if capacity < 0 then .error .nothingToEvict else .ok []
  | r :: rest => if capacity < (r :: rest).length then evict capacity rest else .ok (r :: rest)

/-- A map with a record as its newest, before anything is evicted. -/
def insertNewest (r : Record) (records : List Record) : List Record :=
  records.filter (fun x => x.ticket ≠ r.ticket) ++ [r]

/-- Puts a record into the map as the newest and evicts the oldest ones. -/
def insert (r : Record) : Op ResultChannel Unit := fun c =>
  match evict c.capacity (insertNewest r c.records) with
  | .ok kept => ⟨.ok (), { c with records := kept }, []⟩
  | .error e => ⟨.error e, { c with records := [] }, []⟩

/-! ## Redis -/

/-- The key of a ticket's record. -/
def redisKey (ticket : String) : String := "mcp:result:" ++ ticket

/-- Runs an operation on the store. -/
def onRedis {α : Type} (x : Op Redis α) : Op ResultChannel α :=
  x.on ResultChannel.redis fun r c => { c with redis := r }

/-- Reads the text of a stored record. -/
def readStored (nesting : Nat) (now : Timestamp) (text : String) : Except Failure Record :=
  match Json.readNested nesting text with
  | .error e => .error (.unreadable e)
  | .ok j =>
    match Record.ofJson now.text j with
    | .ok r => .ok r
    | .error es => .error (.invalid "ResultRecord" es)

/-- The record that is stored under a ticket; an empty text is none. -/
def fetch (now : Timestamp) (ticket : String) : Op ResultChannel (Option Record) := do
  let nesting := (← Op.get).nesting
  match ← onRedis (Redis.get (redisKey ticket)) with
  | none => return none
  | some text =>
    if text.isEmpty then return none
    else some <$> Op.ofExcept (readStored nesting now text)

/-- Writes the body of a record through to the store. -/
def writeThrough (r : Record) : Op ResultChannel Unit := do
  let ttl := (← Op.get).ttl
  let body ← Op.ofExcept r.dump
  onRedis (Redis.setex (redisKey r.ticket) ttl body.write)

/-- Uses the store at a URL from now on, if one is given and it answers. -/
def connectRedis (url : Option String) (store : Redis) : Op ResultChannel Unit := do
  if (← Op.get).connected then return
  match url.filter (!·.isEmpty) with
  | none => Op.event .results .info "redis_disabled" [("reason", .string "REDIS_URL not configured")]
  | some url =>
    Op.modify fun c => { c with redis := store }
    onRedis (Redis.note (.connect url))
    match ← (onRedis Redis.ping).attempt with
    | .ok () =>
      Op.modify fun c => { c with connected := true }
      Op.event .results .info "redis_connected" []
    | .error e =>
      Op.event .results .warning "redis_unavailable"
        [("error", .str e.text), ("result_backend", .string "memory")]
      onRedis (Redis.note .close)

/-- Lets go of the store. -/
def close : Op ResultChannel Unit := do
  if (← Op.get).connected then
    onRedis (Redis.note .close)
    Op.modify fun c => { c with connected := false }

/-! ## Records -/

/-- The record of a ticket. -/
def get (now : Timestamp) (ticket : String) : Op ResultChannel Record := do
  let c ← Op.get
  match find? ticket c.records with
  | some r => return r
  | none =>
    if c.connected then
      match ← (fetch now ticket).attempt with
      | .ok (some r) => return r
      | .ok none => pure ()
      | .error e =>
        Op.event .results .warning "result_get_failed"
          [("ticket", .string ticket), ("error", .str e.text)]
    Op.fail (.bridge (.resultNotFound ticket))

/-- The body of a ticket's record. -/
def getBody (now : Timestamp) (ticket : String) : Op ResultChannel Json := do
  Op.ofExcept (← get now ticket).dump

/-- Stores a record. -/
def store (r : Record) : Op ResultChannel Unit := do
  insert r
  if (← Op.get).connected then
    match ← (writeThrough r).attempt with
    | .ok () => pure ()
    | .error e =>
      Op.event .results .warning "result_set_failed"
        [("ticket", .string r.ticket), ("error", .str e.text)]

/-- Tracks a command as pending. -/
def register (now : Timestamp) (c : Command) : Op ResultChannel Record := do
  let r := Record.ofCommand c now
  store r
  return r

/-- Offers the body of a record to every open queue. -/
def broadcast (r : Record) : Op ResultChannel Unit := do
  let event ← Op.ofExcept r.dump
  Op.modify fun c => { c with queues := c.queues.map (EventQueue.offer event) }

/-- The status a value names; a value that names none is a failure. -/
def checkStatus (status : Json) : Op ResultChannel ResultStatus :=
  match ResultStatus.ofJson? status with
  | some s => return s
  | none => Op.fail (.unknownStatus status)

/-- Takes in the outcome of a ticket's command. -/
def publish (now : Timestamp) (ticket : String) (status result : Json) :
    Op ResultChannel Record := do
  let current ← get now ticket
  let status ← checkStatus status
  let r := current.withOutcome now status result
  store r
  Op.event .results .info "result_published"
    [("ticket", .string ticket), ("kind", .string r.kind.text), ("target", .string r.target),
      ("status", .string r.status.text)]
  broadcast r
  return r

/-- Takes in an outcome whose status is known. -/
def publishOutcome (now : Timestamp) (ticket : String) (status : ResultStatus) (result : Json) :
    Op ResultChannel Record :=
  publish now ticket (.string status.text) result

/-- Takes in an outcome, and answers with the body of the record. -/
def publishBody (now : Timestamp) (ticket : String) (status : ResultStatus) (result : Json) :
    Op ResultChannel Json := do
  Op.ofExcept (← publishOutcome now ticket status result).dump

/-! ## Subscribers -/

/-- How many events a queue holds where nothing else is said. -/
def defaultLimit : Int := 100

/-- Opens a queue and answers with its place. -/
def subscribe (limit : Int) : Op ResultChannel Nat := fun c =>
  ⟨.ok c.queues.length, { c with queues := c.queues ++ [⟨limit, [], true⟩] }, []⟩

/-- Closes a queue. -/
def unsubscribe (place : Nat) : Op ResultChannel Unit :=
  Op.modify fun c => { c with queues := c.queues.modify place fun q => { q with isOpen := false } }

/-- Takes all events out of a queue. -/
def drain (place : Nat) : Op ResultChannel (List Json) := fun c =>
  ⟨.ok ((c.queues[place]?.map (·.pending)).getD []),
    { c with queues := c.queues.modify place fun q => { q with pending := [] } }, []⟩

/-- Takes the oldest event out of a queue, if it holds one. -/
def nextEvent? (place : Nat) : Op ResultChannel (Option Json) := fun c =>
  match (c.queues[place]?.map (·.pending)).getD [] with
  | [] => ⟨.ok none, c, []⟩
  | event :: rest =>
    ⟨.ok (some event),
      { c with queues := c.queues.modify place fun q => { q with pending := rest } }, []⟩

end ResultChannel

end CommandBridge
