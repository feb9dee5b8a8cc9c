import CommandBridge.Op

/-!
# CommandBridge.Results.Redis

The Redis store that records can be written through to: texts under keys, and
a log of the calls that were made.  Any call can fail, with any fault; which ones
do is given by `faults`, a function of the number of calls made before.
Keys do not expire on their own.
-/

namespace CommandBridge

/-- The commands of the store that can fail. -/
inductive RedisCommand where
  | ping
  | get
  | setex
  deriving DecidableEq, Repr

/-- A call to the store, or to the client that connects to it. -/
inductive RedisCall where
  | connect (url : String)
  | ping
  | get (key : String)
  | setex (key : String) (ttl : Int) (text : String)
  | close
  deriving DecidableEq, Repr

/-- The store as the bridge sees it; `reported` is the number of calls that were looked at. -/
structure Redis where
  entries : List (String × String) := []
  faults : Nat → RedisCommand → Option Fault := fun _ _ => none
  calls : List RedisCall := []
  reported : Nat := 0

namespace Redis

/-- The text under a key. -/
def lookup (r : Redis) (key : String) : Option String :=
  (r.entries.find? fun e => e.1 = key).map (·.2)

/-- The store with a text under a key. -/
def write (r : Redis) (key text : String) : Redis :=
  { r with entries := (key, text) :: r.entries.filter fun e => e.1 ≠ key }

/-- Notes a call. -/
def note (c : RedisCall) : Op Redis Unit := Op.modify fun r => { r with calls := r.calls ++ [c] }

/-- Notes a call that fails if `faults` says so. -/
def attemptCall (command : RedisCommand) (c : RedisCall) : Op Redis Unit := fun r =>
  ⟨match r.faults r.calls.length command with
    | some f => .error (.fault f)
    | none => .ok (),
    { r with calls := r.calls ++ [c] }, []⟩

/-- The calls since the log was last looked at. -/
def takeCalls : Op Redis (List RedisCall) := fun r =>
  ⟨.ok (r.calls.drop r.reported), { r with reported := r.calls.length }, []⟩

/-- Asks whether the store is there. -/
def ping : Op Redis Unit := attemptCall .ping .ping

/-- The text under a key. -/
def get (key : String) : Op Redis (Option String) := do
  attemptCall .get (.get key)
  return (← Op.get).lookup key

/-- Puts a text under a key for a number of seconds. -/
def setex (key : String) (ttl : Int) (text : String) : Op Redis Unit := do
  attemptCall .setex (.setex key ttl text)
  Op.modify fun r => r.write key text

end Redis

end CommandBridge
