import CommandBridge.Proofs.Alike
import CommandBridge.Results.Channel

/-!
# CommandBridge.Proofs.Results.Storing

Looking up and storing records, on channels that are alike.  It is enough that the two channels
have the same records and the same use of Redis, and that the map and Redis themselves treat them
alike (`Storing`): then so does everything that is made of these.
-/

namespace CommandBridge

/-- A likeness of channels with the same records, that putting a record into the map and calls to
Redis respect. -/
structure Likeness.Storing (V : Likeness ResultChannel) : Prop where
  records : ∀ c c', V.states c c' → c'.records = c.records
  connected : ∀ c c', V.states c c' → c'.connected = c.connected
  ttl : ∀ c c', V.states c c' → c'.ttl = c.ttl
  nesting : ∀ c c', V.states c c' → c'.nesting = c.nesting
  insert : ∀ r, V.Respects (ResultChannel.insert r)
  lookup : ∀ key, V.Respects (ResultChannel.onRedis (Redis.get key))
  write : ∀ key ttl text, V.Respects (ResultChannel.onRedis (Redis.setex key ttl text))

namespace Likeness

open ResultChannel

variable {V : Likeness ResultChannel}

theorem respects_checkStatus (status : Json) : V.Respects (checkStatus status) := by
  unfold checkStatus
  split
  · exact .pure rfl
  · exact .fail _

namespace Storing

variable (hV : V.Storing)
include hV

theorem respects_fetch (now : Timestamp) (ticket : String) : V.Respects (fetch now ticket) := by
  refine .get_bind fun c c' hc => ?_
  rw [hV.nesting c c' hc]
  refine .bind (hV.lookup _) fun text? => ?_
  cases text? with
  | none => exact .pure rfl
  | some text =>
      dsimp only
      split
      · exact .pure rfl
      · exact .map (.ofExcept (answers_eq.mpr rfl)) fun _ _ => congrArg some

theorem respects_get (now : Timestamp) (ticket : String) : V.Respects (get now ticket) := by
  refine .get_bind fun c c' hc => ?_
  rw [hV.records c c' hc, hV.connected c c' hc]
  split
  · exact .pure rfl
  · split
    · refine .bind (.attempt_eq (hV.respects_fetch now ticket)) fun r => ?_
      split
      · exact .pure rfl
      · exact .fail _
      · exact .bind (.event _ _ _ _) fun _ => .fail _
    · exact .fail _

theorem respects_writeThrough (r : Record) : V.Respects (writeThrough r) := by
  refine .get_bind fun c c' hc => ?_
  rw [hV.ttl c c' hc]
  exact .bind (.ofExcept (answers_eq.mpr rfl)) fun _ => hV.write _ _ _

theorem respects_store (r : Record) : V.Respects (store r) := by
  refine .bind (hV.insert r) fun _ => .get_bind fun c c' hc => ?_
  rw [hV.connected c c' hc]
  split
  · refine .bind (.attempt_eq (hV.respects_writeThrough r)) fun r => ?_
    split
    · exact .pure rfl
    · exact .event _ _ _ _
  · exact .pure rfl

theorem respects_register (now : Timestamp) (command : Command) :
    V.Respects (register now command) := .bind (hV.respects_store _) fun _ => .pure rfl

end Storing

end Likeness

end CommandBridge
