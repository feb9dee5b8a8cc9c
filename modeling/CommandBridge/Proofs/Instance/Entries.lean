import CommandBridge.Proofs.Instance.Conduct
import CommandBridge.Proofs.Log.Events
import CommandBridge.Proofs.Trail
import CommandBridge.Results.Stream

/-!
# CommandBridge.Proofs.Instance.Entries

What the result channel and the instances log.  Whatever they do, each of their entries is under one
of their own names (`FromHost`), so no entry about a request or a dispatch is among them.
-/

namespace CommandBridge

open Trail

/-- An entry of the result channel or of an instance. -/
def FromHost (e : Log.Entry) : Prop := e.source ∈ [.results, .callback, .fileQueue]

/-- An operation that logs as the result channel and the instances do. -/
abbrev LogsAsHost {σ α : Type} (x : Op σ α) : Prop := (words FromHost).Follows x

theorem FromHost.not_isOneOf {e : Log.Entry} (h : FromHost e) {source : Log.Source}
    (hsource : source ∉ [.results, .callback, .fileQueue]) (names : List String) :
    ¬ e.IsOneOf source names :=
  Log.not_isOneOf_of_source fun heq => hsource (heq ▸ h)

theorem Trail.Follows.hostEvent {σ : Type} {source : Log.Source}
    (hsource : source ∈ [.results, .callback, .fileQueue]) (level : Log.Level) (name : String)
    (fields : List (String × Json)) : LogsAsHost (Op.event source level name fields : Op σ Unit) :=
  .say hsource

/-! ## Redis -/

namespace Redis

theorem logs_attemptCall (command : RedisCommand) (c : RedisCall) :
    LogsAsHost (attemptCall command c) := by
  rintro r e ⟨⟩

theorem logs_get (key : String) : LogsAsHost (get key) :=
  .bind (logs_attemptCall _ _) fun _ => .bind .get fun _ => .pure _

theorem logs_setex (key : String) (ttl : Int) (text : String) : LogsAsHost (setex key ttl text) :=
  .bind (logs_attemptCall _ _) fun _ => .change _

end Redis

/-! ## The result channel -/

namespace ResultChannel

theorem logs_insert (r : Record) : LogsAsHost (insert r) := by
  intro c e he
  rw [Op.run, insert] at he
  split at he <;> cases he

theorem logs_fetch (now : Timestamp) (ticket : String) : LogsAsHost (fetch now ticket) := by
  refine .bind .get fun _ => .bind (.onPart (Redis.logs_get _)) fun r => ?_
  split
  · exact .pure _
  · exact .ite (.pure _) (.map _ (.ofExcept _))

theorem logs_writeThrough (r : Record) : LogsAsHost (writeThrough r) :=
  .bind .get fun _ => .bind (.ofExcept _) fun _ => .onPart (Redis.logs_setex _ _ _)

theorem logs_close : LogsAsHost close :=
  .bind .get fun _ => .ite (.bind (.onPart (.change _)) fun _ => .change _) (.pure _)

theorem logs_get (now : Timestamp) (ticket : String) : LogsAsHost (get now ticket) := by
  have hmissing : LogsAsHost
      (Op.fail (.bridge (.resultNotFound ticket)) : Op ResultChannel Record) :=
    .fail _
  refine .bind .get fun c => ?_
  split
  · exact .pure _
  · refine .ite (.bind (.attempt (logs_fetch now ticket)) fun r => ?_) hmissing
    split
    · exact .pure _
    · exact hmissing
    · exact .bind (.hostEvent (by decide) _ _ _) fun _ => hmissing

theorem logs_store (r : Record) : LogsAsHost (store r) := by
  refine .bind (logs_insert r) fun _ => .bind .get fun _ => ?_
  refine .ite (.bind (.attempt (logs_writeThrough r)) fun a => ?_) (.pure _)
  split
  · exact .pure _
  · exact .hostEvent (by decide) _ _ _

theorem logs_register (now : Timestamp) (c : Command) : LogsAsHost (register now c) :=
  .bind (logs_store _) fun _ => .pure _

theorem logs_publish (now : Timestamp) (ticket : String) (status result : Json) :
    LogsAsHost (publish now ticket status result) := by
  have hstatus : LogsAsHost (checkStatus status) := by
    rw [checkStatus]
    split
    · exact .pure _
    · exact .fail _
  exact .bind (logs_get now ticket) fun _ => .bind hstatus fun _ => .bind (logs_store _) fun _ =>
    .bind (.hostEvent (by decide) _ _ _) fun _ =>
      .bind (.bind (.ofExcept _) fun _ => .change _) fun _ => .pure _

theorem logs_getBody (now : Timestamp) (ticket : String) : LogsAsHost (getBody now ticket) :=
  .bind (logs_get now ticket) fun _ => .ofExcept _

theorem logs_publishBody (now : Timestamp) (ticket : String) (status : ResultStatus)
    (result : Json) : LogsAsHost (publishBody now ticket status result) :=
  .bind (logs_publish now ticket _ result) fun _ => .ofExcept _

theorem logs_subscribe (limit : Int) : LogsAsHost (subscribe limit) := by
  rintro c e ⟨⟩

theorem logs_drain (place : Nat) : LogsAsHost (drain place) := by
  rintro c e ⟨⟩

theorem logs_nextEvent? (place : Nat) : LogsAsHost (nextEvent? place) := by
  intro c e he
  rw [Op.run, nextEvent?] at he
  split at he <;> cases he

end ResultChannel

theorem ChannelOperation.logs_run (now : Timestamp) (o : ChannelOperation) :
    LogsAsHost (o.run now) := by
  cases o with
  | register c => exact .discard (ResultChannel.logs_register now c)
  | publish ticket status result => exact .discard (ResultChannel.logs_publish now _ _ _)
  | get ticket => exact .discard (ResultChannel.logs_get now ticket)
  | subscribe limit => exact .discard (ResultChannel.logs_subscribe limit)
  | unsubscribe place => exact .change _
  | drain place => exact .discard (ResultChannel.logs_drain place)

/-! ## Event streams -/

namespace EventStream

theorem logs_next (s : EventStream) : LogsAsHost s.next := by
  rw [next]
  split
  · exact .pure _
  · exact .bind (ResultChannel.logs_subscribe _) fun _ => .bind .get fun _ => .pure _
  · refine .ite (.bind (.change _) fun _ => .pure _) (.ite (.pure _) ?_)
    refine .bind (ResultChannel.logs_nextEvent? _) fun r => ?_
    split
    · exact .pure _
    · exact .pure _

theorem logs_close (s : EventStream) : LogsAsHost s.close := by
  rw [close]
  split
  · exact .bind (.change _) fun _ => .pure _
  · exact .pure _

end EventStream

/-! ## Instances -/

namespace Host

theorem logs_onResults {α : Type} {x : Op ResultChannel α} (hx : LogsAsHost x) :
    LogsAsHost (onResults x) := .onPart hx

theorem logs_onFiles (f : FileTree → Except Failure FileTree) : LogsAsHost (onFiles f) := by
  intro h e he
  rw [Op.run, onFiles] at he
  split at he <;> cases he

end Host

open Host

namespace Recording

theorem logs_act (now : Timestamp) (i : Nat) (c : Command) (action : ChannelAction) :
    LogsAsHost (act now i c action) := by
  refine .bind .get fun h => ?_
  have hx : LogsAsHost (if (h.instanceAt i).holdsChannel then
      onResults ((action.operation c).run now)
      else Op.fail (.fault (noChannel (action.operation c).name))) :=
    .ite (logs_onResults (ChannelOperation.logs_run now _)) (.fail _)
  exact .ite (.discard (.attempt hx)) hx

theorem logs_deliver (now : Timestamp) (i : Nat) (r : Recording) (c : Command) :
    LogsAsHost (r.deliver now i c) := by
  refine .bind (.change _) fun _ =>
    .bind (.forM (fun action => logs_act now i c action) _) fun _ => ?_
  split
  · exact .pure _
  · exact .fail _

end Recording

namespace FileQueue

theorem logs_writeAtomic (p : Path) (bytes : List UInt8) : LogsAsHost (writeAtomic p bytes) := by
  have hwrite : LogsAsHost (do
      onFiles fun t => t.write (temporary p) bytes
      onFiles fun t => t.rename (temporary p) p) :=
    .bind (logs_onFiles _) fun _ => logs_onFiles _
  exact .ite (.bind (.fail _) fun _ => hwrite) hwrite

theorem logs_deliver (q : FileQueue) (c : Command) : LogsAsHost (q.deliver c) := by
  refine .bind (.attempt (logs_writeAtomic _ _)) fun r => ?_
  split
  · exact .pure _
  · exact .ite (.pure _) (.fail _)

theorem logs_removeIfPresent (p : Path) : LogsAsHost (removeIfPresent p) := by
  refine .bind (.attempt (logs_onFiles _)) fun r => ?_
  split
  · exact .pure _
  · exact .ite (.pure _) (.fail _)

theorem logs_collectFile (now : Timestamp) (i : Nat) (q : FileQueue) (name : String) :
    LogsAsHost (collectFile now i q name) := by
  refine .bind .get fun h => .bind (.ofExcept _) fun o => ?_
  refine .bind (.discard (logs_removeIfPresent _)) fun _ => ?_
  refine .bind (.discard (logs_removeIfPresent _)) fun _ => .bind .get fun h' => ?_
  refine .ite (.bind (.attempt (logs_onResults (ResultChannel.logs_publish now _ _ _))) fun r => ?_)
    (.pure _)
  split
  · exact .pure _
  · exact .hostEvent (by decide) _ _ _
  · exact .fail _

theorem logs_collect (now : Timestamp) (i : Nat) (q : FileQueue) : LogsAsHost (collect now i q) :=
  .bind .get fun _ => .bind (.forM (fun name => logs_collectFile now i q name) _) fun _ => .pure _

theorem logs_open (i : Nat) (q : FileQueue) : LogsAsHost (q.open i) :=
  .bind .get fun _ => .bind (.put _) fun _ => .bind (.change _) fun _ => .bind (.change _) fun _ =>
    .hostEvent (by decide) _ _ _

theorem logs_stopCollector (i : Nat) (q : FileQueue) : LogsAsHost (stopCollector i q) := by
  rw [stopCollector]
  split
  · exact .pure _
  · refine .bind .get fun h => ?_
    split
    · exact .fail _
    · exact .bind (.change _) fun _ => .change _

theorem logs_close (i : Nat) (q : FileQueue) : LogsAsHost (q.close i) := by
  refine .bind (logs_stopCollector i q) fun _ => .bind .get fun h => ?_
  exact .bind (.mapM (fun _ => logs_removeIfPresent _) _) fun _ => .hostEvent (by decide) _ _ _

theorem logs_round (now : Timestamp) (c : Collector) : LogsAsHost (round now c) := by
  refine .bind .get fun h => ?_
  split
  · refine .bind (.attempt (logs_collect now _ _)) fun r => ?_
    dsimp only
    split
    · exact .change _
    · exact .ite (.bind (.hostEvent (by decide) _ _ _) fun _ => .change _) (.change _)
  · exact .pure _

theorem logs_runDue (now : Timestamp) : LogsAsHost (runDue now) :=
  .bind .get fun _ => .forM (fun c => logs_round now c) _

end FileQueue

namespace Callback

theorem logs_nextOutcome (i : Nat) : LogsAsHost (nextOutcome i) := by
  refine .bind .get fun h => ?_
  split
  · exact .bind (.change _) fun _ => .pure _
  · exact .pure _

theorem logs_runHandler (place : Nat) : LogsAsHost (runHandler place) := by
  refine .bind .get fun h => ?_
  split
  · exact .pure _
  · split
    · exact .bind (logs_nextOutcome _) fun _ => .bind (.change _) fun _ => .pure _
    · exact .pure _

theorem logs_notice (place : Nat) : LogsAsHost (notice place) := by
  refine .bind .get fun h => ?_
  split
  · exact .pure _
  · split
    · refine .ite (.change _) ?_
      dsimp only
      split
      · exact .bind (.hostEvent (by decide) _ _ _) fun _ => .change _
      · exact .change _
    · exact .pure _

theorem logs_publish (now : Timestamp) (place : Nat) : LogsAsHost (publish now place) := by
  refine .bind .get fun h => ?_
  split
  · exact .pure _
  · split
    · refine .bind (.attempt (logs_onResults (ResultChannel.logs_publish now _ _ _))) fun r => ?_
      dsimp only
      split
      · exact .bind (.hostEvent (by decide) _ _ _) fun _ => .change _
      · exact .change _
    · exact .pure _

theorem logs_runCalls (now : Timestamp) (limit : Option Nat) (newestFirst : Bool) :
    LogsAsHost (runCalls now limit newestFirst) :=
  .bind .get fun _ => .bind (.mapM logs_runHandler _) fun _ => .bind (.forM logs_notice _) fun _ =>
    .bind (.forM (logs_publish now) _) fun _ => .bind (.change _) fun _ => .pure _

end Callback

namespace Host

theorem logs_openInstance (i : Nat) : LogsAsHost (openInstance i) := by
  refine .bind (.change _) fun _ => .bind .get fun h => ?_
  split
  · refine .bind (.change _) fun _ => ?_
    split
    · exact .fail _
    · exact .change _
  · exact .change _
  · exact FileQueue.logs_open i _

theorem logs_closeInstance (i : Nat) : LogsAsHost (closeInstance i) := by
  refine .bind (.change _) fun _ => .bind .get fun h => ?_
  split
  · exact .change _
  · exact .bind (.change _) fun _ => .change _
  · exact .bind (FileQueue.logs_close i _) fun _ => .change _

theorem logs_deliver (now : Timestamp) (i : Nat) (c : Command) : LogsAsHost (deliver now i c) := by
  refine .bind .get fun h => ?_
  split
  · exact Recording.logs_deliver now i _ c
  · exact .bind (.change _) fun _ => .pure _
  · exact FileQueue.logs_deliver _ c

end Host

theorem Background.logs_run (now : Timestamp) (x : Background) : LogsAsHost (x.run now) := by
  cases x with
  | runHandler place => exact .discard (Callback.logs_runHandler place)
  | notice place => exact Callback.logs_notice place
  | publish place => exact Callback.logs_publish now place
  | runCalls limit newestFirst => exact .discard (Callback.logs_runCalls now limit newestFirst)
  | collect place =>
      refine .bind .get fun h => ?_
      split
      · exact .discard (FileQueue.logs_collect now place _)
      · exact .pure _
  | collectDue => exact FileQueue.logs_runDue now
  | files t => exact .change _
  | wait time => exact .change _

end CommandBridge
