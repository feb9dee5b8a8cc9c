import CommandBridge.Proofs.Alike
import CommandBridge.Proofs.Instance.Conduct

/-!
# CommandBridge.Proofs.Instance.Uniform

Hosts that differ in their result channel only.  If everything that can be asked of a channel
treats channels alike (`Uniform`), then everything that instances do treats hosts alike that have
such channels: they use the channel, but never look into it.
-/

namespace CommandBridge

/-- A likeness of channels that is respected by everything that can be asked of a channel. -/
structure Likeness.Uniform (V : Likeness ResultChannel) : Prop where
  register : ∀ now command, V.Respects (ResultChannel.register now command)
  publish : ∀ now ticket status result,
    V.Respects (ResultChannel.publish now ticket status result)
  get : ∀ now ticket, V.Respects (ResultChannel.get now ticket)
  subscribe : ∀ limit, V.Respects (ResultChannel.subscribe limit)
  unsubscribe : ∀ place, V.Respects (ResultChannel.unsubscribe place)
  drain : ∀ place, V.Respects (ResultChannel.drain place)

theorem Likeness.Uniform.run {V : Likeness ResultChannel} (hV : V.Uniform) (now : Timestamp)
    (o : ChannelOperation) : V.Respects (o.run now) := by
  cases o with
  | register command => exact .discard (hV.register now command)
  | publish ticket status result => exact .discard (hV.publish now ticket status result)
  | get ticket => exact .discard (hV.get now ticket)
  | subscribe limit => exact .discard (hV.subscribe limit)
  | unsubscribe place => exact hV.unsubscribe place
  | drain place => exact .discard (hV.drain place)

/-- Hosts that have alike channels and are the same otherwise. -/
def Likeness.hosts (V : Likeness ResultChannel) : Likeness Host where
  states h h' := ∃ c', V.states h.results c' ∧ h' = { h with results := c' }
  lost h := V.lost h.results
  logs := V.logs
  states_of_lost h hl := ⟨h.results, V.states_of_lost _ hl, rfl⟩
  logs_refl := V.logs_refl
  logs_append := V.logs_append

variable {V : Likeness ResultChannel} {α β : Type}

namespace Likeness

/-- What comes after a look at a host that is not a look at its channel. -/
theorem hosts_get_bind {f : Host → Op Host β} (hsame : ∀ h c', f { h with results := c' } = f h)
    (h : ∀ h, V.hosts.Respects (f h)) : V.hosts.Respects (Op.get >>= f) := by
  refine .get_bind ?_
  rintro g _ ⟨c', -, rfl⟩
  rw [hsame g c']
  exact h g

/-- A change of a host that leaves its channel alone. -/
theorem hosts_modify {f : Host → Host} (hkeep : ∀ h, (f h).results = h.results)
    (hsame : ∀ h c', f { h with results := c' } = { f h with results := c' }) :
    V.hosts.Respects (Op.modify f) := by
  refine .modify ?_ ?_
  · rintro g _ ⟨c', hc, rfl⟩
    exact ⟨c', (hkeep g).symm ▸ hc, hsame g c'⟩
  · intro g hl
    show V.lost (f g).results
    rwa [hkeep]

end Likeness

open Likeness

namespace Host

theorem respects_update (i : Nat) (f : Instance → Instance) :
    V.hosts.Respects (update i f) :=
  hosts_modify (fun _ => rfl) fun _ _ => rfl

theorem respects_onResults {x : Op ResultChannel α} (hx : V.Respects x) :
    V.hosts.Respects (onResults x) := by
  refine .on hx ?_ ?_ (fun _ => id) (fun _ _ => id) (fun _ _ => id)
  · rintro h _ ⟨c', hc, rfl⟩
    exact hc
  · rintro h _ c d ⟨c', -, rfl⟩ hcd
    exact ⟨d, hcd, rfl⟩

theorem respects_onFiles (f : FileTree → Except Failure FileTree) :
    V.hosts.Respects (onFiles f) := by
  rintro h _ ⟨c', hc, rfl⟩
  show (V.lost h.results → V.lost (onFiles f h).state.results) ∧
    (V.lost (onFiles f h).state.results ∨
      V.hosts.Outcomes Eq (onFiles f h) (onFiles f { h with results := c' }))
  unfold onFiles
  cases f h.files with
  | ok t => exact ⟨id, .inr ⟨answers_eq.mpr rfl, ⟨c', hc, rfl⟩, V.logs_refl _⟩⟩
  | error e => exact ⟨id, .inr ⟨answers_eq.mpr rfl, ⟨c', hc, rfl⟩, V.logs_refl _⟩⟩

end Host

open Host

/-! ## Recording instances -/

namespace Recording

theorem respects_act (hV : V.Uniform) (now : Timestamp) (i : Nat) (c : Command)
    (action : ChannelAction) : V.hosts.Respects (act now i c action) := by
  refine hosts_get_bind (fun _ _ => rfl) fun h => ?_
  have hx : V.hosts.Respects (if (h.instanceAt i).holdsChannel then
      onResults ((action.operation c).run now)
      else Op.fail (.fault (noChannel (action.operation c).name))) :=
    .ite (fun _ => respects_onResults (hV.run now _)) fun _ => .fail _
  exact .ite (fun _ => .discard (.attempt_eq hx)) fun _ => hx

theorem respects_deliver (hV : V.Uniform) (now : Timestamp) (i : Nat) (r : Recording)
    (c : Command) : V.hosts.Respects (r.deliver now i c) := by
  refine .bind (respects_update i _) fun _ => ?_
  refine .bind (.forM fun action _ => respects_act hV now i c action) fun _ => ?_
  split
  · exact .pure rfl
  · exact .fail _

end Recording

/-! ## Callback instances -/

namespace Callback

theorem respects_deliver (i : Nat) (c : Command) : V.hosts.Respects (deliver i c) :=
  .bind (hosts_modify (fun _ => rfl) fun _ _ => rfl) fun _ => .pure rfl

theorem respects_close (i : Nat) : V.hosts.Respects (close i) :=
  hosts_modify (fun _ => rfl) fun _ _ => rfl

theorem respects_stage (place : Nat) (stage : CallStage) :
    V.hosts.Respects (Op.modify fun h => { h with
      calls := h.calls.modify place fun c => { c with stage := stage } }) :=
  hosts_modify (fun _ => rfl) fun _ _ => rfl

theorem respects_nextOutcome (i : Nat) : V.hosts.Respects (nextOutcome i) := by
  refine hosts_get_bind (fun _ _ => rfl) fun h => ?_
  split
  · exact .bind (respects_update i _) fun _ => .pure rfl
  · exact .pure rfl

theorem respects_runHandler (place : Nat) : V.hosts.Respects (runHandler place) := by
  refine hosts_get_bind (fun _ _ => rfl) fun h => ?_
  split
  · exact .pure rfl
  · split
    · exact .bind (respects_nextOutcome _) fun _ =>
        .bind (respects_stage place _) fun _ => .pure rfl
    · exact .pure rfl

theorem respects_notice (place : Nat) : V.hosts.Respects (notice place) := by
  refine hosts_get_bind (fun _ _ => rfl) fun h => ?_
  split
  · exact .pure rfl
  · split
    · refine .ite (fun _ => respects_stage place _) fun _ => ?_
      dsimp only
      split
      · exact .bind (.event _ _ _ _) fun _ => respects_stage place _
      · exact respects_stage place _
    · exact .pure rfl

theorem respects_publish (hV : V.Uniform) (now : Timestamp) (place : Nat) :
    V.hosts.Respects (publish now place) := by
  refine hosts_get_bind (fun _ _ => rfl) fun h => ?_
  split
  · exact .pure rfl
  · split
    · refine .bind (.attempt_eq (respects_onResults (hV.publish now _ _ _))) fun r => ?_
      dsimp only
      split
      · exact .bind (.event _ _ _ _) fun _ => respects_stage place _
      · exact respects_stage place _
    · exact .pure rfl

theorem respects_runCalls (hV : V.Uniform) (now : Timestamp) (limit : Option Nat)
    (newestFirst : Bool) : V.hosts.Respects (runCalls now limit newestFirst) := by
  refine hosts_get_bind (fun _ _ => rfl) fun h => ?_
  refine .bind (.mapM fun place _ => respects_runHandler place) fun ran => ?_
  refine .bind (.forM fun place _ => respects_notice place) fun _ => ?_
  refine .bind (.forM fun place _ => respects_publish hV now place) fun _ => ?_
  exact .bind (hosts_modify (fun _ => rfl) fun _ _ => rfl) fun _ => .pure rfl

end Callback

/-! ## File queues -/

namespace FileQueue

theorem respects_writeAtomic (p : Path) (bytes : List UInt8) :
    V.hosts.Respects (writeAtomic p bytes) := by
  have hwrite : V.hosts.Respects (do
      onFiles fun t => t.write (temporary p) bytes
      onFiles fun t => t.rename (temporary p) p) :=
    .bind (respects_onFiles _) fun _ => respects_onFiles _
  exact .ite (fun _ => .bind (.fail _) fun _ => hwrite) fun _ => hwrite

theorem respects_deliver (q : FileQueue) (c : Command) : V.hosts.Respects (q.deliver c) := by
  refine .bind (.attempt_eq (respects_writeAtomic _ _)) fun r => ?_
  split
  · exact .pure rfl
  · exact .ite (fun _ => .pure rfl) fun _ => .fail _

theorem respects_removeIfPresent (p : Path) : V.hosts.Respects (removeIfPresent p) := by
  refine .bind (.attempt_eq (respects_onFiles _)) fun r => ?_
  split
  · exact .pure rfl
  · exact .ite (fun _ => .pure rfl) fun _ => .fail _

theorem respects_collectFile (hV : V.Uniform) (now : Timestamp) (i : Nat) (q : FileQueue)
    (name : String) : V.hosts.Respects (collectFile now i q name) := by
  refine hosts_get_bind (fun _ _ => rfl) fun h => .bind (.ofExcept (answers_eq.mpr rfl)) fun o => ?_
  refine .bind (.discard (respects_removeIfPresent _)) fun _ => ?_
  refine .bind (.discard (respects_removeIfPresent _)) fun _ => ?_
  refine hosts_get_bind (fun _ _ => rfl) fun h' => ?_
  refine .ite (fun _ => ?_) fun _ => .pure rfl
  refine .bind (.attempt_eq (respects_onResults (hV.publish now _ _ _))) fun r => ?_
  split
  · exact .pure rfl
  · exact .event _ _ _ _
  · exact .fail _

theorem respects_collect (hV : V.Uniform) (now : Timestamp) (i : Nat) (q : FileQueue) :
    V.hosts.Respects (collect now i q) :=
  hosts_get_bind (fun _ _ => rfl) fun _ =>
    .bind (.forM fun name _ => respects_collectFile hV now i q name) fun _ => .pure rfl

theorem respects_open (i : Nat) (q : FileQueue) : V.hosts.Respects (q.open i) := by
  have hrest : ∀ n, V.hosts.Respects (do
      FileQueue.put i { q with collector := some n }
      update i fun a => { a with holdsChannel := true }
      Op.event .fileQueue .info "file_queue_opened"
        [("queue_dir", .string q.directory.toString), ("poll_interval", q.interval)]) :=
    fun n => .bind (respects_update i _) fun _ => .bind (respects_update i _) fun _ =>
      .event _ _ _ _
  rintro h _ ⟨c', hc, rfl⟩
  -- after the look at the host, all that differs in what is put in its place is the channel
  exact hrest h.collectorsStarted
    { h with
      collectors := h.collectors ++ [⟨h.collectorsStarted, i, .due h.clock⟩]
      collectorsStarted := h.collectorsStarted + 1 } _ ⟨c', hc, rfl⟩

theorem respects_stopCollector (i : Nat) (q : FileQueue) :
    V.hosts.Respects (stopCollector i q) := by
  rw [stopCollector]
  split
  · exact .pure rfl
  · refine hosts_get_bind (fun _ _ => rfl) fun h => ?_
    split
    · exact .fail _
    · exact .bind (hosts_modify (fun _ => rfl) fun _ _ => rfl) fun _ => respects_update i _

theorem respects_close (i : Nat) (q : FileQueue) : V.hosts.Respects (q.close i) := by
  refine .bind (respects_stopCollector i q) fun _ => hosts_get_bind (fun _ _ => rfl) fun h => ?_
  exact .bind (.mapM fun _ _ => respects_removeIfPresent _) fun _ => .event _ _ _ _

theorem respects_round (hV : V.Uniform) (now : Timestamp) (c : Collector) :
    V.hosts.Respects (round now c) := by
  refine hosts_get_bind (fun _ _ => rfl) fun h => ?_
  split
  · next q _ =>
    have hstage : ∀ failure, V.hosts.Respects (Op.modify fun h : Host => { h with
        collectors := h.collectors.map fun d =>
          if d.id = c.id then { d with stage := nextStage h.clock q.nanoseconds failure }
          else d }) :=
      fun _ => hosts_modify (fun _ => rfl) fun _ _ => rfl
    refine .bind (.attempt_eq (respects_collect hV now _ q)) fun r => ?_
    dsimp only
    split
    · exact hstage _
    · exact .ite (fun _ => .bind (.event _ _ _ _) fun _ => hstage _) fun _ => hstage _
  · exact .pure rfl

theorem respects_runDue (hV : V.Uniform) (now : Timestamp) :
    V.hosts.Respects (runDue now) :=
  hosts_get_bind (fun _ _ => rfl) fun _ => .forM fun c _ => respects_round hV now c

end FileQueue

/-! ## Instances of every sort -/

namespace Host

theorem respects_openInstance (i : Nat) : V.hosts.Respects (openInstance i) := by
  refine .bind (respects_update i _) fun _ => hosts_get_bind (fun _ _ => rfl) fun h => ?_
  split
  · refine .bind (respects_update i _) fun _ => ?_
    split
    · exact .fail _
    · exact respects_update i _
  · exact respects_update i _
  · exact FileQueue.respects_open i _

theorem respects_closeInstance (i : Nat) : V.hosts.Respects (closeInstance i) := by
  have hback : V.hosts.Respects (update i fun a => { a with holdsChannel := false }) :=
    respects_update i _
  refine .bind (respects_update i _) fun _ => hosts_get_bind (fun _ _ => rfl) fun h => ?_
  split
  · exact hback
  · exact .bind (Callback.respects_close i) fun _ => hback
  · exact .bind (FileQueue.respects_close i _) fun _ => hback

theorem respects_deliver (hV : V.Uniform) (now : Timestamp) (i : Nat) (c : Command) :
    V.hosts.Respects (deliver now i c) := by
  refine hosts_get_bind (fun _ _ => rfl) fun h => ?_
  split
  · exact Recording.respects_deliver hV now i _ c
  · exact Callback.respects_deliver i c
  · exact FileQueue.respects_deliver _ c

end Host

/-! ## The background -/

namespace Background

theorem respects_run (hV : V.Uniform) (now : Timestamp) (x : Background) :
    V.hosts.Respects (x.run now) := by
  cases x with
  | runHandler place => exact .discard (Callback.respects_runHandler place)
  | notice place => exact Callback.respects_notice place
  | publish place => exact Callback.respects_publish hV now place
  | runCalls limit newestFirst =>
      exact .discard (Callback.respects_runCalls hV now limit newestFirst)
  | collect place =>
      refine hosts_get_bind (fun _ _ => rfl) fun h => ?_
      split
      · exact .discard (FileQueue.respects_collect hV now place _)
      · exact .pure rfl
  | collectDue => exact FileQueue.respects_runDue hV now
  | files t => exact hosts_modify (fun _ => rfl) fun _ _ => rfl
  | wait time => exact hosts_modify (fun _ => rfl) fun _ _ => rfl

end Background

end CommandBridge
