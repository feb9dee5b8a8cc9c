import CommandBridge.Instance.Operations
import CommandBridge.Proofs.Keeps
import Mathlib.Data.List.Basic

/-!
# CommandBridge.Proofs.Instance.Conduct

What instances do to the host they share, when commands are delivered to them, when handler calls
take their steps and when response files are collected.

On the result channel they do what their scripts say, and publish outcomes that are not
pending (`publication_status`, `responseAt_status`).  So a property of the channel that such
operations keep is kept by all of this, and so is every property of the tenures
(`Conduct`): only opening and closing an instance changes its tenure.
-/

namespace CommandBridge

/-- How often an instance was opened and closed, and whether it holds the result channel. -/
structure Tenure where
  opens : Nat
  closes : Nat
  holdsChannel : Bool
  deriving DecidableEq, Repr

/-- The tenure of an instance. -/
def Instance.tenure (a : Instance) : Tenure := ⟨a.opens, a.closes, a.holdsChannel⟩

/-- The tenures of all instances. -/
def Host.tenures (h : Host) : List Tenure := h.instances.map Instance.tenure

theorem forall_mem_modify {α : Type} {P : α → Prop} {f : α → α} {l : List α} {i : Nat}
    (h : ∀ a ∈ l, P a) (hf : ∀ a ∈ l, P (f a)) : ∀ a ∈ l.modify i f, P a := by
  intro a ha
  obtain ⟨j, hj⟩ := List.mem_iff_getElem?.mp ha
  rw [List.getElem?_modify] at hj
  obtain ⟨b, hb, rfl⟩ := Option.map_eq_some_iff.mp hj
  have hmem := List.mem_of_getElem? hb
  split
  · exact hf b hmem
  · exact h b hmem

/-! ## Operations that instances may do -/

section

variable (ok : ChannelOperation → Prop)

/-- Every operation in the scripts of an adapter is one of `ok`. -/
def Adapter.Scripted : Adapter → Prop
  | .recording r => ∀ d ∈ r.deliveries, ∀ action ∈ d.actions, ∀ c, ok (action.operation c)
  | _ => True

/-- What a handler call is about to publish is one of `ok`. -/
def HandlerCall.Scripted (call : HandlerCall) : Prop :=
  match call.stage with
  | .publishing status result =>
    ok (.publish call.command.ticket (.string status.text) result)
  | _ => True

/-- Among `ok` are all publications of outcomes that are not pending, and what is done of them at
a time keeps `Q`. -/
structure Harmless (now : Timestamp) (Q : ResultChannel → Prop) : Prop where
  outcome : ∀ ticket status result, status ≠ .pending →
    ok (.publish ticket (.string (ResultStatus.text status)) result)
  keeps : ∀ o, ok o → (o.run now).Keeps Q

end

/-- A host whose instances will do on the channel what is among `ok`; of the tenures it is known
that `T`, and of the channel that `Q`. -/
structure Conduct (ok : ChannelOperation → Prop) (T : List Tenure → Prop)
    (Q : ResultChannel → Prop) (h : Host) : Prop where
  tenures : T h.tenures
  results : Q h.results
  scripts : ∀ a ∈ h.instances, a.adapter.Scripted ok
  calls : ∀ call ∈ h.calls, call.Scripted ok

variable {ok : ChannelOperation → Prop} {now : Timestamp} {T : List Tenure → Prop}
  {Q : ResultChannel → Prop}

theorem Harmless.publish (hok : Harmless ok now Q) {ticket : String}
    {status : ResultStatus} {result : Json}
    (h : ok (.publish ticket (.string status.text) result)) :
    (ResultChannel.publishOutcome now ticket status result).Keeps Q :=
  .of_discard (hok.keeps _ h)

theorem Conduct.scriptAt {h : Host} (hh : Conduct ok T Q h) (i : Nat) :
    (h.instanceAt i).adapter.Scripted ok := by
  rw [Host.instanceAt]
  cases ha : h.instances[i]? with
  | none => simp [Adapter.Scripted, default, instInhabitedInstance.default]
  | some a => exact hh.scripts a (List.mem_of_getElem? ha)

/-! ## The host -/

namespace Host

theorem tenures_update {f : Instance → Instance} {g : Tenure → Tenure}
    (hfg : ∀ a, (f a).tenure = g a.tenure) (h : Host) (i : Nat) :
    ((update i f).run h).state.tenures = h.tenures.modify i g := by
  show (h.instances.modify i f).map Instance.tenure = (h.instances.map Instance.tenure).modify i g
  apply List.ext_getElem?
  intro j
  simp only [List.getElem?_map, List.getElem?_modify]
  cases h.instances[j]? with
  | none => rfl
  | some a => by_cases hij : i = j <;> simp [hij, hfg]

theorem tenures_getElem? {h : Host} {i : Nat} (hi : i < h.instances.length) :
    h.tenures[i]? = some (h.instanceAt i).tenure := by
  rw [tenures, List.getElem?_map, instanceAt, List.getElem?_eq_getElem hi]
  rfl

/-- An instance can get another script, if that is one of `ok`. -/
theorem keeps_adapter (i : Nat) {adapter : Adapter} (hadapter : adapter.Scripted ok) :
    (update i fun a => { a with adapter := adapter }).Keeps (Conduct ok T Q) := by
  intro h hh
  have htenures : ((update i fun a => { a with adapter := adapter }).run h).state.tenures =
      h.tenures := by
    rw [tenures_update (f := fun a => { a with adapter := adapter }) (g := id) fun _ => rfl,
      List.modify_id]
  exact ⟨htenures ▸ hh.tenures, hh.results,
    forall_mem_modify hh.scripts fun _ _ => hadapter, hh.calls⟩

theorem keeps_onResults {α : Type} {x : Op ResultChannel α} (hx : x.Keeps Q) :
    (onResults x).Keeps (Conduct ok T Q) :=
  .on fun h hh => ⟨hh.tenures, hx h.results hh.results, hh.scripts, hh.calls⟩

theorem keeps_onFiles (f : FileTree → Except Failure FileTree) :
    (onFiles f).Keeps (Conduct ok T Q) := by
  intro h hh
  show Conduct ok T Q (onFiles f h).state
  unfold onFiles
  split <;> exact ⟨hh.tenures, hh.results, hh.scripts, hh.calls⟩

/-- The handler calls can change, if what they are about to publish is among `ok`. -/
theorem conduct_calls {h : Host} (hh : Conduct ok T Q h) {calls : List HandlerCall}
    (hcalls : ∀ call ∈ calls, call.Scripted ok) : Conduct ok T Q { h with calls := calls } :=
  ⟨hh.tenures, hh.results, hh.scripts, hcalls⟩

theorem keeps_stage (place : Nat) {stage : CallStage}
    (hstage : ∀ call : HandlerCall, { call with stage := stage }.Scripted ok) :
    (Op.modify fun h => { h with
      calls := h.calls.modify place fun c => { c with stage := stage } }).Keeps (Conduct ok T Q) :=
  .modify fun _ hh => conduct_calls hh (forall_mem_modify hh.calls fun call _ => hstage call)

end Host

open Host

/-! ## Recording instances -/

namespace Recording

theorem keeps_act (hok : Harmless ok now Q) (i : Nat) (c : Command)
    {action : ChannelAction} (haction : ok (action.operation c)) :
    (act now i c action).Keeps (Conduct ok T Q) := by
  refine .get_bind fun h hh => ?_
  have hx : (if (h.instanceAt i).holdsChannel then
      onResults ((action.operation c).run now)
      else Op.fail (.fault (noChannel (action.operation c).name))).Keeps (Conduct ok T Q) :=
    .ite (fun _ => keeps_onResults (hok.keeps _ haction)) fun _ => .fail _
  exact Op.Keeps.ite (fun _ => .discard hx.attempt) (fun _ => hx) h hh

theorem keeps_deliver (hok : Harmless ok now Q) (i : Nat) (c : Command)
    {r : Recording} (hr : (Adapter.recording r).Scripted ok) :
    (r.deliver now i c).Keeps (Conduct ok T Q) := by
  have hrest : (Adapter.recording { r with
      received := r.received ++ [c], deliveries := r.deliveries.tail }).Scripted ok :=
    fun d hd => hr d (List.mem_of_mem_tail hd)
  refine .bind (keeps_adapter i hrest) fun _ => ?_
  refine .bind (.forM fun action haction => keeps_act hok i c ?_) fun _ => ?_
  · cases hhead : r.deliveries.head? with
    | none =>
        rw [hhead] at haction
        simp at haction
    | some d =>
        rw [hhead] at haction
        exact hr d (List.mem_of_head? hhead) action haction c
  · split
    · exact .pure _
    · exact .fail _

end Recording

/-! ## Callback instances -/

namespace Callback

theorem keeps_deliver (i : Nat) (c : Command) : (deliver i c).Keeps (Conduct ok T Q) := by
  refine .bind (.modify fun h hh => conduct_calls hh fun call hcall => ?_) fun _ => .pure _
  rcases List.mem_append.mp hcall with hold | hnew
  · exact hh.calls call hold
  · obtain rfl := List.mem_singleton.mp hnew
    trivial

theorem keeps_close (i : Nat) : (close i).Keeps (Conduct ok T Q) := by
  refine .modify fun h hh => conduct_calls hh (List.forall_mem_map.mpr fun call hcall => ?_)
  rw [cancel]
  split
  · trivial
  · exact hh.calls call hcall

theorem keeps_nextOutcome (i : Nat) : (nextOutcome i).Keeps (Conduct ok T Q) := by
  refine .bind .get fun h => ?_
  split
  · exact .bind (keeps_adapter i trivial) fun _ => .pure _
  · exact .pure _

theorem keeps_runHandler (place : Nat) : (runHandler place).Keeps (Conduct ok T Q) := by
  refine .bind .get fun h => ?_
  split
  · exact .pure _
  · split
    · exact .bind (keeps_nextOutcome _) fun _ =>
        .bind (keeps_stage place fun _ => trivial) fun _ => .pure _
    · exact .pure _

/-- A handler's outcome is not pending. -/
theorem publication_status (outcome : Except Fault Json) : (publication outcome).1 ≠ .pending := by
  cases outcome <;> simp [publication]

theorem keeps_notice (hok : Harmless ok now Q) (place : Nat) :
    (notice place).Keeps (Conduct ok T Q) := by
  refine .bind .get fun h => ?_
  split
  · exact .pure _
  · split
    · next outcome _ =>
      have hpublishing : (Op.modify fun h : Host => { h with
          calls := h.calls.modify place fun c => { c with
            stage := .publishing (publication outcome).1 (publication outcome).2 } }).Keeps
          (Conduct ok T Q) :=
        keeps_stage place fun call => hok.outcome _ _ _ (publication_status outcome)
      refine .ite (fun _ => keeps_stage place fun _ => trivial) fun _ => ?_
      dsimp only
      split
      · exact .bind (.event _ _ _ _) fun _ => hpublishing
      · exact hpublishing
    · exact .pure _

theorem keeps_publish (hok : Harmless ok now Q) (place : Nat) :
    (publish now place).Keeps (Conduct ok T Q) := by
  refine .get_bind fun h hh => ?_
  split
  · exact hh
  · next call hcall =>
    split
    · next status result hstage =>
      have hscripted := hh.calls call (List.mem_of_getElem? hcall)
      rw [HandlerCall.Scripted, hstage] at hscripted
      have hover : (Op.modify fun h : Host => { h with
          calls := h.calls.modify place fun c => { c with stage := .over } }).Keeps
          (Conduct ok T Q) := keeps_stage place fun _ => trivial
      refine Op.Keeps.bind (.attempt (keeps_onResults (hok.publish hscripted)))
        (fun r => ?_) h hh
      dsimp only
      split
      · exact .bind (.event _ _ _ _) fun _ => hover
      · exact hover
    · exact hh

theorem keeps_runCalls (hok : Harmless ok now Q) (limit : Option Nat)
    (newestFirst : Bool) : (runCalls now limit newestFirst).Keeps (Conduct ok T Q) := by
  refine .bind .get fun h => .bind (.mapM fun place _ => keeps_runHandler place) fun ran => ?_
  refine .bind (.forM fun place _ => keeps_notice hok place) fun _ => ?_
  refine .bind (.forM fun place _ => keeps_publish hok place) fun _ => ?_
  refine .bind (.modify fun h hh => conduct_calls hh fun call hcall => ?_) fun _ => .pure _
  obtain ⟨p, hp, rfl⟩ := List.mem_map.mp hcall
  exact hh.calls _ (List.fst_mem_of_mem_zipIdx (List.mem_of_mem_filter hp))

end Callback

/-! ## File queues -/

namespace FileQueue

theorem keeps_writeAtomic (p : Path) (bytes : List UInt8) :
    (writeAtomic p bytes).Keeps (Conduct ok T Q) := by
  have hwrite : (do
      onFiles fun t => t.write (temporary p) bytes
      onFiles fun t => t.rename (temporary p) p).Keeps (Conduct ok T Q) :=
    .bind (keeps_onFiles _) fun _ => keeps_onFiles _
  exact .ite (fun _ => .bind (.fail _) fun _ => hwrite) fun _ => hwrite

theorem keeps_deliver (q : FileQueue) (c : Command) : (q.deliver c).Keeps (Conduct ok T Q) := by
  refine .bind (.attempt (keeps_writeAtomic _ _)) fun r => ?_
  split
  · exact .pure _
  · exact .ite (fun _ => .pure _) fun _ => .fail _

theorem keeps_removeIfPresent (p : Path) : (removeIfPresent p).Keeps (Conduct ok T Q) := by
  refine .bind (.attempt (keeps_onFiles _)) fun r => ?_
  split
  · exact .pure _
  · exact .ite (fun _ => .pure _) fun _ => .fail _

theorem outcomeOf_status (j : Json) : (outcomeOf j).1 ≠ .pending := by
  unfold outcomeOf
  split
  · dsimp only
    split <;> simp_all
  · simp

/-- The outcome that a response file stands for is not pending, also where the file says so. -/
theorem responseAt_status {nesting : Nat} {t : FileTree} {p : Path} {status : ResultStatus}
    {result : Json} (h : responseAt nesting t p = .ok (status, result)) : status ≠ .pending := by
  have hmalformed : ∀ why, (malformed why).1 ≠ .pending := fun _ => by simp [malformed]
  have hof : ∀ {o : ResultStatus × Json}, o.1 ≠ .pending →
      (.ok o : Except Failure (ResultStatus × Json)) = .ok (status, result) →
      status ≠ .pending := by
    intro o ho heq
    rwa [Except.ok.inj heq] at ho
  unfold responseAt at h
  split at h
  · unfold readResponse at h
    split at h
    · exact hof (hmalformed _) h
    · split at h
      · exact hof (outcomeOf_status _) h
      · simp at h
      · exact hof (hmalformed _) h
  · exact hof (hmalformed _) h

theorem keeps_collectFile (hok : Harmless ok now Q) (i : Nat) (q : FileQueue)
    (name : String) : (collectFile now i q name).Keeps (Conduct ok T Q) := by
  refine .bind .get fun h => .bind_of_yields (Q := fun o => o.1 ≠ .pending) (.ofExcept _)
    (fun _ _ o ho => responseAt_status ho) fun o ho => ?_
  refine .bind (.discard (keeps_removeIfPresent _)) fun _ => ?_
  refine .bind (.discard (keeps_removeIfPresent _)) fun _ => .bind .get fun h' => ?_
  refine .ite (fun _ => ?_) fun _ => .pure _
  refine .bind (.attempt (keeps_onResults (hok.publish (hok.outcome _ _ _ ho)))) fun r => ?_
  split
  · exact .pure _
  · exact .event _ _ _ _
  · exact .fail _

theorem keeps_collect (hok : Harmless ok now Q) (i : Nat) (q : FileQueue) :
    (collect now i q).Keeps (Conduct ok T Q) :=
  .bind .get fun _ =>
    .bind (.forM fun name _ => keeps_collectFile hok i q name) fun _ => .pure _

theorem keeps_stopCollector (i : Nat) (q : FileQueue) :
    (stopCollector i q).Keeps (Conduct ok T Q) := by
  rw [stopCollector]
  split
  · exact .pure _
  · refine .bind .get fun h => ?_
    split
    · exact .fail _
    · exact .bind (.modify fun _ hh => ⟨hh.tenures, hh.results, hh.scripts, hh.calls⟩) fun _ =>
        keeps_adapter i trivial

theorem keeps_close (i : Nat) (q : FileQueue) : (q.close i).Keeps (Conduct ok T Q) := by
  refine .bind (keeps_stopCollector i q) fun _ => .bind .get fun h => ?_
  exact .bind (.mapM fun _ _ => keeps_removeIfPresent _) fun _ => .event _ _ _ _

theorem keeps_round (hok : Harmless ok now Q) (c : Collector) :
    (round now c).Keeps (Conduct ok T Q) := by
  refine .bind .get fun h => ?_
  split
  · next q _ =>
    have hstage : ∀ failure, (Op.modify fun h : Host => { h with
        collectors := h.collectors.map fun d =>
          if d.id = c.id then { d with stage := nextStage h.clock q.nanoseconds failure }
          else d }).Keeps (Conduct ok T Q) :=
      fun _ => .modify fun _ hh => ⟨hh.tenures, hh.results, hh.scripts, hh.calls⟩
    refine .bind (.attempt (keeps_collect hok _ q)) fun r => ?_
    dsimp only
    split
    · exact hstage _
    · exact .ite (fun _ => .bind (.event _ _ _ _) fun _ => hstage _) fun _ => hstage _
  · exact .pure _

theorem keeps_runDue (hok : Harmless ok now Q) : (runDue now).Keeps (Conduct ok T Q) :=
  .bind .get fun _ => .forM fun c _ => keeps_round hok c

end FileQueue

/-! ## Instances of every sort -/

namespace Host

/-- A delivery opens and closes nothing, and does on the channel what scripts say. -/
theorem keeps_deliver (hok : Harmless ok now Q) (i : Nat) (c : Command) :
    (deliver now i c).Keeps (Conduct ok T Q) := by
  refine .get_bind fun h hh => ?_
  have hscript := hh.scriptAt i
  split
  · next r hr =>
    rw [hr] at hscript
    exact Recording.keeps_deliver hok i c hscript h hh
  · exact Callback.keeps_deliver i c h hh
  · exact FileQueue.keeps_deliver _ c h hh

end Host

/-! ## The background -/

/-- What can happen to instances while nobody calls. -/
inductive Background where
  /-- The handler call at a place in the queue takes one of its steps. -/
  | runHandler (place : Nat)
  | notice (place : Nat)
  | publish (place : Nat)
  /-- Some handler calls are taken to their ends. -/
  | runCalls (limit : Option Nat) (newestFirst : Bool)
  /-- The file queue at a place collects its response files. -/
  | collect (place : Nat)
  /-- The collectors that are due do a round. -/
  | collectDue
  /-- Somebody changes files below the working directory. -/
  | files (t : FileTree)
  /-- Time goes on. -/
  | wait (time : Nat)

namespace Background

/-- Lets the file queue at a place collect its response files. -/
def collectAt (now : Timestamp) (place : Nat) : Op Host Unit := do
  match ((← Op.get).instanceAt place).adapter with
  | .fileQueue q => discard (FileQueue.collect now place q)
  | _ => pure ()

/-- Lets it happen. -/
def run (now : Timestamp) : Background → Op Host Unit
  | .runHandler place => discard (Callback.runHandler place)
  | .notice place => Callback.notice place
  | .publish place => Callback.publish now place
  | .runCalls limit newestFirst => discard (Callback.runCalls now limit newestFirst)
  | .collect place => collectAt now place
  | .collectDue => FileQueue.runDue now
  | .files t => Op.modify fun h => { h with files := t }
  | .wait time => Op.modify fun h => { h with clock := max h.clock time }

theorem keeps_collectAt (hok : Harmless ok now Q) (place : Nat) :
    (collectAt now place).Keeps (Conduct ok T Q) := by
  refine .bind .get fun h => ?_
  split
  · exact .discard (FileQueue.keeps_collect hok place _)
  · exact .pure _

/-- Nothing in the background opens or closes an instance, or publishes that something is
pending. -/
theorem keeps_run (hok : Harmless ok now Q) (x : Background) :
    (x.run now).Keeps (Conduct ok T Q) := by
  cases x with
  | runHandler place => exact .discard (Callback.keeps_runHandler place)
  | notice place => exact Callback.keeps_notice hok place
  | publish place => exact Callback.keeps_publish hok place
  | runCalls limit newestFirst => exact .discard (Callback.keeps_runCalls hok limit newestFirst)
  | collect place => exact keeps_collectAt hok place
  | collectDue => exact FileQueue.keeps_runDue hok
  | files t => exact .modify fun _ hh => ⟨hh.tenures, hh.results, hh.scripts, hh.calls⟩
  | wait time => exact .modify fun _ hh => ⟨hh.tenures, hh.results, hh.scripts, hh.calls⟩

end Background

end CommandBridge
