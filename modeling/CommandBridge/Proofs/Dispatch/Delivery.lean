import CommandBridge.Instance.Operations
import CommandBridge.Proofs.Instance.RequestFiles
import CommandBridge.Proofs.Results.Run

/-!
# CommandBridge.Proofs.Dispatch.Delivery

What instances do to the host they share.

* Opening an instance leaves the result channel alone and gives nobody a command
  (`sameDeliveries_openInstance`).
* A delivery acts on the result channel by operations of the channel only, so it is
  a run of them (`exists_runAll_deliver`), and gives its instance the command and nobody
  else one (`received_deliver`).
* Callbacks and file queues leave the channel alone until there is an outcome
  (`results_deliver`).
-/

namespace CommandBridge

open ResultChannel

/-! ## Commands received -/

/-- The commands that an instance keeps, if `calls` are those of its handler.  A file queue
keeps none. -/
def Adapter.received (calls : List Command) : Adapter → List Command
  | .recording r => r.received
  | .callback _ => calls
  | .fileQueue _ => []

/-- Whether an instance keeps the commands it is given. -/
def Adapter.keepsCommands : Adapter → Bool
  | .fileQueue _ => false
  | _ => true

namespace Host

/-- The commands that an instance was given. -/
def received (h : Host) (j : Nat) : List Command :=
  (h.instanceAt j).adapter.received
    ((h.calls.filter fun call => call.owner = j).map HandlerCall.command)

variable {h : Host} {i j : Nat} {now : Timestamp} {c : Command}

theorem instanceAt_modify (h : Host) (i : Nat) (f : Instance → Instance) (j : Nat) :
    ({ h with instances := h.instances.modify i f } : Host).instanceAt j =
      if i = j ∧ i < h.instances.length then f (h.instanceAt j) else h.instanceAt j := by
  simp only [instanceAt, List.getElem?_modify]
  by_cases hij : i = j
  · subst hij
    by_cases hi : i < h.instances.length
    · simp [hi]
    · simp [hi]
  · simp [hij]

/-- Two hosts that differ neither in what was delivered nor in what came of it. -/
structure SameDeliveries (h h' : Host) : Prop where
  results : h'.results = h.results
  files : h'.files = h.files
  calls : h'.calls = h.calls
  length : h'.instances.length = h.instances.length
  keeps : ∀ j, (h'.instanceAt j).adapter.keepsCommands = (h.instanceAt j).adapter.keepsCommands
  received : ∀ j, h'.received j = h.received j

theorem SameDeliveries.refl (h : Host) : SameDeliveries h h :=
  ⟨rfl, rfl, rfl, rfl, fun _ => rfl, fun _ => rfl⟩

theorem SameDeliveries.trans {h h' h'' : Host} (h₁ : SameDeliveries h h')
    (h₂ : SameDeliveries h' h'') : SameDeliveries h h'' where
  results := h₂.results.trans h₁.results
  files := h₂.files.trans h₁.files
  calls := h₂.calls.trans h₁.calls
  length := h₂.length.trans h₁.length
  keeps j := (h₂.keeps j).trans (h₁.keeps j)
  received j := (h₂.received j).trans (h₁.received j)

/-- Changing an instance but not the commands it keeps. -/
theorem SameDeliveries.modify {f : Instance → Instance}
    (hkeeps : (f (h.instanceAt i)).adapter.keepsCommands =
      (h.instanceAt i).adapter.keepsCommands)
    (hf : ∀ calls, (f (h.instanceAt i)).adapter.received calls =
      (h.instanceAt i).adapter.received calls) :
    SameDeliveries h { h with instances := h.instances.modify i f } where
  results := rfl
  files := rfl
  calls := rfl
  length := List.length_modify ..
  keeps j := by
    rw [instanceAt_modify]
    split
    · next hij => obtain ⟨rfl, -⟩ := hij; exact hkeeps
    · rfl
  received j := by
    simp only [Host.received, instanceAt_modify]
    split
    · next hij => obtain ⟨rfl, -⟩ := hij; exact hf _
    · rfl

/-! ## Opening -/

theorem sameDeliveries_openRecording {r : Recording}
    (hr : (h.instanceAt i).adapter = .recording r) :
    SameDeliveries h ((r.open i).run h).state := by
  let opened : Host := ((Recording.put i { r with openings := r.openings.tail }).run h).state
  have hput : SameDeliveries h opened := .modify (by simp [hr, Adapter.keepsCommands])
    (by simp [hr, Adapter.received])
  rw [Recording.open, Op.state_bind_ok rfl]
  cases r.openings.head?.join with
  | some f => exact hput
  | none => exact hput.trans (.modify rfl fun _ => rfl)

theorem sameDeliveries_openFileQueue {q : FileQueue}
    (hq : (h.instanceAt i).adapter = .fileQueue q) :
    SameDeliveries h ((q.open i).run h).state := by
  let collecting : Host := { h with
    collectors := h.collectors ++ [⟨h.collectorsStarted, i, .due h.clock⟩]
    collectorsStarted := h.collectorsStarted + 1 }
  have hcollecting : SameDeliveries h collecting :=
    ⟨rfl, rfl, rfl, rfl, fun _ => rfl, fun _ => rfl⟩
  let noted : Host := { collecting with instances := h.instances.modify i fun a =>
    { a with adapter := .fileQueue { q with collector := some h.collectorsStarted } } }
  have hq' : (collecting.instanceAt i).adapter = .fileQueue q := hq
  have hnoted : SameDeliveries collecting noted :=
    .modify (by simp [hq', Adapter.keepsCommands]) (by simp [hq', Adapter.received])
  exact (hcollecting.trans hnoted).trans (.modify rfl fun _ => rfl)

/-- Opening an instance delivers nothing. -/
theorem sameDeliveries_openInstance (h : Host) (i : Nat) :
    SameDeliveries h ((openInstance i).run h).state := by
  let counted : Host := ((update i fun a => { a with opens := a.opens + 1 }).run h).state
  have hcounted : SameDeliveries h counted := .modify rfl fun _ => rfl
  have hstate : ((openInstance i).run h).state =
      ((match (counted.instanceAt i).adapter with
        | .recording r => r.open i
        | .callback _ => update i fun a => { a with holdsChannel := true }
        | .fileQueue q => q.open i : Op Host Unit).run counted).state := rfl
  rw [hstate]
  cases ha : (counted.instanceAt i).adapter with
  | recording r => exact hcounted.trans (sameDeliveries_openRecording ha)
  | callback _ => exact hcounted.trans (.modify rfl fun _ => rfl)
  | fileQueue q => exact hcounted.trans (sameDeliveries_openFileQueue ha)

/-! ## Delivering -/

/-- An action of a recording instance is an operation on the result channel, or nothing where it
holds none. -/
theorem exists_runAll_act (now : Timestamp) (i : Nat) (c : Command) (action : ChannelAction)
    (h : Host) :
    ∃ steps, ((Recording.act now i c action).run h).state =
      { h with results := runAll steps h.results } := by
  have hdiscard : ∀ x : Op Host Unit, ((discard x.attempt).run h).state = (x.run h).state :=
    fun _ => by rw [Op.run_discard, Op.run_attempt]
  rw [Recording.act, Op.state_bind_ok (a := h) rfl]
  by_cases hholds : (h.instanceAt i).holdsChannel = true
  · refine ⟨[⟨now, action.operation c⟩], ?_⟩
    rw [Op.run_get, if_pos hholds]
    split
    · rw [hdiscard]; rfl
    · rfl
  · refine ⟨[], ?_⟩
    rw [Op.run_get, if_neg hholds]
    split
    · rw [hdiscard]; rfl
    · rfl

/-- A script is a run of operations on the result channel. -/
theorem exists_runAll_actions (now : Timestamp) (i : Nat) (c : Command)
    (actions : List ChannelAction) (h : Host) :
    ∃ steps, ((actions.forM (Recording.act now i c)).run h).state =
      { h with results := runAll steps h.results } := by
  induction actions generalizing h with
  | nil => exact ⟨[], rfl⟩
  | cons action rest ih =>
      obtain ⟨steps, hsteps⟩ := exists_runAll_act now i c action h
      rw [Op.forM_cons]
      cases ha : ((Recording.act now i c action).run h).answer with
      | error e =>
          rw [Op.state_bind_error ha]
          exact ⟨steps, hsteps⟩
      | ok u =>
          rw [Op.state_bind_ok ha, hsteps]
          obtain ⟨steps', hsteps'⟩ := ih { h with results := runAll steps h.results }
          refine ⟨steps ++ steps', ?_⟩
          rw [hsteps', runAll_append]

/-- A recording instance that has taken a command down. -/
def noting (c : Command) (r : Recording) : Recording :=
  { r with received := r.received ++ [c], deliveries := r.deliveries.tail }

/-- A recording instance takes the command down, and acts on the result channel. -/
theorem exists_runAll_recording (now : Timestamp) (i : Nat) (r : Recording) (c : Command)
    (h : Host) :
    ∃ steps, ((r.deliver now i c).run h).state =
      { h with
        instances := h.instances.modify i fun a => { a with adapter := .recording (noting c r) }
        results := runAll steps h.results } := by
  let script := r.deliveries.head?.getD {}
  let noted : Host := { h with
    instances := h.instances.modify i fun a => { a with adapter := .recording (noting c r) } }
  obtain ⟨steps, hsteps⟩ := exists_runAll_actions now i c script.actions noted
  refine ⟨steps, ?_⟩
  have hput : ((Recording.put i (noting c r)).run h).answer = .ok () := rfl
  rw [Recording.deliver, ← noting, Op.state_bind_ok hput]
  show (((script.actions.forM (Recording.act now i c)) >>= _).run noted).state = _
  cases ha : ((script.actions.forM (Recording.act now i c)).run noted).answer with
  | error e => rw [Op.state_bind_error ha, hsteps]
  | ok u =>
      rw [Op.state_bind_ok ha, hsteps]
      cases script.answer <;> rfl

/-- A file queue acts on the files only. -/
theorem exists_files_fileQueue (q : FileQueue) (c : Command) (h : Host) :
    ∃ files, ((q.deliver c).run h).state = { h with files := files } := by
  rw [FileQueue.deliver, Op.state_bind_ok (by rw [Op.run_attempt]), Op.run_attempt,
    FileQueue.writeAtomic_eq, FileQueue.run_forM_onFiles]
  refine ⟨(FileQueue.runs (FileQueue.operations (q.requestPath c.ticket)
    [FileQueue.messageBytes c]) h.files).2, ?_⟩
  dsimp only
  split
  · rfl
  · split <;> rfl

/-- A delivery acts on the result channel by its operations only. -/
theorem exists_runAll_deliver (now : Timestamp) (i : Nat) (c : Command) (h : Host) :
    ∃ steps, ((deliver now i c).run h).state.results = runAll steps h.results := by
  rw [deliver, Op.state_bind_ok (a := h) rfl, Op.run_get]
  cases ha : (h.instanceAt i).adapter with
  | recording r =>
      obtain ⟨steps, hsteps⟩ := exists_runAll_recording now i r c h
      exact ⟨steps, by simp only; rw [hsteps]⟩
  | callback _ => exact ⟨[], rfl⟩
  | fileQueue q =>
      obtain ⟨files, hfiles⟩ := exists_files_fileQueue q c h
      exact ⟨[], by simp only; rw [hfiles]; rfl⟩

/-- A delivery gives its instance the command, whether the instance accepts it or not, and nobody
else one. -/
theorem received_deliver (now : Timestamp) (c : Command) (hi : i < h.instances.length)
    (hkeeps : (h.instanceAt i).adapter.keepsCommands = true) (j : Nat) :
    ((deliver now i c).run h).state.received j =
      h.received j ++ if j = i then [c] else [] := by
  rw [deliver, Op.state_bind_ok (a := h) rfl, Op.run_get]
  cases ha : (h.instanceAt i).adapter with
  | recording r =>
      obtain ⟨steps, hsteps⟩ := exists_runAll_recording now i r c h
      simp only
      rw [hsteps]
      simp only [received]
      have hmodify : ∀ results, ({ h with
          instances := h.instances.modify i fun a => { a with adapter := .recording (noting c r) }
          results := results } : Host).instanceAt j = _ := fun _ =>
        instanceAt_modify h i (fun a => { a with adapter := .recording (noting c r) }) j
      rw [hmodify]
      by_cases hij : i = j
      · subst hij
        simp [hi, ha, Adapter.received, noting]
      · simp [hij, Ne.symm hij]
  | callback q =>
      have hstate : ((Callback.deliver i c).run h).state =
          { h with calls := h.calls ++ [⟨i, c, .queued⟩] } := rfl
      simp only
      rw [hstate]
      simp only [received, List.filter_append, List.map_append]
      by_cases hij : i = j
      · subst hij
        have hadapter :
            (({ h with calls := h.calls ++ [⟨i, c, .queued⟩] } : Host).instanceAt i).adapter =
              .callback q := ha
        simp [hadapter, ha, Adapter.received]
      · simp [instanceAt, hij, Ne.symm hij]
  | fileQueue q => simp [ha, Adapter.keepsCommands] at hkeeps

/-! ## Instances that do not use the channel -/

/-- The instance at a place is no recording, so it does not use the channel to take a command. -/
def Silent (h : Host) (i : Nat) : Prop := ∀ r, (h.instanceAt i).adapter ≠ .recording r

theorem silent_update {f : Instance → Instance} (hs : h.Silent i)
    (hf : ∀ r, (f (h.instanceAt i)).adapter ≠ .recording r) :
    ((update i f).run h).state.Silent i := by
  intro r
  show (({ h with instances := h.instances.modify i f } : Host).instanceAt i).adapter ≠ _
  rw [instanceAt_modify]
  split
  · exact hf r
  · exact hs r

theorem silent_openInstance (hs : h.Silent i) : ((openInstance i).run h).state.Silent i := by
  have hcounted := silent_update (f := fun a => { a with opens := a.opens + 1 }) hs hs
  rw [openInstance, Op.state_bind_ok (a := ()) rfl, Op.state_bind_ok (x := Op.get) rfl, Op.run_get]
  generalize ((update i fun a => { a with opens := a.opens + 1 }).run h).state = counted at *
  split
  · next r hr => exact absurd hr (hcounted r)
  · exact silent_update hcounted hcounted
  · next q _ =>
    let collecting : Host := { counted with
      collectors := counted.collectors ++ [⟨counted.collectorsStarted, i, .due counted.clock⟩]
      collectorsStarted := counted.collectorsStarted + 1 }
    have hcollecting : collecting.Silent i := hcounted
    have hnoted := silent_update (f := fun a => { a with
      adapter := .fileQueue { q with collector := some counted.collectorsStarted } }) hcollecting
      nofun
    exact silent_update (f := fun a => { a with holdsChannel := true }) hnoted hnoted

/-- Callbacks and file queues do not use the channel to take a command. -/
theorem results_deliver (now : Timestamp) (c : Command) (hs : h.Silent i) :
    ((deliver now i c).run h).state.results = h.results := by
  rw [deliver, Op.state_bind_ok (a := h) rfl, Op.run_get]
  cases ha : (h.instanceAt i).adapter with
  | recording r => exact absurd ha (hs r)
  | callback _ => rfl
  | fileQueue q =>
      obtain ⟨files, hfiles⟩ := exists_files_fileQueue q c h
      simp only
      rw [hfiles]

end Host

end CommandBridge
