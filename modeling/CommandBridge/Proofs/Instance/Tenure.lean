import CommandBridge.Proofs.Instance.Conduct

/-!
# CommandBridge.Proofs.Instance.Tenure

How instances come to hold the result channel.  Opening an instance changes its tenure and no
other, whether it completes or fails (`tenures_openInstance`), and so does closing it
(`tenures_closeInstance`).  Neither does anything on the channel
(`keeps_openInstance`, `keeps_closeInstance`).
-/

namespace CommandBridge

namespace Tenure

/-- A tenure after an opening.  One that fails hands no channel over. -/
def opened (completed : Bool) (t : Tenure) : Tenure :=
  { t with opens := t.opens + 1, holdsChannel := completed || t.holdsChannel }

/-- A tenure after a closing.  One that fails takes no channel back. -/
def closed (completed : Bool) (t : Tenure) : Tenure :=
  { t with closes := t.closes + 1, holdsChannel := !completed && t.holdsChannel }

end Tenure

/-- A host with these tenures, whatever its instances do on the channel. -/
abbrev Tenured (ts : List Tenure) : Host → Prop :=
  Conduct (fun _ => True) (fun ts' => ts' = ts) fun _ => True

theorem scripted_any (adapter : Adapter) : adapter.Scripted fun _ => True := by
  cases adapter with
  | recording r => exact fun _ _ _ _ _ => trivial
  | _ => trivial

/-- Where anything may be done on the channel, nothing is known of what will be. -/
theorem conduct_any_iff {T : List Tenure → Prop} {Q : ResultChannel → Prop} {h : Host} :
    Conduct (fun _ => True) T Q h ↔ T h.tenures ∧ Q h.results := by
  refine ⟨fun hh => ⟨hh.tenures, hh.results⟩, fun ⟨htenures, hresults⟩ =>
    ⟨htenures, hresults, fun a _ => scripted_any _, fun call _ => ?_⟩⟩
  unfold HandlerCall.Scripted
  split <;> trivial

theorem tenured_iff {ts : List Tenure} {h : Host} : Tenured ts h ↔ h.tenures = ts :=
  conduct_any_iff.trans (and_iff_left trivial)

theorem harmless_any (now : Timestamp) : Harmless (fun _ => True) now fun _ => True :=
  ⟨fun _ _ _ _ => trivial, fun _ _ _ _ => trivial⟩

/-- What keeps every list of tenures changes no tenure. -/
theorem tenures_of_keeps {α : Type} {x : Op Host α} (hx : ∀ ts, x.Keeps (Tenured ts)) (h : Host) :
    (x.run h).state.tenures = h.tenures :=
  tenured_iff.mp (hx _ h (tenured_iff.mpr rfl))

/-! ## Opening and closing -/

/-- Whether an operation came to an answer. -/
def Outcome.completed {σ α : Type} (o : Outcome σ α) : Bool :=
  match o.answer with
  | .ok _ => true
  | .error _ => false

namespace Host

/-- An operation that hands an instance the channel, or takes it back, if it completes, and else
changes no tenure. -/
def Hands (holds : Bool) (i : Nat) (x : Op Host Unit) : Prop :=
  ∀ h : Host, (x.run h).state.tenures =
    h.tenures.modify i fun t =>
      { t with holdsChannel := if (x.run h).completed then holds else t.holdsChannel }

namespace Hands

variable {holds : Bool} {i : Nat} {x : Op Host Unit}

theorem fail (e : Failure) : Hands holds i (Op.fail e) :=
  fun _ => (List.modify_id i _).symm

theorem update : Hands holds i (Host.update i fun a => { a with holdsChannel := holds }) :=
  fun h => tenures_update (fun _ => rfl) h i

theorem bind {α : Type} {y : Op Host α} {f : α → Op Host Unit}
    (hy : ∀ ts, y.Keeps (Tenured ts)) (hf : ∀ a, Hands holds i (f a)) :
    Hands holds i (y >>= f) := by
  intro h
  have hkept := tenures_of_keeps hy h
  cases ha : (y.run h).answer with
  | error e =>
      rw [Op.state_bind_error ha, hkept, Outcome.completed, Op.answer_bind_error ha]
      exact (List.modify_id i _).symm
  | ok a =>
      rw [Op.state_bind_ok ha, Outcome.completed, Op.answer_bind_ok ha, hf a, hkept,
        Outcome.completed]

/-- An instance that does something first, which completes. -/
theorem tenures_update_bind (hx : Hands holds i x) {f : Instance → Instance} {g : Tenure → Tenure}
    (hfg : ∀ a, (f a).tenure = g a.tenure) (h : Host) :
    ((do Host.update i f; x : Op Host Unit).run h).state.tenures = h.tenures.modify i fun t =>
      { g t with
        holdsChannel :=
          if ((do Host.update i f; x : Op Host Unit).run h).completed then holds
          else (g t).holdsChannel } := by
  have hupdated : ((Host.update i f).run h).answer = .ok () := rfl
  rw [Op.state_bind_ok hupdated, Outcome.completed, Op.answer_bind_ok hupdated, hx,
    tenures_update hfg, List.modify_modify_eq]
  rfl

end Hands

theorem hands_openRecording (i : Nat) (r : Recording) : Hands true i (r.open i) := by
  refine .bind (fun _ => keeps_adapter i (scripted_any _)) fun _ => ?_
  split
  · exact .fail _
  · exact .update

theorem hands_openFileQueue (i : Nat) (q : FileQueue) : Hands true i (q.open i) := by
  intro h
  let started : Host := { h with
    collectors := h.collectors ++ [⟨h.collectorsStarted, i, .due h.clock⟩]
    collectorsStarted := h.collectorsStarted + 1 }
  have hrest : Hands true i (do
      FileQueue.put i { q with collector := some h.collectorsStarted }
      Host.update i fun a => { a with holdsChannel := true }
      Op.event .fileQueue .info "file_queue_opened"
        [("queue_dir", .string q.directory.toString), ("poll_interval", q.interval)]) :=
    .bind (fun _ => keeps_adapter i (scripted_any _)) fun _ => fun h' =>
      tenures_update (fun _ => rfl) h' i
  exact hrest started

/-- An opening changes the tenure of its instance and no other. -/
theorem tenures_openInstance (h : Host) (i : Nat) :
    ((openInstance i).run h).state.tenures =
      h.tenures.modify i (Tenure.opened ((openInstance i).run h).completed) := by
  have hopened : ((openInstance i).run h).state.tenures = h.tenures.modify i fun t =>
      { t with
        opens := t.opens + 1
        holdsChannel := if ((openInstance i).run h).completed then true else t.holdsChannel } := by
    refine Hands.tenures_update_bind (.bind (fun _ => .get) fun h' => ?_)
      (g := fun t => { t with opens := t.opens + 1 }) (fun _ => rfl) h
    split
    · exact hands_openRecording i _
    · exact .update
    · exact hands_openFileQueue i _
  rw [hopened]
  cases ((openInstance i).run h).completed <;> rfl

/-- A closing changes the tenure of its instance and no other. -/
theorem tenures_closeInstance (h : Host) (i : Nat) :
    ((closeInstance i).run h).state.tenures =
      h.tenures.modify i (Tenure.closed ((closeInstance i).run h).completed) := by
  have hclosed : ((closeInstance i).run h).state.tenures = h.tenures.modify i fun t =>
      { t with
        closes := t.closes + 1
        holdsChannel :=
          if ((closeInstance i).run h).completed then false else t.holdsChannel } := by
    refine Hands.tenures_update_bind (.bind (fun _ => .get) fun h' => ?_)
      (g := fun t => { t with closes := t.closes + 1 }) (fun _ => rfl) h
    split
    · exact .update
    · exact .bind (fun _ => Callback.keeps_close i) fun _ => .update
    · next q _ => exact .bind (fun _ => FileQueue.keeps_close i q) fun _ => .update
  rw [hclosed]
  cases ((closeInstance i).run h).completed <;> rfl

/-! ## The channel -/

section

variable {ok : ChannelOperation → Prop} {Q : ResultChannel → Prop}

/-- Where nothing is said of tenures they can change. -/
theorem keeps_update (i : Nat) {f : Instance → Instance} (hf : ∀ a, (f a).adapter = a.adapter) :
    (update i f).Keeps (Conduct ok (fun _ => True) Q) := by
  intro h hh
  refine ⟨trivial, hh.results, forall_mem_modify hh.scripts fun a ha => ?_, hh.calls⟩
  rw [hf]
  exact hh.scripts a ha

theorem keeps_openInstance (i : Nat) : (openInstance i).Keeps (Conduct ok (fun _ => True) Q) := by
  refine .bind (keeps_update i fun _ => rfl) fun _ => .get_bind fun h hh => ?_
  have hscript := hh.scriptAt i
  have hhand : (update i fun a => { a with holdsChannel := true }).Keeps
      (Conduct ok (fun _ => True) Q) := keeps_update i fun _ => rfl
  split
  · next r hr =>
    have hrest : (Adapter.recording { r with openings := r.openings.tail }).Scripted ok := by
      rwa [hr] at hscript
    refine Op.Keeps.bind (keeps_adapter i hrest) (fun _ => ?_) h hh
    split
    · exact .fail _
    · exact hhand
  · exact hhand h hh
  · next q _ =>
    refine Op.Keeps.get_bind (fun h' hh' => ?_) h hh
    have hrest : (do
        FileQueue.put i { q with collector := some h'.collectorsStarted }
        update i fun a => { a with holdsChannel := true }
        Op.event .fileQueue .info "file_queue_opened"
          [("queue_dir", .string q.directory.toString), ("poll_interval", q.interval)]).Keeps
        (Conduct ok (fun _ => True) Q) :=
      .bind (keeps_adapter i trivial) fun _ => .bind hhand fun _ => .event _ _ _ _
    exact hrest _ ⟨trivial, hh'.results, hh'.scripts, hh'.calls⟩

theorem keeps_closeInstance (i : Nat) : (closeInstance i).Keeps (Conduct ok (fun _ => True) Q) := by
  have htake : (update i fun a => { a with holdsChannel := false }).Keeps
      (Conduct ok (fun _ => True) Q) := keeps_update i fun _ => rfl
  refine .bind (keeps_update i fun _ => rfl) fun _ => .bind .get fun h => ?_
  dsimp only
  split
  · exact htake
  · exact .bind (Callback.keeps_close i) fun _ => htake
  · exact .bind (FileQueue.keeps_close i _) fun _ => htake

end

end Host

end CommandBridge
