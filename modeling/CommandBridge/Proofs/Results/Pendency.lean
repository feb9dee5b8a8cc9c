import CommandBridge.Proofs.Results.Backed
import CommandBridge.Proofs.Results.Finality

/-!
# CommandBridge.Proofs.Results.Pendency

How long a ticket is pending.  As long as Redis holds nothing under a ticket but records of that
ticket (`Keyed`, which every step keeps), a ticket is shown as pending until an outcome is published
on it (`pending_runAll`), and from then on the map has that outcome, if it still has the ticket
(`has_after_publish`, `has_runAll`).  Neither depends on whether Redis takes what it is given.
-/

namespace CommandBridge.ResultChannel

variable {c : ResultChannel} {m : Nat} {ticket t : String} {r x : Record} {s : Step}

/-- What can be shown of a ticket is a record of that ticket. -/
def Keyed (c : ResultChannel) : Prop := ∀ t r, Shown c t r → r.ticket = t

/-- Without Redis, only the map can be shown. -/
theorem keyed_of_memory (hconn : c.connected = false) : Keyed c := by
  intro t r h
  cases h with
  | cached hmem hticket => exact hticket
  | stored hconn' _ _ => exact absurd (hconn.symm.trans hconn') (by simp)

/-! ## One step -/

/-- Whether or not Redis takes a record, it holds under each ticket what it held, or that record. -/
theorem lookup_of_written {text : String} (r : Record)
    (h : (written r c).lookup (redisKey t) = some text) :
    c.redis.lookup (redisKey t) = some text ∨ t = r.ticket ∧ text = r.toBody.write := by
  rw [written] at h
  split at h
  · rw [Redis.setex] at h
    cases hcall : ((Redis.attemptCall .setex (.setex (redisKey r.ticket) c.ttl
        r.toBody.write)).run c.redis).answer with
    | error e =>
        rw [Op.state_bind_error hcall] at h
        exact .inl h
    | ok u =>
        rw [Op.state_bind_ok hcall, Op.run_modify, Redis.lookup_write] at h
        split at h
        · next heq => exact .inr ⟨redisKey_injective heq, (Option.some.inj h).symm⟩
        · exact .inl h
  · exact .inl h

/-- What a step stores is of the ticket that it registers or publishes on. -/
theorem subject?_of_stores? (hkeyed : Keyed c) (h : s.stores? c = some r) :
    s.subject? = some r.ticket := by
  obtain ⟨now, operation⟩ := s
  cases operation with
  | register command =>
      obtain rfl := Option.some.inj h
      rfl
  | publish ticket status result =>
      obtain ⟨current, status', hget, -, rfl⟩ := exists_of_incoming? h
      exact congrArg some (hkeyed _ _ (shown_of_get hget)).symm
  | get ticket => exact absurd h (by simp [Step.stores?])
  | subscribe limit => exact absurd h (by simp [Step.stores?])
  | unsubscribe place => exact absurd h (by simp [Step.stores?])
  | drain place => exact absurd h (by simp [Step.stores?])

/-- What can be shown after a step could be shown before, or it is what the step stored. -/
theorem shown_after (hcap : c.capacity = m) (h : Shown (s.after c) t x) :
    Shown c t x ∨ ∃ r, s.stores? c = some r ∧ t = r.ticket ∧ x.ticket = r.ticket ∧
      x.isFinal = r.isFinal := by
  rw [s.after_eq hcap] at h
  cases h with
  | cached hmem hticket =>
      cases hr : s.stores? c with
      | none =>
          rw [hr] at hmem
          exact .inl (.cached hmem hticket)
      | some r =>
          rw [hr] at hmem
          rcases mem_kept hmem with rfl | ⟨hold, -⟩
          · exact .inr ⟨x, rfl, hticket.symm, rfl, rfl⟩
          · exact .inl (.cached hold hticket)
  | stored hconn hlookup hread =>
      have hasked := s.lookup_redisAsked c (redisKey t)
      cases hr : s.stores? c with
      | none =>
          dsimp only [Step.redisAfter] at hlookup
          rw [hr] at hlookup
          exact .inl (.stored hconn (hasked ▸ hlookup) hread)
      | some r =>
          dsimp only [Step.redisAfter] at hlookup
          rw [hr] at hlookup
          rcases lookup_of_written r hlookup with hold | ⟨ht, rfl⟩
          · exact .inl (.stored hconn (hasked ▸ hold) hread)
          · obtain ⟨result, rfl⟩ := exists_of_readStored_write hread
            exact .inr ⟨r, rfl, ht, rfl, rfl⟩

theorem Keyed.after (hcap : c.capacity = m) (hkeyed : Keyed c) (s : Step) : Keyed (s.after c) := by
  intro t x h
  rcases shown_after hcap h with hold | ⟨r, -, rfl, hticket, -⟩
  · exact hkeyed t x hold
  · exact hticket

/-! ## One ticket -/

/-- Whether a step publishes on a ticket. -/
def Step.publishesOn (ticket : String) (s : Step) : Bool :=
  match s.operation with
  | .publish t _ _ => t = ticket
  | _ => false

/-- A ticket is shown as nothing but pending. -/
def Pending (ticket : String) (c : ResultChannel) : Prop :=
  ∀ x, Shown c ticket x → x.isFinal = false

/-- The map has nothing under a ticket but an outcome. -/
def Has (ticket : String) (status : ResultStatus) (result : Json) (c : ResultChannel) : Prop :=
  ∀ x ∈ c.records, x.ticket = ticket → x.status = status ∧ x.result = result

/-- A ticket is pending until something is published on it, also if it is registered again. -/
theorem Pending.after (hcap : c.capacity = m) (hkeyed : Keyed c) (h : Pending ticket c)
    (hs : s.publishesOn ticket = false) : Pending ticket (s.after c) := by
  intro x hx
  rcases shown_after hcap hx with hold | ⟨r, hr, ht, -, hfinal⟩
  · exact h x hold
  · rw [hfinal]
    have hsubject := subject?_of_stores? hkeyed hr
    obtain ⟨now, operation⟩ := s
    cases operation with
    | register command =>
        rw [← Option.some.inj hr]
        rfl
    | publish t status result =>
        have htold : t = ticket := (Option.some.inj hsubject).trans ht.symm
        exact absurd htold (by simpa [Step.publishesOn] using hs)
    | get t => exact absurd hsubject (by simp [Step.subject?])
    | subscribe limit => exact absurd hsubject (by simp [Step.subject?])
    | unsubscribe place => exact absurd hsubject (by simp [Step.subject?])
    | drain place => exact absurd hsubject (by simp [Step.subject?])

/-- An outcome is in the map under its ticket once it is published, if anything is. -/
theorem has_after_publish (hcap : c.capacity = m) (hkeyed : Keyed c) (now : Timestamp)
    (status : ResultStatus) (result : Json) :
    Has ticket status result
      ((⟨now, .publish ticket (.string status.text) result⟩ : Step).after c) := by
  intro x hx hticket
  cases hget : ((get now ticket).run c).answer with
  | error e =>
      have hnone : find? ticket c.records = none := by
        cases hfind : find? ticket c.records with
        | none => rfl
        | some r => simp [get_run_of_find? hfind] at hget
      rw [Step.records_after_of_none hcap
        (by simp [Step.stores?, incoming?, hget, Except.toOption])] at hx
      rw [find?, List.find?_eq_none] at hnone
      exact absurd hticket (by simpa using hnone x hx)
  | ok current =>
      have hstores : (⟨now, .publish ticket (.string status.text) result⟩ : Step).stores? c =
          some (current.withOutcome now status result) :=
        incoming?_of_ok hget (ResultStatus.ofJson?_text status)
      rw [Step.records_after_of_some hcap hstores] at hx
      have hcurrent : current.ticket = ticket := hkeyed _ _ (shown_of_get hget)
      rcases mem_kept hx with rfl | ⟨-, hne⟩
      · exact ⟨rfl, rfl⟩
      · exact absurd (hticket.trans hcurrent.symm) hne

/-- What does not register or publish on a ticket leaves it its outcome. -/
theorem Has.after {status : ResultStatus} {result : Json} (hcap : c.capacity = m)
    (hkeyed : Keyed c) (h : Has ticket status result c) (hs : s.subject? ≠ some ticket) :
    Has ticket status result (s.after c) := by
  intro x hx hticket
  cases hr : s.stores? c with
  | none =>
      rw [Step.records_after_of_none hcap hr] at hx
      exact h x hx hticket
  | some r =>
      rw [Step.records_after_of_some hcap hr] at hx
      have hsubject := subject?_of_stores? hkeyed hr
      rcases mem_kept hx with rfl | ⟨hold, -⟩
      · exact absurd (hsubject.trans (congrArg some hticket)) hs
      · exact h x hold hticket

/-! ## Whole runs -/

theorem keyed_runAll (steps : List Step) (hcap : c.capacity = m) (hkeyed : Keyed c) :
    Keyed (runAll steps c) := by
  induction steps generalizing c with
  | nil => exact hkeyed
  | cons s rest ih => exact ih (s.capacity_after hcap) (hkeyed.after hcap s)

theorem pending_runAll (steps : List Step) (hcap : c.capacity = m) (hkeyed : Keyed c)
    (h : Pending ticket c) (hsteps : ∀ s ∈ steps, s.publishesOn ticket = false) :
    Pending ticket (runAll steps c) := by
  induction steps generalizing c with
  | nil => exact h
  | cons s rest ih =>
      exact ih (s.capacity_after hcap) (hkeyed.after hcap s)
        (h.after hcap hkeyed (hsteps s List.mem_cons_self))
        fun s' hs' => hsteps s' (List.mem_cons_of_mem s hs')

theorem has_runAll {status : ResultStatus} {result : Json} (steps : List Step)
    (hcap : c.capacity = m) (hkeyed : Keyed c) (h : Has ticket status result c)
    (hsteps : ∀ s ∈ steps, s.subject? ≠ some ticket) :
    Has ticket status result (runAll steps c) := by
  induction steps generalizing c with
  | nil => exact h
  | cons s rest ih =>
      exact ih (s.capacity_after hcap) (hkeyed.after hcap s)
        (h.after hcap hkeyed (hsteps s List.mem_cons_self))
        fun s' hs' => hsteps s' (List.mem_cons_of_mem s hs')

end CommandBridge.ResultChannel
