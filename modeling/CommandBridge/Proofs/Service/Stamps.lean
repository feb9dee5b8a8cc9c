import CommandBridge.Proofs.Results.Stamps
import CommandBridge.Proofs.Service.Outcomes

/-!
# CommandBridge.Proofs.Service.Stamps

The times of records in runs of a service.  A turn leaves records that were there before and
records that have its own time, at most one of each ticket (`dated_after`), and so does a run, with
the times of its turns (`updatedAt_runAll`).  So the record of a ticket is never followed by an
earlier one, and its time is never followed by a lesser text (`times_sort_as_text`).
-/

namespace CommandBridge

open ResultChannel

/-- Whatever instances do on the channel at one time, its records are from the past or were made
then. -/
theorem harmless_dated (past : List Record) (now : Timestamp) :
    Harmless (fun _ => True) now (Dated past now) where
  outcome _ _ _ _ := trivial
  keeps o _ := o.dated_run past now

namespace Bridge

variable {past : List Record} {now : Timestamp}

theorem dated_onHost {α : Type} {x : Op Host α}
    (hx : x.Keeps (Conduct (fun _ => True) (fun _ => True) (Dated past now))) :
    (onHost x).Keeps fun b => Dated past now b.host.results :=
  .on fun b hb => (hx b.host (conduct_any_iff.mpr ⟨trivial, hb⟩)).results

theorem dated_onResults {α : Type} {x : Op ResultChannel α} (hx : x.Keeps (Dated past now)) :
    (onResults x).Keeps fun b => Dated past now b.host.results :=
  dated_onHost (Host.keeps_onResults hx)

theorem dated_handOver (i : Nat) (kind : DispatchKind) (target : String) (arguments : Json) :
    (do handOver now i ⟨kind, target, arguments, ← drawTicket, now.text⟩ : Op Bridge Command).Keeps
      fun b => Dated past now b.host.results := by
  refine .bind (fun b hb => hb) fun ticket b hb => ?_
  have hhost : Conduct (fun _ => True) (fun _ => True) (Dated past now) b.host :=
    conduct_any_iff.mpr ⟨trivial, hb⟩
  exact (keeps_handOver (harmless_dated past now) i (dated_register _) b
    ⟨rfl, rfl, rfl, hhost⟩).host.results

theorem durable_dated (past : List Record) (now : Timestamp) :
    Durable now fun b => Dated past now b.host.results where
  frame := by
    intro b b' hb hhost _
    rwa [hhost]
  opening i := dated_onHost (Host.keeps_openInstance i)
  closing i := dated_onHost (Host.keeps_closeInstance i)
  letGo := dated_onResults dated_close
  handOver := dated_handOver
  background x := dated_onHost (Background.keeps_run (harmless_dated past now) x)

end Bridge

namespace Service

variable {s : Service}

theorem Action.dated_run (a : Action) (past : List Record) (now : Timestamp) :
    (a.run now).Keeps fun s => Dated past now s.results := by
  cases a with
  | bridge a =>
      refine .on fun s hs => (Bridge.durable_dated past now).keeps_run a ?_ s.bridge hs
      rintro o rfl
      exact Bridge.dated_onResults (o.dated_run past now)
  | publication id r ticket =>
      refine .discard (Http.keeps_publishResult now id r ticket fun _ p _ => .on fun s hs => ?_)
      exact Bridge.dated_onResults (.bind (dated_publish ticket _ _) fun _ => .ofExcept _)
        s.bridge hs

/-- A turn leaves records that were there before and records of its time. -/
theorem dated_after (t : Turn) (hs : (s.results.records.map Record.ticket).Nodup) :
    Dated s.results.records t.now (t.after s).results :=
  t.action.dated_run _ t.now s ⟨hs, fun _ hr => .inl hr⟩

theorem distinct_runAll (turns : List Turn) (hs : (s.results.records.map Record.ticket).Nodup) :
    ((runAll turns s).results.records.map Record.ticket).Nodup := by
  induction turns generalizing s with
  | nil => exact hs
  | cons t turns ih => exact ih (dated_after t hs).distinct

/-- A run leaves records that were there before and records that have the time of a turn. -/
theorem updatedAt_runAll {turns : List Turn} (hs : (s.results.records.map Record.ticket).Nodup)
    {r : Record} (hr : r ∈ (runAll turns s).results.records) :
    r ∈ s.results.records ∨ ∃ t ∈ turns, r.updatedAt = t.now.text := by
  induction turns generalizing s with
  | nil => exact .inl hr
  | cons t turns ih =>
      have hafter := dated_after t hs
      rcases ih hafter.distinct hr with hold | ⟨u, hu, htime⟩
      · rcases hafter.dated r hold with hpast | htime
        · exact .inl hpast
        · exact .inr ⟨t, List.mem_cons_self, htime⟩
      · exact .inr ⟨u, List.mem_cons_of_mem t hu, htime⟩

/-- The record of a ticket at some point of a run has no later time than its record at a later
point. -/
theorem updatedAt_le_updatedAt {turns turns' : List Turn}
    (hclock : Timestamp.Advancing ((turns ++ turns').map Turn.now))
    (hs : s.results.records = []) {ticket : String} {r r' : Record}
    (hr : find? ticket (runAll turns s).results.records = some r)
    (hr' : find? ticket (runAll (turns ++ turns') s).results.records = some r') :
    r.updatedAt ≤ r'.updatedAt := by
  have hempty : (s.results.records.map Record.ticket).Nodup := by
    rw [hs]
    exact List.nodup_nil
  have hdistinct := distinct_runAll turns hempty
  have hmem : r ∈ (runAll turns s).results.records := List.mem_of_find?_eq_some hr
  have hmem' : r' ∈ (runAll turns' (runAll turns s)).results.records := by
    rw [← runAll_append]
    exact List.mem_of_find?_eq_some hr'
  rcases updatedAt_runAll hdistinct hmem' with hold | ⟨u, hu, hlater⟩
  · -- the record is still the same one, as there is only one of its ticket
    have hticket : r'.ticket = r.ticket := by rw [ticket_of_find? hr, ticket_of_find? hr']
    rw [List.inj_on_of_nodup_map hdistinct hold hmem hticket]
  · rcases updatedAt_runAll hempty hmem with hbefore | ⟨t, ht, hearlier⟩
    · rw [hs] at hbefore
      exact absurd hbefore List.not_mem_nil
    · have htimes := hclock.text_le
      rw [List.map_append, List.pairwise_append] at htimes
      rw [hearlier, hlater]
      exact htimes.2.2 _ (List.mem_map_of_mem ht) _ (List.mem_map_of_mem hu)

/-- The times of records sort as texts.

* The texts of two readings of the clock, from year 1 to the end of year 9999, are ordered as the
  readings are, and they are the same for the same reading only.
* Every record that a run of a result channel stores, over whatever channel, has the text of the
  reading at which it was stored; while the clock never goes back the texts of the records that are
  stored one after the other never do.
* In a run of a service with a clock that never goes back, the record that the map has of a ticket
  never has a lesser time than one that it had of the ticket before. -/
theorem times_sort_as_text :
    (∀ a b : Timestamp, a.InCalendar → b.InCalendar →
      (a.text < b.text ↔ a.micros < b.micros) ∧ (a.text = b.text ↔ a = b)) ∧
    (∀ (c : ResultChannel) (steps : List Step),
      (∀ x ∈ history steps c, x.record.updatedAt = x.step.now.text) ∧
      (Timestamp.Advancing (steps.map Step.now) →
        (history steps c).Pairwise fun x y => x.record.updatedAt ≤ y.record.updatedAt)) ∧
    (∀ (s : Service) (turns turns' : List Turn) (ticket : String) (r r' : Record),
      s.results.records = [] → Timestamp.Advancing ((turns ++ turns').map Turn.now) →
      find? ticket (runAll turns s).results.records = some r →
      find? ticket (runAll (turns ++ turns') s).results.records = some r' →
      r.updatedAt ≤ r'.updatedAt) := by
  refine ⟨fun a b ha hb => ⟨Timestamp.text_lt_text_iff ha hb, Timestamp.text_injOn ha hb, ?_⟩,
    fun c steps => ⟨fun x hx => updatedAt_of_mem_history hx, fun h => pairwise_history h c⟩,
    fun s turns turns' ticket r r' hs hclock hr hr' => updatedAt_le_updatedAt hclock hs hr hr'⟩
  exact congrArg Timestamp.text

/-- A tool is called at the end of a second, and its outcome is published at the start of the next
one, which has the shorter text. -/
theorem times_sort_as_text_second :
    let before : Timestamp := ⟨1709251199999999⟩
    let after : Timestamp := ⟨1709251200000000⟩
    let turns : List Turn :=
      [⟨before, .bridge (.attach 0)⟩, ⟨before, .bridge (.call (.callTool "echo" .null))⟩]
    let turns' : List Turn := [⟨after, publicationOf "\x7b\"result\": 7\x7d"⟩]
    before.text < after.text ∧
      find? (ticketOf 1) (runAll turns narrow).results.records =
        some ⟨ticketOf 1, .callTool, "echo", .pending, .null, before.text⟩ ∧
      ∃ r', find? (ticketOf 1) (runAll (turns ++ turns') narrow).results.records = some r' ∧
        r'.isFinal = true ∧ before.text ≤ r'.updatedAt := by
  intro before after turns turns'
  obtain ⟨hreadings, -, hruns⟩ := times_sort_as_text
  have hclock : Timestamp.Advancing ((turns ++ turns').map Turn.now) :=
    ⟨by decide +kernel, by decide +kernel⟩
  have hbefore : find? (ticketOf 1) (runAll turns narrow).results.records =
      some ⟨ticketOf 1, .callTool, "echo", .pending, .null, before.text⟩ := by decide +kernel
  have hfinal : (find? (ticketOf 1) (runAll (turns ++ turns') narrow).results.records).map
      Record.isFinal = some true := by decide +kernel
  obtain ⟨r', hafter, hr'⟩ := Option.map_eq_some_iff.mp hfinal
  have hless : before.text < after.text :=
    (hreadings before after (by decide +kernel) (by decide +kernel)).1.mpr (by decide +kernel)
  have hempty : narrow.results.records = [] := rfl
  have hle := hruns narrow turns turns' (ticketOf 1) _ r' hempty hclock hbefore hafter
  exact ⟨hless, hbefore, r', hafter, hr', hle⟩

end Service

end CommandBridge
