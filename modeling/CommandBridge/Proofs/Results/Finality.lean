import CommandBridge.Proofs.Keeps
import CommandBridge.Proofs.Results.StoredText

/-!
# CommandBridge.Proofs.Results.Finality

Once a look-up shows an outcome, no later one shows its ticket as pending.

What look-ups can show of a ticket (`Shown`) is the record in the map and, if Redis is connected,
the record that is read from there once the map has forgotten the ticket.  As long as Redis takes
all writes, what it holds is final if the record in the map is final and has a body (`Steady`).
Every operation keeps that, and what is settled stays so (`Forward.keeps_run`), unless it publishes
on a ticket that it is pending or registers a ticket again.

A record without a body is not written through, so an outcome that was shown without one does not
settle its ticket.
-/

namespace CommandBridge

open ResultChannel

/-- An operation that takes no ticket back to pending: it registers nothing, and publishes of
nothing that it is pending. -/
def ChannelOperation.Forward : ChannelOperation → Prop
  | .register _ => False
  | .publish _ status _ => ResultStatus.ofJson? status ≠ some .pending
  | _ => True

namespace ResultChannel

/-- A record that a look-up of a ticket can give, now or once the map has forgotten the ticket. -/
inductive Shown (c : ResultChannel) (ticket : String) (r : Record) : Prop where
  | cached (hmem : r ∈ c.records) (hticket : r.ticket = ticket)
  | stored {now : Timestamp} {text : String} (hconn : c.connected = true)
      (hlookup : c.redis.lookup (redisKey ticket) = some text)
      (hread : readStored c.nesting now text = .ok r)

/-- A channel whose Redis takes all writes while it is connected, and what is known of the records
that look-ups in it can give.  Those of one ticket have that ticket, and none is pending if one is
final that can be dumped; tickets that are `undrawn` have none, and those of `settled` tickets are
not pending. -/
structure Steady (undrawn settled : String → Prop) (c : ResultChannel) : Prop where
  writes : c.connected = true → c.redis.TakesWrites
  single : ∀ r ∈ c.records, ∀ r' ∈ c.records, r.ticket = r'.ticket → r = r'
  keyed : ∀ {t r}, Shown c t r → r.ticket = t
  agree : ∀ {t r r'}, Shown c t r → Shown c t r' → r.Dumpable → r.isFinal = true →
    r'.isFinal = true
  drawn : ∀ {t r}, Shown c t r → ¬ undrawn t
  final : ∀ {t r}, Shown c t r → settled t → r.isFinal = true
  apart : ∀ {t}, settled t → ¬ undrawn t

variable {c c' : ResultChannel} {ticket t : String} {r x : Record} {now : Timestamp}
  {undrawn undrawn' settled : String → Prop}

/-! ## What look-ups show -/

/-- What can be shown is there in the map or in Redis. -/
theorem Shown.mono (hrecords : ∀ x ∈ c'.records, x ∈ c.records)
    (hconn : c'.connected = true → c.connected = true)
    (hlookup : ∀ key, c'.redis.lookup key = c.redis.lookup key) (hnesting : c'.nesting = c.nesting)
    (h : Shown c' t x) : Shown c t x := by
  cases h with
  | cached hmem hticket => exact .cached (hrecords x hmem) hticket
  | stored hconn' hlookup' hread =>
      exact .stored (hconn hconn') (hlookup _ ▸ hlookup') (hnesting ▸ hread)

namespace Steady

/-- A channel that can show no more than another one is as steady. -/
theorem mono (h : Steady undrawn settled c) (hwrites : c'.connected = true → c'.redis.TakesWrites)
    (hrecords : ∀ x ∈ c'.records, x ∈ c.records)
    (hshown : ∀ {t x}, Shown c' t x → Shown c t x) : Steady undrawn settled c' where
  writes := hwrites
  single r hr r' hr' := h.single r (hrecords r hr) r' (hrecords r' hr')
  keyed hx := h.keyed (hshown hx)
  agree hx hx' := h.agree (hshown hx) (hshown hx')
  drawn hx := h.drawn (hshown hx)
  final hx := h.final (hshown hx)
  apart := h.apart

/-- Tickets can be drawn. -/
theorem draw (h : Steady undrawn settled c) (hsub : ∀ t, undrawn' t → undrawn t) :
    Steady undrawn' settled c where
  writes := h.writes
  single := h.single
  keyed := h.keyed
  agree := h.agree
  drawn hx ht := h.drawn hx (hsub _ ht)
  final := h.final
  apart ht ht' := h.apart ht (hsub _ ht')

/-- A ticket with an outcome is settled, if the outcome can be dumped or is only in memory. -/
theorem settle (h : Steady undrawn settled c) (hx : Shown c ticket x) (hfinal : x.isFinal = true)
    (hdump : c.connected = true → x.Dumpable) : Steady undrawn (· = ticket) c where
  writes := h.writes
  single := h.single
  keyed := h.keyed
  agree := h.agree
  drawn := h.drawn
  final := by
    rintro t r hr rfl
    by_cases hconn : c.connected = true
    · exact h.agree hx hr (hdump hconn) hfinal
    · -- without Redis both are the one record of the ticket in the map
      cases hx with
      | stored hconn' _ _ => exact absurd hconn' hconn
      | cached hmem hticket =>
          cases hr with
          | stored hconn' _ _ => exact absurd hconn' hconn
          | cached hmem' hticket' =>
              rwa [h.single r hmem' x hmem (hticket'.trans hticket.symm)]
  apart := by
    rintro t rfl
    exact h.drawn hx

end Steady

/-! ## Looking up -/

theorem exists_of_fetch (h : ((fetch now ticket).run c).answer = .ok (some r)) :
    ∃ text, c.redis.lookup (redisKey ticket) = some text ∧
      readStored c.nesting now text = .ok r := by
  rw [fetch, Op.answer_bind_ok (a := c) rfl] at h
  simp only [Op.run_get] at h
  cases hget : ((onRedis (Redis.get (redisKey ticket))).run c).answer with
  | error e =>
      rw [Op.answer_bind_error hget] at h
      simp at h
  | ok text? =>
      have hlookup : c.redis.lookup (redisKey ticket) = text? := Redis.lookup_of_get hget
      rw [Op.answer_bind_ok hget] at h
      cases text? with
      | none => simp at h
      | some text =>
          refine ⟨text, hlookup, ?_⟩
          by_cases htext : text.isEmpty = true
          · simp [htext] at h
          · cases hread : readStored c.nesting now text with
            | error e => simp [htext, hread, Except.map] at h
            | ok x => simpa [htext, hread, Except.map] using h

/-- What a look-up answers with can be shown. -/
theorem shown_of_get (h : ((get now ticket).run c).answer = .ok r) : Shown c ticket r := by
  cases hfind : find? ticket c.records with
  | some x =>
      rw [get_run_of_find? hfind] at h
      obtain rfl := Except.ok.inj h
      exact .cached (List.mem_of_find?_eq_some hfind) (ticket_of_find? hfind)
  | none =>
      rw [get, Op.answer_bind_ok (a := c) rfl] at h
      simp only [Op.run_get, hfind] at h
      cases hconn : c.connected with
      | false => simp [hconn] at h
      | true =>
          cases hfetch : ((fetch now ticket).run c).answer with
          | error e => simp [hconn, hfetch, Op.event] at h
          | ok x? =>
              cases x? with
              | none => simp [hconn, hfetch] at h
              | some x =>
                  obtain rfl : x = r := by simpa [hconn, hfetch] using h
                  obtain ⟨text, hlookup, hread⟩ := exists_of_fetch hfetch
                  exact .stored hconn hlookup hread

/-- A look-up changes nothing that can be shown. -/
theorem keeps_get (now : Timestamp) (ticket : String) :
    (get now ticket).Keeps (Steady undrawn settled) := by
  intro c hc
  rw [get_state]
  refine hc.mono (fun hconn => ?_) (fun _ hx => hx)
    (Shown.mono (fun _ hx => hx) id (fun key => lookup_consulted ticket key c) rfl)
  have hwrites := hc.writes hconn
  simp only [consulted]
  split
  · rw [Redis.get_state]
    exact hwrites
  · exact hwrites

/-! ## Storing -/

/-- Eviction only takes records away. -/
theorem sublist_of_evict {capacity : Int} {records kept : List Record}
    (h : evict capacity records = .ok kept) : kept.Sublist records := by
  induction records with
  | nil =>
      rw [evict] at h
      split at h
      · simp at h
      · rw [← Except.ok.inj h]
  | cons y rest ih =>
      rw [evict] at h
      split at h
      · exact (ih h).cons y
      · rw [← Except.ok.inj h]

/-- A record that cannot be put into the map is not stored anywhere. -/
theorem store_state_of_error {e : Failure}
    (h : evict c.capacity (insertNewest r c.records) = .error e) :
    ((store r).run c).state = { c with records := [] } := by
  have hinsert : (insert r).run c = ⟨.error e, { c with records := [] }, []⟩ := by
    show insert r c = _
    rw [insert, h]
  rw [store, Op.state_bind_error (by rw [hinsert]), hinsert]

/-- What can be shown after a store: of other tickets what could be shown before, and of its own
ticket the record that was stored, with its result or with what is read back of it.  If the record
has no body, Redis still shows of the ticket what it showed before. -/
theorem Shown.of_store {kept : List Record} (hwrites : c.connected = true → c.redis.TakesWrites)
    (hkept : evict c.capacity (insertNewest r c.records) = .ok kept)
    (h : Shown { c with records := kept, redis := written r c } t x) :
    (t ≠ r.ticket ∨ ¬ r.Dumpable) ∧ Shown c t x ∨
      t = r.ticket ∧ x.ticket = r.ticket ∧ x.isFinal = r.isFinal ∧ (x = r ∨ r.Dumpable) := by
  cases h with
  | cached hmem hticket =>
      have hinserted := (sublist_of_evict hkept).mem hmem
      rw [insertNewest, List.mem_append, List.mem_singleton, List.mem_filter,
        decide_eq_true_iff] at hinserted
      rcases hinserted with ⟨hold, hne⟩ | rfl
      · exact .inl ⟨.inl (hticket ▸ hne), .cached hold hticket⟩
      · exact .inr ⟨hticket.symm, rfl, rfl, .inl rfl⟩
  | stored hconn hlookup hread =>
      by_cases hdump : r.Dumpable
      · rw [lookup_written (c := c) hconn (hwrites hconn) hdump] at hlookup
        split at hlookup
        · next ht =>
          obtain rfl := Option.some.inj hlookup
          obtain ⟨result, rfl⟩ := exists_of_readStored_write hread
          exact .inr ⟨ht, rfl, rfl, .inr hdump⟩
        · next ht => exact .inl ⟨.inl ht, .stored hconn hlookup hread⟩
      · have hsame : written r c = c.redis := if_neg fun h => hdump h.2
        rw [hsame] at hlookup
        exact .inl ⟨.inr hdump, .stored hconn hlookup hread⟩

/-- The map holds one record of a ticket after a store, as before. -/
theorem single_of_store {kept : List Record}
    (hsingle : ∀ x ∈ c.records, ∀ x' ∈ c.records, x.ticket = x'.ticket → x = x')
    (hkept : evict c.capacity (insertNewest r c.records) = .ok kept) :
    ∀ x ∈ kept, ∀ x' ∈ kept, x.ticket = x'.ticket → x = x' := by
  have hmem : ∀ x ∈ kept, x ∈ c.records ∧ x.ticket ≠ r.ticket ∨ x = r := by
    intro x hx
    simpa [insertNewest] using (sublist_of_evict hkept).mem hx
  intro x hx x' hx' heq
  rcases hmem x hx with ⟨hold, hne⟩ | rfl <;> rcases hmem x' hx' with ⟨hold', hne'⟩ | rfl
  · exact hsingle x hold x' hold' heq
  · exact absurd heq hne
  · exact absurd heq.symm hne'
  · rfl

/-- A record can be stored under a ticket that was drawn, if it is final, or can be dumped and the
ticket is not settled. -/
theorem keeps_store (hdrawn : ¬ undrawn r.ticket)
    (hfinal : r.isFinal = true ∨ r.Dumpable ∧ ¬ settled r.ticket) :
    (store r).Keeps (Steady undrawn settled) := by
  intro c hc
  cases hkept : evict c.capacity (insertNewest r c.records) with
  | error e =>
      rw [store_state_of_error hkept]
      exact hc.mono hc.writes (fun _ hx => by simp at hx)
        (Shown.mono (fun _ hx => by simp at hx) id (fun _ => rfl) rfl)
  | ok kept =>
      rw [store_state_of_ok hkept]
      have hshown := fun {t x} => Shown.of_store (t := t) (x := x) hc.writes hkept
      constructor
      · exact fun hconn => takesWrites_written (hc.writes hconn) r
      · exact single_of_store hc.single hkept
      · intro t x hx
        rcases hshown hx with ⟨-, hold⟩ | ⟨rfl, hticket, -⟩
        · exact hc.keyed hold
        · exact hticket
      · intro t x x' hx hx' hdump hxfinal
        rcases hshown hx' with ⟨hother, hold'⟩ | ⟨rfl, -, hsame', -⟩
        · rcases hshown hx with ⟨-, hold⟩ | ⟨rfl, -, -, heq⟩
          · exact hc.agree hold hold' hdump hxfinal
          · -- both can only be of the ticket if the stored record has no body, which the first has
            rcases hother with hne | hundumpable
            · exact absurd rfl hne
            · rcases heq with rfl | hrdump
              · exact absurd hdump hundumpable
              · exact absurd hrdump hundumpable
        · rw [hsame']
          rcases hshown hx with ⟨hother, -⟩ | ⟨-, -, hsame, -⟩
          · rcases hother with hne | hundumpable
            · exact absurd rfl hne
            · exact hfinal.resolve_right fun h => hundumpable h.1
          · rw [← hsame, hxfinal]
      · intro t x hx
        rcases hshown hx with ⟨-, hold⟩ | ⟨rfl, -⟩
        · exact hc.drawn hold
        · exact hdrawn
      · intro t x hx ht
        rcases hshown hx with ⟨-, hold⟩ | ⟨rfl, -, hsame, -⟩
        · exact hc.final hold ht
        · rw [hsame]
          exact hfinal.resolve_right fun h => h.2 ht
      · exact hc.apart

/-- A command can be registered under a ticket that was drawn and never registered. -/
theorem keeps_register (now : Timestamp) {command : Command} (hdrawn : ¬ undrawn command.ticket)
    (hfresh : ¬ settled command.ticket) :
    (register now command).Keeps (Steady undrawn settled) :=
  .bind (keeps_store hdrawn (.inr ⟨rfl, hfresh⟩)) fun _ => .pure _

/-! ## Other operations -/

theorem keeps_checkStatus {P : ResultChannel → Prop} (status : Json) :
    (checkStatus status).Keeps P := by
  unfold checkStatus
  split
  · exact .pure _
  · exact .fail _

/-- What happens to queues can be shown of no ticket. -/
theorem keeps_queues {α : Type} {x : Op ResultChannel α}
    (h : ∀ c, ∃ queues, (x.run c).state = { c with queues := queues }) :
    x.Keeps (Steady undrawn settled) := by
  intro c hc
  obtain ⟨queues, hstate⟩ := h c
  rw [hstate]
  exact hc.mono hc.writes (fun _ hx => hx)
    (Shown.mono (fun _ hx => hx) id (fun _ => rfl) rfl)

/-- An outcome that is not pending can be published on every ticket. -/
theorem keeps_publish (now : Timestamp) (ticket : String) {status : Json} (result : Json)
    (hstatus : ResultStatus.ofJson? status ≠ some .pending) :
    (publish now ticket status result).Keeps (Steady undrawn settled) := by
  have hyields : (checkStatus status).Yields (Steady undrawn settled) (· ≠ .pending) := by
    unfold checkStatus
    split
    · next s hs =>
      refine .pure ?_
      rintro rfl
      exact hstatus hs
    · exact .fail _
  have hlooked : (get now ticket).Yields (Steady undrawn settled)
      fun current => ¬ undrawn current.ticket := by
    intro c hc current hcurrent
    have hshown := shown_of_get hcurrent
    rw [hc.keyed hshown]
    exact hc.drawn hshown
  refine .bind_of_yields (keeps_get now ticket) hlooked fun current hdrawn =>
    .bind_of_yields (keeps_checkStatus status) hyields fun s hs => ?_
  exact .bind (keeps_store hdrawn (.inl (by simp [Record.withOutcome, Record.isFinal, hs])))
    fun _ => .bind (.event _ _ _ _) fun _ =>
      .bind (keeps_queues fun c => ⟨_, by rw [broadcast_run]⟩) fun _ => .pure _

theorem keeps_close : close.Keeps (Steady undrawn settled) := by
  refine .bind .get fun c => .ite (fun _ => ?_) fun _ => .pure _
  refine .bind (.on fun c hc => ?_) fun _ => .modify fun c hc => ?_
  · exact hc.mono hc.writes (fun _ hx => hx)
      (Shown.mono (fun _ hx => hx) id (fun _ => rfl) rfl)
  · exact hc.mono (by simp) (fun _ hx => hx)
      (Shown.mono (fun _ hx => hx) (by simp) (fun _ => rfl) rfl)

/-- A publication that something is pending is taken like any other: whatever was shown of the
ticket, the next look-up shows it as pending. -/
theorem get_of_publish_pending {m : Nat} (hm : 1 ≤ m) (hcap : c.capacity = m)
    (hget : ((get now ticket).run c).answer = .ok r) (hticket : r.ticket = ticket) (result : Json)
    (later : Timestamp) :
    ((get later ticket).run ((publishOutcome now ticket .pending result).run c).state).answer =
      .ok (r.withOutcome now .pending result) := by
  have hfind : find? ticket ((publishOutcome now ticket .pending result).run c).state.records =
      some (r.withOutcome now .pending result) := by
    rw [publishOutcome,
      publish_state hcap (incoming?_of_ok hget (ResultStatus.ofJson?_text .pending)), ← hticket]
    exact find?_kept hm (r.withOutcome now .pending result) c.records
  rw [get_run_of_find? hfind]

end ResultChannel

/-- To publish an outcome that is not pending takes no ticket back. -/
theorem ChannelOperation.forward_of_ne {status : ResultStatus} (h : status ≠ .pending)
    (ticket : String) (result : Json) :
    (ChannelOperation.publish ticket (.string status.text) result).Forward := by
  rw [Forward, ResultStatus.ofJson?_text]
  exact fun heq => h (Option.some.inj heq)

/-- An operation that takes no ticket back to pending keeps what is settled. -/
theorem ChannelOperation.Forward.keeps_run {o : ChannelOperation} (ho : o.Forward) (now : Timestamp)
    {undrawn settled : String → Prop} : (o.run now).Keeps (Steady undrawn settled) := by
  cases o with
  | register command => exact ho.elim
  | publish ticket status result => exact .discard (keeps_publish now ticket result ho)
  | get ticket => exact .discard (keeps_get now ticket)
  | subscribe limit => exact .discard (keeps_queues fun c => ⟨_, rfl⟩)
  | unsubscribe place => exact keeps_queues fun c => ⟨_, rfl⟩
  | drain place => exact .discard (keeps_queues fun c => ⟨_, rfl⟩)

end CommandBridge
