import CommandBridge.Proofs.Instance.Conduct
import CommandBridge.Proofs.Service.Sessions

/-!
# CommandBridge.Proofs.Service.Holdings

Who holds which queue in a session.  A queue is held by the direct subscriber that has it, until
that leaves, or by the stream that opened it, until that ends or is closed.  No queue is held by
two, and the open queues are the ones that are held (`Sound`, kept by every move), so they
can be counted by their holders.
-/

namespace CommandBridge.Session

open ResultChannel

/-- Who can hold a queue. -/
inductive Holder where
  | subscriber (k : Nat)
  | stream (i : Nat)
  deriving DecidableEq

/-- The queue of a subscriber that has not left. -/
def heldQueue? (s : Subscriber) : Option Nat := if s.subscribed then some s.place else none

/-- The queue that somebody holds. -/
def View.holds (v : View) : Holder → Option Nat
  | .subscriber k => v.subscribers[k]?.bind heldQueue?
  | .stream i => v.streams[i]?.bind liveQueue?

/-- Open queues with a holder each, and places of queues that were left. -/
structure Owned (queues : List EventQueue) (holds : Holder → Option Nat) (left : Nat → Prop) :
    Prop where
  isOpen : ∀ h p, holds h = some p → ∃ q, queues[p]? = some q ∧ q.isOpen = true
  unique : ∀ h h' p, holds h = some p → holds h' = some p → h = h'
  left : ∀ p, left p → ∃ q, queues[p]? = some q ∧ q.isOpen = false

variable {queues queues' : List EventQueue} {holds : Holder → Option Nat} {left : Nat → Prop}
  {h : Holder} {p : Nat}

namespace Owned

/-- Queues can be changed, as long as they stay open or closed. -/
theorem mono (ho : Owned queues holds left)
    (hsame : ∀ (p : Nat) (q : EventQueue), queues[p]? = some q →
      ∃ q', queues'[p]? = some q' ∧ q'.isOpen = q.isOpen) : Owned queues' holds left where
  isOpen h p hp := by
    obtain ⟨q, hq, hopen⟩ := ho.isOpen h p hp
    obtain ⟨q', hq', hopen'⟩ := hsame p q hq
    exact ⟨q', hq', hopen'.trans hopen⟩
  unique := ho.unique
  left p hp := by
    obtain ⟨q, hq, hopen⟩ := ho.left p hp
    obtain ⟨q', hq', hopen'⟩ := hsame p q hq
    exact ⟨q', hq', hopen'.trans hopen⟩

/-- A queue that was just opened gets a holder. -/
theorem acquire (ho : Owned queues holds left) (h : Holder) (limit : Int) :
    Owned (queues ++ [⟨limit, [], true⟩]) (Function.update holds h (some queues.length)) left := by
  have hgrown : Owned (queues ++ [⟨limit, [], true⟩]) holds left := ho.mono fun p q hq =>
    ⟨q, by rw [List.getElem?_append_left (List.getElem?_eq_some_iff.mp hq).1]; exact hq, rfl⟩
  have hbelow : ∀ h p, holds h = some p → p ≠ queues.length := by
    rintro h _ hp rfl
    obtain ⟨q, hq, -⟩ := ho.isOpen h _ hp
    exact absurd hq (by simp)
  refine ⟨fun h' p hp => ?_, fun h' h'' p hp hp' => ?_, hgrown.left⟩
  · by_cases hh : h' = h
    · subst hh
      rw [Function.update_self] at hp
      obtain rfl := Option.some.inj hp
      exact ⟨_, List.getElem?_concat_length, rfl⟩
    · rw [Function.update_of_ne hh] at hp
      exact hgrown.isOpen h' p hp
  · by_cases hh : h' = h <;> by_cases hh' : h'' = h
    · rw [hh, hh']
    · rw [hh, Function.update_self] at hp
      rw [Function.update_of_ne hh'] at hp'
      exact absurd (Option.some.inj hp).symm (hbelow _ _ hp')
    · rw [hh', Function.update_self] at hp'
      rw [Function.update_of_ne hh] at hp
      exact absurd (Option.some.inj hp').symm (hbelow _ _ hp)
    · rw [Function.update_of_ne hh] at hp
      rw [Function.update_of_ne hh'] at hp'
      exact ho.unique h' h'' p hp hp'

/-- A queue is closed by its holder. -/
theorem release (ho : Owned queues holds left) (hp : holds h = some p) {left' : Nat → Prop}
    (hleft : ∀ r, left' r → r = p ∨ left r) :
    Owned (queues.modify p shut) (Function.update holds h none) left' := by
  have hother : ∀ {h'}, h' ≠ h → Function.update holds h none h' = holds h' := fun hh =>
    Function.update_of_ne hh _ _
  obtain ⟨q, hq, -⟩ := ho.isOpen h p hp
  refine ⟨fun h' r hr => ?_, fun h' h'' r hr hr' => ?_, fun r hr => ?_⟩
  · by_cases hh : h' = h
    · rw [hh, Function.update_self] at hr
      exact absurd hr (by simp)
    · rw [hother hh] at hr
      have hne : p ≠ r := by
        rintro rfl
        exact hh (ho.unique h' h p hr hp)
      rw [List.getElem?_modify_ne _ _ hne]
      exact ho.isOpen h' r hr
  · by_cases hh : h' = h
    · rw [hh, Function.update_self] at hr
      exact absurd hr (by simp)
    · by_cases hh' : h'' = h
      · rw [hh', Function.update_self] at hr'
        exact absurd hr' (by simp)
      · rw [hother hh] at hr
        rw [hother hh'] at hr'
        exact ho.unique h' h'' r hr hr'
  · by_cases hpr : p = r
    · subst hpr
      exact ⟨shut q, by rw [List.getElem?_modify_eq, hq]; rfl, rfl⟩
    · rw [List.getElem?_modify_ne _ _ hpr]
      exact ho.left r ((hleft r hr).resolve_left fun heq => hpr heq.symm)

end Owned

/-! ## Holdings in a session -/

/-- Whether a stream has a queue. -/
def hasQueue (st : EventStream) : Bool := (liveQueue? st).isSome

/-- The places of queues whose subscribers have left. -/
def View.Left (v : View) (p : Nat) : Prop :=
  ∃ s ∈ v.subscribers, s.subscribed = false ∧ s.place = p

/-- The open queues are those that somebody holds, and each stream's queue is one for so many
events. -/
structure Sound (v : View) : Prop extends Orderly v where
  owned : Owned v.queues v.holds v.Left
  fits : ∀ i p q, v.holds (.stream i) = some p → v.queues[p]? = some q → Fits defaultLimit q
  count : v.queues.countP (·.isOpen) =
    v.subscribers.countP (·.subscribed) + v.streams.countP hasQueue

variable {v v' : View} {t : Told} {i : Nat}

/-! What a change of one stream or of one subscriber does to the holdings. -/

theorem holds_modify_stream (v : View) (i : Nat) (f : EventStream → EventStream) :
    { v with streams := v.streams.modify i f }.holds =
      Function.update v.holds (.stream i) (v.streams[i]?.bind fun st => liveQueue? (f st)) := by
  funext h
  cases h with
  | subscriber k => exact (Function.update_of_ne (by simp) _ _).symm
  | stream j =>
      by_cases hij : i = j
      · subst hij
        rw [Function.update_self, View.holds, List.getElem?_modify_eq]
        cases v.streams[i]? <;> rfl
      · rw [Function.update_of_ne fun h => hij (Holder.stream.inj h).symm, View.holds,
          List.getElem?_modify_ne _ _ hij]
        rfl

/-- A stream that keeps its queue, or has none and opens none. -/
theorem holds_modify_same {st : EventStream} {f : EventStream → EventStream}
    (hst : v.streams[i]? = some st) (hqueue : liveQueue? (f st) = liveQueue? st) :
    { v with streams := v.streams.modify i f }.holds = v.holds := by
  have hsame : v.holds (.stream i) = liveQueue? st := by rw [View.holds, hst, Option.bind_some]
  rw [holds_modify_stream, hst, Option.bind_some, hqueue, ← hsame, Function.update_eq_self]

theorem holds_modify_subscriber (v : View) (k : Nat) (f : Subscriber → Subscriber) :
    { v with subscribers := v.subscribers.modify k f }.holds =
      Function.update v.holds (.subscriber k)
        (v.subscribers[k]?.bind fun s => heldQueue? (f s)) := by
  funext h
  cases h with
  | stream i => exact (Function.update_of_ne (by simp) _ _).symm
  | subscriber j =>
      by_cases hkj : k = j
      · subst hkj
        rw [Function.update_self, View.holds, List.getElem?_modify_eq]
        cases v.subscribers[k]? <;> rfl
      · rw [Function.update_of_ne fun h => hkj (Holder.subscriber.inj h).symm, View.holds,
          List.getElem?_modify_ne _ _ hkj]
        rfl

theorem holds_append_stream (v : View) (st : EventStream) (hst : liveQueue? st = none) :
    { v with streams := v.streams ++ [st] }.holds = v.holds := by
  funext h
  cases h with
  | subscriber k => rfl
  | stream i =>
      simp only [View.holds]
      rcases Nat.lt_trichotomy i v.streams.length with hlt | rfl | hgt
      · rw [List.getElem?_append_left hlt]
      · rw [List.getElem?_concat_length, List.getElem?_eq_none le_rfl]
        exact hst
      · rw [List.getElem?_eq_none (by rw [List.length_append, List.length_singleton]; omega),
          List.getElem?_eq_none hgt.le]

theorem holds_append_subscriber (v : View) (p : Nat) :
    { v with subscribers := v.subscribers ++ [(⟨p, true⟩ : Subscriber)] }.holds =
      Function.update v.holds (.subscriber v.subscribers.length) (some p) := by
  funext h
  cases h with
  | stream i => exact (Function.update_of_ne (by simp) _ _).symm
  | subscriber k =>
      simp only [View.holds]
      rcases Nat.lt_trichotomy k v.subscribers.length with hlt | rfl | hgt
      · rw [Function.update_of_ne fun h => hlt.ne (Holder.subscriber.inj h),
          List.getElem?_append_left hlt]
        rfl
      · rw [Function.update_self, List.getElem?_concat_length]
        rfl
      · rw [Function.update_of_ne fun h => hgt.ne' (Holder.subscriber.inj h),
          List.getElem?_eq_none (by rw [List.length_append, List.length_singleton]; omega)]
        show none = v.subscribers[k]?.bind heldQueue?
        rw [List.getElem?_eq_none hgt.le]
        rfl

/-- What a stream holds. -/
theorem holds_of_live {st : EventStream} {q : Nat} (hst : v.streams[i]? = some st)
    (hlive : st.phase = .live q) : v.holds (.stream i) = some q := by
  rw [View.holds, hst, Option.bind_some, liveQueue?, hlive]

/-- Changing one element changes a count by that element. -/
theorem countP_modify {α : Type} {l : List α} {i : Nat} {a : α} {f : α → α} (ha : l[i]? = some a)
    (p : α → Bool) :
    (l.modify i f).countP p + (if p a then 1 else 0) =
      l.countP p + (if p (f a) then 1 else 0) := by
  induction l generalizing i with
  | nil => simp at ha
  | cons b l ih =>
      cases i with
      | zero =>
          obtain rfl : b = a := by simpa using ha
          simp only [List.modify_zero_cons, List.countP_cons]
          omega
      | succ i =>
          have hrest := ih (i := i) (by simpa using ha)
          simp only [List.modify_succ_cons, List.countP_cons]
          omega

/-! ## Every change keeps the holdings in order -/

theorem isOpen_offer (q : EventQueue) (event : Json) : (q.offer event).isOpen = q.isOpen := by
  unfold EventQueue.offer
  split <;> rfl

/-- Streams can be changed in other ways than their heartbeats, and in their phases where they are
not waited for. -/
theorem Orderly.modify (ho : Orderly v) {f : EventStream → EventStream}
    (hheartbeat : ∀ st, (f st).heartbeat = st.heartbeat)
    (hphase : ∀ u ∈ v.underway, u.place = i → ∀ st, (f st).phase = st.phase)
    (queues : List EventQueue) :
    Orderly { v with queues := queues, streams := v.streams.modify i f } where
  positive := forall_mem_modify ho.positive fun st hst => hheartbeat st ▸ ho.positive st hst
  underway u hu := by
    obtain ⟨st, q, hst, hlive, hwait, hclock⟩ := ho.underway u hu
    by_cases hi : u.place = i
    · refine ⟨f st, q, ?_, (hphase u hu hi st).trans hlive, ?_, ?_⟩
      · show (v.streams.modify i f)[u.place]? = _
        rw [← hi, List.getElem?_modify_eq, hst]
        rfl
      · rwa [hheartbeat]
      · rwa [hheartbeat]
    · refine ⟨st, q, ?_, hlive, hwait, hclock⟩
      show (v.streams.modify i f)[u.place]? = _
      rwa [List.getElem?_modify_ne _ _ (Ne.symm hi)]

/-- What is waited for is a frame of a live stream. -/
theorem Orderly.place_ne (ho : Orderly v) {st : EventStream} (hst : v.streams[i]? = some st)
    (hnone : liveQueue? st = none) : ∀ u ∈ v.underway, u.place ≠ i := by
  rintro u hu rfl
  obtain ⟨st', q, hst', hlive, -, -⟩ := ho.underway u hu
  rw [hst] at hst'
  obtain rfl := Option.some.inj hst'
  rw [liveQueue?, hlive] at hnone
  exact absurd hnone (by simp)

namespace Sound

/-- What queues hold can change, as long as none is opened or closed. -/
theorem setQueues (hs : Sound v) {queues : List EventQueue} {underway : List Underway}
    (hlength : queues.length = v.queues.length)
    (hsame : ∀ (p : Nat) (q : EventQueue), v.queues[p]? = some q →
      ∃ q', queues[p]? = some q' ∧ q'.isOpen = q.isOpen ∧
        (Fits defaultLimit q → Fits defaultLimit q'))
    (hunderway : ∀ u ∈ underway, u ∈ v.underway) :
    Sound { v with queues := queues, underway := underway } where
  positive := hs.positive
  underway u hu := hs.underway u (hunderway u hu)
  owned := hs.owned.mono fun p q hq => by
    obtain ⟨q', hq', hopen, -⟩ := hsame p q hq
    exact ⟨q', hq', hopen⟩
  fits j p q' hp hq' := by
    have hheld : v.holds (.stream j) = some p := hp
    obtain ⟨q, hq, -⟩ := hs.owned.isOpen _ p hheld
    obtain ⟨q'', hq'', -, hfits⟩ := hsame p q hq
    obtain rfl := Option.some.inj (hq'.symm.trans hq'')
    exact hfits (hs.fits j p q hheld hq)
  count := by
    have hopen : queues.map (·.isOpen) = v.queues.map (·.isOpen) := by
      apply List.ext_getElem?
      intro p
      rw [List.getElem?_map, List.getElem?_map]
      cases hq : v.queues[p]? with
      | none =>
          have hge := List.getElem?_eq_none_iff.mp hq
          rw [List.getElem?_eq_none (by omega)]
      | some q =>
          obtain ⟨q', hq', hopen, -⟩ := hsame p q hq
          rw [hq', Option.map_some, Option.map_some, hopen]
    have hcount : ∀ qs : List EventQueue, qs.countP (·.isOpen) = (qs.map (·.isOpen)).countP id :=
      fun qs => by rw [List.countP_map, Function.id_comp]
    rw [hcount, hopen, ← hcount]
    exact hs.count

/-- What one queue holds can change. -/
theorem modify (hs : Sound v) {p : Nat} {f : EventQueue → EventQueue}
    {underway : List Underway} (hopen : ∀ q, (f q).isOpen = q.isOpen)
    (hfits : ∀ q, v.queues[p]? = some q → Fits defaultLimit q → Fits defaultLimit (f q))
    (hunderway : ∀ u ∈ underway, u ∈ v.underway) :
    Sound { v with queues := v.queues.modify p f, underway := underway } := by
  refine hs.setQueues (List.length_modify ..) (fun r q hq => ?_) hunderway
  by_cases hpr : p = r
  · subst hpr
    exact ⟨f q, by rw [List.getElem?_modify_eq, hq]; rfl, hopen q, hfits q hq⟩
  · exact ⟨q, by rw [List.getElem?_modify_ne _ _ hpr, hq], rfl, id⟩

/-- A stream leaves its queue and ends. -/
theorem endStream (hs : Sound v) {st : EventStream} {q : Nat} (hst : v.streams[i]? = some st)
    (hlive : st.phase = .live q) (hidle : ∀ u ∈ v.underway, u.place ≠ i) :
    Sound { v with
      queues := v.queues.modify q shut
      streams := v.streams.modify i fun st => { st with phase := .ended } } := by
  have hholds := holds_of_live hst hlive
  have hholds' : { v with
      queues := v.queues.modify q shut
      streams := v.streams.modify i fun st => { st with phase := .ended } }.holds =
      Function.update v.holds (.stream i) none := by
    have hmodify := holds_modify_stream v i fun st => { st with phase := .ended }
    rw [hst] at hmodify
    exact hmodify
  obtain ⟨e, he, hopen⟩ := hs.owned.isOpen _ _ hholds
  refine ⟨hs.toOrderly.modify (f := fun st => { st with phase := .ended }) (fun _ => rfl)
    (fun u hu hi => absurd hi (hidle u hu)) _, ?_, ?_, ?_⟩
  · rw [hholds']
    exact hs.owned.release hholds fun r hr => .inr hr
  · intro j p e' hp he'
    rw [hholds'] at hp
    have hne : Holder.stream j ≠ .stream i := by
      intro heq
      rw [heq, Function.update_self] at hp
      exact absurd hp (by simp)
    rw [Function.update_of_ne hne] at hp
    have hpq : q ≠ p := by
      rintro rfl
      exact hne (hs.owned.unique _ _ _ hp hholds)
    exact hs.fits j p e' hp ((List.getElem?_modify_ne _ _ hpq).symm.trans he')
  · have hqueues := countP_modify (f := shut) he fun q => q.isOpen
    have hstreams := countP_modify (f := fun st => { st with phase := .ended }) hst hasQueue
    have hshut : (shut e).isOpen = false := rfl
    have hhad : hasQueue st = true := by rw [hasQueue, liveQueue?, hlive]; rfl
    have hhas : hasQueue { st with phase := .ended } = false := rfl
    have hcount := hs.count
    simp only [hopen, hshut, hhad, hhas, if_true, Bool.false_eq_true, if_false] at hqueues hstreams
    show (v.queues.modify q shut).countP _ =
      v.subscribers.countP _ + (v.streams.modify i _).countP _
    omega

/-- A queue is opened for a stream or for a subscriber. -/
theorem fits_acquire (hs : Sound v) {h : Holder} {limit : Int} {p : Nat} {q : EventQueue}
    (hlimit : ∀ j, h = .stream j → limit = defaultLimit)
    (hp : Function.update v.holds h (some v.queues.length) (.stream i) = some p)
    (hq : (v.queues ++ [(⟨limit, [], true⟩ : EventQueue)])[p]? = some q) : Fits defaultLimit q := by
  by_cases hi : .stream i = h
  · rw [← hi, Function.update_self] at hp
    obtain rfl := Option.some.inj hp
    rw [List.getElem?_concat_length] at hq
    obtain rfl := Option.some.inj hq
    exact ⟨hlimit i hi.symm, by simp [defaultLimit]⟩
  · rw [Function.update_of_ne hi] at hp
    obtain ⟨e, he, -⟩ := hs.owned.isOpen _ p hp
    rw [List.getElem?_append_left (List.getElem?_eq_some_iff.mp he).1] at hq
    exact hs.fits i p q hp hq

/-- A stream opens its queue. -/
theorem startStream (hs : Sound v) {st : EventStream} (hst : v.streams[i]? = some st)
    (hfresh : st.phase = .fresh) :
    Sound { v with
      queues := v.queues ++ [⟨defaultLimit, [], true⟩]
      streams := v.streams.modify i fun st => { st with phase := .live v.queues.length } } := by
  have hnone : liveQueue? st = none := by rw [liveQueue?, hfresh]
  have hholds' : { v with
      queues := v.queues ++ [(⟨defaultLimit, [], true⟩ : EventQueue)]
      streams := v.streams.modify i fun st => { st with phase := .live v.queues.length } }.holds =
      Function.update v.holds (.stream i) (some v.queues.length) := by
    have hmodify := holds_modify_stream v i fun st => { st with phase := .live v.queues.length }
    rw [hst] at hmodify
    exact hmodify
  refine ⟨hs.toOrderly.modify (f := fun st => { st with phase := .live v.queues.length })
    (fun _ => rfl) (fun u hu hi => absurd hi (hs.place_ne hst hnone u hu)) _, ?_, ?_, ?_⟩
  · rw [hholds']
    exact hs.owned.acquire _ _
  · intro j p q hp hq
    rw [hholds'] at hp
    exact hs.fits_acquire (fun _ _ => rfl) hp hq
  · have hstreams := countP_modify (f := fun st => { st with phase := .live v.queues.length }) hst
      hasQueue
    have hhad : hasQueue st = false := by rw [hasQueue, hnone]; rfl
    have hhas : hasQueue { st with phase := .live v.queues.length } = true := rfl
    have hcount := hs.count
    simp only [hhad, hhas, if_true, Bool.false_eq_true, if_false] at hstreams
    show (v.queues ++ [_]).countP _ =
      v.subscribers.countP _ + (v.streams.modify i _).countP _
    rw [List.countP_append, List.countP_singleton]
    simp only [if_true]
    omega

/-- A change of streams that opens and closes no queue. -/
theorem modifyStream (hs : Sound v) {st : EventStream} {f : EventStream → EventStream}
    (hst : v.streams[i]? = some st) (hheartbeat : ∀ st, (f st).heartbeat = st.heartbeat)
    (hphase : ∀ u ∈ v.underway, u.place = i → ∀ st, (f st).phase = st.phase)
    (hqueue : liveQueue? (f st) = liveQueue? st) :
    Sound { v with streams := v.streams.modify i f } := by
  have hholds := holds_modify_same hst hqueue
  refine ⟨hs.toOrderly.modify hheartbeat hphase _, ?_, ?_, ?_⟩
  · rw [hholds]
    exact hs.owned
  · rw [hholds]
    exact hs.fits
  · have hstreams := countP_modify (f := f) hst hasQueue
    have hcount := hs.count
    rw [hasQueue, hasQueue, hqueue] at hstreams
    show v.queues.countP _ = v.subscribers.countP _ + (v.streams.modify i f).countP _
    omega

/-- A direct subscriber leaves; if it had left before, nothing changes. -/
theorem leave (hs : Sound v) {k : Nat} {s : Subscriber} (hsub : v.subscribers[k]? = some s) :
    Sound { v with
      queues := v.queues.modify s.place shut
      subscribers := v.subscribers.modify k fun s => { s with subscribed := false } } := by
  have hholds : { v with
      queues := v.queues.modify s.place shut
      subscribers := v.subscribers.modify k fun s => { s with subscribed := false } }.holds =
      Function.update v.holds (.subscriber k) none := by
    have hmodify := holds_modify_subscriber v k fun s => { s with subscribed := false }
    rw [hsub] at hmodify
    exact hmodify
  have hleft : ∀ r, { v with
      queues := v.queues.modify s.place shut
      subscribers := v.subscribers.modify k fun s => { s with subscribed := false } }.Left r →
      r = s.place ∨ v.Left r := by
    rintro r ⟨s', hs', hgone, rfl⟩
    obtain ⟨j, hj⟩ := List.mem_iff_getElem?.mp hs'
    by_cases hkj : k = j
    · subst hkj
      rw [List.getElem?_modify_eq, hsub] at hj
      obtain rfl := Option.some.inj hj
      exact .inl rfl
    · rw [List.getElem?_modify_ne _ _ hkj] at hj
      exact .inr ⟨s', List.mem_of_getElem? hj, hgone, rfl⟩
  have hsubscribers := countP_modify (f := fun s => { s with subscribed := false }) hsub
    fun s => s.subscribed
  have hcount := hs.count
  cases hgone : s.subscribed with
  | true =>
      have hheld : v.holds (.subscriber k) = some s.place := by
        rw [View.holds, hsub, Option.bind_some, heldQueue?, if_pos hgone]
      obtain ⟨q, hq, hopen⟩ := hs.owned.isOpen _ _ hheld
      refine ⟨⟨hs.positive, hs.underway⟩, ?_, ?_, ?_⟩
      · rw [hholds]
        exact hs.owned.release hheld hleft
      · intro i p q' hp hq'
        rw [hholds, Function.update_of_ne (by simp)] at hp
        have hne : s.place ≠ p := by
          rintro rfl
          exact absurd (hs.owned.unique _ _ _ hp hheld) (by simp)
        exact hs.fits i p q' hp ((List.getElem?_modify_ne _ _ hne).symm.trans hq')
      · have hqueues := countP_modify (f := shut) hq fun q => q.isOpen
        have hshut : (shut q).isOpen = false := rfl
        simp only [hopen, hshut, hgone, if_true, Bool.false_eq_true, if_false]
          at hqueues hsubscribers
        show (v.queues.modify s.place shut).countP _ =
          (v.subscribers.modify k _).countP _ + v.streams.countP _
        omega
  | false =>
      obtain ⟨q, hq, hclosed⟩ := hs.owned.left s.place
        ⟨s, List.mem_of_getElem? hsub, hgone, rfl⟩
      have hshut : v.queues.modify s.place shut = v.queues := by
        refine (modify_congr (g := id) hq ?_).trans (List.modify_id ..)
        rw [shut, ← hclosed]
        rfl
      have hsame : Function.update v.holds (.subscriber k) none = v.holds := by
        have hnone : v.holds (.subscriber k) = none := by
          rw [View.holds, hsub, Option.bind_some, heldQueue?, hgone]
          rfl
        rw [← hnone, Function.update_eq_self]
      refine ⟨⟨hs.positive, hs.underway⟩, ?_, ?_, ?_⟩
      · rw [hholds, hsame]
        show Owned (v.queues.modify s.place shut) v.holds _
        rw [hshut]
        refine ⟨hs.owned.isOpen, hs.owned.unique, fun r hr => ?_⟩
        rcases hleft r hr with rfl | hr
        · exact ⟨q, hq, hclosed⟩
        · exact hs.owned.left r hr
      · rw [hholds, hsame]
        show ∀ i p q, _ → (v.queues.modify s.place shut)[p]? = some q → _
        rw [hshut]
        exact hs.fits
      · simp only [hgone, Bool.false_eq_true, if_false, Nat.add_zero] at hsubscribers
        show (v.queues.modify s.place shut).countP _ =
          (v.subscribers.modify k _).countP _ + v.streams.countP _
        rw [hshut, hsubscribers]
        exact hcount

/-- Somebody subscribes directly. -/
theorem subscribe (hs : Sound v) (limit : Int) :
    Sound { v with
      queues := v.queues ++ [⟨limit, [], true⟩]
      subscribers := v.subscribers ++ [⟨v.queues.length, true⟩] } := by
  have hholds : { v with
      queues := v.queues ++ [(⟨limit, [], true⟩ : EventQueue)]
      subscribers := v.subscribers ++ [(⟨v.queues.length, true⟩ : Subscriber)] }.holds =
      Function.update v.holds (.subscriber v.subscribers.length) (some v.queues.length) :=
    holds_append_subscriber v v.queues.length
  refine ⟨⟨hs.positive, hs.underway⟩, ?_, ?_, ?_⟩
  · rw [hholds]
    have hgrown := hs.owned.acquire (.subscriber v.subscribers.length) limit
    refine ⟨hgrown.isOpen, hgrown.unique, ?_⟩
    rintro p ⟨s, hs', hgone, rfl⟩
    rcases List.mem_append.mp hs' with hold | hnew
    · exact hgrown.left _ ⟨s, hold, hgone, rfl⟩
    · obtain rfl := List.mem_singleton.mp hnew
      exact absurd hgone (by simp)
  · intro i p q hp hq
    rw [hholds] at hp
    exact hs.fits_acquire (fun _ h => absurd h (by simp)) hp hq
  · have hcount := hs.count
    show (v.queues ++ [_]).countP _ = (v.subscribers ++ [_]).countP _ + v.streams.countP _
    rw [List.countP_append, List.countP_append, List.countP_singleton, List.countP_singleton]
    simp only [if_true]
    omega

/-- A stream is opened, and has no queue yet. -/
theorem openStream (hs : Sound v) {heartbeat : Nat} (positive : 0 < heartbeat) :
    Sound { v with streams := v.streams ++ [⟨heartbeat, .fresh, false⟩] } := by
  have hholds := holds_append_stream v ⟨heartbeat, .fresh, false⟩ rfl
  refine ⟨⟨fun st hst => ?_, fun u hu => ?_⟩, ?_, ?_, ?_⟩
  · rcases List.mem_append.mp hst with hold | hnew
    · exact hs.positive st hold
    · obtain rfl := List.mem_singleton.mp hnew
      exact positive
  · obtain ⟨st, q, hst, hrest⟩ := hs.underway u hu
    refine ⟨st, q, ?_, hrest⟩
    exact (List.getElem?_append_left (List.getElem?_eq_some_iff.mp hst).1).trans hst
  · rw [hholds]
    exact hs.owned
  · rw [hholds]
    exact hs.fits
  · have hcount := hs.count
    show v.queues.countP _ = v.subscribers.countP _ + (v.streams ++ [_]).countP _
    rw [List.countP_append, List.countP_singleton]
    exact hcount

/-- Every change keeps the holdings in order. -/
theorem change (hs : Sound v) (hc : Change v v' t) : Sound v' := by
  cases hc with
  | idle => exact hs
  | silent hst hended => exact hs
  | opened positive => exact hs.openStream positive
  | ready hst hfresh backend => exact hs.startStream hst hfresh
  | ended hst hlive hgone hidle => exact hs.endStream hst hlive hidle
  | closed hst hlive hidle => exact hs.endStream hst hlive hidle
  | @event i q st e rest underway hst hlive hheld hunderway =>
      refine hs.modify (fun _ => rfl) (fun queue hq hfits => hfits.shorten ?_) hunderway
      have hpending : queue.pending = e :: rest := by
        rw [← hheld, View.held, hq]
        rfl
      rw [hpending]
      exact Nat.le_succ _
  | heartbeat hst hlive hheld hunderway =>
      exact ⟨⟨hs.positive, fun u hu => hs.underway u (hunderway u hu)⟩, hs.owned, hs.fits, hs.count⟩
  | @waiting i q st hst hlive =>
      refine ⟨⟨hs.positive, fun u hu => ?_⟩, hs.owned, hs.fits, hs.count⟩
      rcases List.mem_append.mp hu with hu | hu
      · exact hs.underway u hu
      · obtain rfl := List.mem_singleton.mp hu
        exact ⟨st, q, hst, hlive, rfl, Nat.le_add_right _ _⟩
  | passed hwaits =>
      refine ⟨⟨hs.positive, fun u hu => ?_⟩, hs.owned, hs.fits, hs.count⟩
      obtain ⟨st, q, hst, hlive, hwait, -⟩ := hs.underway u hu
      refine ⟨st, q, hst, hlive, hwait, ?_⟩
      have hdeadline : u.wait.deadline = u.begun + st.heartbeat := by rw [hwait]; rfl
      exact hdeadline ▸ hwaits u hu
  | gone hst => exact hs.modifyStream hst (fun _ => rfl) (fun _ _ _ _ => rfl) rfl
  | dropped hst hnone =>
      exact hs.modifyStream hst (fun _ => rfl)
        (fun u hu hi => absurd hi (hs.place_ne hst hnone u hu)) hnone.symm
  | published body =>
      refine hs.setQueues (List.length_map _) (fun p q hq => ?_) fun _ => id
      refine ⟨q.offer body, ?_, isOpen_offer q body, fun hfits => hfits.offer body⟩
      rw [List.getElem?_map, hq]
      rfl
  | subscribed limit => exact hs.subscribe limit
  | left hsub => exact hs.leave hsub
  | drained hsub =>
      exact hs.modify (fun _ => rfl) (fun q _ hfits => hfits.shorten (Nat.zero_le _)) fun _ => id

end Sound

end CommandBridge.Session
