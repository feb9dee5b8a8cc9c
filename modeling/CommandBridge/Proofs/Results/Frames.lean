import CommandBridge.Proofs.Json.Ascii
import CommandBridge.Proofs.Json.Strict
import CommandBridge.Proofs.Keeps
import CommandBridge.Proofs.Results.StoredText
import CommandBridge.Proofs.Results.Subscriptions
import CommandBridge.Results.Stream

/-!
# CommandBridge.Proofs.Results.Frames

The text of an event stream.  A frame is one line or two and a blank line, and no line of a frame
is blank or has a line break in it (`Frame.text_toList`, `Frame.lines_spec`), since the written form
of a body has none.  So a stream falls apart at its blank lines into its frames again
(`cutAtBlankLines_streamText`), and each data line is strict JSON that is read back as the body.

A record without a body has no frame: nobody is told of it (`record_without_body_has_no_frame`).
-/

namespace CommandBridge

open Json

/-! ## Blank lines -/

/-- A text cut behind each of its blank lines; what is left behind the last one comes at the end. -/
def cutAtBlankLines : List Char → List (List Char)
  | [] => []
  | '\n' :: '\n' :: t => ['\n', '\n'] :: cutAtBlankLines t
  | c :: t =>
    match cutAtBlankLines t with
    | [] => [[c]]
    | b :: bs => (c :: b) :: bs

/-- Lines, each with its end. -/
def linesText (ls : List (List Char)) : List Char := ls.flatMap fun l => l ++ ['\n']

/-- A line that is not blank. -/
def IsLine (l : List Char) : Prop := l ≠ [] ∧ '\n' ∉ l

variable {t b : List Char} {bs : List (List Char)}

theorem cutAtBlankLines_cons {c : Char} (h : ∀ t', ¬ (c = '\n' ∧ t = '\n' :: t'))
    (hcut : cutAtBlankLines t = b :: bs) : cutAtBlankLines (c :: t) = (c :: b) :: bs := by
  rw [cutAtBlankLines, hcut]
  intro t' hc ht
  exact h t' ⟨hc, ht⟩

/-- Characters other than a line feed stay with what follows them. -/
theorem cutAtBlankLines_append {cs : List Char} (hcs : '\n' ∉ cs)
    (hcut : cutAtBlankLines t = b :: bs) : cutAtBlankLines (cs ++ t) = (cs ++ b) :: bs := by
  induction cs with
  | nil => exact hcut
  | cons c cs ih =>
      rw [List.mem_cons, not_or] at hcs
      exact cutAtBlankLines_cons (fun _ hc => hcs.1 hc.1.symm) (ih hcs.2)

/-- Lines that are not blank stay together up to the blank line that follows them. -/
theorem cutAtBlankLines_linesText {ls : List (List Char)} (hne : ls ≠ []) (hls : ∀ l ∈ ls, IsLine l)
    (t : List Char) :
    cutAtBlankLines (linesText ls ++ '\n' :: t) =
      (linesText ls ++ ['\n']) :: cutAtBlankLines t := by
  induction ls with
  | nil => exact absurd rfl hne
  | cons l ls ih =>
      have hl := (hls l List.mem_cons_self).2
      cases ls with
      | nil =>
          have hcut : cutAtBlankLines ('\n' :: '\n' :: t) = ['\n', '\n'] :: cutAtBlankLines t := by
            rw [cutAtBlankLines]
          have hline := cutAtBlankLines_append hl hcut
          simpa [linesText] using hline
      | cons l' ls =>
          obtain ⟨c, cs, rfl⟩ := List.exists_cons_of_ne_nil (hls l' (by simp)).1
          have hc : '\n' ≠ c := List.ne_of_not_mem_cons (hls (c :: cs) (by simp)).2
          have hrest := ih (List.cons_ne_nil _ _) fun x hx => hls x (List.mem_cons_of_mem _ hx)
          have hbreak : cutAtBlankLines ('\n' :: (linesText ((c :: cs) :: ls) ++ '\n' :: t)) =
              ('\n' :: (linesText ((c :: cs) :: ls) ++ ['\n'])) :: cutAtBlankLines t := by
            refine cutAtBlankLines_cons ?_ hrest
            rintro t' ⟨-, ht⟩
            exact hc (List.cons.inj ht).1.symm
          have hline := cutAtBlankLines_append hl hbreak
          simpa [linesText] using hline

/-! ## The lines of a frame -/

namespace Frame

/-- What a stream says when it is ready. -/
def readyBody (backend : String) : Json :=
  .object [("type", .string "ready"), ("result_backend", .string backend)]

/-- The line of a body. -/
def dataLine (body : Json) : List Char := "data: ".toList ++ chars body

/-- The lines of a frame. -/
def lines : Frame → List (List Char)
  | .ready backend => [dataLine (readyBody backend)]
  | .heartbeat => [": heartbeat".toList]
  | .result body => ["event: result".toList, dataLine body]

theorem plain_dataLine (body : Json) : Plain (dataLine body) :=
  plain_append.mpr ⟨by decide, plain_chars body⟩

/-- The lines of a frame are printable ASCII and not blank. -/
theorem lines_spec (f : Frame) : f.lines ≠ [] ∧ ∀ l ∈ f.lines, l ≠ [] ∧ Plain l := by
  have hdata : ∀ body, dataLine body ≠ [] ∧ Plain (dataLine body) :=
    fun body => ⟨by simp [dataLine], plain_dataLine body⟩
  have hevent : "event: result".toList ≠ [] ∧ Plain "event: result".toList :=
    ⟨by simp, by decide⟩
  have hbeat : ": heartbeat".toList ≠ [] ∧ Plain ": heartbeat".toList := ⟨by simp, by decide⟩
  cases f with
  | ready backend => exact ⟨List.cons_ne_nil _ _, List.forall_mem_singleton.mpr (hdata _)⟩
  | heartbeat => exact ⟨List.cons_ne_nil _ _, List.forall_mem_singleton.mpr hbeat⟩
  | result body =>
      exact ⟨List.cons_ne_nil _ _,
        List.forall_mem_cons.mpr ⟨hevent, List.forall_mem_singleton.mpr (hdata body)⟩⟩

theorem isLine_of_mem_lines {f : Frame} {l : List Char} (h : l ∈ f.lines) : IsLine l :=
  ⟨(f.lines_spec.2 l h).1, (f.lines_spec.2 l h).2.notMem (by decide)⟩

/-- A frame is its lines and a blank line. -/
theorem text_toList (f : Frame) : f.text.toList = linesText f.lines ++ ['\n'] := by
  have hend : "\n\n".toList = ['\n', '\n'] := by simp
  cases f with
  | ready backend =>
      show ("data: " ++ write (readyBody backend) ++ "\n\n").toList = _
      rw [String.toList_append, String.toList_append, write, String.toList_ofList, hend]
      simp [lines, linesText, dataLine]
  | heartbeat =>
      show ": heartbeat\n\n".toList = _
      simp [lines, linesText]
  | result body =>
      show ("event: result\ndata: " ++ write body ++ "\n\n").toList = _
      rw [String.toList_append, String.toList_append, write, String.toList_ofList, hend]
      simp [lines, linesText, dataLine]

/-- A frame is ASCII without carriage returns. -/
theorem ascii_text {f : Frame} {c : Char} (h : c ∈ f.text.toList) :
    c = '\n' ∨ IsPlain c := by
  rw [text_toList, List.mem_append, List.mem_singleton, linesText, List.mem_flatMap] at h
  rcases h with ⟨l, hl, hc⟩ | rfl
  · rcases List.mem_append.mp hc with hc | hc
    · exact .inr ((f.lines_spec.2 l hl).2 c hc)
    · exact .inl (List.mem_singleton.mp hc)
  · exact .inl rfl

/-! ## Bodies -/

/-- Frames whose bodies can be read back. -/
inductive Legible : Frame → Prop where
  | ready (backend : String) : Legible (.ready backend)
  | heartbeat : Legible .heartbeat
  | result {body : Json} {depth : Nat} (h : Readable depth body) : Legible (.result body)

theorem readable_readyBody (backend : String) : Readable 1 (readyBody backend) := by
  have htext : ∀ s : String, Readable 0 (.string s) := fun s => .str (isScalar_ofString s)
  have hmember : ∀ m ∈ [("type", Json.string "ready"), ("result_backend", .string backend)],
      Readable 0 m.2 := by simp [htext]
  apply Readable.obj
  · simp only [List.map_cons, List.map_nil]
    decide
  · intro m hm
    obtain ⟨k, -, rfl⟩ := List.mem_map.mp hm
    exact isScalar_ofString k.1
  · intro m hm
    obtain ⟨k, hk, rfl⟩ := List.mem_map.mp hm
    exact hmember k hk

/-- Values that are read back have different texts. -/
theorem eq_of_chars_eq {a b : Json} {m n : Nat} (ha : Readable m a) (hb : Readable n b)
    (h : chars a = chars b) : a = b := by
  have hread := read_write ha
  rw [write, h, ← write, read_write hb] at hread
  exact (Except.ok.inj hread).symm

/-- Frames with one text are the same. -/
theorem eq_of_text_eq {f g : Frame} (hf : f.Legible) (hg : g.Legible)
    (h : f.text.toList = g.text.toList) : f = g := by
  rw [text_toList, text_toList, List.append_cancel_right_eq] at h
  cases hf with
  | ready backend =>
      cases hg with
      | ready backend' =>
          have hchars : chars (readyBody backend) = chars (readyBody backend') := by
            simpa [linesText, lines, dataLine] using h
          have hbody := eq_of_chars_eq (readable_readyBody _) (readable_readyBody _) hchars
          have hbackend : (backend : Text) = backend' := by
            simpa [readyBody, object, string] using hbody
          rw [Text.ofString_injective hbackend]
      | heartbeat => simp [linesText, lines, dataLine] at h
      | result => simp [linesText, lines, dataLine] at h
  | heartbeat =>
      cases hg with
      | ready => simp [linesText, lines, dataLine] at h
      | heartbeat => rfl
      | result => simp [linesText, lines] at h
  | result hbody =>
      cases hg with
      | ready => simp [linesText, lines, dataLine] at h
      | heartbeat => simp [linesText, lines] at h
      | result hbody' =>
          rw [eq_of_chars_eq hbody hbody' (by simpa [linesText, lines, dataLine] using h)]

end Frame

/-! ## Streams -/

/-- The text of a stream. -/
def streamText (fs : List Frame) : List Char := fs.flatMap fun f => f.text.toList

/-- The bytes of a stream. -/
def streamBytes (fs : List Frame) : List UInt8 := fs.flatMap fun f => Utf8.encode f.text

/-- A stream is cut at its blank lines into its frames. -/
theorem cutAtBlankLines_streamText (fs : List Frame) :
    cutAtBlankLines (streamText fs) = fs.map fun f => f.text.toList := by
  induction fs with
  | nil => rw [streamText, List.flatMap_nil, List.map_nil, cutAtBlankLines]
  | cons f fs ih =>
      have hcut := cutAtBlankLines_linesText f.lines_spec.1
        (fun l hl => Frame.isLine_of_mem_lines hl) (streamText fs)
      have hcons : streamText (f :: fs) = linesText f.lines ++ '\n' :: streamText fs := by
        simp [streamText, f.text_toList]
      rw [hcons, hcut, ih, List.map_cons, f.text_toList]

theorem streamBytes_eq (fs : List Frame) :
    streamBytes fs = (streamText fs).flatMap Utf8.encodeChar := by
  rw [streamBytes, streamText, List.flatMap_assoc]
  rfl

/-- Streams with one text have the same frames. -/
theorem eq_of_streamText_eq {fs gs : List Frame} (hfs : ∀ f ∈ fs, f.Legible)
    (hgs : ∀ g ∈ gs, g.Legible) (h : streamText fs = streamText gs) : fs = gs := by
  have hmap : fs.map (fun f => f.text.toList) = gs.map fun f => f.text.toList := by
    rw [← cutAtBlankLines_streamText, h, cutAtBlankLines_streamText]
  clear h
  induction fs generalizing gs with
  | nil => exact (List.map_eq_nil_iff.mp hmap.symm).symm
  | cons f fs ih =>
      cases gs with
      | nil => simp at hmap
      | cons g gs =>
          rw [List.map_cons, List.map_cons, List.cons.injEq] at hmap
          rw [List.forall_mem_cons] at hfs hgs
          rw [Frame.eq_of_text_eq hfs.1 hgs.1 hmap.1, ih hfs.2 hgs.2 hmap.2]

/-- Streams with the same bytes have the same frames. -/
theorem eq_of_streamBytes_eq {fs gs : List Frame} (hfs : ∀ f ∈ fs, f.Legible)
    (hgs : ∀ g ∈ gs, g.Legible) (h : streamBytes fs = streamBytes gs) : fs = gs := by
  have hdecode : Utf8.decode (streamBytes fs) = .ok (streamText fs) :=
    Utf8.decode_eq_ok_iff.mpr (streamBytes_eq fs)
  rw [h, Utf8.decode_eq_ok_iff.mpr (streamBytes_eq gs)] at hdecode
  exact eq_of_streamText_eq hfs hgs (Except.ok.inj hdecode).symm

/-! ## What streams are given to send -/

/-- The frames that a stream can have to send. -/
def Frame.OfRecord (f : Frame) : Prop :=
  (∃ backend, f = .ready backend) ∨ f = .heartbeat ∨
    ∃ (r : Record) (body : Json), r.dump = .ok body ∧ f = .result body

namespace ResultChannel

/-- A channel in whose queues there is nothing but bodies of records. -/
def TellsRecords (c : ResultChannel) : Prop :=
  ∀ q ∈ c.queues, ∀ e ∈ q.pending, ∃ r : Record, r.dump = .ok e

theorem TellsRecords.of_queues {c c' : ResultChannel} (h : c.TellsRecords)
    (hqueues : c'.queues = c.queues) : c'.TellsRecords := by
  rw [TellsRecords, hqueues]
  exact h

/-- Taking events out of a queue, or closing it, brings none in. -/
theorem TellsRecords.modify {c : ResultChannel} (h : c.TellsRecords) (place : Nat)
    {f : EventQueue → EventQueue}
    (hf : ∀ q, c.queues[place]? = some q → ∀ e ∈ (f q).pending, e ∈ q.pending) :
    TellsRecords { c with queues := c.queues.modify place f } := by
  intro q hq e he
  obtain ⟨i, hi, rfl⟩ := List.mem_iff_getElem.mp hq
  rw [List.length_modify] at hi
  have hmem : c.queues[i] ∈ c.queues := List.getElem_mem hi
  rw [List.getElem_modify] at he
  split at he
  · next hplace => exact h _ hmem e (hf _ (hplace ▸ List.getElem?_eq_getElem hi) e he)
  · exact h _ hmem e he

theorem tellsRecords_blind {α : Type} {x : Op ResultChannel α} (hx : Blind x) :
    x.Keeps TellsRecords :=
  fun c hc => hc.of_queues (hx.queues_run c)

theorem tellsRecords_publish (now : Timestamp) (ticket : String) (status result : Json) :
    (publish now ticket status result).Keeps TellsRecords := by
  have hbroadcast : ∀ r, (broadcast r).Keeps TellsRecords := by
    intro r c hc
    rw [broadcast_run, TellsRecords]
    dsimp only [offered]
    split
    · next hdump =>
      intro q hq e he
      obtain ⟨q, hq', rfl⟩ := List.mem_map.mp hq
      rw [EventQueue.offer] at he
      split at he
      · rcases List.mem_append.mp he with he | he
        · exact hc q hq' e he
        · exact ⟨r, List.mem_singleton.mp he ▸ Record.dump_of_dumpable hdump⟩
      · exact hc q hq' e he
    · exact hc
  exact .bind (tellsRecords_blind (blind_get now ticket)) fun _ =>
    .bind (tellsRecords_blind (blind_checkStatus status)) fun _ =>
    .bind (tellsRecords_blind (blind_store _)) fun _ => .bind (.event _ _ _ _) fun _ =>
    .bind (hbroadcast _) fun _ => .pure _

theorem tellsRecords_subscribe (limit : Int) : (subscribe limit).Keeps TellsRecords := by
  intro c hc q hq e he
  rcases List.mem_append.mp hq with hq | hq
  · exact hc q hq e he
  · rw [List.mem_singleton.mp hq] at he
    simp at he

/-- Whatever is asked of a channel, nothing but bodies of records comes into its queues. -/
theorem tellsRecords_run (now : Timestamp) (o : ChannelOperation) :
    (o.run now).Keeps TellsRecords := by
  cases o with
  | register command => exact .discard (tellsRecords_blind (blind_register now command))
  | publish ticket status result => exact .discard (tellsRecords_publish now ticket status result)
  | get ticket => exact .discard (tellsRecords_blind (blind_get now ticket))
  | subscribe limit => exact .discard (tellsRecords_subscribe limit)
  | unsubscribe place => exact .modify fun c hc => hc.modify place fun _ _ _ he => he
  | drain place => exact .discard fun c hc => hc.modify place fun _ _ e he => by simp at he

/-- The oldest event of a queue is the body of a record, and so are those that stay in it. -/
theorem nextEvent?_tellsRecords (place : Nat) {c : ResultChannel} (hc : c.TellsRecords) :
    ((nextEvent? place).run c).state.TellsRecords ∧
      ∀ e, ((nextEvent? place).run c).answer = .ok (some e) → ∃ r : Record, r.dump = .ok e := by
  have hrun : (nextEvent? place).run c = nextEvent? place c := rfl
  rw [hrun, nextEvent?]
  split
  · exact ⟨hc, by simp⟩
  · next event rest hpending =>
    obtain ⟨q, hq, hheld⟩ : ∃ q, c.queues[place]? = some q ∧ q.pending = event :: rest := by
      cases hq : c.queues[place]? with
      | none => simp [hq] at hpending
      | some q => exact ⟨q, rfl, by simpa [hq] using hpending⟩
    have hbody := hc q (List.mem_of_getElem? hq)
    rw [hheld] at hbody
    constructor
    · refine hc.modify place fun q' hq' e he => ?_
      obtain rfl : q = q' := Option.some.inj (hq.symm.trans hq')
      rw [hheld]
      exact List.mem_cons_of_mem _ he
    · intro e he
      obtain rfl : event = e := by simpa using he
      exact hbody event List.mem_cons_self

/-- A stream sends frames of records only, and leaves nothing else in the queues. -/
theorem frames_of_next (s : EventStream) {c : ResultChannel} (hc : c.TellsRecords) :
    (s.next.run c).state.TellsRecords ∧
      ∀ s' f, (s.next.run c).answer = .ok (s', .frame f) → f.OfRecord := by
  rw [EventStream.next]
  cases s.phase with
  | ended => exact ⟨hc, by simp⟩
  | fresh =>
      refine ⟨tellsRecords_subscribe defaultLimit c hc, fun s' f hf => .inl ⟨c.backend, ?_⟩⟩
      have hready := congrArg Prod.snd (Except.ok.inj hf)
      exact (StreamStep.frame.inj hready).symm
  | live q =>
      dsimp only
      split
      · exact ⟨hc.modify q fun _ _ _ he => he, by simp [unsubscribe, Except.map]⟩
      · split
        · refine ⟨hc, fun s' f hf => .inr (.inl ?_)⟩
          have hbeat := congrArg Prod.snd (Except.ok.inj hf)
          exact (StreamStep.frame.inj hbeat).symm
        · obtain ⟨hstate, hevent⟩ := nextEvent?_tellsRecords q hc
          rw [Op.run_bind]
          rcases hrun : (nextEvent? q).run c with ⟨_ | _ | e, c', log⟩
          all_goals rw [hrun] at hstate hevent
          · exact ⟨hstate, by simp⟩
          · exact ⟨hstate, by simp⟩
          · obtain ⟨r, hr⟩ := hevent e rfl
            refine ⟨hstate, fun s' f hf => .inr (.inr ⟨r, e, hr, ?_⟩)⟩
            have hresult := congrArg Prod.snd (Except.ok.inj hf)
            exact (StreamStep.frame.inj hresult).symm

end ResultChannel

/-! ## Framing -/

/-- The body of a record whose result can be read back at all is read back by every reader that goes
deeper than a dump. -/
theorem Record.readable_of_dump {r : Record} {body : Json} (hdump : r.dump = .ok body) {depth : Nat}
    (h : Readable depth r.result) {nesting : Nat} (hdeep : dumpLimit < nesting) :
    Readable nesting body := by
  obtain ⟨hr, rfl⟩ := Record.dump_eq_ok_iff.mp hdump
  exact (Record.readable_toBody (h.of_dumpFault? hr)).mono hdeep

/-- Event streams are framed without ambiguity.

1. Take the frame of any record that has a body.  It is ASCII without carriage returns; it is an
   event line and a data line, each with its line feed, and one line feed more, and there are no
   others.  The text of the data line is strict JSON.  If the result of the record can be read back
   (its strings are made of scalar values, its integers are within the limit), that text is read as
   the body, by every reader that goes deeper than a dump.
2. A record without a body has no frame, since nobody is told of it.
3. The text of any frames, cut behind its blank lines, is the texts of the frames.
4. Frames whose bodies can be read back have the same bytes only if they are the same frames; the
   body of a record can be read back if its result can.
5. A stream sends no other frames, whatever has been asked of its channel. -/
theorem event_stream_framing_is_unambiguous (r : Record) (fs : List Frame) (now : Timestamp)
    (o : ChannelOperation) (s : EventStream) :
    (∀ body : Json, r.dump = .ok body → ∃ data : List Char,
      (Frame.result body).text.toList =
        "event: result".toList ++ '\n' :: ("data: ".toList ++ data) ++ ['\n', '\n'] ∧
      '\n' ∉ data ∧
      (∀ c ∈ (Frame.result body).text.toList, c.toNat < 0x80 ∧ c ≠ '\r') ∧
      Strict.Value data ∧
      ∀ depth, Readable depth r.result → ∀ nesting, dumpLimit < nesting →
        readNested nesting (String.ofList data) = .ok body) ∧
    (∀ c : ResultChannel, (∀ body, r.dump ≠ .ok body) →
      ((ResultChannel.broadcast r).run c).state = c) ∧
    cutAtBlankLines (streamText fs) = (fs.map fun f => f.text.toList) ∧
    (∀ gs : List Frame, (∀ f ∈ fs, f.Legible) → (∀ g ∈ gs, g.Legible) →
      streamBytes fs = streamBytes gs → fs = gs) ∧
    (∀ body : Json, r.dump = .ok body → ∀ depth, Readable depth r.result →
      (Frame.result body).Legible) ∧
    (o.run now).Keeps ResultChannel.TellsRecords ∧
    ∀ c : ResultChannel, c.TellsRecords →
      (s.next.run c).state.TellsRecords ∧
        ∀ s' f, (s.next.run c).answer = .ok (s', .frame f) → f.OfRecord := by
  refine ⟨fun body hdump => ⟨chars body, ?_, ?_, ?_, ?_, ?_⟩, fun c hnone => ?_,
    cutAtBlankLines_streamText fs, fun _ => eq_of_streamBytes_eq,
    fun body hdump depth h => .result (Record.readable_of_dump hdump h (Nat.lt_succ_self _)),
    ResultChannel.tellsRecords_run now o, fun _ => ResultChannel.frames_of_next s⟩
  · rw [Frame.text_toList]
    simp [Frame.lines, linesText, Frame.dataLine]
  · exact (plain_chars _).notMem (by decide)
  · intro c hc
    rcases Frame.ascii_text hc with rfl | hplain
    · decide
    · refine ⟨Nat.lt_trans hplain.2 (by decide), ?_⟩
      rintro rfl
      exact absurd hplain (by decide)
  · obtain ⟨-, rfl⟩ := Record.dump_eq_ok_iff.mp hdump
    exact (Strict.value_chars_iff _).mpr (Record.finiteOnly_toBody r)
  · exact fun depth h nesting hdeep => readNested_write (Record.readable_of_dump hdump h hdeep)
  · have hundumpable : ¬ r.Dumpable := fun h => hnone _ (Record.dump_of_dumpable h)
    rw [ResultChannel.broadcast_run, ResultChannel.offered, if_neg hundumpable]

/-- A stream that waits for the outcome of a command is given nothing to send when that is nested
deeper than a dump goes, although the outcome is stored. -/
theorem record_without_body_has_no_frame :
    let c := (ResultChannel.runAll [⟨⟨0⟩, .register ⟨.callTool, "echo", .null, "1", ""⟩⟩,
      ⟨⟨1⟩, .subscribe ResultChannel.defaultLimit⟩] { capacity := 1, ttl := 60 })
    let c' := (⟨⟨2⟩, .publish "1" (.string "success") (.nested 255 .null)⟩ :
      ResultChannel.Step).after c
    c'.records.map (fun r => (r.ticket, r.status)) = [("1", .success)] ∧
      ((⟨1000000000, .live 0, false⟩ : EventStream).next.run c').answer =
        .ok (⟨1000000000, .live 0, false⟩, .waiting) := by
  constructor <;> decide +kernel

end CommandBridge
