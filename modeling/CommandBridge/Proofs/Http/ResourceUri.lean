import CommandBridge.Proofs.Http.Acknowledgement
import CommandBridge.Proofs.Text.Percent

/-!
# CommandBridge.Proofs.Http.ResourceUri

The URI of a resource is decoded strictly, and once: what the instance is asked for, what the record
is about and what the reply shows all come from one decoding of the URI that was found in a request
(`resource_is_decoded_once`).

Where the path of a request spells the start of all resource paths as it is, that URI is what
follows as it was sent.  Where the start is escaped, it may not be found: then the URI is one that
was decoded already, or what follows the same text further on (`resource_is_decoded_twice`).
-/

namespace CommandBridge

open ResultChannel

/-- Strict decoding gives what a text encodes, or keeps a text that encodes nothing. -/
theorem Percent.decode_cases (raw : String) :
    ((decode raw).exact = true ∧ Encodes (decode raw).value.toList raw.toList) ∨
      ((decode raw).exact = false ∧ (decode raw).value = raw ∧ ∀ cs, ¬ Encodes cs raw.toList) := by
  rw [decode]
  cases h : decodeChars? raw.toList with
  | some cs =>
      refine .inl ⟨rfl, ?_⟩
      rw [String.toList_ofList]
      exact decodeChars?_eq_some_iff.mp h
  | none =>
      refine .inr ⟨rfl, rfl, fun cs hcs => ?_⟩
      rw [decodeChars?_eq_some_iff.mpr hcs] at h
      exact absurd h (by simp)

/-- What is told about a resource that was asked for. -/
def resourceBody (d : Percent.Decoded) (ticket : String) : Json :=
  .object [("status", .string "processing"), ("uri", .string d.value), ("decoded", .bool d.exact),
    ("ticket", .string ticket), ("message", Bridge.followUp ticket "resource contents")]

theorem sendable_resourceBody (d : Percent.Decoded) (ticket : String) :
    (resourceBody d ticket).Sendable := by
  have hmessage : (Bridge.followUp ticket "resource contents").Sendable := Json.sendable_string _
  rw [resourceBody, Json.sendable_object]
  simp [hmessage]

/-- Nothing of it is kept back. -/
theorem Call.shown_response_readResource (uri : String) (c : Command) :
    ((Call.readResource uri).response c).toBody.shown =
      resourceBody (Percent.decode uri) c.ticket := by
  have hbody : ((Call.readResource uri).response c).toBody =
      resourceBody (Percent.decode uri) c.ticket := by
    rfl
  rw [hbody, resourceBody, Json.shown_object]
  · rfl
  · simp only [List.mem_cons, List.not_mem_nil, or_false, forall_eq_or_imp, forall_eq]
    decide

namespace Http

variable {now : Timestamp} {id : String} {r : Request} {s : Service} {m : Nat}

/-! ## The URI in a request -/

/-- What follows a text that a list begins with is found there. -/
theorem textAfter?_append {mark : List Char} (hmark : mark ≠ []) (cs : List Char) :
    textAfter? mark (mark ++ cs) = some cs := by
  cases mark with
  | nil => exact absurd rfl hmark
  | cons c mark =>
      have hprefix : (c :: mark).isPrefixOf (c :: mark ++ cs) = true :=
        List.isPrefixOf_iff_prefix.mpr (List.prefix_append _ _)
      rw [List.cons_append, textAfter?, ← List.cons_append, if_pos hprefix, List.drop_left]

/-- A URI that follows the start of resource paths as it is, is taken as it was sent. -/
theorem resourceUri_of_prefix {raw : String} {tail : List Char} (routed : String)
    (hraw : r.rawPath = some raw)
    (htail : raw.toList.takeWhile (· ≠ '?') = resourcePrefix.toList ++ tail) :
    resourceUri r routed = String.ofList tail := by
  rw [resourceUri, hraw]
  dsimp only
  rw [htail, textAfter?_append (by decide)]

/-! ## Replies -/

/-- What is done and told about a resource that is asked for with a URI. -/
structure ResourceReply (now : Timestamp) (uri : String) (s : Service) (reply : Reply) : Prop where
  /-- Status 200 tells that the attached instance accepted the command. -/
  acknowledged : reply.response.status = 200 ↔ (Call.readResource uri).Accepted now s.bridge
  /-- The decoded URI is told, and whether it could be decoded. -/
  told : reply.response.status = 200 →
    (resourceBody (Percent.decode uri)
      ((Call.readResource uri).command now s.bridge).ticket).writeCompact? = .ok reply.response.body
  /-- The attached instance is given a command about the decoded URI, if it is given one. -/
  delivered : ∀ i, s.bridge.attached = some i → i < s.bridge.host.instances.length →
    (s.bridge.host.instanceAt i).adapter.keepsCommands = true →
    ((Call.readResource uri).delivered now i s.bridge).state.received i =
        s.bridge.host.received i ++ [(Call.readResource uri).command now s.bridge] ∧
      ((Call.readResource uri).command now s.bridge).target = (Percent.decode uri).value
  /-- The record of the command is about the decoded URI. -/
  recorded : ∀ i, ∃ x,
    find? ((Call.readResource uri).command now s.bridge).ticket
        ((Call.readResource uri).channelAtDelivery now i s.bridge).records = some x ∧
      x.target = (Percent.decode uri).value

theorem exists_resourceReply {y : Except Failure Reply} {routed : String} (hm : 1 ≤ m)
    (hcap : s.results.capacity = m)
    (hdest : destination r.method r.path = .endpoint (.readResource routed))
    (hy : Op.Ends ((handle now r).run s).answer y) :
    ∃ reply, y = .ok reply ∧ ResourceReply now (resourceUri r routed) s reply := by
  have hr : r.isPreflight = false := by
    simp [Request.isPreflight, (exists_of_destination_readResource hdest).1]
  obtain ⟨id, requests, a, reply, rfl, htells, ha⟩ := exists_reply hr hy
  let call := Call.readResource (resourceUri r routed)
  have hanswer : answer now id r = Op.atOnce (answering id r
      (Service.onBridge (call.run now)) CommandBridge.Response.toBody) := by
    rw [answer, hdest]
    rfl
  rw [hanswer] at ha
  obtain ⟨t, rfl⟩ : ∃ t : Service, a =
      ((conclude id r CommandBridge.Response.toBody
        ((call.run now).run s.bridge).answer).run t).answer :=
    ⟨_, ha.of_atOnce.trans (Op.answer_bind_ok rfl)⟩
  have hends : (call.Accepted now s.bridge ∧ reply.response.status = 200 ∧
      (resourceBody (Percent.decode (resourceUri r routed))
        (call.command now s.bridge).ticket).writeCompact? = .ok reply.response.body) ∨
      (¬ call.Accepted now s.bridge ∧ 400 ≤ reply.response.status) := by
    by_cases haccepted : call.Accepted now s.bridge
    · rw [(haccepted.run hcap).1] at htells
      have hshown := Call.shown_response_readResource (resourceUri r routed)
        (call.command now s.bridge)
      obtain ⟨hstatus, hwrite⟩ := htells.of_sendable (hshown ▸ sendable_resourceBody _ _)
      exact .inl ⟨haccepted, hstatus, hshown ▸ hwrite⟩
    · obtain ⟨⟨e, he⟩, -⟩ := Call.run_of_not_accepted haccepted hcap
      rw [he] at htells
      exact .inr ⟨haccepted, htells.error_le fun _ => status_of_conclude_error⟩
  refine ⟨reply, rfl, ?_, ?_, ?_, ?_⟩
  · rcases hends with ⟨haccepted, hstatus, -⟩ | ⟨hnot, hstatus⟩
    · exact ⟨fun _ => haccepted, fun _ => hstatus⟩
    · exact ⟨fun h => by omega, fun h => absurd h hnot⟩
  · intro h
    rcases hends with ⟨-, -, hwrite⟩ | ⟨-, hstatus⟩
    · exact hwrite
    · omega
  · intro i hi hlength hkeeps
    refine ⟨?_, rfl⟩
    rw [Call.received_delivered hlength hkeeps, if_pos rfl]
  · intro i
    exact ⟨_, Host.find?_tracking now (call.command now s.bridge) hm (Call.capacity_readied i hcap),
      rfl⟩

/-- A request for a resource comes to a reply, and its URI is decoded once: what the instance is
given, what the record is about and what the reply tells come from one strict decoding of the URI
of the request.  That decoding either gives what the URI encodes, or keeps a URI that encodes
nothing.  If the path of the request starts like the paths of resources as it was sent, the URI is
what follows, as it was sent. -/
theorem resource_is_decoded_once (now : Timestamp) {r : Request} {s : Service} {routed : String}
    (hcap : 1 ≤ s.results.capacity)
    (hdest : destination r.method r.path = .endpoint (.readResource routed)) :
    (∃ y, Op.Ends ((handle now r).run s).answer y) ∧
    (∀ y, Op.Ends ((handle now r).run s).answer y →
      ∃ reply, y = .ok reply ∧ ResourceReply now (resourceUri r routed) s reply) ∧
    (((Percent.decode (resourceUri r routed)).exact = true ∧
        Percent.Encodes (Percent.decode (resourceUri r routed)).value.toList
          (resourceUri r routed).toList) ∨
      ((Percent.decode (resourceUri r routed)).exact = false ∧
        (Percent.decode (resourceUri r routed)).value = resourceUri r routed ∧
        ∀ cs, ¬ Percent.Encodes cs (resourceUri r routed).toList)) ∧
    ∀ raw tail, r.rawPath = some raw →
      raw.toList.takeWhile (· ≠ '?') = resourcePrefix.toList ++ tail →
      resourceUri r routed = String.ofList tail := by
  obtain ⟨m, hm⟩ : ∃ m : Nat, s.results.capacity = m := ⟨s.results.capacity.toNat, by omega⟩
  exact ⟨Op.exists_ends _ s, fun y hy => exists_resourceReply (by omega) hm hdest hy,
    Percent.decode_cases _, fun raw tail hraw htail => resourceUri_of_prefix routed hraw htail⟩

/-- A request for a resource, at a target. -/
def asking (target : String) : Request := .ofTarget "GET" target [] []

theorem accepted_readResource_attentive (uri : String) :
    (Call.readResource uri).Accepted ⟨0⟩ attentive.bridge :=
  ⟨rfl, 0, rfl, rfl, .accept, rfl, rfl⟩

/-- An escape of an escape is left as one, and a query is no part of the URI. -/
theorem resource_is_decoded_once_escape :
    let r := asking "/mcp/resources/a%2525?b"
    1 ≤ attentive.results.capacity ∧
    destination r.method r.path = .endpoint (.readResource "a%25") ∧
    ∃ reply, Op.Ends ((handle ⟨0⟩ r).run attentive).answer (.ok reply) ∧
      (resourceBody ⟨"a%25", true⟩ (ticketOf 1)).writeCompact? = .ok reply.response.body := by
  intro r
  have hcap : 1 ≤ attentive.results.capacity := by decide
  have hdest : destination r.method r.path = .endpoint (.readResource "a%25") := by decide +kernel
  obtain ⟨⟨y, hy⟩, hends, -, huri⟩ := resource_is_decoded_once ⟨0⟩ hcap hdest
  obtain ⟨reply, rfl, htells⟩ := hends y hy
  rw [huri "/mcp/resources/a%2525" "a%2525".toList (by decide +kernel) (by decide +kernel)]
    at htells
  have htold := htells.told (htells.acknowledged.mpr (accepted_readResource_attentive _))
  have hdecode : Percent.decode (String.ofList "a%2525".toList) = ⟨"a%25", true⟩ := by
    decide +kernel
  rw [hdecode] at htold
  exact ⟨hcap, hdest, reply, hy, htold⟩

/-- What a service tells about a resource that is asked for. -/
theorem told_attentive {r : Request} {routed : String}
    (hdest : destination r.method r.path = .endpoint (.readResource routed))
    {y : Except Failure Reply} (hy : Op.Ends ((handle ⟨0⟩ r).run attentive).answer y) :
    ∃ reply, y = .ok reply ∧
      (resourceBody (Percent.decode (resourceUri r routed)) (ticketOf 1)).writeCompact? =
        .ok reply.response.body := by
  obtain ⟨reply, hreply, htells⟩ := exists_resourceReply (m := 2) (by decide) rfl hdest hy
  exact ⟨reply, hreply, htells.told (htells.acknowledged.mpr (accepted_readResource_attentive _))⟩

/-- Where a letter of the start of the path is escaped, a URI that was decoded already is decoded
again: `a%2525` encodes `a%25`, and `a%` is told.  Where a slash of it is escaped, what follows the
same text further on is taken: `y` is told for `x/mcp/resources/y`. -/
theorem resource_is_decoded_twice :
    let r := asking "/mcp/%72esources/a%2525"
    let r' := asking "/mcp%2Fresources/x/mcp/resources/y"
    destination r.method r.path = .endpoint (.readResource "a%25") ∧
    Percent.decode "a%2525" = ⟨"a%25", true⟩ ∧
    (∀ y, Op.Ends ((handle ⟨0⟩ r).run attentive).answer y → ∃ reply, y = .ok reply ∧
      (resourceBody ⟨"a%", true⟩ (ticketOf 1)).writeCompact? = .ok reply.response.body) ∧
    destination r'.method r'.path = .endpoint (.readResource "x/mcp/resources/y") ∧
    ∀ y, Op.Ends ((handle ⟨0⟩ r').run attentive).answer y → ∃ reply, y = .ok reply ∧
      (resourceBody ⟨"y", true⟩ (ticketOf 1)).writeCompact? = .ok reply.response.body := by
  intro r r'
  have hdest : destination r.method r.path = .endpoint (.readResource "a%25") := by decide +kernel
  have hdest' : destination r'.method r'.path = .endpoint (.readResource "x/mcp/resources/y") := by
    decide +kernel
  have huri : Percent.decode (resourceUri r "a%25") = ⟨"a%", true⟩ := by decide +kernel
  have huri' : Percent.decode (resourceUri r' "x/mcp/resources/y") = ⟨"y", true⟩ := by
    decide +kernel
  refine ⟨hdest, by decide +kernel, fun y hy => ?_, hdest', fun y hy => ?_⟩
  · rw [← huri]
    exact told_attentive hdest hy
  · rw [← huri']
    exact told_attentive hdest' hy

end Http

end CommandBridge
