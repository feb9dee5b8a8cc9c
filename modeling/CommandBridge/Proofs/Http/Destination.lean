import CommandBridge.Http.Route

/-!
# CommandBridge.Proofs.Http.Destination

Which requests lead to which endpoint.  A request leads to the endpoint of the first route that its
path fits among those of its method (`destination_eq_endpoint`), so it is enough to look at the
patterns of the routes one by one: `destination_callTool`, `destination_publishResult` and
`destination_readResource`.
-/

namespace CommandBridge.Http

/-- What follows the first characters is the rest of the list. -/
theorem after?_eq_some {first cs rest : List Char} :
    after? first cs = some rest ↔ cs = first ++ rest := by
  rw [after?]
  constructor
  · intro h
    split at h
    · next hfirst =>
      obtain ⟨rest', rfl⟩ := List.isPrefixOf_iff_prefix.mp hfirst
      rw [List.drop_left] at h
      rw [Option.some.inj h]
    · exact absurd h (by simp)
  · rintro rfl
    rw [if_pos (List.isPrefixOf_iff_prefix.mpr (List.prefix_append first rest)), List.drop_left]

variable {path : String} {e : Endpoint} {endpoint : String → Endpoint}

/-- A path fits a name pattern if what follows is a name. -/
theorem PathPattern.endpoint?_name {first : String} :
    (PathPattern.name first endpoint).endpoint? path = some e ↔
      ∃ n, path = first ++ n ∧ n ≠ "" ∧ '/' ∉ n.toList ∧ e = endpoint n := by
  constructor
  · intro h
    rw [endpoint?] at h
    split at h
    · next cs hcs =>
      split at h
      · exact absurd h (by simp)
      · next hname =>
        rw [Bool.or_eq_true, decide_eq_true_iff, List.contains_iff_mem, not_or] at hname
        refine ⟨String.ofList cs, ?_, ?_, ?_, (Option.some.inj h).symm⟩
        · rw [← String.toList_inj, String.toList_append, String.toList_ofList]
          exact after?_eq_some.mp hcs
        · rw [Ne, ← String.toList_inj, String.toList_ofList]
          exact hname.1
        · rw [String.toList_ofList]
          exact hname.2
    · exact absurd h (by simp)
  · rintro ⟨n, rfl, hne, hslash, rfl⟩
    have hafter : after? first.toList (first ++ n).toList = some n.toList :=
      after?_eq_some.mpr String.toList_append
    have hname : ¬ (decide (n.toList = []) || n.toList.contains '/') = true := by
      rw [Bool.or_eq_true, decide_eq_true_iff, List.contains_iff_mem, not_or]
      exact ⟨fun h => hne (String.toList_inj.mp h), hslash⟩
    rw [endpoint?, hafter]
    dsimp only
    rw [if_neg hname, String.ofList_toList]

/-- A path fits a pattern that takes the rest of a line if what follows is on one line. -/
theorem PathPattern.endpoint?_rest {first : String}
    (h : (PathPattern.rest first endpoint).endpoint? path = some e) :
    ∃ cs, path.toList = first.toList ++ cs ∧ '\n' ∉ dropFinalBreak cs ∧
      e = endpoint (String.ofList (dropFinalBreak cs)) := by
  rw [endpoint?] at h
  split at h
  · next cs hcs =>
    dsimp only at h
    split at h
    · exact absurd h (by simp)
    · next hline =>
      exact ⟨cs, after?_eq_some.mp hcs, by simpa using hline, (Option.some.inj h).symm⟩
  · exact absurd h (by simp)

theorem PathPattern.endpoint?_exactly {exact : String} {e' : Endpoint}
    (h : (PathPattern.exactly exact e').endpoint? path = some e) : e = e' := by
  rw [endpoint?] at h
  split at h
  · exact (Option.some.inj h).symm
  · exact absurd h (by simp)

/-- The endpoint that a method and a path lead to among some routes. -/
def endpointAmong (method path : String) (routes : List (String × PathPattern)) :
    Option Endpoint :=
  routes.findSome? fun r => if r.1 = method then r.2.endpoint? path else none

theorem find?_fits (method path : String) (routes : List (String × PathPattern)) :
    ((routes.filterMap fun r => (r.2.endpoint? path).map fun e => (r.1, e)).find?
      fun r => r.1 = method).map Prod.snd = endpointAmong method path routes := by
  induction routes with
  | nil => rfl
  | cons r rest ih =>
      rw [endpointAmong, List.findSome?_cons, ← endpointAmong, ← ih, List.filterMap_cons]
      cases hr : r.2.endpoint? path with
      | none => simp
      | some e =>
          by_cases hmethod : r.1 = method
          · simp [hmethod]
          · simp [hmethod]

/-- The first route that fits is taken. -/
theorem destination_eq_endpoint {method path : String} {e : Endpoint} :
    destination method path = .endpoint e ↔ endpointAmong method path routes = some e := by
  rw [← find?_fits, destination, fitting]
  constructor
  · intro h
    split at h
    · next r hr =>
      rw [hr, ← Destination.endpoint.inj h]
      rfl
    · split at h
      · exact absurd h (by simp)
      · split at h <;> exact absurd h (by simp)
  · intro h
    obtain ⟨r, hr, rfl⟩ := Option.map_eq_some_iff.mp h
    rw [hr]

/-- The route that leads to an endpoint. -/
def Endpoint.route : Endpoint → String × PathPattern
  | .listResources => ("GET", .exactly "/mcp/resources" .listResources)
  | .readResource _ => ("GET", .rest resourcePrefix .readResource)
  | .listTools => ("GET", .exactly "/mcp/tools" .listTools)
  | .callTool _ => ("POST", .name "/mcp/tools/" .callTool)
  | .listPrompts => ("GET", .exactly "/mcp/prompts" .listPrompts)
  | .getPrompt _ => ("GET", .name "/mcp/prompts/" .getPrompt)
  | .getResult _ => ("GET", .name "/mcp/results/" .getResult)
  | .publishResult _ => ("POST", .name "/mcp/results/" .publishResult)
  | .events => ("GET", .exactly "/mcp/events" .events)
  | .health => ("GET", .exactly "/health" .health)
  | .metrics => ("GET", .exactly "/metrics" .metrics)

/-- No two routes lead to the same endpoint. -/
theorem route_of_endpoint? {r : String × PathPattern} (hr : r ∈ routes)
    (h : r.2.endpoint? path = some e) : e.route = r := by
  have hname : ∀ {first : String} {f : String → Endpoint},
      (PathPattern.name first f).endpoint? path = some e → ∃ n, e = f n := by
    intro first f hfits
    obtain ⟨n, -, -, -, hn⟩ := PathPattern.endpoint?_name.mp hfits
    exact ⟨n, hn⟩
  simp only [routes, List.mem_cons, List.not_mem_nil, or_false] at hr
  rcases hr with rfl | rfl | rfl | rfl | rfl | rfl | rfl | rfl | rfl | rfl | rfl
  case inr.inl =>
    obtain ⟨cs, -, -, rfl⟩ := PathPattern.endpoint?_rest h
    rfl
  all_goals first
    | (obtain rfl := PathPattern.endpoint?_exactly h; rfl)
    | (obtain ⟨n, rfl⟩ := hname h; rfl)

variable {method : String}

/-- An endpoint that is reached is reached by its route. -/
theorem fits_of_destination (h : destination method path = .endpoint e) :
    e.route.1 = method ∧ e.route.2.endpoint? path = some e := by
  obtain ⟨r, hmem, hr⟩ := List.exists_of_findSome?_eq_some (destination_eq_endpoint.mp h)
  split at hr
  · next hmethod =>
    rw [route_of_endpoint? hmem hr]
    exact ⟨hmethod, hr⟩
  · exact absurd hr (by simp)

/-! ## Endpoints -/

/-- Tools are called by posting to the path of their name. -/
theorem destination_callTool {name : String} :
    destination method path = .endpoint (.callTool name) ↔
      method = "POST" ∧ path = "/mcp/tools/" ++ name ∧ name ≠ "" ∧ '/' ∉ name.toList := by
  constructor
  · intro h
    obtain ⟨hmethod, hfits⟩ := fits_of_destination h
    obtain ⟨n, hpath, hne, hslash, hname⟩ := PathPattern.endpoint?_name.mp hfits
    obtain rfl := Endpoint.callTool.inj hname
    exact ⟨hmethod.symm, hpath, hne, hslash⟩
  · rintro ⟨rfl, rfl, hne, hslash⟩
    have hfits : (PathPattern.name "/mcp/tools/" .callTool).endpoint? ("/mcp/tools/" ++ name) =
        some (.callTool name) := PathPattern.endpoint?_name.mpr ⟨name, rfl, hne, hslash, rfl⟩
    rw [destination_eq_endpoint]
    simp [endpointAmong, routes, hfits]

/-- Outcomes are published by posting to the path of their ticket. -/
theorem destination_publishResult {ticket : String} :
    destination method path = .endpoint (.publishResult ticket) ↔
      method = "POST" ∧ path = "/mcp/results/" ++ ticket ∧ ticket ≠ "" ∧ '/' ∉ ticket.toList := by
  constructor
  · intro h
    obtain ⟨hmethod, hfits⟩ := fits_of_destination h
    obtain ⟨n, hpath, hne, hslash, hname⟩ := PathPattern.endpoint?_name.mp hfits
    obtain rfl := Endpoint.publishResult.inj hname
    exact ⟨hmethod.symm, hpath, hne, hslash⟩
  · rintro ⟨rfl, rfl, hne, hslash⟩
    have hfits : (PathPattern.name "/mcp/results/" .publishResult).endpoint?
        ("/mcp/results/" ++ ticket) = some (.publishResult ticket) :=
      PathPattern.endpoint?_name.mpr ⟨ticket, rfl, hne, hslash, rfl⟩
    have hother : (PathPattern.name "/mcp/tools/" .callTool).endpoint?
        ("/mcp/results/" ++ ticket) = none := by
      rw [Option.eq_none_iff_forall_ne_some]
      intro e he
      obtain ⟨n, hpath, -⟩ := PathPattern.endpoint?_name.mp he
      have htext := String.toList_inj.mpr hpath
      simp at htext
    rw [destination_eq_endpoint]
    simp [endpointAmong, routes, hfits, hother]

/-- What is asked for as a resource is what follows in a path on one line. -/
theorem exists_of_destination_readResource {uri : String}
    (h : destination method path = .endpoint (.readResource uri)) :
    method = "GET" ∧ ∃ cs, path.toList = resourcePrefix.toList ++ cs ∧
      uri = String.ofList (dropFinalBreak cs) := by
  obtain ⟨hmethod, hfits⟩ := fits_of_destination h
  obtain ⟨cs, hpath, -, huri⟩ := PathPattern.endpoint?_rest hfits
  exact ⟨hmethod.symm, cs, hpath, Endpoint.readResource.inj huri⟩

end CommandBridge.Http
