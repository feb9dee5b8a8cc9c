import CommandBridge.Http.Body
import CommandBridge.Proofs.Json.Limits
import CommandBridge.Proofs.Results.StoredText

/-!
# CommandBridge.Proofs.Http.Publication

The result of a publication that comes in as the body of a request comes back from Redis if it can
be dumped and its strings hold no lone surrogates (`publication_restorable`): its integers and the
names of its members were read, so they can be read again.
-/

namespace CommandBridge

open Json

/-- A value that is read from bytes is within the limits of the reader. -/
theorem Json.bounded_of_readBytes {depth : Nat} {bs : List UInt8} {j : Json}
    (h : readBytes depth bs = .ok j) : Bounded depth j := by
  unfold readBytes at h
  split at h
  split at h
  · exact absurd h (by simp)
  · split at h
    · next j' hread =>
      obtain rfl := Except.ok.inj h
      exact bounded_of_readNested hread
    · exact absurd h (by simp)
    · exact absurd h (by simp)

/-- A field of any value is that of a member, or it is absent. -/
theorem readField_any {ms : List (Text × Json)} {name : String} {j fallback : Json}
    (h : readField ms [name] Check.any (some fallback) = .ok j) :
    j = fallback ∨ ∃ m ∈ ms, m.2 = j := by
  rw [readField] at h
  cases hlookup : lookup name ms with
  | none =>
      simp only [List.findSome?_cons, hlookup, Option.map_none, List.findSome?_nil] at h
      exact .inl (Except.ok.inj h).symm
  | some j' =>
      simp only [List.findSome?_cons, hlookup, Option.map_some, Check.any] at h
      obtain rfl := Except.ok.inj h
      obtain ⟨m, hm, hj⟩ := Option.map_eq_some_iff.mp hlookup
      exact .inr ⟨m, List.mem_of_find?_eq_some hm, hj⟩

/-- A validated function that is applied gave a function and an argument. -/
theorem Validated.exists_of_seq_eq_ok {α β : Type} {f : Validated (α → β)} {x : Validated α}
    {b : β} (h : Validated.seq f x = .ok b) : ∃ g a, f = .ok g ∧ x = .ok a ∧ g a = b := by
  rcases f with es | g <;> rcases x with es' | a
  · exact absurd h (by simp [seq])
  · exact absurd h (by simp [seq])
  · exact absurd h (by simp [seq])
  · exact ⟨g, a, rfl, rfl, Except.ok.inj h⟩

/-- The result that a request publishes is within the limits of the reader. -/
theorem Http.publication_bounded {nesting : Nat} {contentType : Option String} {body : List UInt8}
    {p : PublishRequest} (h : publication nesting contentType body = .ok p) :
    ∃ depth, Bounded depth p.result := by
  unfold publication at h
  split at h
  · exact absurd h (by simp [bodyError])
  · split at h
    · split at h
      · next j hread =>
        have hbody := bounded_of_readBytes hread
        unfold publicationOf at h
        split at h
        · next ms =>
          split at h
          · next p' hfields =>
            obtain rfl := Except.ok.inj h
            obtain ⟨g, result, hstatus, hresult, rfl⟩ := Validated.exists_of_seq_eq_ok hfields
            obtain ⟨g', status, hg', -, rfl⟩ := Validated.exists_of_seq_eq_ok hstatus
            obtain rfl := Except.ok.inj hg'
            rcases readField_any hresult with rfl | ⟨m, hm, rfl⟩
            · exact ⟨0, .null⟩
            · cases hbody with
              | obj _ hms => exact ⟨_, hms m hm⟩
          · exact absurd h (by simp)
        · exact absurd h (by simp [bodyError])
      · exact absurd h (by simp)
      · exact absurd h (by simp)
    · split at h
      · exact absurd h (by simp [bodyError])
      · exact absurd h (by simp)

/-- The result that a request publishes comes back from Redis, if it can be dumped and its strings
hold no lone surrogates. -/
theorem Http.publication_restorable {nesting : Nat} {contentType : Option String}
    {body : List UInt8} {p : PublishRequest} (h : publication nesting contentType body = .ok p)
    (hscalar : Scalar p.result) (hdump : p.result.Dumpable) : p.result.Restorable := by
  obtain ⟨depth, hbounded⟩ := publication_bounded h
  exact ⟨⟨depth, hbounded.readable hscalar⟩, hdump⟩

end CommandBridge
