import Mathlib.Data.List.DropRight
import Mathlib.Data.List.Dedup
import Mathlib.Data.Finset.Dedup
import Mathlib.Data.Finset.Card

/-!
# CommandBridge.Proofs.Results.Recency

The order in which the elements of a list occur last, which is the order of a map that
moves an element to its end whenever the element is stored.

* `latest m l` — the at most `m` distinct elements of `l` that occur last, in the order of their
  last occurrences;
* `since a l` — what follows the last occurrence of `a`.

`latest_concat` says how `latest` changes with one more occurrence, and `mem_latest_iff`
that an element is among the latest ones until `m` other elements have occurred after it.
-/

namespace CommandBridge.Recency

variable {α : Type}

/-! ## The last elements of an append -/

/-- Enough elements at the end hide what comes before them. -/
theorem rtake_append_of_le {m : Nat} {xs ys : List α} (h : m ≤ ys.length) :
    (xs ++ ys).rtake m = ys.rtake m := by
  have hlen : (xs ++ ys).length - m = xs.length + (ys.length - m) := by
    rw [List.length_append]; omega
  rw [List.rtake, hlen, List.drop_append]
  simp [List.rtake]

/-- The last elements of an append, when there is room for all of its second part. -/
theorem rtake_append_of_ge {m : Nat} {xs ys : List α} (h : ys.length ≤ m) :
    (xs ++ ys).rtake m = xs.rtake (m - ys.length) ++ ys := by
  have hlen : (xs ++ ys).length - m = xs.length - (m - ys.length) := by
    rw [List.length_append]; omega
  rw [List.rtake, List.rtake, hlen, List.drop_append_of_le_length (by omega)]

/-- A list is what precedes its last elements, and those. -/
theorem exists_append_rtake (m : Nat) (l : List α) : ∃ xs, l = xs ++ l.rtake m :=
  ⟨l.take (l.length - m), (List.take_append_drop _ _).symm⟩

theorem length_rtake (m : Nat) (l : List α) : (l.rtake m).length = min m l.length := by
  rw [List.rtake, List.length_drop]; omega

/-! ## The order of last occurrences -/

variable [DecidableEq α]

/-- The at most `m` distinct elements that occur last, the earliest last occurrence first. -/
def latest (m : Nat) (l : List α) : List α := l.dedup.rtake m

/-- The elements after the last occurrence of `a`. -/
def since (a : α) (l : List α) : List α := l.rtakeWhile fun x => x ≠ a

/-! ## One more occurrence -/

/-- One more occurrence of `a` moves it to the end. -/
theorem dedup_concat (l : List α) (a : α) :
    (l ++ [a]).dedup = l.dedup.filter (fun x => x ≠ a) ++ [a] := by
  induction l with
  | nil => simp
  | cons b l ih =>
      by_cases hb : b ∈ l
      · rw [List.cons_append, List.dedup_cons_of_mem (List.mem_append_left _ hb), ih,
          List.dedup_cons_of_mem hb]
      · rw [List.dedup_cons_of_notMem hb]
        by_cases hba : b = a
        · have hmem : b ∈ l ++ [a] := by simp [hba]
          rw [List.cons_append, List.dedup_cons_of_mem hmem, ih]
          simp [hba]
        · have hnot : b ∉ l ++ [a] := by simp [hb, hba]
          rw [List.cons_append, List.dedup_cons_of_notMem hnot, ih]
          simp [hba]

/-- Dropping one element from a list without repetitions makes it shorter by one at most. -/
theorem length_le_length_filter_ne {l : List α} (h : l.Nodup) (a : α) :
    l.length ≤ (l.filter fun x => x ≠ a).length + 1 := by
  have hfilter : (l.filter fun x => x ≠ a) = l.erase a := by
    rw [h.erase_eq_filter]
    exact List.filter_congr fun x _ => by simp [bne, beq_eq_decide]
  rw [hfilter]
  by_cases ha : a ∈ l
  · rw [List.length_erase_of_mem ha]; omega
  · rw [List.erase_of_not_mem ha]; omega

/-- What the last `m + 1` elements lose by dropping `a`, they lose at the end of the list. -/
theorem rtake_filter_rtake {l : List α} (h : l.Nodup) (m : Nat) (a : α) :
    ((l.rtake (m + 1)).filter fun x => x ≠ a).rtake m = (l.filter fun x => x ≠ a).rtake m := by
  obtain ⟨xs, hxs⟩ := exists_append_rtake (m + 1) l
  by_cases hlen : l.length ≤ m + 1
  · have hall : l.rtake (m + 1) = l := by
      rw [List.rtake, Nat.sub_eq_zero_of_le hlen, List.drop_zero]
    rw [hall]
  · have hnodup : (l.rtake (m + 1)).Nodup := by
      rw [hxs] at h
      exact (List.nodup_append.mp h).2.1
    have hlong := length_le_length_filter_ne hnodup a
    rw [length_rtake] at hlong
    have hm : m ≤ ((l.rtake (m + 1)).filter fun x => x ≠ a).length := by omega
    conv_rhs => rw [hxs, List.filter_append]
    rw [rtake_append_of_le hm]

/-- One more occurrence of `a` moves it to the end, and the earliest element goes if there are
too many. -/
theorem latest_concat (m : Nat) (l : List α) (a : α) :
    latest (m + 1) (l ++ [a]) =
      (((latest (m + 1) l).filter fun x => x ≠ a) ++ [a]).rtake (m + 1) := by
  rw [latest, latest, dedup_concat, List.rtake_concat_succ, List.rtake_concat_succ,
    rtake_filter_rtake (List.nodup_dedup l)]

theorem nodup_latest (m : Nat) (l : List α) : (latest m l).Nodup :=
  (List.nodup_dedup l).sublist (List.drop_sublist _ _)

theorem length_latest_le (m : Nat) (l : List α) : (latest m l).length ≤ m := by
  rw [latest, length_rtake]; omega

theorem mem_of_mem_latest {m : Nat} {l : List α} {a : α} (h : a ∈ latest m l) : a ∈ l :=
  List.mem_dedup.mp (List.mem_of_mem_drop h)

/-! ## Being among the latest -/

/-- A list up to the last occurrence of an element. -/
theorem exists_append_since {l : List α} {a : α} (h : a ∈ l) : ∃ xs, l = xs ++ a :: since a l := by
  induction l using List.reverseRecOn with
  | nil => simp at h
  | append_singleton l b ih =>
      by_cases hba : b = a
      · refine ⟨l, ?_⟩
        rw [since, List.rtakeWhile_concat_neg _ _ _ (by simpa using hba), hba]
      · have hl : a ∈ l := by
          rcases List.mem_append.mp h with h | h
          · exact h
          · exact absurd (List.mem_singleton.mp h).symm hba
        obtain ⟨xs, hxs⟩ := ih hl
        refine ⟨xs, ?_⟩
        have hsince : since a (l ++ [b]) = since a l ++ [b] :=
          List.rtakeWhile_concat_pos _ _ _ (by simpa using hba)
        rw [hsince]
        conv_lhs => rw [hxs]
        simp

theorem not_mem_since (a : α) (l : List α) : a ∉ since a l := by
  intro h
  have := List.mem_rtakeWhile_imp h
  simp at this

/-- The order of last occurrences ends with `a` and what occurs after it. -/
theorem exists_dedup_append {l : List α} {a : α} (h : a ∈ l) :
    ∃ xs, l.dedup = xs ++ a :: (since a l).dedup := by
  obtain ⟨xs, hxs⟩ := exists_append_since h
  have hcons : (a :: since a l).dedup = a :: (since a l).dedup :=
    List.dedup_cons_of_notMem (not_mem_since a l)
  have hsuffix : (a :: (since a l).dedup) <:+ l.dedup := by
    conv_rhs => rw [hxs]
    rw [List.dedup_append, hcons]
    exact List.suffix_union_right _ _
  obtain ⟨ys, hys⟩ := hsuffix
  exact ⟨ys, hys.symm⟩

/-- An element is among the latest `m` until `m` other elements have occurred after it. -/
theorem mem_latest_iff {m : Nat} {l : List α} {a : α} :
    a ∈ latest m l ↔ a ∈ l ∧ (since a l).toFinset.card < m := by
  constructor
  · intro h
    have ha := mem_of_mem_latest h
    refine ⟨ha, ?_⟩
    rw [List.card_toFinset]
    obtain ⟨xs, hxs⟩ := exists_dedup_append ha
    by_contra hge
    -- then the last `m` elements all follow `a`, where it does not occur again
    have hlast : latest m l = (since a l).dedup.rtake m := by
      rw [latest, hxs, ← List.singleton_append, ← List.append_assoc,
        rtake_append_of_le (by omega)]
    rw [hlast] at h
    exact not_mem_since a l (List.mem_dedup.mp (List.mem_of_mem_drop h))
  · rintro ⟨ha, hcard⟩
    rw [List.card_toFinset] at hcard
    obtain ⟨xs, hxs⟩ := exists_dedup_append ha
    rw [latest, hxs, rtake_append_of_ge (by rw [List.length_cons]; omega)]
    simp

end CommandBridge.Recency
