import Mathlib

/-!
# Counting items that carry distinct indices

A loop that counts the items of a list passing a test reaches, for a test
`p && q`, the count of `q` exactly when every item passing `q` passes `p`.

When the items carry pairwise distinct nonnegative indices, at most `n` of
them have an index below `n`, and the items passing `p` with an index below
`n` are `n` exactly when every index below `n` is carried by an item passing
`p`: their indices fill the interval `[0, n)`.
-/

namespace IndexCount

variable {α : Type}

/-- **A count of a conjunction.** The items passing `p && q` are as many as
those passing `q` exactly when every item passing `q` passes `p`. -/
theorem countP_and_eq_countP_iff (p q : α → Bool) (l : List α) :
    l.countP (fun a => p a && q a) = l.countP q ↔ ∀ a ∈ l, q a = true → p a = true := by
  rw [← List.countP_filter, List.countP_eq_length_filter (p := q), List.countP_eq_length]
  constructor
  · intro passing a member passed
    exact passing a (List.mem_filter.mpr ⟨member, passed⟩)
  · intro passing a member
    obtain ⟨inList, passed⟩ := List.mem_filter.mp member
    exact passing a inList passed

section Indexed

variable (index : α → ℤ) (p : α → Bool) (n : ℤ)

/-- The indices below `n` of the items passing `p`. -/
def indicesBelow (l : List α) : Finset ℤ :=
  ((l.filter fun a => p a && decide (index a < n)).map index).toFinset

variable {index p n}

theorem mem_indicesBelow {l : List α} {i : ℤ} :
    i ∈ indicesBelow index p n l ↔ ∃ a ∈ l, p a = true ∧ index a < n ∧ index a = i := by
  simp [indicesBelow, and_assoc]

/-- Distinct indices: the counted items and their indices are as many. -/
theorem card_indicesBelow {l : List α} (distinct : (l.map index).Nodup) :
    (indicesBelow index p n l).card = l.countP (fun a => p a && decide (index a < n)) := by
  have kept : ((l.filter fun a => p a && decide (index a < n)).map index).Nodup :=
    distinct.sublist ((List.filter_sublist).map index)
  rw [indicesBelow, List.toFinset_card_of_nodup kept, List.length_map, List.countP_eq_length_filter]

theorem indicesBelow_subset {l : List α} (nonnegative : ∀ a ∈ l, 0 ≤ index a) :
    indicesBelow index p n l ⊆ Finset.Ico 0 n := by
  intro i member
  obtain ⟨a, inList, -, below, rfl⟩ := mem_indicesBelow.mp member
  exact Finset.mem_Ico.mpr ⟨nonnegative a inList, below⟩

/-- **Counting by distinct indices.** Items with distinct nonnegative indices
that pass `p` and have an index below `n` are `n` exactly when every index
below `n` is carried by an item passing `p`.
Proof: their indices lie in `[0, n)`, as many as the items; a subset of
`[0, n)` with `n` elements is all of it. -/
theorem countP_below_eq_iff {l : List α} (distinct : (l.map index).Nodup)
    (nonnegative : ∀ a ∈ l, 0 ≤ index a) (bound : 0 ≤ n) :
    (l.countP (fun a => p a && decide (index a < n)) : ℤ) = n ↔
      ∀ i, 0 ≤ i → i < n → ∃ a ∈ l, index a = i ∧ p a = true := by
  have interval : ((Finset.Ico 0 n).card : ℤ) = n := by
    rw [Int.card_Ico, sub_zero, Int.toNat_of_nonneg bound]
  have counted := card_indicesBelow (p := p) (n := n) distinct
  constructor
  · intro full i lower upper
    have filled : indicesBelow index p n l = Finset.Ico 0 n :=
      Finset.eq_of_subset_of_card_le (indicesBelow_subset nonnegative) (by omega)
    have carried : i ∈ indicesBelow index p n l := filled ▸ Finset.mem_Ico.mpr ⟨lower, upper⟩
    obtain ⟨a, inList, passed, -, indexed⟩ := mem_indicesBelow.mp carried
    exact ⟨a, inList, indexed, passed⟩
  · intro covered
    have covering : Finset.Ico 0 n ⊆ indicesBelow index p n l := by
      intro i member
      obtain ⟨lower, upper⟩ := Finset.mem_Ico.mp member
      obtain ⟨a, inList, indexed, passed⟩ := covered i lower upper
      exact mem_indicesBelow.mpr ⟨a, inList, passed, indexed ▸ upper, indexed⟩
    have filled := Finset.Subset.antisymm (indicesBelow_subset nonnegative) covering
    rw [← counted, filled, interval]

end Indexed

end IndexCount
