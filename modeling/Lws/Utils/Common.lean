import Lws.Go.Runtime
import Mathlib.Data.List.Induction

/-!
# Generic helpers of the `utils` package

`SortByIndex` places items in a slice by an index each carries: the
controller sorts leader pods and worker StatefulSets by the group index read
from their labels. The slice has the requested length and starts with zero
values; an item whose index cannot be read or lies at or past the end is
skipped, and a later item overwrites an earlier one at the same index.

Only the upper end is checked: an item with a negative index is written at a
negative position, which panics.
-/

namespace Lws

/-- `utils.SortByIndex`; `zero` is the zero value of the item type and
`none` a panic. -/
def sortByIndex {T : Type} (zero : T) (indexFunc : T → Except String Int) (items : List T)
    (length : Int) : Option (List T) := do
  let result ← makeSlice length zero
  items.foldlM (fun result item =>
    match indexFunc item with
    | .error _ => pure result
    | .ok index => if index ≥ length then pure result else setIndex? result index item) result

/-- What `SortByIndex` puts at `index`: the last item whose index function
gives `index`, or the zero value when there is none. -/
def lastItemAt {T : Type} (zero : T) (indexFunc : T → Except String Int) (items : List T)
    (index : Nat) : T :=
  ((items.filter fun item => decide (indexFunc item = .ok (index : Int))).getLast?).getD zero

/-- An item appended last wins at its own index. -/
theorem lastItemAt_append_singleton {T : Type} (zero : T) (indexFunc : T → Except String Int)
    (items : List T) (item : T) (index : Nat) :
    lastItemAt zero indexFunc (items ++ [item]) index =
      if indexFunc item = .ok (index : Int) then item else lastItemAt zero indexFunc items index := by
  unfold lastItemAt
  by_cases placed : indexFunc item = .ok (index : Int)
  · simp [List.filter_append, placed]
  · simp [List.filter_append, placed]

/-- An index holds the zero value or an item of that index. -/
theorem lastItemAt_cases {T : Type} (zero : T) (indexFunc : T → Except String Int) (items : List T)
    (index : Nat) :
    lastItemAt zero indexFunc items index = zero ∨
      (lastItemAt zero indexFunc items index ∈ items ∧
        indexFunc (lastItemAt zero indexFunc items index) = .ok (index : Int)) := by
  unfold lastItemAt
  cases last : (items.filter fun item => decide (indexFunc item = .ok (index : Int))).getLast? with
  | none => exact .inl rfl
  | some item =>
    obtain ⟨member, placed⟩ := List.mem_filter.mp (List.mem_of_getLast? last)
    exact .inr ⟨member, by simpa using placed⟩

/-- An index that one item alone carries holds that item. -/
theorem lastItemAt_of_unique {T : Type} (zero : T) (indexFunc : T → Except String Int) {items : List T}
    {index : Nat} {item : T} (member : item ∈ items) (placed : indexFunc item = .ok (index : Int))
    (unique : ∀ other ∈ items, indexFunc other = .ok (index : Int) → other = item) :
    lastItemAt zero indexFunc items index = item := by
  unfold lastItemAt
  cases last : (items.filter fun other => decide (indexFunc other = .ok (index : Int))).getLast? with
  | none =>
    rw [List.getLast?_eq_none_iff] at last
    have kept : item ∈ items.filter fun other => decide (indexFunc other = .ok (index : Int)) :=
      List.mem_filter.mpr ⟨member, by simp [placed]⟩
    simp [last] at kept
  | some other =>
    obtain ⟨inItems, atIndex⟩ := List.mem_filter.mp (List.mem_of_getLast? last)
    exact unique other inItems (by simpa using atIndex)

/-- An index that no item carries holds the zero value. -/
theorem lastItemAt_of_forall_ne {T : Type} (zero : T) (indexFunc : T → Except String Int) {items : List T}
    {index : Nat} (absent : ∀ item ∈ items, indexFunc item ≠ .ok (index : Int)) :
    lastItemAt zero indexFunc items index = zero := by
  have none : (items.filter fun item => decide (indexFunc item = .ok (index : Int))) = [] :=
    List.filter_eq_nil_iff.mpr fun item member => by simpa using absent item member
  simp [lastItemAt, none]

/-- **What `SortByIndex` returns.** With a nonnegative length and no item
whose index is negative, the result has the requested length and holds at
each index the last item placed there, or the zero value.
Proof: induction from the end of the items; the last item either overwrites
its own index or is skipped. -/
theorem sortByIndex_eq {T : Type} (zero : T) (indexFunc : T → Except String Int) (items : List T)
    (length : Int) (lengthNonnegative : 0 ≤ length)
    (indicesNonnegative : ∀ item ∈ items, ∀ index, indexFunc item = .ok index → 0 ≤ index) :
    sortByIndex zero indexFunc items length =
      some ((List.range length.toNat).map (lastItemAt zero indexFunc items)) := by
  have made : makeSlice length zero = some (List.replicate length.toNat zero) := by
    simp [makeSlice, Int.not_lt.mpr lengthNonnegative]
  unfold sortByIndex
  rw [made, Option.bind_eq_bind, Option.bind_some]
  induction items using List.reverseRecOn with
  | nil =>
    have empty : lastItemAt zero indexFunc [] = fun _ => zero := by
      funext index
      rfl
    rw [empty, List.map_const', List.length_range]
    rfl
  | append_singleton items item inductionHypothesis =>
    have earlier : ∀ other ∈ items, ∀ index, indexFunc other = .ok index → 0 ≤ index :=
      fun other member => indicesNonnegative other (List.mem_append_left _ member)
    rw [List.foldlM_append, inductionHypothesis earlier, Option.bind_eq_bind, Option.bind_some]
    simp only [List.foldlM_cons, List.foldlM_nil, bind_pure]
    cases indexed : indexFunc item with
    | error message =>
      have untouched : ∀ index : Nat, lastItemAt zero indexFunc (items ++ [item]) index =
          lastItemAt zero indexFunc items index := by
        intro index
        rw [lastItemAt_append_singleton, indexed]
        simp
      simp [untouched]
    | ok index =>
      dsimp only
      have nonnegative : 0 ≤ index := indicesNonnegative item (by simp) index indexed
      by_cases beyond : index ≥ length
      · have untouched : ∀ position ∈ List.range length.toNat,
            lastItemAt zero indexFunc (items ++ [item]) position =
              lastItemAt zero indexFunc items position := by
          intro position member
          rw [List.mem_range] at member
          rw [lastItemAt_append_singleton, indexed]
          have different : index ≠ (position : Int) := by omega
          simp [different]
        simp only [beyond, if_true, pure]
        rw [List.map_congr_left untouched]
      · have inside : index < ((List.range length.toNat).map (lastItemAt zero indexFunc items)).length := by
          simp
          omega
        rw [if_neg beyond, setIndex?_of_lt _ _ nonnegative inside]
        congr 1
        apply List.ext_getElem (by simp)
        intro position inSet inMapped
        rw [List.getElem_set]
        simp only [List.getElem_map, List.getElem_range, lastItemAt_append_singleton, indexed]
        by_cases same : index.toNat = position
        · have placed : index = (position : Int) := by omega
          simp [placed]
        · have different : index ≠ (position : Int) := by omega
          simp [same, different]

/-- A negative index taken from a label such as `"-1"` is written before the
slice: the write panics. -/
theorem sortByIndex_panics_on_negative_index :
    sortByIndex (0 : Int) (fun item => .ok item) [-1] 1 = none := by
  decide

end Lws
