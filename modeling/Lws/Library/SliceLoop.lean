import Mathlib.Data.List.Induction

/-!
# Loops over a slice

Two loop shapes that controllers write over a slice of observations, stated
over lists of any element type.

A loop `for idx := 0; idx < m; idx++ { ... s[idx] ... }` reads the first `m`
elements and fails at the first index past the end. As a monadic fold over
`List.range m`, it either fails, when `m` exceeds the length, or folds the
prefix of length `m`.

A loop that adds one to a counter for each element passing a test counts
the passing elements, also when the counter is one field of a larger state;
a loop whose only failure is a read that fails returns, when every read
succeeds, the plain fold.

A loop that counts from the last index down while the elements satisfy a test
stops at the last element that fails it. `lastIndexWhere p l` scans the list
from the front and remembers the last index whose element satisfies `p`, or
`-1`; the backward count is then the distance from that index to the end.
-/

namespace SliceLoop

variable {α β : Type}

/-- **A bounds-checked loop over a prefix.** Reading `l[idx]` for every
`idx < m` and folding the elements read succeeds exactly when `m` is within
the list, and then folds the prefix of length `m`.
Proof: induction on `m`; the last pass reads `l[m]`, present exactly when
`m < l.length`. -/
theorem foldlM_range_getElem? (f : β → α → β) (l : List α) (m : Nat) (init : β) :
    (List.range m).foldlM (fun accumulated idx => do
        let element ← l[idx]?
        pure (f accumulated element)) init =
      if m ≤ l.length then some ((l.take m).foldl f init) else none := by
  induction m with
  | zero => simp
  | succ m inductionHypothesis =>
    rw [List.range_succ, List.foldlM_append, inductionHypothesis]
    by_cases inside : m < l.length
    · have prefixInside : m ≤ l.length := Nat.le_of_lt inside
      have grown : m + 1 ≤ l.length := inside
      have extended : l.take (m + 1) = l.take m ++ [l[m]] := by
        rw [List.take_add_one, List.getElem?_eq_getElem inside]
        rfl
      rw [if_pos prefixInside, if_pos grown, extended, List.foldl_append]
      simp [List.getElem?_eq_getElem inside]
    · have notGrown : ¬m + 1 ≤ l.length := inside
      by_cases atEnd : m ≤ l.length
      · have missing : l[m]? = none := List.getElem?_eq_none (by omega)
        simp [atEnd, missing, notGrown]
      · simp [atEnd, notGrown]

/-- A counting loop: adding one for every element that satisfies `p`. -/
theorem foldl_count_eq_countP (p : α → Bool) (l : List α) (init : Int) :
    l.foldl (fun count a => if p a then count + 1 else count) init = init + l.countP p := by
  induction l generalizing init with
  | nil => simp
  | cons a l inductionHypothesis =>
    rw [List.foldl_cons, inductionHypothesis, List.countP_cons]
    cases p a with
    | false => simp
    | true =>
      simp only [if_true, Int.natCast_add, Int.natCast_one]
      omega

/-- **A counter kept in one field of a loop's state.** When each step adds one
to `field` exactly for the elements that satisfy `p`, the field ends at its
start plus the number of those elements. -/
theorem foldl_field_count (field : β → Int) (p : α → Bool) (f : β → α → β)
    (step : ∀ accumulated a, field (f accumulated a) = if p a then field accumulated + 1 else field accumulated)
    (l : List α) (init : β) : field (l.foldl f init) = field init + l.countP p := by
  induction l generalizing init with
  | nil => simp
  | cons a l inductionHypothesis =>
    rw [List.foldl_cons, inductionHypothesis, step, List.countP_cons]
    cases p a with
    | false => simp
    | true =>
      simp only [if_true, Int.natCast_add, Int.natCast_one]
      omega

/-- **A loop that fails only at a read.** A loop whose body reads a value
that may fail and then updates its state returns, when every read succeeds,
the fold of the updates with the values read. -/
theorem foldlM_read_of_ok {ε γ : Type} (read : α → Except ε γ) (update : β → γ → α → β)
    (value : α → γ) (l : List α) (init : β) (succeeds : ∀ a ∈ l, read a = .ok (value a)) :
    l.foldlM (fun accumulated a => read a >>= fun v => pure (update accumulated v a)) init =
      .ok (l.foldl (fun accumulated a => update accumulated (value a) a) init) := by
  induction l generalizing init with
  | nil => rfl
  | cons a l inductionHypothesis =>
    rw [List.foldlM_cons, succeeds a List.mem_cons_self, List.foldl_cons]
    exact inductionHypothesis _ fun b member => succeeds b (List.mem_cons_of_mem a member)

/-- The last index whose element satisfies `p`, or `-1` when none does: a
scan from the front that remembers the last index seen with `p`. -/
def lastIndexWhere (p : α → Bool) (l : List α) : Int :=
  l.zipIdx.foldl (fun last entry => if p entry.1 then (entry.2 : Int) else last) (-1)

/-- Appending an element that satisfies `p` moves the last index to it. -/
@[simp] theorem lastIndexWhere_append_of_pos (p : α → Bool) (l : List α) {a : α}
    (satisfies : p a = true) : lastIndexWhere p (l ++ [a]) = l.length := by
  simp [lastIndexWhere, List.zipIdx_append, satisfies]

/-- Appending an element that fails `p` keeps the last index. -/
@[simp] theorem lastIndexWhere_append_of_neg (p : α → Bool) (l : List α) {a : α}
    (fails : p a = false) : lastIndexWhere p (l ++ [a]) = lastIndexWhere p l := by
  simp [lastIndexWhere, List.zipIdx_append, fails]

/-- With no element satisfying `p`, the last index is `-1`. -/
theorem lastIndexWhere_of_forall (p : α → Bool) (l : List α) (never : ∀ a ∈ l, p a = false) :
    lastIndexWhere p l = -1 := by
  induction l using List.reverseRecOn with
  | nil => rfl
  | append_singleton l a inductionHypothesis =>
    rw [lastIndexWhere_append_of_neg p l (never a (by simp))]
    exact inductionHypothesis (fun b member => never b (by simp [member]))

/-- The last index lies in `[-1, l.length)`. -/
theorem lastIndexWhere_bounds (p : α → Bool) (l : List α) :
    -1 ≤ lastIndexWhere p l ∧ lastIndexWhere p l < l.length := by
  induction l using List.reverseRecOn with
  | nil => simp [lastIndexWhere]
  | append_singleton l a inductionHypothesis =>
    rw [List.length_append, List.length_singleton]
    cases satisfies : p a with
    | true =>
      rw [lastIndexWhere_append_of_pos p l satisfies]
      omega
    | false =>
      rw [lastIndexWhere_append_of_neg p l satisfies]
      omega

/-- **The backward count.** The elements counted from the end while they
satisfy `q` are those after the last index where `q` fails.
Proof: induction from the end of the list; an element satisfying `q` extends
the count by one, and one failing it resets the count and moves the index. -/
theorem length_takeWhile_reverse (q : α → Bool) (l : List α) :
    ((l.reverse.takeWhile q).length : Int) = l.length - 1 - lastIndexWhere (fun a => !q a) l := by
  induction l using List.reverseRecOn with
  | nil => simp [lastIndexWhere]
  | append_singleton l a inductionHypothesis =>
    cases satisfies : q a with
    | true =>
      have kept : lastIndexWhere (fun a => !q a) (l ++ [a]) = lastIndexWhere (fun a => !q a) l :=
        lastIndexWhere_append_of_neg _ l (by simp [satisfies])
      rw [kept, List.reverse_append, List.reverse_singleton, List.singleton_append,
        List.takeWhile_cons_of_pos satisfies, List.length_cons, List.length_append]
      rw [List.length_singleton]
      push_cast
      omega
    | false =>
      have moved : lastIndexWhere (fun a => !q a) (l ++ [a]) = l.length :=
        lastIndexWhere_append_of_pos _ l (by simp [satisfies])
      rw [moved, List.reverse_append, List.reverse_singleton, List.singleton_append,
        List.takeWhile_cons_of_neg (by simp [satisfies])]
      simp

end SliceLoop
