import Mathlib.Data.List.Nodup

/-!
# Lists kept free of repeated keys

A loop that appends an element to an accumulator unless an element with the
same key is already there keeps, after the accumulator's own elements, the
first occurrence of each key that the accumulator does not hold, in the order
of the input. `firstByKey key seen l` is that part: it walks `l` and keeps an
element exactly when its key is neither in `seen` nor the key of an element
kept before it.

The lemmas give the loop's result, the distinctness of the kept keys, and what
makes the loop idempotent: running it again over its own result keeps nothing
new. In a list whose keys are distinct, a search by key finds the one element
that has it.
-/

namespace KeyedList

variable {α κ : Type} [BEq κ]

/-- The elements of `l` whose key is not in `seen` and not the key of an
earlier element of `l`, in their order in `l`. -/
def firstByKey (key : α → κ) (seen : List κ) : List α → List α
  | [] => []
  | a :: rest =>
    if seen.contains (key a) then firstByKey key seen rest
    else a :: firstByKey key (seen ++ [key a]) rest

section

variable (key : α → κ)

@[simp] theorem firstByKey_nil (seen : List κ) : firstByKey key seen [] = [] := rfl

variable [LawfulBEq κ]

theorem firstByKey_cons_of_mem {seen : List κ} {a : α} (rest : List α) (present : key a ∈ seen) :
    firstByKey key seen (a :: rest) = firstByKey key seen rest := by
  simp [firstByKey, present]

theorem firstByKey_cons_of_not_mem {seen : List κ} {a : α} (rest : List α) (absent : key a ∉ seen) :
    firstByKey key seen (a :: rest) = a :: firstByKey key (seen ++ [key a]) rest := by
  simp [firstByKey, absent]

/-- **The append-if-absent loop.** Folding "append unless an element with the
same key is there" over `l` from `init` gives `init` followed by the first
occurrences in `l` of the keys `init` lacks.
Proof: induction on `l`; the accumulator's keys are the `seen` list. -/
theorem foldl_append_if_absent (init l : List α) :
    l.foldl (fun acc a => if !(acc.any fun b => key b == key a) then acc ++ [a] else acc) init =
      init ++ firstByKey key (init.map key) l := by
  induction l generalizing init with
  | nil => simp
  | cons a rest inductionHypothesis =>
    rw [List.foldl_cons]
    by_cases present : key a ∈ init.map key
    · have found : (init.any fun b => key b == key a) = true := by
        simpa [List.any_eq_true] using present
      rw [found, firstByKey_cons_of_mem key rest present]
      exact inductionHypothesis init
    · have missing : (init.any fun b => key b == key a) = false := by
        simpa [List.any_eq_false] using present
      rw [missing, firstByKey_cons_of_not_mem key rest present]
      simp only [Bool.not_false, if_true]
      rw [inductionHypothesis (init ++ [a]), List.map_append, List.map_singleton]
      simp

/-- A kept element's key was not seen. -/
theorem key_not_mem_of_mem_firstByKey {seen : List κ} {l : List α} {a : α}
    (kept : a ∈ firstByKey key seen l) : key a ∉ seen := by
  induction l generalizing seen with
  | nil => simp at kept
  | cons b rest inductionHypothesis =>
    by_cases present : key b ∈ seen
    · rw [firstByKey_cons_of_mem key rest present] at kept
      exact inductionHypothesis kept
    · rw [firstByKey_cons_of_not_mem key rest present, List.mem_cons] at kept
      rcases kept with rfl | later
      · exact present
      · have laterFresh := inductionHypothesis later
        simp only [List.mem_append, not_or] at laterFresh
        exact laterFresh.1

/-- **No key is lost.** A key of `l` that is not seen is the key of a kept
element. -/
theorem mem_map_firstByKey {seen : List κ} {l : List α} {k : κ} (present : k ∈ l.map key)
    (unseen : k ∉ seen) : k ∈ (firstByKey key seen l).map key := by
  induction l generalizing seen with
  | nil => simp at present
  | cons a rest inductionHypothesis =>
    rw [List.map_cons, List.mem_cons] at present
    by_cases seenHead : key a ∈ seen
    · -- a seen head cannot carry the unseen key, so a later element does
      rw [firstByKey_cons_of_mem key rest seenHead]
      rcases present with rfl | later
      · exact absurd seenHead unseen
      · exact inductionHypothesis later unseen
    · rw [firstByKey_cons_of_not_mem key rest seenHead, List.map_cons, List.mem_cons]
      by_cases head : k = key a
      · exact .inl head
      · refine .inr (inductionHypothesis (present.resolve_left head) ?_)
        simp [unseen, head]

/-- **The kept keys are distinct.** Every key kept after `a` avoids
`seen ++ [key a]`, so it differs from `key a`. -/
theorem nodup_map_firstByKey (seen : List κ) (l : List α) : ((firstByKey key seen l).map key).Nodup := by
  induction l generalizing seen with
  | nil => simp
  | cons a rest inductionHypothesis =>
    by_cases present : key a ∈ seen
    · rw [firstByKey_cons_of_mem key rest present]
      exact inductionHypothesis seen
    · rw [firstByKey_cons_of_not_mem key rest present, List.map_cons, List.nodup_cons]
      refine ⟨?_, inductionHypothesis _⟩
      intro repeated
      obtain ⟨b, kept, sameKey⟩ := List.mem_map.mp repeated
      have fresh := key_not_mem_of_mem_firstByKey key kept
      rw [sameKey] at fresh
      simp at fresh

/-- An initial part whose keys are all seen is skipped. -/
theorem firstByKey_append_of_forall_mem {seen : List κ} {skipped : List α} (rest : List α)
    (allSeen : ∀ a ∈ skipped, key a ∈ seen) :
    firstByKey key seen (skipped ++ rest) = firstByKey key seen rest := by
  induction skipped with
  | nil => rfl
  | cons a skipped inductionHypothesis =>
    rw [List.cons_append, firstByKey_cons_of_mem key _ (allSeen a (by simp))]
    exact inductionHypothesis (fun b member => allSeen b (List.mem_cons_of_mem a member))

/-- A list with distinct keys, none of them seen, is kept whole. -/
theorem firstByKey_of_nodup {seen : List κ} {l : List α} (distinct : (l.map key).Nodup)
    (fresh : ∀ a ∈ l, key a ∉ seen) : firstByKey key seen l = l := by
  induction l generalizing seen with
  | nil => rfl
  | cons a rest inductionHypothesis =>
    rw [List.map_cons, List.nodup_cons] at distinct
    rw [firstByKey_cons_of_not_mem key rest (fresh a (by simp))]
    congr 1
    apply inductionHypothesis distinct.2
    intro b member
    have notSeen := fresh b (List.mem_cons_of_mem a member)
    have notFirst : key b ≠ key a := fun same => distinct.1 (same ▸ List.mem_map_of_mem member)
    simp [notSeen, notFirst]

/-- **A lookup by a unique key.** In a list whose keys are distinct, the
first element with key `k` is the element with key `k`. -/
theorem find?_key_eq_some_iff {l : List α} (distinct : (l.map key).Nodup) {k : κ} {a : α} :
    l.find? (fun b => key b == k) = some a ↔ a ∈ l ∧ key a = k := by
  constructor
  · intro found
    exact ⟨List.mem_of_find?_eq_some found, by simpa using List.find?_some found⟩
  · rintro ⟨member, keyed⟩
    obtain ⟨b, found⟩ : ∃ b, l.find? (fun b => key b == k) = some b :=
      Option.isSome_iff_exists.mp (List.find?_isSome.mpr ⟨a, member, by simp [keyed]⟩)
    have sameKey : key b = key a := by
      rw [keyed]
      simpa using List.find?_some found
    rw [found, List.inj_on_of_nodup_map distinct (List.mem_of_find?_eq_some found) member sameKey]

/-- **Keeping first occurrences is idempotent.** -/
theorem firstByKey_firstByKey (seen : List κ) (l : List α) :
    firstByKey key seen (firstByKey key seen l) = firstByKey key seen l :=
  firstByKey_of_nodup key (nodup_map_firstByKey key seen l)
    (fun _ kept => key_not_mem_of_mem_firstByKey key kept)

end

end KeyedList
