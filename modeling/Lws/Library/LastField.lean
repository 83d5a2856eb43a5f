import Mathlib.Data.List.TakeWhile

/-!
# Text split at its last separator

Names built as `prefix-number` are read back by splitting them at their last
`-`: the number is the field after it, and the prefix, which may contain
separators of its own, is everything before it. `splitLast` computes that
split from the end of the text.

The split inverts the join exactly when the field contains no separator:
this is the one fact the readers of such names rest on.
-/

namespace LastField

/-- The text before the last `separator` of `chars` and the field after it,
or `none` when `separator` does not occur. -/
def splitLast (separator : Char) (chars : List Char) : Option (List Char × List Char) :=
  match chars.reverse.dropWhile (fun c => c != separator) with
  | [] => none
  | _ :: before => some (before.reverse, (chars.reverse.takeWhile (fun c => c != separator)).reverse)

/-- **Splitting inverts joining.** A text joined from a prefix and a field
without separators splits back into them. -/
theorem splitLast_append (separator : Char) (before field : List Char) (absent : separator ∉ field) :
    splitLast separator (before ++ separator :: field) = some (before, field) := by
  have fieldKept : ∀ c ∈ field.reverse, (c != separator) = true := by
    intro c member
    have different : c ≠ separator := fun same => absent (same ▸ List.mem_reverse.mp member)
    simpa using different
  have reversed : (before ++ separator :: field).reverse = field.reverse ++ separator :: before.reverse := by
    simp
  have dropped : (before ++ separator :: field).reverse.dropWhile (fun c => c != separator) =
      separator :: before.reverse := by
    rw [reversed, List.dropWhile_append_of_pos fieldKept]
    simp
  have taken : (before ++ separator :: field).reverse.takeWhile (fun c => c != separator) =
      field.reverse := by
    rw [reversed, List.takeWhile_append_of_pos fieldKept]
    simp
  rw [splitLast, dropped, taken]
  simp

/-- A text without the separator does not split. -/
theorem splitLast_of_not_mem {separator : Char} {chars : List Char} (absent : separator ∉ chars) :
    splitLast separator chars = none := by
  have allKept : ∀ c ∈ chars.reverse, (c != separator) = true := by
    intro c member
    have different : c ≠ separator := fun same => absent (same ▸ List.mem_reverse.mp member)
    simpa using different
  have dropped : chars.reverse.dropWhile (fun c => c != separator) = [] :=
    List.dropWhile_eq_nil_iff.mpr allKept
  rw [splitLast, dropped]

/-- **Every split is a join.** A split text is its prefix, the separator and
a field without separators. -/
theorem eq_append_of_splitLast {separator : Char} {chars before field : List Char}
    (split : splitLast separator chars = some (before, field)) :
    chars = before ++ separator :: field ∧ separator ∉ field := by
  unfold splitLast at split
  have whole := List.takeWhile_append_dropWhile (p := fun c => c != separator) (l := chars.reverse)
  cases remaining : chars.reverse.dropWhile (fun c => c != separator) with
  | nil => rw [remaining] at split; cases split
  | cons stop rest =>
    rw [remaining] at split
    simp only [Option.some.injEq, Prod.mk.injEq] at split
    obtain ⟨restBefore, fieldTaken⟩ := split
    have stopped : stop = separator := by
      have headFails := List.head_dropWhile_not (fun c => c != separator) (l := chars.reverse)
        (by rw [remaining]; exact List.cons_ne_nil stop rest)
      simp only [remaining, List.head_cons] at headFails
      simpa using headFails
    have fieldClean : separator ∉ field := by
      intro member
      rw [← fieldTaken, List.mem_reverse] at member
      simpa using List.mem_takeWhile_imp member
    refine ⟨?_, fieldClean⟩
    rw [remaining, stopped] at whole
    rw [← List.reverse_reverse chars, ← whole, ← restBefore, ← fieldTaken]
    simp

/-- A text that does not split has no separator. -/
theorem not_mem_of_splitLast_eq_none {separator : Char} {chars : List Char}
    (unsplit : splitLast separator chars = none) : separator ∉ chars := by
  intro member
  unfold splitLast at unsplit
  cases remaining : chars.reverse.dropWhile (fun c => c != separator) with
  | nil =>
    have kept := List.dropWhile_eq_nil_iff.mp remaining separator (List.mem_reverse.mpr member)
    simp at kept
  | cons stop rest =>
    rw [remaining] at unsplit
    cases unsplit

/-- **A tail without separators joins the last field.** -/
theorem splitLast_append_of_not_mem (separator : Char) (chars suffix : List Char) (absent : separator ∉ suffix) :
    splitLast separator (chars ++ suffix) =
      (splitLast separator chars).map fun parts => (parts.1, parts.2 ++ suffix) := by
  cases split : splitLast separator chars with
  | none =>
    have missing := not_mem_of_splitLast_eq_none split
    exact splitLast_of_not_mem (by simp [missing, absent])
  | some parts =>
    obtain ⟨before, field⟩ := parts
    obtain ⟨joined, fieldClean⟩ := eq_append_of_splitLast split
    rw [joined, List.append_assoc, List.cons_append]
    exact splitLast_append separator before (field ++ suffix) (by simp [fieldClean, absent])

end LastField
