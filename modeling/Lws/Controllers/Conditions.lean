import Lws.Api.LeaderWorkerSet

/-!
# The status conditions of a LeaderWorkerSet

On every reconcile `updateConditions` counts the groups and hands one of three
lists to `setConditions`: `UpdateInProgress` and `Progressing` while a rollout
has groups left to update, `Available` once every group is updated and ready,
and `Progressing` otherwise. All three are built by `makeCondition`, with
status `True`.

`setCondition` scans the stored conditions once. A stored condition of the new
type is replaced when its status differs; a stored condition of an exclusive
type, `Available` against `Progressing` or `UpdateInProgress`, is set to
`False` when both are `True`; the new condition is appended when no stored
condition has its type. Each iteration reads and writes only its own entry, so
the scan rebuilds the list entry by entry. `setConditions` folds
`shouldUpdate = shouldUpdate || setCondition(lws, condition)`: Go's `||` does
not evaluate `setCondition` once `shouldUpdate` is true.

Transition times are real time and are left out, with the events the
controller records.
-/

namespace Lws

/-- The reasons `makeCondition` gives. -/
def groupsProgressing : String := "GroupsProgressing"
def groupsUpdating : String := "GroupsUpdating"

/-- `makeCondition`: a `True` condition of the given type, with its reason and
message; every type other than `Available` and `UpdateInProgress` makes a
`Progressing` condition. -/
def makeCondition (conditionType : String) : Condition :=
  if conditionType = leaderWorkerSetAvailable then
    ⟨leaderWorkerSetAvailable, .conditionTrue, "AllGroupsReady", "All replicas are ready"⟩
  else if conditionType = leaderWorkerSetUpdateInProgress then
    ⟨leaderWorkerSetUpdateInProgress, .conditionTrue, groupsUpdating, "Rolling Upgrade is in progress"⟩
  else
    ⟨leaderWorkerSetProgressing, .conditionTrue, groupsProgressing, "Replicas are progressing"⟩

/-- `exclusiveConditionTypes`: `Available` excludes `Progressing` and
`UpdateInProgress`, in either order. -/
def exclusiveConditionTypes (condition1 condition2 : Condition) : Bool :=
  (condition1.type == leaderWorkerSetAvailable && condition2.type == leaderWorkerSetProgressing) ||
  (condition1.type == leaderWorkerSetProgressing && condition2.type == leaderWorkerSetAvailable) ||
  (condition1.type == leaderWorkerSetAvailable && condition2.type == leaderWorkerSetUpdateInProgress) ||
  (condition1.type == leaderWorkerSetUpdateInProgress && condition2.type == leaderWorkerSetAvailable)

/-- One iteration of the loop of `setCondition` on the stored condition
`curCondition`: the entries rebuilt so far, `found` and `shouldUpdate`. -/
def setConditionStep (newCondition : Condition) (scanned : List Condition × Bool × Bool)
    (curCondition : Condition) : List Condition × Bool × Bool :=
  let (conditions, found, shouldUpdate) := scanned
  if newCondition.type = curCondition.type then
    if newCondition.status ≠ curCondition.status then (conditions ++ [newCondition], true, true)
    else (conditions ++ [curCondition], true, shouldUpdate)
  else if exclusiveConditionTypes curCondition newCondition ∧ newCondition.status = .conditionTrue ∧
      curCondition.status = .conditionTrue then
    (conditions ++ [{ curCondition with status := .conditionFalse }], found, true)
  else (conditions ++ [curCondition], found, shouldUpdate)

/-- `setCondition`: the stored conditions after setting `newCondition`, and
whether they changed. -/
def setCondition (conditions : List Condition) (newCondition : Condition) : List Condition × Bool :=
  let (conditions, found, shouldUpdate) :=
    conditions.foldl (setConditionStep newCondition) ([], false, false)
  if newCondition.status = .conditionTrue ∧ !found then (conditions ++ [newCondition], true)
  else (conditions, shouldUpdate)

/-- `setConditions`, with the short-circuit of Go's `||`. -/
def setConditions (conditions newConditions : List Condition) : List Condition × Bool :=
  newConditions.foldl (fun (conditions, shouldUpdate) condition =>
    if shouldUpdate then (conditions, true) else setCondition conditions condition) (conditions, false)

/-! ## What one scan does -/

/-- What the loop of `setCondition` leaves in place of the stored condition
`curCondition`. -/
def settledCondition (newCondition curCondition : Condition) : Condition :=
  if newCondition.type = curCondition.type then
    if newCondition.status ≠ curCondition.status then newCondition else curCondition
  else if exclusiveConditionTypes curCondition newCondition ∧ newCondition.status = .conditionTrue ∧
      curCondition.status = .conditionTrue then { curCondition with status := .conditionFalse }
  else curCondition

/-- A stored condition of type `type` with status `True`. -/
def HoldsTrue (conditions : List Condition) (type : String) : Prop :=
  ∃ condition ∈ conditions, condition.type = type ∧ condition.status = .conditionTrue

instance (conditions : List Condition) (type : String) : Decidable (HoldsTrue conditions type) :=
  inferInstanceAs (Decidable (∃ condition ∈ conditions, _))

/-- The status invariant: one stored condition per type, and never
`Available=True` together with `Progressing=True` or `UpdateInProgress=True`. -/
def ConditionsConsistent (conditions : List Condition) : Prop :=
  (conditions.map (·.type)).Nodup ∧
    ¬(HoldsTrue conditions leaderWorkerSetAvailable ∧
      (HoldsTrue conditions leaderWorkerSetProgressing ∨
        HoldsTrue conditions leaderWorkerSetUpdateInProgress))

instance (conditions : List Condition) : Decidable (ConditionsConsistent conditions) :=
  inferInstanceAs (Decidable (_ ∧ _))

/-- The loop body leaves the settled condition and records a type match and a
change. -/
theorem setConditionStep_eq (newCondition curCondition : Condition) (conditions : List Condition)
    (found shouldUpdate : Bool) :
    setConditionStep newCondition (conditions, found, shouldUpdate) curCondition =
      (conditions ++ [settledCondition newCondition curCondition],
        found || decide (newCondition.type = curCondition.type),
        shouldUpdate || decide (settledCondition newCondition curCondition ≠ curCondition)) := by
  unfold setConditionStep settledCondition
  by_cases sameType : newCondition.type = curCondition.type
  · by_cases sameStatus : newCondition.status = curCondition.status
    · simp [sameType, sameStatus]
    · have differs : newCondition ≠ curCondition := fun same => sameStatus (by rw [same])
      simp [sameType, sameStatus, differs]
  · by_cases demoted : exclusiveConditionTypes curCondition newCondition = true ∧
        newCondition.status = .conditionTrue ∧ curCondition.status = .conditionTrue
    · have differs : { curCondition with status := .conditionFalse } ≠ curCondition := by
        intro same
        have statuses := congrArg Condition.status same
        rw [demoted.2.2] at statuses
        cases statuses
      simp [sameType, demoted, differs]
    · simp [sameType, demoted]

/-- The whole scan settles every stored condition in place. -/
theorem foldl_setConditionStep (newCondition : Condition) (stored : List Condition) :
    ∀ (conditions : List Condition) (found shouldUpdate : Bool),
      stored.foldl (setConditionStep newCondition) (conditions, found, shouldUpdate) =
        (conditions ++ stored.map (settledCondition newCondition),
          found || stored.any (fun curCondition => decide (newCondition.type = curCondition.type)),
          shouldUpdate ||
            stored.any (fun curCondition => decide (settledCondition newCondition curCondition ≠ curCondition))) := by
  induction stored with
  | nil => simp
  | cons curCondition rest inductionHypothesis =>
    intro conditions found shouldUpdate
    rw [List.foldl_cons, setConditionStep_eq, inductionHypothesis]
    simp [Bool.or_assoc]

/-- **What `setCondition` does.** It settles every stored condition, and
appends the new condition when it is `True` and no stored condition has its
type; the flag says whether anything was appended or settled differently. -/
theorem setCondition_eq (stored : List Condition) (newCondition : Condition) :
    setCondition stored newCondition =
      if newCondition.status = .conditionTrue ∧
          stored.any (fun curCondition => decide (newCondition.type = curCondition.type)) = false then
        (stored.map (settledCondition newCondition) ++ [newCondition], true)
      else
        (stored.map (settledCondition newCondition),
          stored.any (fun curCondition => decide (settledCondition newCondition curCondition ≠ curCondition))) := by
  unfold setCondition
  rw [foldl_setConditionStep]
  simp

/-- Settling keeps a condition's type. -/
@[simp] theorem settledCondition_type (newCondition curCondition : Condition) :
    (settledCondition newCondition curCondition).type = curCondition.type := by
  unfold settledCondition
  split
  · split
    · assumption
    · rfl
  · split <;> rfl

/-- Exclusive types are distinct. -/
theorem exclusiveConditionTypes_ne {condition1 condition2 : Condition}
    (exclusive : exclusiveConditionTypes condition1 condition2 = true) :
    condition1.type ≠ condition2.type := by
  intro same
  unfold exclusiveConditionTypes at exclusive
  rw [same] at exclusive
  by_cases available : condition2.type = leaderWorkerSetAvailable
  · rw [available] at exclusive
    exact absurd exclusive (by decide)
  · simp [available] at exclusive

/-- Exclusiveness depends only on the types. -/
theorem exclusiveConditionTypes_congr {condition1 other condition2 : Condition}
    (sameType : condition1.type = other.type) :
    exclusiveConditionTypes condition1 condition2 = exclusiveConditionTypes other condition2 := by
  simp [exclusiveConditionTypes, sameType]

/-- **Setting a `True` condition demotes its exclusive partners.** No
condition left by `setCondition` that is exclusive with the new `True`
condition is `True`. -/
theorem setCondition_demotes (stored : List Condition) (newCondition : Condition)
    (isTrue : newCondition.status = .conditionTrue) {condition : Condition}
    (member : condition ∈ (setCondition stored newCondition).1)
    (exclusive : exclusiveConditionTypes condition newCondition = true) :
    condition.status ≠ .conditionTrue := by
  have settledMember : condition ∈ stored.map (settledCondition newCondition) := by
    rw [setCondition_eq] at member
    split at member
    · rcases List.mem_append.mp member with settled | appended
      · exact settled
      · rw [List.mem_singleton] at appended
        subst appended
        exact absurd rfl (exclusiveConditionTypes_ne exclusive)
    · exact member
  obtain ⟨curCondition, _, settled⟩ := List.mem_map.mp settledMember
  subst settled
  have curExclusive : exclusiveConditionTypes curCondition newCondition = true := by
    rw [← exclusiveConditionTypes_congr (settledCondition_type newCondition curCondition)]
    exact exclusive
  have distinct : newCondition.type ≠ curCondition.type := (exclusiveConditionTypes_ne curExclusive).symm
  unfold settledCondition
  by_cases curTrue : curCondition.status = .conditionTrue
  · simp [distinct, curExclusive, isTrue, curTrue]
  · simp [distinct, curTrue]

/-- `setCondition` keeps one stored condition per type. -/
theorem setCondition_types_nodup (stored : List Condition) (newCondition : Condition)
    (unique : (stored.map (·.type)).Nodup) :
    ((setCondition stored newCondition).1.map (·.type)).Nodup := by
  have settledTypes : (stored.map (settledCondition newCondition)).map (·.type) = stored.map (·.type) := by
    simp [Function.comp_def]
  rw [setCondition_eq]
  split
  · next appended =>
    have fresh : newCondition.type ∉ stored.map (·.type) := by
      intro present
      obtain ⟨curCondition, member, typed⟩ := List.mem_map.mp present
      have noMatch := appended.2
      rw [List.any_eq_false] at noMatch
      exact noMatch curCondition member (by simp [typed])
    rw [List.map_append, settledTypes, List.map_singleton, List.nodup_append]
    exact ⟨unique, List.nodup_singleton _, by simpa using fresh⟩
  · rw [settledTypes]
    exact unique

/-- The three condition types `makeCondition` builds. -/
def TrackedConditionType (type : String) : Prop :=
  type = leaderWorkerSetAvailable ∨ type = leaderWorkerSetProgressing ∨
    type = leaderWorkerSetUpdateInProgress

/-- **One `setCondition` call keeps the invariant.** Setting a `True`
condition of a tracked type keeps one condition per type and leaves no
`Available=True` beside `Progressing=True` or `UpdateInProgress=True`, from
any stored list with one condition per type. -/
theorem setCondition_consistent (stored : List Condition) (newCondition : Condition)
    (unique : (stored.map (·.type)).Nodup) (isTrue : newCondition.status = .conditionTrue)
    (tracked : TrackedConditionType newCondition.type) :
    ConditionsConsistent (setCondition stored newCondition).1 := by
  refine ⟨setCondition_types_nodup stored newCondition unique, ?_⟩
  rintro ⟨⟨available, availableMember, availableType, availableTrue⟩, progressing⟩
  rcases tracked with isAvailable | isProgressing | isUpdating
  · rcases progressing with ⟨other, member, typed, otherTrue⟩ | ⟨other, member, typed, otherTrue⟩
    · refine setCondition_demotes stored newCondition isTrue member ?_ otherTrue
      rw [exclusiveConditionTypes, typed, isAvailable]
      decide
    · refine setCondition_demotes stored newCondition isTrue member ?_ otherTrue
      rw [exclusiveConditionTypes, typed, isAvailable]
      decide
  · refine setCondition_demotes stored newCondition isTrue availableMember ?_ availableTrue
    rw [exclusiveConditionTypes, availableType, isProgressing]
    decide
  · refine setCondition_demotes stored newCondition isTrue availableMember ?_ availableTrue
    rw [exclusiveConditionTypes, availableType, isUpdating]
    decide

/-- `makeCondition` builds `True` conditions of the tracked types. -/
theorem makeCondition_tracked (conditionType : String) :
    (makeCondition conditionType).status = .conditionTrue ∧
      TrackedConditionType (makeCondition conditionType).type := by
  unfold makeCondition TrackedConditionType
  split
  · exact ⟨rfl, Or.inl rfl⟩
  · split
    · exact ⟨rfl, Or.inr (Or.inr rfl)⟩
    · exact ⟨rfl, Or.inr (Or.inl rfl)⟩

/-- **`setCondition` applies the condition it is given.** After setting a
`True` condition, a condition of its type is stored with status `True`: the
one stored already, replaced when its status differed, or the appended one. -/
theorem setCondition_sets (stored : List Condition) (newCondition : Condition)
    (isTrue : newCondition.status = .conditionTrue) :
    HoldsTrue (setCondition stored newCondition).1 newCondition.type := by
  rw [setCondition_eq]
  split
  · exact ⟨newCondition, List.mem_append_right _ (List.mem_singleton_self _), rfl, isTrue⟩
  · next kept =>
    have found : stored.any (fun curCondition => decide (newCondition.type = curCondition.type)) = true := by
      simpa [isTrue] using kept
    obtain ⟨curCondition, member, typed⟩ := List.any_eq_true.mp found
    have sameType : newCondition.type = curCondition.type := of_decide_eq_true typed
    refine ⟨settledCondition newCondition curCondition, List.mem_map_of_mem member, by simp [sameType], ?_⟩
    unfold settledCondition
    rw [if_pos sameType]
    split
    · exact isTrue
    · next sameStatus =>
      rw [← not_not.mp sameStatus]
      exact isTrue

/-- Settling changes no stored condition exactly when the scan leaves the
list as it is. -/
theorem map_settledCondition_eq_self_iff (stored : List Condition) (newCondition : Condition) :
    stored.map (settledCondition newCondition) = stored ↔
      ∀ curCondition ∈ stored, settledCondition newCondition curCondition = curCondition := by
  induction stored with
  | nil => simp
  | cons curCondition rest inductionHypothesis => simp [inductionHypothesis]

/-- **The flag of `setCondition` is exact.** It is true exactly when the
stored conditions changed. -/
theorem setCondition_flag_iff (stored : List Condition) (newCondition : Condition) :
    (setCondition stored newCondition).2 = true ↔ (setCondition stored newCondition).1 ≠ stored := by
  rw [setCondition_eq]
  split
  · simp only [true_iff]
    intro same
    have lengths := congrArg List.length same
    simp at lengths
  · simp only [ne_eq, map_settledCondition_eq_self_iff, List.any_eq_true, decide_eq_true_eq]
    constructor
    · rintro ⟨curCondition, member, changed⟩ unchanged
      exact changed (unchanged curCondition member)
    · intro changed
      push Not at changed
      exact changed

/-- **The flag of `setConditions` is exact.** The short-circuit stops at the
first condition that changes the list, and a later one is never applied, so
the flag is true exactly when the stored conditions changed. -/
theorem setConditions_flag_iff (stored newConditions : List Condition) :
    (setConditions stored newConditions).2 = true ↔ (setConditions stored newConditions).1 ≠ stored := by
  suffices folded : ∀ (pending : List Condition) (conditions : List Condition) (shouldUpdate : Bool),
      (shouldUpdate = true ↔ conditions ≠ stored) →
      let result := pending.foldl (fun (conditions, shouldUpdate) condition =>
        if shouldUpdate then (conditions, true) else setCondition conditions condition)
        (conditions, shouldUpdate)
      (result.2 = true ↔ result.1 ≠ stored) from
    folded newConditions stored false (by simp)
  intro pending
  induction pending with
  | nil => intro conditions shouldUpdate exact; exact exact
  | cons condition rest inductionHypothesis =>
    intro conditions shouldUpdate exact
    rw [List.foldl_cons]
    cases shouldUpdate with
    | true => exact inductionHypothesis conditions true exact
    | false =>
      have unchanged : conditions = stored := by
        by_contra changed
        exact absurd (exact.mpr changed) (by decide)
      subst unchanged
      exact inductionHypothesis _ _ (setCondition_flag_iff conditions condition)

/-- Every condition of a list built by `makeCondition` is `True` and tracked. -/
theorem makeCondition_all_tracked (conditionTypes : List String) :
    ∀ condition ∈ conditionTypes.map makeCondition,
      condition.status = .conditionTrue ∧ TrackedConditionType condition.type := by
  intro condition member
  obtain ⟨conditionType, _, made⟩ := List.mem_map.mp member
  rw [← made]
  exact makeCondition_tracked conditionType

/-! ## Runs of `setConditions` -/

/-- **`setConditions` keeps the invariant.** The fold keeps it whether or not
the short-circuit skips a condition: a skipped condition leaves the list as it
is, and an applied one is a `setCondition` call. -/
theorem setConditions_consistent (stored newConditions : List Condition)
    (consistent : ConditionsConsistent stored)
    (tracked : ∀ condition ∈ newConditions,
      condition.status = .conditionTrue ∧ TrackedConditionType condition.type) :
    ConditionsConsistent (setConditions stored newConditions).1 := by
  suffices folded : ∀ (pending : List Condition) (conditions : List Condition) (shouldUpdate : Bool),
      (∀ condition ∈ pending, condition.status = .conditionTrue ∧ TrackedConditionType condition.type) →
      ConditionsConsistent conditions →
      ConditionsConsistent (pending.foldl (fun (conditions, shouldUpdate) condition =>
        if shouldUpdate then (conditions, true) else setCondition conditions condition)
        (conditions, shouldUpdate)).1 from
    folded newConditions stored false tracked consistent
  intro pending
  induction pending with
  | nil => intro conditions _ _ consistent; exact consistent
  | cons condition rest inductionHypothesis =>
    intro conditions shouldUpdate tracked consistent
    obtain ⟨isTrue, trackedType⟩ := tracked condition List.mem_cons_self
    have restTracked := fun other member => tracked other (List.mem_cons_of_mem condition member)
    rw [List.foldl_cons]
    cases shouldUpdate with
    | true => exact inductionHypothesis conditions true restTracked consistent
    | false =>
      have stepped := setCondition_consistent conditions condition consistent.1 isTrue trackedType
      exact inductionHypothesis _ _ restTracked stepped

/-! ## Repeated runs settle -/

/-- Exclusiveness is symmetric. -/
theorem exclusiveConditionTypes_comm (condition1 condition2 : Condition) :
    exclusiveConditionTypes condition1 condition2 = exclusiveConditionTypes condition2 condition1 := by
  unfold exclusiveConditionTypes
  cases condition1.type == leaderWorkerSetAvailable <;> cases condition2.type == leaderWorkerSetAvailable <;>
    simp [Bool.or_comm, Bool.or_left_comm]

/-- A condition settled against itself stays. -/
theorem settledCondition_self (condition : Condition) : settledCondition condition condition = condition := by
  simp [settledCondition]

/-- A stored condition of another type that the new one does not demote
stays. -/
theorem settledCondition_of_ne {newCondition curCondition : Condition}
    (distinct : newCondition.type ≠ curCondition.type)
    (kept : ¬(exclusiveConditionTypes curCondition newCondition = true ∧
      newCondition.status = .conditionTrue ∧ curCondition.status = .conditionTrue)) :
    settledCondition newCondition curCondition = curCondition := by
  unfold settledCondition
  rw [if_neg distinct, if_neg kept]

/-- Settling twice settles once. A demoted condition is no longer `True`, and
another one was not demoted. -/
theorem settledCondition_settledCondition (newCondition curCondition : Condition) :
    settledCondition newCondition (settledCondition newCondition curCondition) =
      settledCondition newCondition curCondition := by
  by_cases sameType : newCondition.type = curCondition.type
  · -- a condition of the new type ends with the new status, and stays
    unfold settledCondition
    by_cases sameStatus : newCondition.status = curCondition.status
    · simp [sameType, sameStatus]
    · simp [sameType, sameStatus]
  · have settledType := settledCondition_type newCondition curCondition
    apply settledCondition_of_ne (settledType ▸ sameType)
    unfold settledCondition
    by_cases demoted : exclusiveConditionTypes curCondition newCondition = true ∧
        newCondition.status = .conditionTrue ∧ curCondition.status = .conditionTrue
    · rw [if_neg sameType, if_pos demoted]
      exact fun ⟨_, _, stillTrue⟩ => by cases stillTrue
    · rw [if_neg sameType, if_neg demoted]
      exact demoted

/-- A stored condition is found settled in the result. -/
theorem settledCondition_mem_setCondition {stored : List Condition} {curCondition : Condition}
    (member : curCondition ∈ stored) (newCondition : Condition) :
    settledCondition newCondition curCondition ∈ (setCondition stored newCondition).1 := by
  rw [setCondition_eq]
  split
  · exact List.mem_append_left _ (List.mem_map_of_mem member)
  · exact List.mem_map_of_mem member

/-- What `setCondition` leaves: settled stored conditions, and the new one. -/
theorem mem_setCondition {stored : List Condition} {newCondition condition : Condition}
    (member : condition ∈ (setCondition stored newCondition).1) :
    (∃ curCondition ∈ stored, condition = settledCondition newCondition curCondition) ∨
      condition = newCondition := by
  rw [setCondition_eq] at member
  split at member
  · rcases List.mem_append.mp member with settled | appended
    · obtain ⟨curCondition, stored, settled⟩ := List.mem_map.mp settled
      exact .inl ⟨curCondition, stored, settled.symm⟩
    · exact .inr (List.mem_singleton.mp appended)
  · obtain ⟨curCondition, stored, settled⟩ := List.mem_map.mp member
    exact .inl ⟨curCondition, stored, settled.symm⟩

/-- **When `setCondition` changes nothing.** For a `True` condition: its
type is stored, and every stored condition is settled already. -/
theorem setCondition_flag_false_iff (stored : List Condition) {newCondition : Condition}
    (isTrue : newCondition.status = .conditionTrue) :
    (setCondition stored newCondition).2 = false ↔
      (∃ curCondition ∈ stored, curCondition.type = newCondition.type) ∧
        ∀ curCondition ∈ stored, settledCondition newCondition curCondition = curCondition := by
  rw [setCondition_eq]
  by_cases found : stored.any (fun curCondition => decide (newCondition.type = curCondition.type)) = true
  · obtain ⟨curCondition, member, typed⟩ := List.any_eq_true.mp found
    have present : ∃ curCondition ∈ stored, curCondition.type = newCondition.type :=
      ⟨curCondition, member, (of_decide_eq_true typed).symm⟩
    simp [found, present]
  · have absent : ¬∃ curCondition ∈ stored, curCondition.type = newCondition.type := by
      rintro ⟨curCondition, member, typed⟩
      exact found (List.any_eq_true.mpr ⟨curCondition, member, by simp [typed]⟩)
    simp only [Bool.not_eq_true] at found
    simp [found, isTrue, absent]

/-- **Setting a condition again changes nothing.** -/
theorem setCondition_setCondition_flag (stored : List Condition) {newCondition : Condition}
    (isTrue : newCondition.status = .conditionTrue) :
    (setCondition (setCondition stored newCondition).1 newCondition).2 = false := by
  rw [setCondition_flag_false_iff _ isTrue]
  obtain ⟨condition, member, typed, -⟩ := setCondition_sets stored newCondition isTrue
  refine ⟨⟨condition, member, typed⟩, fun condition member => ?_⟩
  rcases mem_setCondition member with ⟨curCondition, -, settled⟩ | appended
  · rw [settled, settledCondition_settledCondition]
  · rw [appended, settledCondition_self]

/-- **Setting another condition keeps a settled one settled**, when the two
have distinct types and do not exclude each other. The other condition,
appended or in place of a stored one, is left alone. -/
theorem setCondition_flag_false_of_other {stored : List Condition} {settled other : Condition}
    (settledTrue : settled.status = .conditionTrue) (distinct : settled.type ≠ other.type)
    (compatible : exclusiveConditionTypes settled other = false)
    (unchanged : (setCondition stored settled).2 = false) :
    (setCondition (setCondition stored other).1 settled).2 = false := by
  rw [setCondition_flag_false_iff _ settledTrue] at unchanged ⊢
  obtain ⟨⟨curCondition, member, typed⟩, allSettled⟩ := unchanged
  refine ⟨⟨settledCondition other curCondition, settledCondition_mem_setCondition member other,
    by rw [settledCondition_type, typed]⟩, fun condition member => ?_⟩
  have otherCompatible : exclusiveConditionTypes other settled = false := by
    rw [exclusiveConditionTypes_comm, compatible]
  rcases mem_setCondition member with ⟨curCondition, stored, rfl⟩ | rfl
  · by_cases sameType : other.type = curCondition.type
    · -- the stored condition of the other type keeps that type, which `settled` does not exclude
      have typed : (settledCondition other curCondition).type = other.type := by
        rw [settledCondition_type, sameType]
      apply settledCondition_of_ne (typed ▸ distinct)
      rw [exclusiveConditionTypes_congr typed, otherCompatible]
      exact fun ⟨never, _⟩ => absurd never (by decide)
    · by_cases demoted : exclusiveConditionTypes curCondition other = true ∧
          other.status = .conditionTrue ∧ curCondition.status = .conditionTrue
      · -- a demoted condition is not of the settled type: that type is not excluded by the other
        have apart : settled.type ≠ curCondition.type := by
          intro same
          rw [← exclusiveConditionTypes_congr same, compatible] at demoted
          exact absurd demoted.1 (by decide)
        have inner : settledCondition other curCondition = { curCondition with status := .conditionFalse } := by
          simp only [settledCondition, if_neg sameType, if_pos demoted]
        rw [inner]
        exact settledCondition_of_ne apart fun ⟨_, _, stillTrue⟩ => by cases stillTrue
      · rw [settledCondition_of_ne sameType demoted]
        exact allSettled curCondition stored
  · exact settledCondition_of_ne distinct (by rw [otherCompatible]; exact fun ⟨never, _⟩ => absurd never (by decide))

/-- `setCondition` reports no change only when it made none. -/
theorem setCondition_of_flag_false {stored : List Condition} {newCondition : Condition}
    (unchanged : (setCondition stored newCondition).2 = false) :
    setCondition stored newCondition = (stored, false) := by
  have same : (setCondition stored newCondition).1 = stored := by
    by_contra changed
    have flagged := (setCondition_flag_iff stored newCondition).mpr changed
    rw [unchanged] at flagged
    cases flagged
  exact Prod.ext same unchanged

/-- `setConditions` reports no change only when it made none. -/
theorem setConditions_of_flag_false {stored newConditions : List Condition}
    (unchanged : (setConditions stored newConditions).2 = false) :
    setConditions stored newConditions = (stored, false) := by
  have same : (setConditions stored newConditions).1 = stored := by
    by_contra changed
    have flagged := (setConditions_flag_iff stored newConditions).mpr changed
    rw [unchanged] at flagged
    cases flagged
  exact Prod.ext same unchanged

theorem setConditions_singleton (stored : List Condition) (condition : Condition) :
    setConditions stored [condition] = setCondition stored condition := by
  unfold setConditions
  simp only [List.foldl_cons, List.foldl_nil, Bool.false_eq_true, if_false]

/-- Two conditions: the second is set only when the first changed nothing. -/
theorem setConditions_pair (stored : List Condition) (first second : Condition) :
    setConditions stored [first, second] =
      if (setCondition stored first).2 then ((setCondition stored first).1, true)
      else setCondition (setCondition stored first).1 second := by
  unfold setConditions
  simp only [List.foldl_cons, List.foldl_nil, Bool.false_eq_true, if_false]

section Pair

variable {first second : Condition} (firstTrue : first.status = .conditionTrue)
  (secondTrue : second.status = .conditionTrue) (distinct : first.type ≠ second.type)
  (compatible : exclusiveConditionTypes first second = false)
include firstTrue secondTrue distinct compatible

omit secondTrue in
/-- After any run of a compatible pair, the first condition is settled. When the
first changed nothing, the run set the second, which leaves the first alone. -/
theorem setConditions_pair_settles_first (stored : List Condition) :
    (setCondition (setConditions stored [first, second]).1 first).2 = false := by
  rw [setConditions_pair]
  cases changed : (setCondition stored first).2 with
  | true => exact setCondition_setCondition_flag stored firstTrue
  | false =>
    rw [if_neg (by decide), setCondition_of_flag_false changed]
    exact setCondition_flag_false_of_other firstTrue distinct compatible changed

/-- A run from a list that settles the first condition settles both. -/
theorem setConditions_pair_settles_both {stored : List Condition}
    (settledFirst : (setCondition stored first).2 = false) :
    (setCondition (setConditions stored [first, second]).1 first).2 = false ∧
      (setCondition (setConditions stored [first, second]).1 second).2 = false := by
  rw [setConditions_pair, settledFirst, if_neg (by decide), setCondition_of_flag_false settledFirst]
  exact ⟨setCondition_flag_false_of_other firstTrue distinct compatible settledFirst,
    setCondition_setCondition_flag stored secondTrue⟩

/-- **A compatible pair settles in two runs**: a third run changes nothing. -/
theorem setConditions_pair_third_run (stored : List Condition) :
    (setConditions (setConditions (setConditions stored [first, second]).1 [first, second]).1
      [first, second]).2 = false := by
  obtain ⟨settledFirst, settledSecond⟩ := setConditions_pair_settles_both firstTrue secondTrue distinct
    compatible (setConditions_pair_settles_first firstTrue distinct compatible stored)
  rw [setConditions_pair, settledFirst, if_neg (by decide), setCondition_of_flag_false settledFirst,
    settledSecond]

end Pair

/-- **Runs of `setConditions` settle.** Each list `updateConditions` builds,
set three times in a row, changes nothing the third time: one condition
settles in one run, and the pair `UpdateInProgress`, `Progressing`, whose
second condition the short-circuit skips when the first changed, in two. -/
theorem setConditions_third_run (stored newConditions : List Condition)
    (fromUpdateConditions :
      newConditions = [makeCondition leaderWorkerSetUpdateInProgress,
        makeCondition leaderWorkerSetProgressing] ∨
      newConditions = [makeCondition leaderWorkerSetAvailable] ∨
      newConditions = [makeCondition leaderWorkerSetProgressing]) :
    (setConditions (setConditions (setConditions stored newConditions).1 newConditions).1
      newConditions).2 = false := by
  rcases fromUpdateConditions with rfl | rfl | rfl
  · exact setConditions_pair_third_run (by decide) (by decide) (by decide) (by decide) stored
  · simp only [setConditions_singleton]
    rw [setCondition_of_flag_false (setCondition_setCondition_flag stored (by decide))]
    exact setCondition_setCondition_flag stored (by decide)
  · simp only [setConditions_singleton]
    rw [setCondition_of_flag_false (setCondition_setCondition_flag stored (by decide))]
    exact setCondition_setCondition_flag stored (by decide)

/-- **The status conditions stay consistent.** From a consistent stored list,
any sequence of the condition lists `updateConditions` builds, applied with
`setConditions`, keeps one condition per type and never leaves
`Available=True` beside `Progressing=True` or `UpdateInProgress=True`. -/
theorem updateConditions_keep_conditions_consistent (stored : List Condition)
    (outcomes : List (List Condition)) (consistent : ConditionsConsistent stored)
    (fromUpdateConditions : ∀ newConditions ∈ outcomes,
      newConditions = [makeCondition leaderWorkerSetUpdateInProgress,
        makeCondition leaderWorkerSetProgressing] ∨
      newConditions = [makeCondition leaderWorkerSetAvailable] ∨
      newConditions = [makeCondition leaderWorkerSetProgressing]) :
    ConditionsConsistent
      (outcomes.foldl (fun conditions newConditions => (setConditions conditions newConditions).1) stored) := by
  induction outcomes generalizing stored with
  | nil => exact consistent
  | cons newConditions rest inductionHypothesis =>
    have built : ∀ condition ∈ newConditions,
        condition.status = .conditionTrue ∧ TrackedConditionType condition.type := by
      rcases fromUpdateConditions newConditions List.mem_cons_self with listed | listed | listed
      · rw [listed]
        exact makeCondition_all_tracked [leaderWorkerSetUpdateInProgress, leaderWorkerSetProgressing]
      · rw [listed]
        exact makeCondition_all_tracked [leaderWorkerSetAvailable]
      · rw [listed]
        exact makeCondition_all_tracked [leaderWorkerSetProgressing]
    rw [List.foldl_cons]
    exact inductionHypothesis _ (setConditions_consistent stored newConditions consistent built)
      (fun other member => fromUpdateConditions other (List.mem_cons_of_mem newConditions member))

/-- A rollout observed from an empty status: update in progress, then
available, then progressing. -/
theorem updateConditions_keep_conditions_consistent_from_empty :
    ConditionsConsistent
      ([[makeCondition leaderWorkerSetUpdateInProgress, makeCondition leaderWorkerSetProgressing],
          [makeCondition leaderWorkerSetAvailable], [makeCondition leaderWorkerSetProgressing]].foldl
        (fun conditions newConditions => (setConditions conditions newConditions).1) []) :=
  updateConditions_keep_conditions_consistent [] _ (by decide) (by decide)

/-- On an empty status, the update-in-progress list sets `UpdateInProgress`;
the flag is then true, so `Progressing` is never set. -/
theorem setConditions_skips_progressing :
    setConditions [] [makeCondition leaderWorkerSetUpdateInProgress,
        makeCondition leaderWorkerSetProgressing] =
      ([makeCondition leaderWorkerSetUpdateInProgress], true) ∧
    ¬HoldsTrue [makeCondition leaderWorkerSetUpdateInProgress] leaderWorkerSetProgressing := by
  decide

end Lws
