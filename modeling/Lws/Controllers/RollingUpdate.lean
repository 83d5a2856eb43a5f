import Lws.Api.LeaderWorkerSet
import Lws.Go.Runtime
import Lws.Library.SliceLoop

/-!
# The rolling update parameters of the leader StatefulSet

`rollingUpdateParameters` decides, on every reconcile, the partition and the
replica count the controller applies to the leader StatefulSet. During a
rollout, groups at or above the partition are recreated from the new template
and groups at or above the replica count are deleted. It distinguishes five
cases; the fifth computes the partition from the groups' states with
`rollingUpdatePartition`.

`rollingUpdatePartition` counts the ready-and-updated groups at the tail,
places a first partition `rollingStep` groups below them, shifts it up by the
not-ready groups it skipped, lowers it again over groups that are not ready or
already updated, and never moves it above the current one. Its two loops read
`states[idx]` and panic outside the slice.

The replica states are those `getReplicaStates` observes, one per leader
StatefulSet replica; the controller passes their list, or the error of the
API reads behind them. `intstr.GetScaledValueFromIntOrPercent` is a parameter.
All `int32` arithmetic wraps as Go's does; `int` arithmetic is 64-bit.
-/

namespace Lws

/-- `replicaState`: whether a group's leader pod and worker StatefulSet are
ready, and whether both carry the current revision. -/
structure ReplicaState where
  ready : Bool
  updated : Bool
deriving DecidableEq, Repr

/-- `utils.NonZeroValue`. -/
def nonZeroValue (value : Int) : Int := if value < 0 then 0 else value

/-- `calculateContinuousReadyReplicas`: the ready and updated groups counted
from the last index down, up to the first other one, in an `int32` counter. -/
def calculateContinuousReadyReplicas (states : List ReplicaState) : Int :=
  int32 (states.reverse.takeWhile fun state => state.ready && state.updated).length

/-- `calculateLWSUnreadyReplicas`: the indices below `lwsReplicas` whose group
is missing, not ready or not updated. The missing test comes first, so no
read is out of range. -/
def calculateLWSUnreadyReplicas (states : List ReplicaState) (lwsReplicas : Int) : Int :=
  (List.range lwsReplicas.toNat).countP fun idx =>
    match states[idx]? with
    | some state => !state.ready || !state.updated
    | none => true

/-- The first loop of `rollingUpdatePartition`: for every `idx` from zero up
to `rolliingStepPartition`, read `states[idx]` and count it when not ready. -/
def countUnavailable (states : List ReplicaState) (rolliingStepPartition : Int) : Option Int :=
  (List.range rolliingStepPartition.toNat).foldlM (fun unavailable (idx : Nat) => do
    let state ← index? states idx
    pure (if !state.ready then unavailable + 1 else unavailable)) 0

/-- The second loop of `rollingUpdatePartition`, from `idx` down while
`idx ≥ rolliingStepPartition`: move the partition to `idx` while that group is
not ready or already updated, and stop at the first ready outdated group.
`steps` bounds the iterations left. -/
def reducePartition (states : List ReplicaState) (rolliingStepPartition : Int) :
    Nat → Int → Int → Option Int
  | 0, _, partition => some partition
  | steps + 1, idx, partition =>
    if idx < rolliingStepPartition then some partition else do
      let state ← index? states idx
      if !state.ready || state.updated then
        reducePartition states rolliingStepPartition steps (idx - 1) idx
      else some partition

/-- The first partition `rollingUpdatePartition` places: `rollingStep` groups
below the ready and updated tail, and not below zero. -/
def rolliingStepPartition (states : List ReplicaState) (stsReplicas rollingStep : Int) : Int :=
  nonZeroValue (int32 (int32 (stsReplicas - calculateContinuousReadyReplicas states) - rollingStep))

/-- `rollingUpdatePartition`; `none` is an index-out-of-range panic. -/
def rollingUpdatePartition (states : List ReplicaState) (stsReplicas rollingStep currentPartition : Int) :
    Option Int := do
  let rolliingStepPartition := rolliingStepPartition states stsReplicas rollingStep
  let unavailable ← countUnavailable states rolliingStepPartition
  let partition := int32 (rolliingStepPartition + unavailable)
  let start := min partition (int32 (stsReplicas - 1))
  let partition ← reducePartition states rolliingStepPartition
    (start - rolliingStepPartition + 1).toNat start partition
  pure (min partition currentPartition)

/-- The rolling update configuration a reconcile dereferences; a nil pointer
panics. -/
def rollingUpdateConfiguration (lws : LeaderWorkerSet) : Except Failure RollingUpdateConfiguration :=
  liftPanic lws.spec.rolloutStrategy.rollingUpdateConfiguration

/-- The `wantReplicas` closure of `rollingUpdateParameters`: when no more
groups are unready than surge groups exist, surge groups are released one by
one as unready groups recover; otherwise all surge groups are kept. -/
def wantReplicas (lwsReplicas maxSurge burstReplicas unreadyReplicas : Int) : Int :=
  if unreadyReplicas ≤ int32 maxSurge then
    int32 (lwsReplicas + nonZeroValue (int32 (unreadyReplicas - 1)))
  else burstReplicas

/-- `rollingUpdateParameters`: the partition and replicas to apply to the
leader StatefulSet, `sts` being `none` when it does not exist yet. -/
def rollingUpdateParameters (scaledValue : ScaledValue) (lws : LeaderWorkerSet)
    (sts : Option StatefulSet) (replicaStates : Except String (List ReplicaState))
    (leaderWorkerSetUpdated : Bool) : Except Failure (Int × Int) :=
  let lwsReplicas := lws.spec.replicas
  match sts with
  | none => pure (0, lwsReplicas)
  | some sts => do
    let stsReplicas := sts.replicas
    let configuration ← rollingUpdateConfiguration lws
    let maxSurge ← liftError (scaledValue configuration.maxSurge lwsReplicas true)
    let maxSurge := if maxSurge > lwsReplicas then lwsReplicas else maxSurge
    let burstReplicas := int32 (lwsReplicas + int32 maxSurge)
    if leaderWorkerSetUpdated then
      return (min lwsReplicas stsReplicas, wantReplicas lwsReplicas maxSurge burstReplicas lwsReplicas)
    let partition := sts.partition
    if partition = 0 ∧ stsReplicas = lwsReplicas then
      return (0, lwsReplicas)
    let states ← liftError replicaStates
    let lwsUnreadyReplicas := calculateLWSUnreadyReplicas states lwsReplicas
    let originalLwsReplicas ← liftError (Strconv.atoi (sts.annotations.get replicasAnnotationKey))
    if originalLwsReplicas ≠ lwsReplicas then
      return (min partition burstReplicas,
        wantReplicas lwsReplicas maxSurge burstReplicas lwsUnreadyReplicas)
    let rollingStep ← liftError (scaledValue configuration.maxUnavailable lwsReplicas false)
    let rollingStep := int64 (rollingStep + int64 (maxSurge - int64 (burstReplicas - stsReplicas)))
    let partition ← liftPanic (rollingUpdatePartition states stsReplicas (int32 rollingStep) partition)
    return (partition, wantReplicas lwsReplicas maxSurge burstReplicas lwsUnreadyReplicas)

/-! ## What each step computes -/

/-- The groups that stay available once the leader StatefulSet applies
`partition` and `replicas`: those below the replica count that are ready and
either updated already or below the partition, which the rollout leaves
alone. -/
def availableAfter (states : List ReplicaState) (partition replicas : Int) : Nat :=
  states.zipIdx.countP fun (state, idx) =>
    decide ((idx : Int) < replicas) && state.ready && (state.updated || decide ((idx : Int) < partition))

/-- The highest index whose group is not both ready and updated, or `-1`
when every group is: the group a rollout must still reach. -/
def highestOutdatedIndex (states : List ReplicaState) : Int :=
  SliceLoop.lastIndexWhere (fun state => !(state.ready && state.updated)) states

/-- The not-ready groups below `bound`: what the first loop of
`rollingUpdatePartition` counts. -/
def notReadyBelow (states : List ReplicaState) (bound : Int) : Int :=
  (states.take bound.toNat).countP fun state => !state.ready

/-- The loop counts no more than all not-ready groups. -/
theorem notReadyBelow_le (states : List ReplicaState) (bound : Int) :
    notReadyBelow states bound ≤ states.countP fun state => !state.ready := by
  unfold notReadyBelow
  exact Int.ofNat_le.mpr ((List.take_sublist _ states).countP_le)

/-- Below a bound of zero or less there is nothing to count. -/
theorem notReadyBelow_of_nonpos (states : List ReplicaState) {bound : Int} (nonpositive : bound ≤ 0) :
    notReadyBelow states bound = 0 := by
  simp [notReadyBelow, Int.toNat_eq_zero.mpr nonpositive]

theorem nonZeroValue_eq_max (value : Int) : nonZeroValue value = max 0 value := by
  unfold nonZeroValue
  split <;> omega

/-- The highest outdated index lies in `[-1, n)`. -/
theorem highestOutdatedIndex_bounds (states : List ReplicaState) :
    -1 ≤ highestOutdatedIndex states ∧ highestOutdatedIndex states < states.length :=
  SliceLoop.lastIndexWhere_bounds _ states

/-- The ready and updated tail ends just after the highest outdated group. -/
theorem calculateContinuousReadyReplicas_eq (states : List ReplicaState)
    (replicasFit : states.length ≤ 2147483647) :
    calculateContinuousReadyReplicas states = states.length - 1 - highestOutdatedIndex states := by
  have backward := SliceLoop.length_takeWhile_reverse (fun state => state.ready && state.updated) states
  obtain ⟨lowest, highest⟩ := highestOutdatedIndex_bounds states
  unfold highestOutdatedIndex at lowest highest ⊢
  unfold calculateContinuousReadyReplicas
  rw [int32_of_range ⟨by omega, by omega⟩]
  exact backward

/-- With every group ready and updated there is no outdated index. -/
theorem highestOutdatedIndex_of_all_updated (states : List ReplicaState)
    (allUpdated : ∀ state ∈ states, state.ready ∧ state.updated) : highestOutdatedIndex states = -1 :=
  SliceLoop.lastIndexWhere_of_forall _ states (fun state member => by simp [allUpdated state member])

/-- The first partition is never negative. -/
theorem rolliingStepPartition_nonneg (states : List ReplicaState) (stsReplicas rollingStep : Int) :
    0 ≤ rolliingStepPartition states stsReplicas rollingStep := by
  rw [rolliingStepPartition, nonZeroValue_eq_max]
  exact le_max_left _ _

/-- Without wrapping, the first partition sits `rollingStep` below the highest
outdated group's successor. -/
theorem rolliingStepPartition_eq (states : List ReplicaState) (rollingStep : Int)
    (replicasFit : states.length ≤ 2147483647) (stepNonnegative : 0 ≤ rollingStep)
    (stepFits : rollingStep ≤ 2147483647) :
    rolliingStepPartition states states.length rollingStep =
      max 0 (highestOutdatedIndex states + 1 - rollingStep) := by
  obtain ⟨lowest, highest⟩ := highestOutdatedIndex_bounds states
  have tail : (states.length : Int) - calculateContinuousReadyReplicas states =
      highestOutdatedIndex states + 1 := by
    rw [calculateContinuousReadyReplicas_eq states replicasFit]
    omega
  have tailFits : int32 (highestOutdatedIndex states + 1) = highestOutdatedIndex states + 1 :=
    int32_of_range ⟨by omega, by omega⟩
  have stepped : int32 (highestOutdatedIndex states + 1 - rollingStep) =
      highestOutdatedIndex states + 1 - rollingStep :=
    int32_of_range ⟨by omega, by omega⟩
  rw [rolliingStepPartition, nonZeroValue_eq_max, tail, tailFits, stepped]

/-- The first loop counts the not-ready groups below the first partition, or
panics when that partition lies past the slice. -/
theorem countUnavailable_eq (states : List ReplicaState) (stepPartition : Int) :
    countUnavailable states stepPartition =
      if stepPartition.toNat ≤ states.length then some (notReadyBelow states stepPartition)
      else none := by
  have loop := SliceLoop.foldlM_range_getElem?
    (fun (unavailable : Int) (state : ReplicaState) => if !state.ready then unavailable + 1 else unavailable)
    states stepPartition.toNat 0
  unfold countUnavailable notReadyBelow
  simp only [index?_natCast]
  rw [loop, SliceLoop.foldl_count_eq_countP, Int.zero_add]

/-- The second loop returns the partition it started with or a group index
at or above the first partition, and never more than both its starting
partition and index; it reads only indices in `[stepPartition, idx]`, so it
cannot panic when these lie in the slice. -/
theorem reducePartition_spec (states : List ReplicaState) {stepPartition : Int}
    (nonnegative : 0 ≤ stepPartition) (steps : Nat) :
    ∀ (idx partition : Int), idx < states.length →
      ∃ reduced, reducePartition states stepPartition steps idx partition = some reduced ∧
        reduced ≤ max partition idx ∧ (reduced = partition ∨ stepPartition ≤ reduced) := by
  induction steps with
  | zero =>
    intro idx partition _
    exact ⟨partition, rfl, le_max_left _ _, Or.inl rfl⟩
  | succ steps inductionHypothesis =>
    intro idx partition inside
    by_cases below : idx < stepPartition
    · exact ⟨partition, by simp [reducePartition, below], le_max_left _ _, Or.inl rfl⟩
    · obtain ⟨state, read⟩ := exists_index?_of_lt states (by omega) inside
      by_cases moves : (!state.ready || state.updated) = true
      · obtain ⟨reduced, result, atMost, kept⟩ := inductionHypothesis (idx - 1) idx (by omega)
        refine ⟨reduced, ?_, by omega, by omega⟩
        rw [reducePartition, if_neg below, read]
        exact (if_pos moves).trans result
      · refine ⟨partition, ?_, le_max_left _ _, Or.inl rfl⟩
        rw [reducePartition, if_neg below, read]
        exact if_neg moves

/-- **What `rollingUpdatePartition` returns.** When the first partition lies
within the slice and adding the skipped not-ready groups does not wrap, the
result is the current partition or the reduced partition, whichever is
lower, and the reduced partition lies between the first partition and the
first partition shifted by the skipped not-ready groups. -/
theorem rollingUpdatePartition_spec (states : List ReplicaState) (rollingStep currentPartition : Int)
    (replicasFit : states.length ≤ 2147483647)
    (within : (rolliingStepPartition states states.length rollingStep).toNat ≤ states.length)
    (noWrap : rolliingStepPartition states states.length rollingStep +
      notReadyBelow states (rolliingStepPartition states states.length rollingStep) ≤ 2147483647) :
    ∃ reduced, rollingUpdatePartition states states.length rollingStep currentPartition =
        some (min reduced currentPartition) ∧
      rolliingStepPartition states states.length rollingStep ≤ reduced ∧
      reduced ≤ rolliingStepPartition states states.length rollingStep +
        notReadyBelow states (rolliingStepPartition states states.length rollingStep) := by
  have nonnegative := rolliingStepPartition_nonneg states states.length rollingStep
  have skipped : 0 ≤ notReadyBelow states (rolliingStepPartition states states.length rollingStep) := by
    unfold notReadyBelow
    omega
  have counted := countUnavailable_eq states (rolliingStepPartition states states.length rollingStep)
  rw [if_pos within] at counted
  have shifted : int32 (rolliingStepPartition states states.length rollingStep +
      notReadyBelow states (rolliingStepPartition states states.length rollingStep)) =
      rolliingStepPartition states states.length rollingStep +
        notReadyBelow states (rolliingStepPartition states states.length rollingStep) :=
    int32_of_range ⟨by omega, by omega⟩
  have lastIndex : int32 ((states.length : Int) - 1) = states.length - 1 :=
    int32_of_range ⟨by omega, by omega⟩
  obtain ⟨reduced, reduction, atMost, kept⟩ := reducePartition_spec states nonnegative
    ((min (rolliingStepPartition states states.length rollingStep +
        notReadyBelow states (rolliingStepPartition states states.length rollingStep))
      (states.length - 1) - rolliingStepPartition states states.length rollingStep + 1).toNat)
    (min (rolliingStepPartition states states.length rollingStep +
        notReadyBelow states (rolliingStepPartition states states.length rollingStep))
      (states.length - 1))
    (rolliingStepPartition states states.length rollingStep +
      notReadyBelow states (rolliingStepPartition states states.length rollingStep)) (by omega)
  refine ⟨reduced, ?_, by omega, by omega⟩
  simp [rollingUpdatePartition, counted, shifted, lastIndex, reduction]

/-- A first partition past the slice makes the first loop read past the end. -/
theorem rollingUpdatePartition_of_length_lt (states : List ReplicaState)
    (stsReplicas rollingStep currentPartition : Int)
    (outside : states.length < (rolliingStepPartition states stsReplicas rollingStep).toNat) :
    rollingUpdatePartition states stsReplicas rollingStep currentPartition = none := by
  have counted := countUnavailable_eq states (rolliingStepPartition states stsReplicas rollingStep)
  rw [if_neg (by omega)] at counted
  simp [rollingUpdatePartition, counted]

/-- A LeaderWorkerSet named `lws` with the given replica count and rolling
update configuration, a leaderless template of two pods and no network
configuration: the rolling update parameters read only the first two. -/
def rollingLeaderWorkerSet (replicas : Int) (configuration : RollingUpdateConfiguration) :
    LeaderWorkerSet where
  name := "lws"
  namespaceName := "default"
  annotations := ∅
  spec :=
    { replicas := replicas
      leaderWorkerTemplate :=
        { leaderTemplate := none
          workerTemplate := ⟨∅, ∅, ⟨"", none, [], []⟩⟩
          size := 2
          restartPolicy := .recreateGroupOnPodRestart
          subGroupPolicy := none }
      rolloutStrategy := ⟨some configuration⟩
      networkConfig := none }
  status := ⟨[]⟩

/-- After the leader StatefulSet of a four-group rollout is scaled down to one
group out of band, the rolling step `1 + 0 - (4 - 1)` is negative, the first
partition is 3, and the first loop reads `states[1]` of a one-element slice. -/
theorem rollingUpdateParameters_reads_past_scaled_down_states :
    rolliingStepPartition [⟨false, false⟩] 1 (int32 (1 + 1 - 4)) = 3 ∧
      rollingUpdateParameters getScaledValueFromIntOrPercent (rollingLeaderWorkerSet 4 ⟨.int 1, .int 0⟩)
        (some ⟨"lws", ∅, StringMap.ofList [(replicasAnnotationKey, "4")], 1, 3⟩)
        (.ok [⟨false, false⟩]) false = .error .panic := by
  decide

/-- With every group up to `lwsReplicas` ready and updated, no replica is
unready. -/
theorem calculateLWSUnreadyReplicas_of_all_updated (states : List ReplicaState) (lwsReplicas : Int)
    (covered : lwsReplicas ≤ states.length) (allUpdated : ∀ state ∈ states, state.ready ∧ state.updated) :
    calculateLWSUnreadyReplicas states lwsReplicas = 0 := by
  unfold calculateLWSUnreadyReplicas
  rw [Int.natCast_eq_zero, List.countP_eq_zero]
  intro idx member
  have inside : idx < states.length := by
    rw [List.mem_range] at member
    omega
  obtain ⟨ready, updated⟩ := allUpdated _ (List.getElem_mem inside)
  simp [List.getElem?_eq_getElem inside, ready, updated]

/-- The rolling step of case five, after its 64-bit sum and its conversion to
`int32`, is `maxUnavailable + stsReplicas - lwsReplicas` modulo `2^32`: the
surge the burst adds is the surge the step takes back. -/
theorem caseFiveRollingStep (lwsReplicas stsReplicas maxSurge maxUnavailable : Int) :
    int32 (int64 (maxUnavailable +
        int64 (maxSurge - int64 (int32 (lwsReplicas + int32 maxSurge) - stsReplicas)))) =
      int32 (maxUnavailable + stsReplicas - lwsReplicas) := by
  rw [int32_int64, int32_add_int64, ← add_sub_assoc, int32_sub_int64,
    show maxUnavailable + maxSurge - (int32 (lwsReplicas + int32 maxSurge) - stsReplicas) =
      maxUnavailable + maxSurge + stsReplicas - int32 (lwsReplicas + int32 maxSurge) by ring,
    int32_sub_int32, show maxUnavailable + maxSurge + stsReplicas - (lwsReplicas + int32 maxSurge) =
      maxUnavailable + maxSurge + stsReplicas - lwsReplicas - int32 maxSurge by ring, int32_sub_int32]
  congr 1
  ring

/-- A finished rollout, partition zero at the wanted size, is applied as it is. -/
theorem rollingUpdateParameters_completed (scaledValue : ScaledValue) (lws : LeaderWorkerSet)
    (sts : StatefulSet) (replicaStates : Except String (List ReplicaState))
    (configuration : RollingUpdateConfiguration) (maxSurge : Int)
    (configured : lws.spec.rolloutStrategy.rollingUpdateConfiguration = some configuration)
    (surgeScaled : scaledValue configuration.maxSurge lws.spec.replicas true = .ok maxSurge)
    (completed : sts.partition = 0 ∧ sts.replicas = lws.spec.replicas) :
    rollingUpdateParameters scaledValue lws (some sts) replicaStates false = .ok (0, lws.spec.replicas) := by
  simp only [rollingUpdateParameters, rollingUpdateConfiguration, configured, liftPanic_some, ok_bind,
    surgeScaled, liftError_ok, Bool.false_eq_true, if_false, if_pos completed]
  rfl

/-- **Case five.** During a rollout at an unchanged replica count, the
partition is `rollingUpdatePartition`'s with the rolling step
`maxUnavailable + stsReplicas - lwsReplicas` in `int32`, and the replicas are
`wantReplicas` of the unready groups, with the surge capped at the replica
count. -/
theorem rollingUpdateParameters_caseFive (scaledValue : ScaledValue) (lws : LeaderWorkerSet)
    (sts : StatefulSet) (states : List ReplicaState) (configuration : RollingUpdateConfiguration)
    (maxSurge maxUnavailable : Int)
    (configured : lws.spec.rolloutStrategy.rollingUpdateConfiguration = some configuration)
    (surgeScaled : scaledValue configuration.maxSurge lws.spec.replicas true = .ok maxSurge)
    (unavailableScaled :
      scaledValue configuration.maxUnavailable lws.spec.replicas false = .ok maxUnavailable)
    (inProgress : ¬(sts.partition = 0 ∧ sts.replicas = lws.spec.replicas))
    (annotated : Strconv.atoi (sts.annotations.get replicasAnnotationKey) = .ok lws.spec.replicas) :
    rollingUpdateParameters scaledValue lws (some sts) (.ok states) false =
      (fun partition => (partition, wantReplicas lws.spec.replicas (min maxSurge lws.spec.replicas)
          (int32 (lws.spec.replicas + int32 (min maxSurge lws.spec.replicas)))
          (calculateLWSUnreadyReplicas states lws.spec.replicas))) <$>
        liftPanic (rollingUpdatePartition states sts.replicas
          (int32 (maxUnavailable + sts.replicas - lws.spec.replicas)) sts.partition) := by
  have capped : (if maxSurge > lws.spec.replicas then lws.spec.replicas else maxSurge) =
      min maxSurge lws.spec.replicas := by
    split <;> omega
  simp only [rollingUpdateParameters, rollingUpdateConfiguration, configured, liftPanic_some, ok_bind,
    surgeScaled, liftError_ok, Bool.false_eq_true, if_false, if_neg inProgress, annotated,
    unavailableScaled, ne_eq, not_true_eq_false, capped, caseFiveRollingStep, bind_pure_comp]

/-! ## Progress of a rollout -/

/-- **Progress.** When fewer groups are not ready than the rolling step
allows, the partition comes down at least to the highest group that is not
both ready and updated, so that group is recreated from the new template.
Proof: the ready and updated tail places the first partition `rollingStep`
below that group's successor; the skipped not-ready groups, fewer than
`rollingStep`, cannot lift it past the group; the reduction loop only lowers
it. -/
theorem rollingUpdatePartition_le_highestOutdated (states : List ReplicaState)
    (rollingStep currentPartition : Int) (replicasFit : states.length ≤ 2147483647)
    (stepPositive : 1 ≤ rollingStep) (stepFits : rollingStep ≤ 2147483647)
    (fewNotReady : (states.countP fun state => !state.ready) < rollingStep) :
    ∃ partition, rollingUpdatePartition states states.length rollingStep currentPartition = some partition ∧
      partition ≤ max 0 (highestOutdatedIndex states) := by
  obtain ⟨lowest, highest⟩ := highestOutdatedIndex_bounds states
  have first := rolliingStepPartition_eq states rollingStep replicasFit (by omega) stepFits
  have skipped := notReadyBelow_le states (rolliingStepPartition states states.length rollingStep)
  have shiftedBound : rolliingStepPartition states states.length rollingStep +
      notReadyBelow states (rolliingStepPartition states states.length rollingStep) ≤
        max 0 (highestOutdatedIndex states) := by
    by_cases placed : 0 < highestOutdatedIndex states + 1 - rollingStep
    · omega
    · have atZero : rolliingStepPartition states states.length rollingStep = 0 := by omega
      rw [atZero, notReadyBelow_of_nonpos states le_rfl]
      omega
  have counted : 0 ≤ notReadyBelow states (rolliingStepPartition states states.length rollingStep) := by
    unfold notReadyBelow
    omega
  obtain ⟨reduced, result, -, atMost⟩ :=
    rollingUpdatePartition_spec states rollingStep currentPartition replicasFit (by omega) (by omega)
  exact ⟨min reduced currentPartition, result, by omega⟩

/-- **Rest.** Once every group is ready and updated, a nonnegative rolling
step brings the partition to zero. -/
theorem rollingUpdatePartition_of_all_updated (states : List ReplicaState)
    (rollingStep currentPartition : Int) (replicasFit : states.length ≤ 2147483647)
    (stepNonnegative : 0 ≤ rollingStep) (stepFits : rollingStep ≤ 2147483647)
    (partitionNonnegative : 0 ≤ currentPartition)
    (allUpdated : ∀ state ∈ states, state.ready ∧ state.updated) :
    rollingUpdatePartition states states.length rollingStep currentPartition = some 0 := by
  have first := rolliingStepPartition_eq states rollingStep replicasFit stepNonnegative stepFits
  rw [highestOutdatedIndex_of_all_updated states allUpdated] at first
  have atZero : rolliingStepPartition states states.length rollingStep = 0 := by
    rw [first]
    omega
  have nothingSkipped := notReadyBelow_of_nonpos states (le_of_eq atZero)
  obtain ⟨reduced, result, atLeast, atMost⟩ :=
    rollingUpdatePartition_spec states rollingStep currentPartition replicasFit (by omega) (by omega)
  rw [result, show reduced = 0 by omega]
  simp [partitionNonnegative]

/-- **A finished rollout comes to rest.** When every group is ready and
updated and the configuration is one the webhook admits, case five returns
partition zero and the replica count: the surge groups are released. -/
theorem rollingUpdateParameters_of_all_updated (scaledValue : ScaledValue) (lws : LeaderWorkerSet)
    (sts : StatefulSet) (states : List ReplicaState) (configuration : RollingUpdateConfiguration)
    (maxSurge maxUnavailable : Int)
    (configured : lws.spec.rolloutStrategy.rollingUpdateConfiguration = some configuration)
    (surgeScaled : scaledValue configuration.maxSurge lws.spec.replicas true = .ok maxSurge)
    (unavailableScaled :
      scaledValue configuration.maxUnavailable lws.spec.replicas false = .ok maxUnavailable)
    (surgeNonnegative : 0 ≤ maxSurge) (unavailableNonnegative : 0 ≤ maxUnavailable)
    (replicasNonnegative : 0 ≤ lws.spec.replicas) (surged : lws.spec.replicas ≤ sts.replicas)
    (replicasFit : sts.replicas ≤ 2147483647)
    (stepFits : maxUnavailable + sts.replicas - lws.spec.replicas ≤ 2147483647)
    (partitionNonnegative : 0 ≤ sts.partition)
    (annotated : Strconv.atoi (sts.annotations.get replicasAnnotationKey) = .ok lws.spec.replicas)
    (observed : states.length = sts.replicas)
    (allUpdated : ∀ state ∈ states, state.ready ∧ state.updated) :
    rollingUpdateParameters scaledValue lws (some sts) (.ok states) false =
      .ok (0, lws.spec.replicas) := by
  by_cases completed : sts.partition = 0 ∧ sts.replicas = lws.spec.replicas
  · exact rollingUpdateParameters_completed scaledValue lws sts (.ok states) configuration maxSurge
      configured surgeScaled completed
  have stepExact : int32 (maxUnavailable + sts.replicas - lws.spec.replicas) =
      maxUnavailable + sts.replicas - lws.spec.replicas :=
    int32_of_range ⟨by omega, by omega⟩
  have partitionZero : rollingUpdatePartition states sts.replicas
      (maxUnavailable + sts.replicas - lws.spec.replicas) sts.partition = some 0 := by
    rw [← observed]
    exact rollingUpdatePartition_of_all_updated states _ _ (by omega) (by omega) (by omega)
      partitionNonnegative allUpdated
  have noneUnready : calculateLWSUnreadyReplicas states lws.spec.replicas = 0 :=
    calculateLWSUnreadyReplicas_of_all_updated states lws.spec.replicas (by omega) allUpdated
  have surgeExact : int32 (min maxSurge lws.spec.replicas) = min maxSurge lws.spec.replicas :=
    int32_of_range ⟨by omega, by omega⟩
  have released : wantReplicas lws.spec.replicas (min maxSurge lws.spec.replicas)
      (int32 (lws.spec.replicas + int32 (min maxSurge lws.spec.replicas))) 0 = lws.spec.replicas := by
    have noSurgeLeft : nonZeroValue (int32 (0 - 1)) = 0 := by decide
    have replicasExact : int32 lws.spec.replicas = lws.spec.replicas :=
      int32_of_range ⟨by omega, by omega⟩
    rw [wantReplicas, surgeExact, if_pos (by omega), noSurgeLeft, Int.add_zero, replicasExact]
  rw [rollingUpdateParameters_caseFive scaledValue lws sts states configuration maxSurge maxUnavailable
    configured surgeScaled unavailableScaled completed annotated, stepExact, partitionZero, noneUnready,
    released]
  rfl

/-- Of five groups at the start of a rollout with `maxUnavailable` 2, groups 0
and 3 are down. The first partition is 3, one skipped group is not ready, and
the partition moves to 4: group 4, ready but outdated, is recreated. Two groups
stay available where three are required and three are up. -/
theorem rollingUpdateParameters_exceeds_maxUnavailable :
    rollingUpdateParameters getScaledValueFromIntOrPercent (rollingLeaderWorkerSet 5 ⟨.int 2, .int 0⟩)
        (some ⟨"lws", ∅, StringMap.ofList [(replicasAnnotationKey, "5")], 5, 5⟩)
        (.ok [⟨false, false⟩, ⟨true, false⟩, ⟨true, false⟩, ⟨false, false⟩, ⟨true, false⟩]) false =
      .ok (4, 5) ∧
    availableAfter [⟨false, false⟩, ⟨true, false⟩, ⟨true, false⟩, ⟨false, false⟩, ⟨true, false⟩] 4 5 = 2 ∧
    min (5 - 2)
      (([⟨false, false⟩, ⟨true, false⟩, ⟨true, false⟩, ⟨false, false⟩, ⟨true, false⟩] :
        List ReplicaState).countP (·.ready) : Int) = 3 := by
  decide

/-- **Progress and rest of a rollout.** While fewer groups are not ready than
the rolling step, the partition comes down to the highest outdated group; and
once every group is ready and updated, an admitted configuration whose rolling
step fits `int32` brings the partition to zero and releases every surge
group. -/
theorem rollingUpdate_progress_and_rest :
    (∀ (states : List ReplicaState) (rollingStep currentPartition : Int),
      states.length ≤ 2147483647 → 1 ≤ rollingStep → rollingStep ≤ 2147483647 →
      (states.countP fun state => !state.ready) < rollingStep →
      ∃ partition, rollingUpdatePartition states states.length rollingStep currentPartition =
          some partition ∧ partition ≤ max 0 (highestOutdatedIndex states)) ∧
    (∀ (scaledValue : ScaledValue) (lws : LeaderWorkerSet) (sts : StatefulSet)
      (states : List ReplicaState) (configuration : RollingUpdateConfiguration)
      (maxSurge maxUnavailable : Int),
      lws.spec.rolloutStrategy.rollingUpdateConfiguration = some configuration →
      scaledValue configuration.maxSurge lws.spec.replicas true = .ok maxSurge →
      scaledValue configuration.maxUnavailable lws.spec.replicas false = .ok maxUnavailable →
      0 ≤ maxSurge → 0 ≤ maxUnavailable → 0 ≤ lws.spec.replicas →
      lws.spec.replicas ≤ sts.replicas → sts.replicas ≤ 2147483647 →
      maxUnavailable + sts.replicas - lws.spec.replicas ≤ 2147483647 → 0 ≤ sts.partition →
      Strconv.atoi (sts.annotations.get replicasAnnotationKey) = .ok lws.spec.replicas →
      states.length = sts.replicas → (∀ state ∈ states, state.ready ∧ state.updated) →
      rollingUpdateParameters scaledValue lws (some sts) (.ok states) false =
        .ok (0, lws.spec.replicas)) :=
  ⟨rollingUpdatePartition_le_highestOutdated, rollingUpdateParameters_of_all_updated⟩

/-- Three groups, one of them not ready, under a rolling step of 2; and a
surged rollout of two groups on three replicas that has finished. -/
theorem rollingUpdate_progress_and_rest_on_small_rollouts :
    (∃ partition, rollingUpdatePartition [⟨true, false⟩, ⟨false, false⟩, ⟨true, true⟩] 3 2 3 =
        some partition ∧
      partition ≤ max 0 (highestOutdatedIndex [⟨true, false⟩, ⟨false, false⟩, ⟨true, true⟩])) ∧
    rollingUpdateParameters getScaledValueFromIntOrPercent (rollingLeaderWorkerSet 2 ⟨.int 1, .int 1⟩)
        (some ⟨"lws", ∅, StringMap.ofList [(replicasAnnotationKey, "2")], 3, 1⟩)
        (.ok [⟨true, true⟩, ⟨true, true⟩, ⟨true, true⟩]) false = .ok (0, 2) :=
  ⟨rollingUpdate_progress_and_rest.1 [⟨true, false⟩, ⟨false, false⟩, ⟨true, true⟩] 2 3
      (by decide) (by decide) (by decide) (by decide),
    rollingUpdate_progress_and_rest.2 getScaledValueFromIntOrPercent (rollingLeaderWorkerSet 2 ⟨.int 1, .int 1⟩)
      ⟨"lws", ∅, StringMap.ofList [(replicasAnnotationKey, "2")], 3, 1⟩
      [⟨true, true⟩, ⟨true, true⟩, ⟨true, true⟩] ⟨.int 1, .int 1⟩ 1 1 rfl rfl rfl
      (by decide) (by decide) (by decide) (by decide) (by decide) (by decide) (by decide)
      (by decide) rfl (by decide)⟩

end Lws
