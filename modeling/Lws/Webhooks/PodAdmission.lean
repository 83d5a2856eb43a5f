import Mathlib.Tactic.Linarith
import Lws.Webhooks.SubGroupLayout

/-!
# When the pod webhook admits a pod

`PodWebhook.Default` rejects a pod of a set when a parse fails: the size or
subgroup size annotation, the ordinal or the parent in the pod's name, or the
subgroup and worker index labels the TPU step reads. It panics when a
remainder divides by zero and when a hostname loop runs up to the largest
`int`.

Each step succeeds under the conditions that rule out its failures, and the
webhook succeeds when its steps do. A leader is admitted when its name ends
in an ordinal, unless it joins a TPU slice of its subgroup without being
labelled subgroup `0`; a worker is admitted when its name ends in a parent
and an ordinal within the group and its subgroup size is positive.
-/

namespace Lws

/-- `Atoi` reads back the decimal text of every nonnegative `int`. -/
theorem atoi_itoa_of_nonneg {value : Int} (nonnegative : 0 ≤ value) (fits : value ≤ 9223372036854775807) :
    Strconv.atoi (Strconv.itoa value) = .ok value :=
  Strconv.atoi_itoa value ⟨by norm_num; omega, by norm_num; omega⟩

/-! ## The TPU step -/

/-- What the subgroup TPU step parses on a pod. The subgroup size and index
are at most `2^31`, so that the bounds of the slice's hostnames do not wrap. -/
structure SubGroupIndexed (pod : Pod) : Prop where
  subGroupSize : ∃ subGroupSize, Strconv.atoi (pod.annotations.get subGroupSizeAnnotationKey) = .ok subGroupSize ∧
    0 < subGroupSize ∧ subGroupSize ≤ 2147483648
  subGroupIndex : ∃ subGroupIndex, Strconv.atoi (pod.labels.get subGroupIndexLabelKey) = .ok subGroupIndex ∧
    0 ≤ subGroupIndex ∧ subGroupIndex ≤ 2147483648
  workerIndex : ∃ workerIndex, Strconv.atoi (pod.labels.get workerIndexLabelKey) = .ok workerIndex

/-- The subgroup TPU step succeeds on a pod whose labels it can parse and
whose parent it can read when the pod is not the leader. -/
theorem exists_addTPUVariablesSubGroup {pod : Pod} (indexed : SubGroupIndexed pod)
    (parented : pod.labels.get workerIndexLabelKey ≠ "0" → (getParentNameAndOrdinal pod.name).1 ≠ "") :
    ∃ updated, addTPUVariablesSubGroup pod = .ok updated := by
  obtain ⟨⟨subGroupSize, subGroupSized, positive, sizeFits⟩, ⟨subGroupIndex, subGrouped, indexNonnegative, indexFits⟩,
    ⟨workerIndex, workerIndexed⟩⟩ := indexed
  have nonzero : subGroupSize ≠ 0 := by omega
  have product : subGroupSize * (subGroupIndex + 1) ≤ 2147483648 * 2147483649 := by nlinarith
  have productPositive : 0 < subGroupSize * (subGroupIndex + 1) := by nlinarith
  have firstNonnegative : 0 ≤ subGroupSize * subGroupIndex := by nlinarith
  have firstBelow : subGroupSize * subGroupIndex < subGroupSize * (subGroupIndex + 1) := by nlinarith
  have stopWord : int64 (subGroupSize * (subGroupIndex + 1)) = subGroupSize * (subGroupIndex + 1) :=
    int64_of_range ⟨by omega, by omega⟩
  have startWord : int64 (subGroupSize * subGroupIndex + 1) = subGroupSize * subGroupIndex + 1 :=
    int64_of_range ⟨by omega, by omega⟩
  have firstWord : int64 (subGroupSize * subGroupIndex) = subGroupSize * subGroupIndex :=
    int64_of_range ⟨by omega, by omega⟩
  have lastWord : int64 (subGroupSize * (subGroupIndex + 1) - 1) = subGroupSize * (subGroupIndex + 1) - 1 :=
    int64_of_range ⟨by omega, by omega⟩
  have stopBelow : subGroupSize * (subGroupIndex + 1) ≠ 9223372036854775807 := by omega
  have lastBelow : subGroupSize * (subGroupIndex + 1) - 1 ≠ 9223372036854775807 := by omega
  unfold addTPUVariablesSubGroup
  cases requesting : getContainerRequestingTPUs pod.spec with
  | none => simp
  | some ref =>
    cases located : pod.spec.container? ref with
    | none => simp [located]
    | some container =>
      by_cases applied : hasTPUVariables container = true
      · simp [located, applied]
      · by_cases leading : pod.labels.get workerIndexLabelKey = "0"
        · rw [leading] at workerIndexed
          simp [located, applied, subGroupSized, subGrouped, workerIndexed, remainder?_of_ne _ nonzero, leading,
            stopWord, startWord, lastWord, workerHostnames, lastBelow]
          split <;> simp
        · have named := parented leading
          simp [located, applied, subGroupSized, subGrouped, workerIndexed, remainder?_of_ne _ nonzero, leading,
            named, stopWord, startWord, firstWord, lastWord, workerHostnames, stopBelow, lastBelow]
          split_ifs <;> simp

/-- **The TPU step succeeds** for a positive size: without a subgroup size it
reads only the parent of a worker, and with one it parses the subgroup
labels. -/
theorem exists_addTPUVariables {pod : Pod} {size : Int} (positive : 0 < size)
    (sizeFits : size ≤ 9223372036854775807)
    (parented : pod.labels.get workerIndexLabelKey ≠ "0" → (getParentNameAndOrdinal pod.name).1 ≠ "")
    (subGrouped : pod.annotations.found subGroupSizeAnnotationKey = true → SubGroupIndexed pod) :
    ∃ updated, addTPUVariables pod size = .ok updated := by
  by_cases found : pod.annotations.found subGroupSizeAnnotationKey = true
  · obtain ⟨updated, added⟩ := exists_addTPUVariablesSubGroup (subGrouped found) parented
    exact ⟨updated, by simp [addTPUVariables, found, added]⟩
  have lastWord : int64 (size - 1) = size - 1 := int64_of_range ⟨by omega, by omega⟩
  have lastBelow : size - 1 ≠ 9223372036854775807 := by omega
  unfold addTPUVariables
  cases requesting : getContainerRequestingTPUs pod.spec with
  | none => simp [found]
  | some ref =>
    cases located : pod.spec.container? ref with
    | none => simp [found, located]
    | some container =>
      by_cases applied : hasTPUVariables container = true
      · simp [found, located, applied]
      · by_cases leading : pod.labels.get workerIndexLabelKey = "0"
        · simp [found, located, applied, leading, lastWord, workerHostnames, lastBelow]
        · have named := parented leading
          simp [found, located, applied, leading, named, lastWord, workerHostnames, lastBelow]
          split <;> simp

/-! ## The environment step -/

/-- The environment step fails only on a pod without the set's name, a group
index, the size or a worker index. -/
theorem exists_addLWSVariables {pod : Pod} (named : pod.labels.found setNameLabelKey = true)
    (grouped : pod.labels.found groupIndexLabelKey = true) (sized : pod.annotations.found sizeAnnotationKey = true)
    (indexed : pod.labels.found workerIndexLabelKey = true) : ∃ updated, addLWSVariables pod = .ok updated := by
  rw [StringMap.found_eq, Option.isSome_iff_exists] at named grouped sized indexed
  obtain ⟨lwsName, named⟩ := named
  obtain ⟨groupIndex, grouped⟩ := grouped
  obtain ⟨size, sized⟩ := sized
  obtain ⟨workerIndex, indexed⟩ := indexed
  simp [addLWSVariables, named, grouped, sized, indexed]

/-! ## The branches -/

/-- The leader branch fails only on a pod with neither a group index nor an
ordinal in its name. -/
theorem exists_podWebhookDefaultLeader (sha1Hash : String → String) {pod : Pod}
    (indexable : pod.labels.found groupIndexLabelKey = true ∨ (getParentNameAndOrdinal pod.name).2 ≠ -1) :
    ∃ leader, podWebhookDefaultLeader sha1Hash pod = .ok leader := by
  have indexed : ∃ indexed, addGroupIndexLabel pod = .ok indexed := by
    by_cases present : pod.labels.found groupIndexLabelKey = true
    · exact ⟨pod, addGroupIndexLabel_of_found present⟩
    · simp [addGroupIndexLabel, present, indexable.resolve_left present]
  obtain ⟨indexed, added⟩ := indexed
  rw [podWebhookDefaultLeader_eq, added]
  exact ⟨_, rfl⟩

/-- The leader branch keeps the name and the containers; only the subdomain
step touches the spec. -/
theorem podWebhookDefaultLeader_keeps {sha1Hash : String → String} {pod leader : Pod}
    (succeeded : podWebhookDefaultLeader sha1Hash pod = .ok leader) :
    leader.name = pod.name ∧ leader.spec.containers = pod.spec.containers ∧
      leader.spec.initContainers = pod.spec.initContainers := by
  rw [podWebhookDefaultLeader_eq] at succeeded
  cases indexing : addGroupIndexLabel pod with
  | error failure =>
    rw [indexing] at succeeded
    cases succeeded
  | ok indexed =>
    rw [indexing] at succeeded
    cases succeeded
    have toIndexed := (addGroupIndexLabel_applied indexing).1
    have named : (setUniquePerReplicaSubdomain indexed).name = indexed.name ∧
        (setUniquePerReplicaSubdomain indexed).spec.containers = indexed.spec.containers ∧
        (setUniquePerReplicaSubdomain indexed).spec.initContainers = indexed.spec.initContainers := by
      unfold setUniquePerReplicaSubdomain
      split <;> exact ⟨rfl, rfl, rfl⟩
    set keyed := addGroupUniqueKey sha1Hash (setUniquePerReplicaSubdomain indexed)
    have toLeader : Extends (setUniquePerReplicaSubdomain indexed)
        (addLeaderSubGroupLabels sha1Hash (setGroupExclusiveAffinities keyed.2 keyed.1)) :=
      (extends_addGroupUniqueKey sha1Hash _).trans
        ((extends_setGroupExclusiveAffinities _ _).trans (extends_addLeaderSubGroupLabels _ _))
    refine ⟨?_, ?_, ?_⟩
    · rw [toLeader.name, named.1, toIndexed.name]
    · rw [toLeader.containers.1, named.2.1, toIndexed.containers.1]
    · rw [toLeader.containers.2, named.2.2, toIndexed.containers.2]

/-! ## The webhook -/

/-- The webhook succeeds on a pod of a set whose size parses when its branch
succeeds, the TPU step succeeds on the branch's output if that requests TPUs,
and the output carries the set's name, a group index, the size and a worker
index. -/
theorem exists_podWebhookDefault (sha1Hash : String → String) {pod branched : Pod} {size : String}
    {podCount : Int} (member : pod.labels.found setNameLabelKey = true)
    (sized : pod.annotations.lookup sizeAnnotationKey = some size) (parsed : Strconv.atoi size = .ok podCount)
    (branching : (if leaderPod pod then podWebhookDefaultLeader sha1Hash pod
      else podWebhookDefaultWorker sha1Hash podCount pod) = .ok branched)
    (tpu : podRequestsTPUs branched.spec = true → ∃ updated, addTPUVariables branched podCount = .ok updated)
    (named : branched.labels.found setNameLabelKey = true) (grouped : branched.labels.found groupIndexLabelKey = true)
    (annotated : branched.annotations.found sizeAnnotationKey = true)
    (indexed : branched.labels.found workerIndexLabelKey = true) :
    ∃ once, podWebhookDefault sha1Hash pod = .ok once := by
  have tpuStep : ∃ withTpu, (if podRequestsTPUs branched.spec then addTPUVariables branched podCount
      else pure branched) = .ok withTpu := by
    by_cases requests : podRequestsTPUs branched.spec = true
    · obtain ⟨updated, added⟩ := tpu requests
      exact ⟨updated, by rw [if_pos requests, added]⟩
    · exact ⟨branched, by rw [if_neg requests]; rfl⟩
  obtain ⟨withTpu, tpuStepped⟩ := tpuStep
  have same := (tpuStep_applied tpuStepped).1
  obtain ⟨once, environment⟩ := exists_addLWSVariables (same.labels ▸ named) (same.labels ▸ grouped)
    (same.annotations ▸ annotated) (same.labels ▸ indexed)
  have tail : (if podRequestsTPUs branched.spec then
      addTPUVariables branched podCount >>= fun pod => liftError (addLWSVariables pod)
      else liftError (addLWSVariables branched)) = .ok once := by
    split
    case isTrue requests => rw [if_pos requests] at tpuStepped; simp [tpuStepped, environment]
    case isFalse requests => rw [if_neg requests] at tpuStepped; cases tpuStepped; simp [environment]
  refine ⟨once, ?_⟩
  by_cases leading : leaderPod pod = true
  · rw [if_pos leading] at branching
    simp [podWebhookDefault, member, sized, parsed, leading, branching, tail]
  · rw [if_neg leading] at branching
    simp [podWebhookDefault, member, sized, parsed, leading, branching, tail]

/-- The webhook admits a pod under its name. -/
theorem podWebhookDefault_name {sha1Hash : String → String} {pod once : Pod}
    (succeeded : podWebhookDefault sha1Hash pod = .ok once) : once.name = pod.name := by
  by_cases member : pod.labels.found setNameLabelKey = true
  · obtain ⟨branched, same, ⟨-, branching⟩ | ⟨-, _, _, -, -, branching⟩⟩ := podWebhookDefault_branch succeeded member
    · rw [same.name, (podWebhookDefaultLeader_keeps branching).1]
    · rw [same.name, (podWebhookDefaultWorker_applied branching).2.1]
  · simp only [podWebhookDefault, member, Bool.not_false, if_true] at succeeded
    cases succeeded
    rfl

/-- **A leader is admitted** when its size annotation prints a positive
32-bit size and its name ends in an ordinal, unless it requests TPUs under a
subgroup size and is not pending subgroup `0`: excluded from the subgroups,
or labelled already. -/
theorem exists_podWebhookDefault_leader (sha1Hash : String → String) {pod : Pod} {size : Int}
    (member : pod.labels.found setNameLabelKey = true) (leading : leaderPod pod = true)
    (sized : pod.annotations.lookup sizeAnnotationKey = some (Strconv.itoa size)) (positive : 0 < size)
    (sizeFits : size ≤ 2147483647) (ordered : (getParentNameAndOrdinal pod.name).2 ≠ -1)
    (tpuSubGroup : podRequestsTPUs pod.spec = true → pod.annotations.found subGroupSizeAnnotationKey = true →
      (∃ subGroupSize, Strconv.atoi (pod.annotations.get subGroupSizeAnnotationKey) = .ok subGroupSize ∧
        0 < subGroupSize ∧ subGroupSize ≤ 2147483648) ∧ LeaderSubGroupPending pod) :
    ∃ once, podWebhookDefault sha1Hash pod = .ok once := by
  obtain ⟨branched, branching⟩ := exists_podWebhookDefaultLeader sha1Hash (Or.inr ordered)
  obtain ⟨applied, annotated, workerIndexed, kept⟩ := podWebhookDefaultLeader_applied branching
  obtain ⟨-, containers, initContainers⟩ := podWebhookDefaultLeader_keeps branching
  have indexedZero : pod.labels.lookup workerIndexLabelKey = some "0" := by
    have zero : pod.labels.get workerIndexLabelKey = "0" := by simpa [leaderPod] using leading
    rw [StringMap.lookup_of_get_ne_empty (by rw [zero]; decide), zero]
  have branchedZero : branched.labels.get workerIndexLabelKey = "0" := by
    rw [StringMap.get_eq, workerIndexed, indexedZero]
    rfl
  refine exists_podWebhookDefault sha1Hash member sized (atoi_itoa_of_nonneg (by omega) (by omega))
    (by rw [if_pos leading]; exact branching) (fun requests => ?_) (kept _ member) applied.indexed
    (by rw [annotated, StringMap.found_eq, sized]; rfl)
    (by rw [StringMap.found_eq, workerIndexed, indexedZero]; rfl)
  have podRequests : podRequestsTPUs pod.spec = true := by
    rwa [podRequestsTPUs, ← containers, ← initContainers]
  refine exists_addTPUVariables positive (by omega) (fun notLeading => absurd branchedZero notLeading)
    (fun found => ?_)
  rw [annotated] at found
  obtain ⟨⟨subGroupSize, parsed, subGroupPositive, subGroupFits⟩, pending⟩ := tpuSubGroup podRequests found
  have labelled : branched.labels.get subGroupIndexLabelKey = "0" := by
    unfold LeaderSubGroupPending at pending
    rw [StringMap.get_eq, podWebhookDefaultLeader_subGroupIndex branching, if_pos pending]
    rfl
  refine ⟨⟨subGroupSize, annotated ▸ parsed, subGroupPositive, subGroupFits⟩, ⟨0, ?_, le_refl 0, by norm_num⟩,
    ⟨0, ?_⟩⟩
  · rw [labelled]
    decide
  · rw [branchedZero]
    decide

end Lws
