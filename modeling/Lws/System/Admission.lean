import Lws.Webhooks.LeaderWorkerSet
import Lws.Webhooks.Pod
import Lws.Controllers.RollingUpdate
import Lws.Controllers.StatefulSets
import Lws.Webhooks.PodAdmission

/-!
# What admission guarantees the controller

The validating webhook decides which LeaderWorkerSets the controller ever
sees. Its checks bound the product of replicas and size, and the surge as a
count or a percentage, but not the sum of replicas and surge, which the
controller computes in `int32` as the burst replica count.

Nor do they look at what the pod webhook will do with the pods the
StatefulSets create from the admitted object. A leader excluded from the
subgroups gets no subgroup label, and when it requests TPUs the TPU step
parses that missing label. Outside that case the checks suffice: the size and
subgroup size they admit are positive `int32` values, so every parse and
every division of the pod webhook succeeds on the pods of both StatefulSets,
as long as the templates do not preset the labels and annotations the
webhook writes itself.
-/

namespace Lws

/-- The largest LeaderWorkerSet of one-pod groups, with a surge of one group
and one unavailable group. -/
def maxReplicasLeaderWorkerSet : LeaderWorkerSet where
  name := "lws"
  namespaceName := "default"
  annotations := ∅
  spec :=
    { replicas := 2147483647
      leaderWorkerTemplate :=
        { leaderTemplate := none
          workerTemplate := ⟨∅, ∅, ⟨"", none, [], []⟩⟩
          size := 1
          restartPolicy := .recreateGroupOnPodRestart
          subGroupPolicy := none }
      rolloutStrategy := ⟨some ⟨.int 1, .int 1⟩⟩
      networkConfig := some ⟨some .subdomainShared⟩ }
  status := ⟨[]⟩

/-- The largest replica count passes every check of the webhook's own, and
its surge group wraps the burst count: once the template changes, the
controller asks the leader StatefulSet for `-2147483648` replicas. -/
theorem rollingUpdateParameters_wraps_admitted_burst :
    leaderWorkerSetWebhookDefault maxReplicasLeaderWorkerSet = maxReplicasLeaderWorkerSet ∧
      (∀ (validateObjectMeta : LeaderWorkerSet → List FieldError) (isValidPercent : String → List String),
        generalValidate validateObjectMeta isValidPercent getScaledValueFromIntOrPercent maxReplicasLeaderWorkerSet =
          some (validateObjectMeta maxReplicasLeaderWorkerSet)) ∧
      rollingUpdateParameters getScaledValueFromIntOrPercent maxReplicasLeaderWorkerSet
          (some ⟨"lws", ∅, StringMap.ofList [(replicasAnnotationKey, "2147483647")], 2147483647, 0⟩)
          (.ok []) true = .ok (2147483647, -2147483648) := by
  refine ⟨rfl, ?_, by decide⟩
  intro validateObjectMeta isValidPercent
  simp [generalValidate, maxReplicasLeaderWorkerSet, isNotMoreThan100Percent, getPercentValue,
    validatePositiveIntOrPercent, validateNonnegativeField, getScaledValueFromIntOrPercent, StringMap.found,
    Except.isOk, Except.toBool, Except.toOption]

/-- A set of two groups of two whose rollout lets every group be unavailable
and surges two groups. The webhook admits it; once the surged rollout is done,
with all four groups ready and updated, case five wraps the rolling step
`2147483647 + 4 - 2` to `-2147483647`, the first partition becomes
2147483647, and the first loop reads past the four states. -/
theorem rollingUpdateParameters_panics_on_wrapped_step :
    (∀ (validateObjectMeta : LeaderWorkerSet → List FieldError) (isValidPercent : String → List String),
      generalValidate validateObjectMeta isValidPercent getScaledValueFromIntOrPercent
          (leaderWorkerSetWebhookDefault (rollingLeaderWorkerSet 2 ⟨.int 2147483647, .int 2⟩)) =
        some (validateObjectMeta (leaderWorkerSetWebhookDefault (rollingLeaderWorkerSet 2 ⟨.int 2147483647, .int 2⟩)))) ∧
    (∀ state ∈ List.replicate 4 (⟨true, true⟩ : ReplicaState), state.ready ∧ state.updated) ∧
    rollingUpdateParameters getScaledValueFromIntOrPercent
        (leaderWorkerSetWebhookDefault (rollingLeaderWorkerSet 2 ⟨.int 2147483647, .int 2⟩))
        (some ⟨"lws", ∅, StringMap.ofList [(replicasAnnotationKey, "2")], 4, 2⟩)
        (.ok (List.replicate 4 ⟨true, true⟩)) false = .error .panic := by
  refine ⟨?_, by decide, ?_⟩
  · intro validateObjectMeta isValidPercent
    simp [generalValidate, leaderWorkerSetWebhookDefault, rollingLeaderWorkerSet, isNotMoreThan100Percent,
      getPercentValue, validatePositiveIntOrPercent, validateNonnegativeField, getScaledValueFromIntOrPercent,
      StringMap.found, Except.isOk, Except.toBool, Except.toOption]
  · rw [rollingUpdateParameters_caseFive getScaledValueFromIntOrPercent _ _ _ ⟨.int 2147483647, .int 2⟩ 2
        2147483647 rfl rfl rfl (by decide) (by decide),
      rollingUpdatePartition_of_length_lt _ _ _ _ (by decide)]
    rfl

/-- Copying an annotation of the set writes only that key. -/
theorem lookup_copyAnnotationIfSet_of_ne (podAnnotations lwsAnnotations : StringMap) {key copied : String}
    (different : key ≠ copied) :
    (copyAnnotationIfSet podAnnotations lwsAnnotations copied).lookup key = podAnnotations.lookup key := by
  unfold copyAnnotationIfSet
  split <;> simp [different]

/-- What a leader template's annotations tell the pod webhook: the size, and
the subgroup size and policy type when the set has subgroups. The cases are
those of the subgroup policy and of the network configuration. -/
theorem leaderPodAnnotations_sizes {lws : LeaderWorkerSet} {podAnnotations : StringMap}
    (annotated : leaderPodAnnotations lws = some podAnnotations) :
    podAnnotations.lookup sizeAnnotationKey = some (Strconv.itoa lws.spec.leaderWorkerTemplate.size) ∧
      podAnnotations.lookup subGroupSizeAnnotationKey =
        (lws.spec.leaderWorkerTemplate.subGroupPolicy.bind SubGroupPolicy.subGroupSize).map Strconv.itoa ∧
      ∀ policy, lws.spec.leaderWorkerTemplate.subGroupPolicy = some policy →
        podAnnotations.lookup subGroupPolicyTypeAnnotationKey = some policy.type.value := by
  have sizeKeys : sizeAnnotationKey ≠ exclusiveKeyAnnotationKey ∧ sizeAnnotationKey ≠ subGroupSizeAnnotationKey ∧
      sizeAnnotationKey ≠ subGroupPolicyTypeAnnotationKey ∧ sizeAnnotationKey ≠ subGroupExclusiveKeyAnnotationKey ∧
      sizeAnnotationKey ≠ subdomainPolicyAnnotationKey := by decide
  have subGroupKeys : subGroupSizeAnnotationKey ≠ exclusiveKeyAnnotationKey ∧
      subGroupSizeAnnotationKey ≠ subGroupPolicyTypeAnnotationKey ∧
      subGroupSizeAnnotationKey ≠ subGroupExclusiveKeyAnnotationKey ∧
      subGroupSizeAnnotationKey ≠ subdomainPolicyAnnotationKey ∧ subGroupSizeAnnotationKey ≠ sizeAnnotationKey := by
    decide
  have typeKeys : subGroupPolicyTypeAnnotationKey ≠ subGroupSizeAnnotationKey ∧
      subGroupPolicyTypeAnnotationKey ≠ subGroupExclusiveKeyAnnotationKey ∧
      subGroupPolicyTypeAnnotationKey ≠ subdomainPolicyAnnotationKey := by decide
  unfold leaderPodAnnotations at annotated
  rcases policy : lws.spec.leaderWorkerTemplate.subGroupPolicy with _ | ⟨type, _ | subGroupSize⟩ <;>
    rcases network : lws.spec.networkConfig with _ | ⟨_ | _ | _⟩ <;>
    simp [policy, network] at annotated <;> subst annotated <;>
    simp [lookup_copyAnnotationIfSet_of_ne, sizeKeys, subGroupKeys, typeKeys]

/-- The pods of the leader StatefulSet: the leader template, labelled worker
`0` of the set, with the annotations of `leaderPodAnnotations`. -/
theorem constructLeaderStatefulSetApplyConfiguration_template {lws : LeaderWorkerSet} {partition replicas : Int}
    {revisionKeyValue : String} {sts : StatefulSetApplyConfiguration}
    (built : constructLeaderStatefulSetApplyConfiguration lws partition replicas revisionKeyValue = some sts) :
    ∃ podAnnotations, leaderPodAnnotations lws = some podAnnotations ∧ sts.name = lws.name ∧
      sts.template =
        { (lws.spec.leaderWorkerTemplate.leaderTemplate.getD lws.spec.leaderWorkerTemplate.workerTemplate) with
          labels := (lws.spec.leaderWorkerTemplate.leaderTemplate.getD
              lws.spec.leaderWorkerTemplate.workerTemplate).labels.withEntries
            (StringMap.ofList [(workerIndexLabelKey, "0"), (setNameLabelKey, lws.name), (revisionKey, revisionKeyValue)])
          annotations := (lws.spec.leaderWorkerTemplate.leaderTemplate.getD
              lws.spec.leaderWorkerTemplate.workerTemplate).annotations.withEntries podAnnotations } := by
  simp only [constructLeaderStatefulSetApplyConfiguration, Option.bind_eq_bind, Option.bind_eq_some_iff,
    Option.pure_def, Option.some.injEq] at built
  obtain ⟨podAnnotations, annotated, configuration, -, rfl⟩ := built
  exact ⟨podAnnotations, annotated, rfl, rfl⟩

/-- The pods of a worker StatefulSet: the revision's worker template,
labelled with the leader's group and the set's name, with the annotations of
`workerPodAnnotations`. -/
theorem constructWorkerStatefulSetApplyConfiguration_template {leaderPod : Pod} {lws : LeaderWorkerSet}
    {revision : ControllerRevision} {sts : StatefulSetApplyConfiguration}
    (built : constructWorkerStatefulSetApplyConfiguration leaderPod lws revision = some sts) :
    ∃ podAnnotations, workerPodAnnotations leaderPod lws = some podAnnotations ∧ sts.name = leaderPod.name ∧
      sts.template.labels = revision.data.leaderWorkerTemplate.workerTemplate.labels.withEntries
        ((StringMap.ofList [(groupIndexLabelKey, leaderPod.labels.get groupIndexLabelKey),
          (setNameLabelKey, lws.name), (groupUniqueHashLabelKey, leaderPod.labels.get groupUniqueHashLabelKey)]).set
            revisionKey (getRevisionKey leaderPod.labels)) ∧
      sts.template.annotations = revision.data.leaderWorkerTemplate.workerTemplate.annotations.withEntries
        podAnnotations := by
  simp only [constructWorkerStatefulSetApplyConfiguration, Option.bind_eq_bind, Option.bind_eq_some_iff,
    Option.pure_def, Option.some.injEq] at built
  obtain ⟨podAnnotations, annotated, serviceName, -, rfl⟩ := built
  exact ⟨podAnnotations, annotated, rfl, rfl, rfl⟩

/-- The pods of a leader StatefulSet carry the set's name and worker index
`0`, and every other label of the leader template but the revision key. -/
theorem leaderStatefulSetPod_lookup {lws : LeaderWorkerSet} {partition replicas : Int} {revisionKeyValue : String}
    {sts : StatefulSetApplyConfiguration}
    (built : constructLeaderStatefulSetApplyConfiguration lws partition replicas revisionKeyValue = some sts)
    (ordinal : Int) :
    (statefulSetPod sts ordinal).labels.lookup setNameLabelKey = some lws.name ∧
      (statefulSetPod sts ordinal).labels.lookup workerIndexLabelKey = some "0" ∧
      ∀ key, key ≠ workerIndexLabelKey → key ≠ setNameLabelKey → key ≠ revisionKey →
        (statefulSetPod sts ordinal).labels.lookup key =
          (lws.spec.leaderWorkerTemplate.leaderTemplate.getD lws.spec.leaderWorkerTemplate.workerTemplate).labels.lookup
            key := by
  obtain ⟨_, -, -, templated⟩ := constructLeaderStatefulSetApplyConfiguration_template built
  have keys : setNameLabelKey ≠ revisionKey ∧ workerIndexLabelKey ≠ setNameLabelKey ∧
      workerIndexLabelKey ≠ revisionKey := by decide
  refine ⟨by simp [statefulSetPod, templated, StringMap.ofList, keys],
    by simp [statefulSetPod, templated, StringMap.ofList, keys], fun key notWorker notSet notRevision => ?_⟩
  simp [statefulSetPod, templated, StringMap.ofList, notWorker, notSet, notRevision]

/-- The pods of a worker StatefulSet carry the set's name and their leader's
group index, and every other label of the revision's worker template but the
group key and the revision key. -/
theorem workerStatefulSetPod_lookup {leader : Pod} {lws : LeaderWorkerSet} {revision : ControllerRevision}
    {sts : StatefulSetApplyConfiguration}
    (built : constructWorkerStatefulSetApplyConfiguration leader lws revision = some sts) (ordinal : Int) :
    (statefulSetPod sts ordinal).labels.lookup setNameLabelKey = some lws.name ∧
      (statefulSetPod sts ordinal).labels.lookup groupIndexLabelKey = some (leader.labels.get groupIndexLabelKey) ∧
      ∀ key, key ≠ groupIndexLabelKey → key ≠ setNameLabelKey → key ≠ groupUniqueHashLabelKey → key ≠ revisionKey →
        (statefulSetPod sts ordinal).labels.lookup key =
          revision.data.leaderWorkerTemplate.workerTemplate.labels.lookup key := by
  obtain ⟨_, -, -, labelled, -⟩ := constructWorkerStatefulSetApplyConfiguration_template built
  have keys : setNameLabelKey ≠ revisionKey ∧ setNameLabelKey ≠ groupUniqueHashLabelKey ∧
      groupIndexLabelKey ≠ revisionKey ∧ groupIndexLabelKey ≠ groupUniqueHashLabelKey ∧
      groupIndexLabelKey ≠ setNameLabelKey := by decide
  refine ⟨by simp [statefulSetPod, labelled, StringMap.ofList, keys],
    by simp [statefulSetPod, labelled, StringMap.ofList, keys], fun key notGroup notSet notKey notRevision => ?_⟩
  simp [statefulSetPod, labelled, StringMap.ofList, notGroup, notSet, notKey, notRevision]

/-- A pod template that sets none of the keys by which the pod webhook tells
what it has already done or which branch a pod takes: the subgroup and worker
index labels and the subgroup size annotation. -/
structure Unreserved (template : PodTemplateSpec) : Prop where
  subGroupIndex : template.labels.lookup subGroupIndexLabelKey = none
  workerIndex : template.labels.lookup workerIndexLabelKey = none
  subGroupSize : template.annotations.lookup subGroupSizeAnnotationKey = none

/-- A subgroup size, when the set has subgroups, that the pod webhook can
divide by and print. -/
def SubGroupSized (lws : LeaderWorkerSet) : Prop :=
  ∀ policy, lws.spec.leaderWorkerTemplate.subGroupPolicy = some policy →
    ∃ subGroupSize, policy.subGroupSize = some subGroupSize ∧ 0 < subGroupSize ∧ subGroupSize ≤ 2147483647

/-- **The leader StatefulSet's pods are admitted** for a positive `int32`
size and subgroup size, from an unreserved leader template that requests no
TPUs when it is excluded from the subgroups. -/
theorem exists_podWebhookDefault_leaderStatefulSetPod (sha1Hash : String → String) {lws : LeaderWorkerSet}
    {partition replicas : Int} {revisionKeyValue : String} {sts : StatefulSetApplyConfiguration}
    (built : constructLeaderStatefulSetApplyConfiguration lws partition replicas revisionKeyValue = some sts)
    (sizePositive : 0 < lws.spec.leaderWorkerTemplate.size)
    (sizeFits : lws.spec.leaderWorkerTemplate.size ≤ 2147483647) (subGroupSized : SubGroupSized lws)
    (unreserved : Unreserved
      (lws.spec.leaderWorkerTemplate.leaderTemplate.getD lws.spec.leaderWorkerTemplate.workerTemplate))
    (included : ∀ policy, lws.spec.leaderWorkerTemplate.subGroupPolicy = some policy →
      policy.type = .subGroupPolicyTypeLeaderExcluded →
      podRequestsTPUs
        (lws.spec.leaderWorkerTemplate.leaderTemplate.getD lws.spec.leaderWorkerTemplate.workerTemplate).spec = false)
    {index : Int} (nonnegative : 0 ≤ index) (fits : index < 2147483648) :
    ∃ leader, podWebhookDefault sha1Hash (statefulSetPod sts index) = .ok leader := by
  obtain ⟨podAnnotations, annotated, named, templated⟩ := constructLeaderStatefulSetApplyConfiguration_template built
  obtain ⟨sized, subGroupAnnotated, typed⟩ := leaderPodAnnotations_sizes annotated
  obtain ⟨setNamed, workerIndexed, kept⟩ := leaderStatefulSetPod_lookup built index
  have ordered : (getParentNameAndOrdinal (statefulSetPod sts index).name).2 ≠ -1 := by
    rw [statefulSetPod, named, getParentNameAndOrdinal_statefulSetPodName_lastLine _ _ nonnegative fits]
    dsimp only
    omega
  refine exists_podWebhookDefault_leader sha1Hash (by simp [StringMap.found_eq, setNamed])
    (by simp [leaderPod, StringMap.get_eq, workerIndexed]) (by simp [statefulSetPod, templated, sized]) sizePositive sizeFits ordered (fun requests found => ?_)
  have requested : podRequestsTPUs
      (lws.spec.leaderWorkerTemplate.leaderTemplate.getD lws.spec.leaderWorkerTemplate.workerTemplate).spec = true := by
    simpa [statefulSetPod, templated, podRequestsTPUs] using requests
  cases policy : lws.spec.leaderWorkerTemplate.subGroupPolicy with
  | none =>
    simp [statefulSetPod, templated, StringMap.found_eq, subGroupAnnotated, policy, unreserved.subGroupSize] at found
  | some subGroupPolicy =>
    obtain ⟨subGroupSize, present, subGroupPositive, subGroupFits⟩ := subGroupSized subGroupPolicy policy
    have notExcluded : subGroupPolicy.type.value ≠ SubGroupPolicyType.subGroupPolicyTypeLeaderExcluded.value := by
      cases excluded : subGroupPolicy.type with
      | subGroupPolicyTypeLeaderWorker => decide
      | subGroupPolicyTypeLeaderExcluded =>
        rw [included subGroupPolicy policy excluded] at requested
        cases requested
    refine ⟨⟨subGroupSize, ?_, subGroupPositive, by omega⟩, found, ?_, ?_⟩
    · simp only [statefulSetPod, templated, StringMap.get_eq, StringMap.lookup_withEntries, subGroupAnnotated, policy,
        present, Option.bind_some, Option.map_some, Option.some_or, Option.getD_some]
      exact atoi_itoa_of_nonneg (by omega) (by omega)
    · simp [StringMap.get_eq, kept subGroupIndexLabelKey (by decide) (by decide) (by decide), unreserved.subGroupIndex]
    · simpa [statefulSetPod, templated, StringMap.get_eq, typed subGroupPolicy policy] using notExcluded

end Lws
