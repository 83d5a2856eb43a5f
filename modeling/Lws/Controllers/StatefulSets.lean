import Lws.Controllers.Revision
import Lws.Utils.Accelerators

/-!
# The StatefulSets of a LeaderWorkerSet

The LeaderWorkerSet controller applies one leader StatefulSet, named after the
set, whose pods are the groups' leaders; the pod controller applies one
worker StatefulSet per leader pod, named after it, whose pods are the group's
workers from ordinal 1. Both take the user's template and add the labels and
annotations the pod webhook reads.

The worker template is taken from the leader's revision, so that a group
recreated during a rollout keeps its old template. The size, the subgroup
policy, the exclusive placement keys and the worker's subdomain come from the
object as it is now. Dereferencing a nil subgroup size, subdomain policy or
rolling update configuration panics. The conversions to unstructured objects
do not fail on these types and are left out, as are the owner references.
-/

namespace Lws

/-- The fields of a StatefulSet apply configuration the controllers set. -/
structure StatefulSetApplyConfiguration where
  name : String
  namespaceName : String
  labels : StringMap
  annotations : StringMap
  serviceName : String
  replicas : Int
  template : PodTemplateSpec
  selector : StringMap
  /-- The leader StatefulSet's `maxUnavailable` and partition. -/
  rollingUpdate : Option (IntOrString × Int)
  /-- The first ordinal of a worker StatefulSet. -/
  ordinalsStart : Option Int
deriving DecidableEq

/-- `if lws.Annotations[key] != "" { podAnnotations[key] = lws.Annotations[key] }`. -/
def copyAnnotationIfSet (podAnnotations lwsAnnotations : StringMap) (key : String) : StringMap :=
  if lwsAnnotations.get key ≠ "" then podAnnotations.set key (lwsAnnotations.get key) else podAnnotations

/-- The annotations of the leader pod template. -/
def leaderPodAnnotations (lws : LeaderWorkerSet) : Option StringMap := do
  let podAnnotations := (∅ : StringMap).set sizeAnnotationKey (Strconv.itoa lws.spec.leaderWorkerTemplate.size)
  let podAnnotations := copyAnnotationIfSet podAnnotations lws.annotations exclusiveKeyAnnotationKey
  let podAnnotations ← match lws.spec.leaderWorkerTemplate.subGroupPolicy with
    | some policy => do
      let subGroupSize ← policy.subGroupSize
      let podAnnotations := (podAnnotations.set subGroupPolicyTypeAnnotationKey policy.type.value).set
        subGroupSizeAnnotationKey (Strconv.itoa subGroupSize)
      pure (copyAnnotationIfSet podAnnotations lws.annotations subGroupExclusiveKeyAnnotationKey)
    | none => pure podAnnotations
  match lws.spec.networkConfig with
  | some networkConfig => do
    let subdomainPolicy ← networkConfig.subdomainPolicy
    pure (if subdomainPolicy = .subdomainUniquePerReplica then
      podAnnotations.set subdomainPolicyAnnotationKey SubdomainPolicy.subdomainUniquePerReplica.value
    else podAnnotations)
  | none => pure podAnnotations

/-- `constructLeaderStatefulSetApplyConfiguration`. -/
def constructLeaderStatefulSetApplyConfiguration (lws : LeaderWorkerSet) (partition replicas : Int)
    (revisionKeyValue : String) : Option StatefulSetApplyConfiguration := do
  let podTemplateSpec := lws.spec.leaderWorkerTemplate.leaderTemplate.getD lws.spec.leaderWorkerTemplate.workerTemplate
  let podLabels := StringMap.ofList
    [(workerIndexLabelKey, "0"), (setNameLabelKey, lws.name), (revisionKey, revisionKeyValue)]
  let podAnnotations ← leaderPodAnnotations lws
  let configuration ← lws.spec.rolloutStrategy.rollingUpdateConfiguration
  pure
    { name := lws.name
      namespaceName := lws.namespaceName
      labels := StringMap.ofList [(setNameLabelKey, lws.name), (revisionKey, revisionKeyValue)]
      annotations := StringMap.ofList [(replicasAnnotationKey, Strconv.itoa lws.spec.replicas)]
      serviceName := lws.name
      replicas
      template := { podTemplateSpec with
        labels := podTemplateSpec.labels.withEntries podLabels
        annotations := podTemplateSpec.annotations.withEntries podAnnotations }
      selector := StringMap.ofList [(setNameLabelKey, lws.name), (workerIndexLabelKey, "0")]
      rollingUpdate := some (configuration.maxUnavailable, partition)
      ordinalsStart := none }

/-- The annotations of a worker pod template. -/
def workerPodAnnotations (leaderPod : Pod) (lws : LeaderWorkerSet) : Option StringMap := do
  let podAnnotations := ((∅ : StringMap).set sizeAnnotationKey (Strconv.itoa lws.spec.leaderWorkerTemplate.size)).set
    leaderPodNameAnnotationKey leaderPod.name
  let podAnnotations := copyAnnotationIfSet podAnnotations lws.annotations exclusiveKeyAnnotationKey
  let podAnnotations ← match lws.spec.leaderWorkerTemplate.subGroupPolicy with
    | some policy => do
      let subGroupSize ← policy.subGroupSize
      pure (copyAnnotationIfSet (podAnnotations.set subGroupSizeAnnotationKey (Strconv.itoa subGroupSize))
        lws.annotations subGroupExclusiveKeyAnnotationKey)
    | none => pure podAnnotations
  pure (addTPUAnnotations leaderPod podAnnotations)

/-- The subdomain of a group's workers: the set's service, or under
`UniquePerReplica` the leader's own. -/
def workerServiceName (leaderPod : Pod) (lws : LeaderWorkerSet) : Option String :=
  match lws.spec.networkConfig with
  | none => some lws.name
  | some networkConfig =>
    networkConfig.subdomainPolicy.map fun subdomainPolicy =>
      if subdomainPolicy = .subdomainShared then lws.name else leaderPod.name

/-- `constructWorkerStatefulSetApplyConfiguration`. -/
def constructWorkerStatefulSetApplyConfiguration (leaderPod : Pod) (lws : LeaderWorkerSet)
    (currentRevision : ControllerRevision) : Option StatefulSetApplyConfiguration := do
  let currentLws := applyRevision lws currentRevision
  let podTemplateSpec := currentLws.spec.leaderWorkerTemplate.workerTemplate
  let selectorMap := StringMap.ofList
    [(groupIndexLabelKey, leaderPod.labels.get groupIndexLabelKey), (setNameLabelKey, lws.name),
      (groupUniqueHashLabelKey, leaderPod.labels.get groupUniqueHashLabelKey)]
  let labelMap := selectorMap.set revisionKey (getRevisionKey leaderPod.labels)
  let podAnnotations ← workerPodAnnotations leaderPod lws
  let serviceName ← workerServiceName leaderPod lws
  pure
    { name := leaderPod.name
      namespaceName := leaderPod.namespaceName
      labels := labelMap
      annotations := ∅
      serviceName
      replicas := int32 (lws.spec.leaderWorkerTemplate.size - 1)
      template := { podTemplateSpec with
        labels := podTemplateSpec.labels.withEntries labelMap
        annotations := podTemplateSpec.annotations.withEntries podAnnotations }
      selector := selectorMap
      rollingUpdate := none
      ordinalsStart := some 1 }

/-- The pod the StatefulSet controller creates for an ordinal: the template's
labels, annotations and spec, the StatefulSet's pod name, and the service as
subdomain. -/
def statefulSetPod (sts : StatefulSetApplyConfiguration) (ordinal : Int) : Pod where
  name := statefulSetPodName sts.name ordinal
  namespaceName := sts.namespaceName
  labels := sts.template.labels
  annotations := sts.template.annotations
  spec := { sts.template.spec with subdomain := sts.serviceName }

/-- A worker template's annotations do not read the network configuration. -/
theorem workerPodAnnotations_networkConfig (leaderPod : Pod) (lws : LeaderWorkerSet) (networkConfig : Option NetworkConfig) :
    workerPodAnnotations leaderPod { lws with spec := { lws.spec with networkConfig } } =
      workerPodAnnotations leaderPod lws := rfl

/-- With its subgroup size set, a worker template's annotations are built
without a panic. -/
theorem exists_workerPodAnnotations (leaderPod : Pod) {lws : LeaderWorkerSet}
    (sized : ∀ policy, lws.spec.leaderWorkerTemplate.subGroupPolicy = some policy → policy.subGroupSize.isSome) :
    ∃ podAnnotations, workerPodAnnotations leaderPod lws = some podAnnotations := by
  unfold workerPodAnnotations
  cases configured : lws.spec.leaderWorkerTemplate.subGroupPolicy with
  | none => simp
  | some policy =>
    obtain ⟨subGroupSize, present⟩ := Option.isSome_iff_exists.mp (sized policy configured)
    simp [present]

/-- **The worker StatefulSet reads two objects.** Its template is the
revision's worker template, with the set's labels and annotations added, and
its service is the one the current object's network configuration names. -/
theorem constructWorkerStatefulSetApplyConfiguration_eq (currentRevision : ControllerRevision) {leaderPod : Pod}
    {lws : LeaderWorkerSet} {podAnnotations : StringMap} {serviceName : String}
    (annotated : workerPodAnnotations leaderPod lws = some podAnnotations)
    (served : workerServiceName leaderPod lws = some serviceName) :
    ∃ sts, constructWorkerStatefulSetApplyConfiguration leaderPod lws currentRevision = some sts ∧
      sts.template.spec = currentRevision.data.leaderWorkerTemplate.workerTemplate.spec ∧
      sts.serviceName = serviceName := by
  simp [constructWorkerStatefulSetApplyConfiguration, annotated, served]

/-- **A recreated group's workers take the current subdomain.** Two objects
that differ only in their subdomain policy give the same leader and revision
different worker StatefulSets: under `Shared` the workers' service is the
set's, under `UniquePerReplica` the leader's, whatever the revision records. -/
theorem constructWorkerStatefulSetApplyConfiguration_reads_current_networkConfig (leaderPod : Pod)
    (lws : LeaderWorkerSet) (currentRevision : ControllerRevision)
    (sized : ∀ policy, lws.spec.leaderWorkerTemplate.subGroupPolicy = some policy → policy.subGroupSize.isSome)
    (apart : lws.name ≠ leaderPod.name) :
    constructWorkerStatefulSetApplyConfiguration leaderPod
        { lws with spec := { lws.spec with networkConfig := some ⟨some .subdomainShared⟩ } } currentRevision ≠
      constructWorkerStatefulSetApplyConfiguration leaderPod
        { lws with spec := { lws.spec with networkConfig := some ⟨some .subdomainUniquePerReplica⟩ } } currentRevision := by
  obtain ⟨podAnnotations, annotated⟩ := exists_workerPodAnnotations leaderPod sized
  obtain ⟨shared, sharedEq, -, sharedService⟩ := constructWorkerStatefulSetApplyConfiguration_eq
    currentRevision ((workerPodAnnotations_networkConfig _ _ _).trans annotated)
    (show workerServiceName leaderPod { lws with spec := { lws.spec with networkConfig := some ⟨some .subdomainShared⟩ } } =
      some lws.name by simp [workerServiceName])
  obtain ⟨unique, uniqueEq, -, uniqueService⟩ := constructWorkerStatefulSetApplyConfiguration_eq
    currentRevision ((workerPodAnnotations_networkConfig _ _ _).trans annotated)
    (show workerServiceName leaderPod
        { lws with spec := { lws.spec with networkConfig := some ⟨some .subdomainUniquePerReplica⟩ } } =
      some leaderPod.name by simp [workerServiceName])
  rw [sharedEq, uniqueEq]
  intro same
  have services := congrArg StatefulSetApplyConfiguration.serviceName (Option.some.inj same)
  rw [sharedService, uniqueService] at services
  exact apart services

/-- A set of two-pod groups under `Shared`, whose revision keyed `old`
records this template and network configuration. -/
def rolloutLeaderWorkerSet : LeaderWorkerSet where
  name := "lws"
  namespaceName := "default"
  annotations := ∅
  spec :=
    { replicas := 2
      leaderWorkerTemplate :=
        { leaderTemplate := none
          workerTemplate := ⟨∅, ∅, ⟨"", none, [], []⟩⟩
          size := 2
          restartPolicy := .recreateGroupOnPodRestart
          subGroupPolicy := none }
      rolloutStrategy := ⟨some ⟨.int 1, .int 0⟩⟩
      networkConfig := some ⟨some .subdomainShared⟩ }
  status := ⟨[]⟩

/-- The revision keyed `old`. -/
def oldRevision : ControllerRevision where
  name := "lws-old-1"
  labels := StringMap.ofList [(setNameLabelKey, "lws"), (revisionKey, "old")]
  data := getPatch rolloutLeaderWorkerSet
  revision := 1

/-- The leader of group 0 at the revision keyed `old`, on the set's shared
service. -/
def oldRevisionLeaderPod : Pod where
  name := "lws-0"
  namespaceName := "default"
  labels := StringMap.ofList [(setNameLabelKey, "lws"), (workerIndexLabelKey, "0"), (groupIndexLabelKey, "0"),
    (groupUniqueHashLabelKey, "key"), (revisionKey, "old")]
  annotations := ∅
  spec := ⟨"lws", none, [], []⟩

/-- Rolling the set out to `UniquePerReplica` changes the workers of the old
group's leader. -/
theorem constructWorkerStatefulSetApplyConfiguration_reads_current_networkConfig_on_rollout :
    (∀ policy, rolloutLeaderWorkerSet.spec.leaderWorkerTemplate.subGroupPolicy = some policy →
      policy.subGroupSize.isSome) ∧ rolloutLeaderWorkerSet.name ≠ oldRevisionLeaderPod.name ∧
    constructWorkerStatefulSetApplyConfiguration oldRevisionLeaderPod
        { rolloutLeaderWorkerSet with
          spec := { rolloutLeaderWorkerSet.spec with networkConfig := some ⟨some .subdomainShared⟩ } }
        oldRevision ≠
      constructWorkerStatefulSetApplyConfiguration oldRevisionLeaderPod
        { rolloutLeaderWorkerSet with
          spec := { rolloutLeaderWorkerSet.spec with networkConfig := some ⟨some .subdomainUniquePerReplica⟩ } }
        oldRevision :=
  ⟨(fun _ configured => by cases configured), by decide,
    constructWorkerStatefulSetApplyConfiguration_reads_current_networkConfig oldRevisionLeaderPod
      rolloutLeaderWorkerSet oldRevision (fun _ configured => by cases configured) (by decide)⟩

end Lws
