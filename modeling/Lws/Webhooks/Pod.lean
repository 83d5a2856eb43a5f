import Lws.Utils.Accelerators
import Lws.Utils.Pod

/-!
# The pod mutating webhook

`PodWebhook.Default` completes every pod of a LeaderWorkerSet before it is
created. A leader (worker index `0`) gets its group index from its name, its
own subdomain under `UniquePerReplica`, the group key, the exclusive
placement terms, and subgroup `0` unless the leader is excluded from the
subgroups. A worker gets its worker index from its name and its subgroup
index from `getSubGroupIndex`. Then both get the TPU and the LWS
environment.

Each step tests whether it has already been applied: a label's presence, an
empty subgroup label, placement terms for the same topology, or a TPU
variable in the container.

`utils.Sha1Hash` is a parameter. Go's `int` is 64 bits wide; the remainder
and quotient by a zero subgroup size panic.
-/

namespace Lws

/-- `genGroupUniqueKey`. -/
def genGroupUniqueKey (sha1Hash : String → String) (ns podName : String) : String :=
  sha1Hash (ns ++ "/" ++ podName)

/-- The terms of a pod's required affinity or anti-affinity, empty when the
pointer is nil. -/
def PodAffinity.terms (affinity : Option PodAffinity) : List PodAffinityTerm :=
  (affinity.map PodAffinity.requiredDuringSchedulingIgnoredDuringExecution).getD []

/-- `exclusiveAffinityApplied`: both the affinity and the anti-affinity have
a term for the topology. -/
def exclusiveAffinityApplied (pod : Pod) (topologyKey : String) : Bool :=
  match pod.spec.affinity with
  | some { podAffinity := some podAffinity, podAntiAffinity := some podAntiAffinity } =>
    podAffinity.requiredDuringSchedulingIgnoredDuringExecution.any (·.topologyKey == topologyKey) &&
      podAntiAffinity.requiredDuringSchedulingIgnoredDuringExecution.any (·.topologyKey == topologyKey)
  | _ => false

/-- The term that keeps the set on one topology domain. -/
def exclusiveAffinityTerm (groupUniqueKey topologyKey podAffinityKey : String) : PodAffinityTerm :=
  ⟨[⟨podAffinityKey, .opIn, [groupUniqueKey]⟩], topologyKey⟩

/-- The term that keeps every other set off the domain. -/
def exclusiveAntiAffinityTerm (groupUniqueKey topologyKey podAffinityKey : String) : PodAffinityTerm :=
  ⟨[⟨podAffinityKey, .opExists, []⟩, ⟨podAffinityKey, .opNotIn, [groupUniqueKey]⟩], topologyKey⟩

/-- `SetExclusiveAffinities`: append the two terms unless terms for the
topology are there. -/
def setExclusiveAffinities (pod : Pod) (groupUniqueKey topologyKey podAffinityKey : String) : Pod :=
  if exclusiveAffinityApplied pod topologyKey then pod
  else
    let affinity := pod.spec.affinity.getD ⟨none, none⟩
    { pod with
      spec := { pod.spec with
        affinity := some
          { podAffinity := some ⟨PodAffinity.terms affinity.podAffinity ++
              [exclusiveAffinityTerm groupUniqueKey topologyKey podAffinityKey]⟩
            podAntiAffinity := some ⟨PodAffinity.terms affinity.podAntiAffinity ++
              [exclusiveAntiAffinityTerm groupUniqueKey topologyKey podAffinityKey]⟩ } } }

/-- `getSubGroupIndex`: when the leader is the extra pod, worker `w` is in
subgroup `(w-1)/g`, otherwise in `w/g`. -/
def getSubGroupIndex (podCount subGroupSize workerIndex : Int) : Option String := do
  if (← remainder? (int64 (podCount - 1)) subGroupSize) = 0 then
    return Strconv.itoa (int64 (← quotient? (int64 (workerIndex - 1)) subGroupSize))
  return Strconv.itoa (int64 (← quotient? workerIndex subGroupSize))

/-- A label written into the pod. -/
def Pod.setLabel (pod : Pod) (key value : String) : Pod := { pod with labels := pod.labels.set key value }

/-- The subgroup labels of `PodWebhook.Default`, and the subgroup's placement
terms when the pod asks for them. -/
def setSubGroupLabels (sha1Hash : String → String) (pod : Pod) (subGroupIndex groupName : String) : Pod :=
  let subGroupUniqueKey := genGroupUniqueKey sha1Hash groupName subGroupIndex
  let pod := (pod.setLabel subGroupIndexLabelKey subGroupIndex).setLabel subGroupUniqueHashLabelKey subGroupUniqueKey
  match pod.annotations.lookup subGroupExclusiveKeyAnnotationKey with
  | some subEpKey => setExclusiveAffinities pod subGroupUniqueKey subEpKey subGroupUniqueHashLabelKey
  | none => pod

/-- The group index label of a leader, read from its name when absent. -/
def addGroupIndexLabel (pod : Pod) : Except Failure Pod := do
  if pod.labels.found groupIndexLabelKey then return pod
  let groupIndex := (getParentNameAndOrdinal pod.name).2
  if groupIndex = -1 then throw (.error ("parsing pod ordinal for pod " ++ pod.name))
  return pod.setLabel groupIndexLabelKey (Strconv.itoa groupIndex)

/-- Under `UniquePerReplica` a leader's subdomain is its own name. -/
def setUniquePerReplicaSubdomain (pod : Pod) : Pod :=
  if pod.annotations.found subdomainPolicyAnnotationKey ∧
      pod.annotations.get subdomainPolicyAnnotationKey = SubdomainPolicy.subdomainUniquePerReplica.value then
    { pod with spec := { pod.spec with subdomain := pod.name } }
  else pod

/-- The group key of a leader, and the leader with its label: the hash of
its namespace and name when the label is absent. -/
def addGroupUniqueKey (sha1Hash : String → String) (pod : Pod) : String × Pod :=
  if !pod.labels.found groupUniqueHashLabelKey then
    let groupUniqueKey := genGroupUniqueKey sha1Hash pod.namespaceName pod.name
    (groupUniqueKey, pod.setLabel groupUniqueHashLabelKey groupUniqueKey)
  else (pod.labels.get groupUniqueHashLabelKey, pod)

/-- The exclusive placement of the group, when the leader asks for it. -/
def setGroupExclusiveAffinities (pod : Pod) (groupUniqueKey : String) : Pod :=
  match pod.annotations.lookup exclusiveKeyAnnotationKey with
  | some epKey => setExclusiveAffinities pod groupUniqueKey epKey groupUniqueHashLabelKey
  | none => pod

/-- The leader's subgroup: it always lands in subgroup 0, unless it already
has a subgroup label or is excluded from the subgroups. -/
def addLeaderSubGroupLabels (sha1Hash : String → String) (pod : Pod) : Pod :=
  let subGroupPolicyType := pod.annotations.get subGroupPolicyTypeAnnotationKey
  if pod.annotations.found subGroupSizeAnnotationKey ∧ pod.labels.get subGroupIndexLabelKey = "" ∧
      subGroupPolicyType ≠ SubGroupPolicyType.subGroupPolicyTypeLeaderExcluded.value then
    setSubGroupLabels sha1Hash pod "0" pod.name
  else pod

/-- The leader branch of `PodWebhook.Default`. -/
def podWebhookDefaultLeader (sha1Hash : String → String) (pod : Pod) : Except Failure Pod := do
  let pod ← addGroupIndexLabel pod
  let pod := setUniquePerReplicaSubdomain pod
  let (groupUniqueKey, pod) := addGroupUniqueKey sha1Hash pod
  let pod := setGroupExclusiveAffinities pod groupUniqueKey
  return addLeaderSubGroupLabels sha1Hash pod

/-- The worker branch of `PodWebhook.Default`. -/
def podWebhookDefaultWorker (sha1Hash : String → String) (podCount : Int) (pod : Pod) : Except Failure Pod := do
  let workerIndex := (getParentNameAndOrdinal pod.name).2
  if workerIndex = -1 then throw (.error ("parsing pod ordinal for pod " ++ pod.name))
  let pod := pod.setLabel workerIndexLabelKey (Strconv.itoa workerIndex)
  match pod.annotations.lookup subGroupSizeAnnotationKey with
  | some subGroupSize =>
    if pod.labels.get subGroupIndexLabelKey = "" then
      let subGroupSizeInt ← liftError (Strconv.atoi subGroupSize)
      let leaderName := pod.annotations.get leaderPodNameAnnotationKey
      let subGroupIndexKey ← liftPanic (getSubGroupIndex podCount subGroupSizeInt workerIndex)
      return setSubGroupLabels sha1Hash pod subGroupIndexKey leaderName
    return pod
  | none => return pod

/-- `PodWebhook.Default`. Pods outside a LeaderWorkerSet are left alone. -/
def podWebhookDefault (sha1Hash : String → String) (pod : Pod) : Except Failure Pod := do
  if !pod.labels.found setNameLabelKey then return pod
  let some size := pod.annotations.lookup sizeAnnotationKey
    | throw (.error ("size annotation is unexpectedly missing for pod " ++ pod.name))
  let podCount ← liftError (Strconv.atoi size)
  let pod ←
    if leaderPod pod then podWebhookDefaultLeader sha1Hash pod
    else podWebhookDefaultWorker sha1Hash podCount pod
  let pod ← if podRequestsTPUs pod.spec then addTPUVariables pod podCount else pure pod
  liftError (addLWSVariables pod)

/-! ## What each step writes

Every step of the webhook writes some labels, the subdomain or the placement
terms, and nothing else; the annotations and the name never change.
-/

@[simp] theorem Pod.setLabel_labels (pod : Pod) (key value : String) :
    (pod.setLabel key value).labels = pod.labels.set key value := rfl

@[simp] theorem Pod.setLabel_annotations (pod : Pod) (key value : String) :
    (pod.setLabel key value).annotations = pod.annotations := rfl

@[simp] theorem Pod.setLabel_name (pod : Pod) (key value : String) : (pod.setLabel key value).name = pod.name := rfl

@[simp] theorem Pod.setLabel_spec (pod : Pod) (key value : String) : (pod.setLabel key value).spec = pod.spec := rfl

@[simp] theorem setExclusiveAffinities_labels (pod : Pod) (groupUniqueKey topologyKey podAffinityKey : String) :
    (setExclusiveAffinities pod groupUniqueKey topologyKey podAffinityKey).labels = pod.labels := by
  unfold setExclusiveAffinities
  split <;> rfl

@[simp] theorem setExclusiveAffinities_annotations (pod : Pod) (groupUniqueKey topologyKey podAffinityKey : String) :
    (setExclusiveAffinities pod groupUniqueKey topologyKey podAffinityKey).annotations = pod.annotations := by
  unfold setExclusiveAffinities
  split <;> rfl

@[simp] theorem setExclusiveAffinities_name (pod : Pod) (groupUniqueKey topologyKey podAffinityKey : String) :
    (setExclusiveAffinities pod groupUniqueKey topologyKey podAffinityKey).name = pod.name := by
  unfold setExclusiveAffinities
  split <;> rfl

@[simp] theorem setExclusiveAffinities_subdomain (pod : Pod) (groupUniqueKey topologyKey podAffinityKey : String) :
    (setExclusiveAffinities pod groupUniqueKey topologyKey podAffinityKey).spec.subdomain = pod.spec.subdomain := by
  unfold setExclusiveAffinities
  split <;> rfl

theorem setExclusiveAffinities_containers (pod : Pod) (groupUniqueKey topologyKey podAffinityKey : String) :
    (setExclusiveAffinities pod groupUniqueKey topologyKey podAffinityKey).spec.containers = pod.spec.containers ∧
      (setExclusiveAffinities pod groupUniqueKey topologyKey podAffinityKey).spec.initContainers =
        pod.spec.initContainers := by
  unfold setExclusiveAffinities
  split <;> exact ⟨rfl, rfl⟩

/-- The placement test reads only the two lists of terms, an absent list
being an empty one. -/
theorem exclusiveAffinityApplied_eq (pod : Pod) (topologyKey : String) :
    exclusiveAffinityApplied pod topologyKey =
      ((PodAffinity.terms (pod.spec.affinity.bind Affinity.podAffinity)).any (·.topologyKey == topologyKey) &&
        (PodAffinity.terms (pod.spec.affinity.bind Affinity.podAntiAffinity)).any (·.topologyKey == topologyKey)) := by
  rcases pod with ⟨_, _, _, _, ⟨_, affinity, _, _⟩⟩
  rcases affinity with _ | ⟨_ | podAffinity, _ | podAntiAffinity⟩ <;>
    simp [exclusiveAffinityApplied, PodAffinity.terms]

/-- **What the placement step adds.** After it, the terms for its own
topology are there, and those for every other topology are as before. When
nothing is written, the step's own topology was already placed. -/
@[simp] theorem exclusiveAffinityApplied_setExclusiveAffinities (pod : Pod)
    (groupUniqueKey topologyKey podAffinityKey other : String) :
    exclusiveAffinityApplied (setExclusiveAffinities pod groupUniqueKey topologyKey podAffinityKey) other =
      (exclusiveAffinityApplied pod other || other == topologyKey) := by
  unfold setExclusiveAffinities
  split
  case isTrue applied =>
    by_cases same : other = topologyKey
    · simp [same, applied]
    · simp [same]
  case isFalse =>
    have absent : ∀ affinity : Option Affinity,
        (affinity.getD ⟨none, none⟩).podAffinity = affinity.bind Affinity.podAffinity ∧
          (affinity.getD ⟨none, none⟩).podAntiAffinity = affinity.bind Affinity.podAntiAffinity := by
      intro affinity
      cases affinity <;> simp
    rw [exclusiveAffinityApplied_eq, exclusiveAffinityApplied_eq]
    simp only [Option.bind_some, PodAffinity.terms, Option.map_some, Option.getD_some, List.any_append,
      List.any_cons, List.any_nil, Bool.or_false, exclusiveAffinityTerm, exclusiveAntiAffinityTerm,
      (absent _).1, (absent _).2]
    by_cases same : other = topologyKey
    · simp [same]
    · simp [beq_false_of_ne same, beq_false_of_ne (Ne.symm same)]

@[simp] theorem setSubGroupLabels_labels (sha1Hash : String → String) (pod : Pod) (subGroupIndex groupName : String) :
    (setSubGroupLabels sha1Hash pod subGroupIndex groupName).labels =
      (pod.labels.set subGroupIndexLabelKey subGroupIndex).set subGroupUniqueHashLabelKey
        (genGroupUniqueKey sha1Hash groupName subGroupIndex) := by
  unfold setSubGroupLabels
  dsimp only
  split <;> simp

@[simp] theorem setSubGroupLabels_annotations (sha1Hash : String → String) (pod : Pod)
    (subGroupIndex groupName : String) :
    (setSubGroupLabels sha1Hash pod subGroupIndex groupName).annotations = pod.annotations := by
  unfold setSubGroupLabels
  dsimp only
  split <;> simp

@[simp] theorem setUniquePerReplicaSubdomain_labels (pod : Pod) :
    (setUniquePerReplicaSubdomain pod).labels = pod.labels := by
  unfold setUniquePerReplicaSubdomain
  split <;> rfl

@[simp] theorem setUniquePerReplicaSubdomain_annotations (pod : Pod) :
    (setUniquePerReplicaSubdomain pod).annotations = pod.annotations := by
  unfold setUniquePerReplicaSubdomain
  split <;> rfl

@[simp] theorem addGroupUniqueKey_annotations (sha1Hash : String → String) (pod : Pod) :
    (addGroupUniqueKey sha1Hash pod).2.annotations = pod.annotations := by
  unfold addGroupUniqueKey
  split <;> rfl

@[simp] theorem setGroupExclusiveAffinities_labels (pod : Pod) (groupUniqueKey : String) :
    (setGroupExclusiveAffinities pod groupUniqueKey).labels = pod.labels := by
  unfold setGroupExclusiveAffinities
  split <;> simp

@[simp] theorem setGroupExclusiveAffinities_annotations (pod : Pod) (groupUniqueKey : String) :
    (setGroupExclusiveAffinities pod groupUniqueKey).annotations = pod.annotations := by
  unfold setGroupExclusiveAffinities
  split <;> simp

/-- The group key step writes only the group key label. -/
theorem addGroupUniqueKey_lookup_of_ne (sha1Hash : String → String) (pod : Pod) (key : String)
    (different : key ≠ groupUniqueHashLabelKey) :
    (addGroupUniqueKey sha1Hash pod).2.labels.lookup key = pod.labels.lookup key := by
  unfold addGroupUniqueKey
  split <;> simp [different]

/-- The group index step leaves a pod that carries the label as it is. -/
theorem addGroupIndexLabel_of_found {pod : Pod} (present : pod.labels.found groupIndexLabelKey = true) :
    addGroupIndexLabel pod = .ok pod := by
  rw [addGroupIndexLabel, if_pos present]
  rfl

/-- What a successful group index step did: nothing, on a pod that carries
the label, or write the ordinal of the pod's name. -/
theorem addGroupIndexLabel_cases {pod indexed : Pod} (added : addGroupIndexLabel pod = .ok indexed) :
    (pod.labels.found groupIndexLabelKey = true ∧ indexed = pod) ∨
      indexed = pod.setLabel groupIndexLabelKey (Strconv.itoa (getParentNameAndOrdinal pod.name).2) := by
  unfold addGroupIndexLabel at added
  by_cases present : pod.labels.found groupIndexLabelKey
  · simp only [present, if_true] at added
    cases added
    exact .inl ⟨present, rfl⟩
  · by_cases unparsed : (getParentNameAndOrdinal pod.name).2 = -1
    · simp only [present, unparsed] at added
      cases added
    · simp only [present, unparsed] at added
      cases added
      exact .inr rfl

/-- A successful group index step keeps the annotations and writes only the
group index label. -/
theorem addGroupIndexLabel_eq_ok {pod indexed : Pod} (added : addGroupIndexLabel pod = .ok indexed) :
    indexed.annotations = pod.annotations ∧ indexed.name = pod.name ∧
      ∀ key, key ≠ groupIndexLabelKey → indexed.labels.lookup key = pod.labels.lookup key := by
  rcases addGroupIndexLabel_cases added with ⟨-, rfl⟩ | rfl
  · exact ⟨rfl, rfl, fun _ _ => rfl⟩
  · exact ⟨rfl, rfl, fun key different => by simp [different]⟩

/-- The leader branch is its group index step followed by steps that
cannot fail. -/
theorem podWebhookDefaultLeader_eq (sha1Hash : String → String) (pod : Pod) :
    podWebhookDefaultLeader sha1Hash pod = (addGroupIndexLabel pod).map fun indexed =>
      addLeaderSubGroupLabels sha1Hash
        (setGroupExclusiveAffinities (addGroupUniqueKey sha1Hash (setUniquePerReplicaSubdomain indexed)).2
          (addGroupUniqueKey sha1Hash (setUniquePerReplicaSubdomain indexed)).1) := by
  unfold podWebhookDefaultLeader
  cases addGroupIndexLabel pod <;> rfl

/-- The leader's subgroup label after its subgroup step. -/
theorem addLeaderSubGroupLabels_lookup (sha1Hash : String → String) (pod : Pod) :
    (addLeaderSubGroupLabels sha1Hash pod).labels.lookup subGroupIndexLabelKey =
      if pod.annotations.found subGroupSizeAnnotationKey ∧ pod.labels.get subGroupIndexLabelKey = "" ∧
          pod.annotations.get subGroupPolicyTypeAnnotationKey ≠
            SubGroupPolicyType.subGroupPolicyTypeLeaderExcluded.value then some "0"
      else pod.labels.lookup subGroupIndexLabelKey := by
  have different : subGroupIndexLabelKey ≠ subGroupUniqueHashLabelKey := by decide
  unfold addLeaderSubGroupLabels
  dsimp only
  split_ifs <;> simp [different]

/-- **The leader's subgroup label.** A successful leader branch writes
subgroup `0` exactly when the pod carries a subgroup size, has no subgroup
label yet, and its policy type is not `LeaderExcluded`. -/
theorem podWebhookDefaultLeader_subGroupIndex {sha1Hash : String → String} {pod leader : Pod}
    (defaulted : podWebhookDefaultLeader sha1Hash pod = .ok leader) :
    leader.labels.lookup subGroupIndexLabelKey =
      if pod.annotations.found subGroupSizeAnnotationKey ∧ pod.labels.get subGroupIndexLabelKey = "" ∧
          pod.annotations.get subGroupPolicyTypeAnnotationKey ≠
            SubGroupPolicyType.subGroupPolicyTypeLeaderExcluded.value then some "0"
      else pod.labels.lookup subGroupIndexLabelKey := by
  rw [podWebhookDefaultLeader_eq] at defaulted
  cases indexing : addGroupIndexLabel pod with
  | error failure =>
    rw [indexing] at defaulted
    cases defaulted
  | ok indexed =>
    rw [indexing] at defaulted
    cases defaulted
    obtain ⟨sameAnnotations, -, sameLabels⟩ := addGroupIndexLabel_eq_ok indexing
    have subGroupLabel : indexed.labels.lookup subGroupIndexLabelKey = pod.labels.lookup subGroupIndexLabelKey :=
      sameLabels _ (by decide)
    have keyed := addGroupUniqueKey_lookup_of_ne sha1Hash (setUniquePerReplicaSubdomain indexed)
      subGroupIndexLabelKey (by decide)
    rw [addLeaderSubGroupLabels_lookup]
    simp only [StringMap.get_eq, setGroupExclusiveAffinities_labels, setGroupExclusiveAffinities_annotations,
      addGroupUniqueKey_annotations, setUniquePerReplicaSubdomain_annotations, sameAnnotations, keyed,
      setUniquePerReplicaSubdomain_labels, subGroupLabel]
    exact if_congr Iff.rfl rfl rfl

end Lws
