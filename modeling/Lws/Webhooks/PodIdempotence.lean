import Lws.Webhooks.Pod

/-!
# Calling the pod webhook again

Kubernetes may call a mutating webhook again on the pod it has just returned.
Every step of `PodWebhook.Default` first tests whether it has been applied:
a label's presence, an empty subgroup label, placement terms for the
topology, a TPU variable in the container, a variable's name in the list.
Each test holds of the step's own output and survives the steps after it, so
a second call returns its input unchanged, provided it takes the branch the
first call took.

The branch is read from the worker index label. A pod without one is
completed as a worker, and the worker branch writes the index from the pod's
name; a pod whose name ends in `-0` therefore goes the worker way on the
first call and the leader way on the second, where it gets a group key.
-/

namespace Lws

/-! ## The steps after the branch write only containers -/

/-- Two pods that agree in everything but their containers' lists. -/
structure SameOutsideContainers (pod other : Pod) : Prop where
  name : other.name = pod.name
  labels : other.labels = pod.labels
  annotations : other.annotations = pod.annotations
  subdomain : other.spec.subdomain = pod.spec.subdomain
  affinity : other.spec.affinity = pod.spec.affinity

theorem SameOutsideContainers.refl (pod : Pod) : SameOutsideContainers pod pod := ⟨rfl, rfl, rfl, rfl, rfl⟩

theorem SameOutsideContainers.trans {pod middle other : Pod} (first : SameOutsideContainers pod middle)
    (second : SameOutsideContainers middle other) : SameOutsideContainers pod other :=
  ⟨second.name.trans first.name, second.labels.trans first.labels, second.annotations.trans first.annotations,
    second.subdomain.trans first.subdomain, second.affinity.trans first.affinity⟩

theorem exclusiveAffinityApplied_of_sameOutsideContainers {pod other : Pod} (same : SameOutsideContainers pod other)
    (topologyKey : String) : exclusiveAffinityApplied other topologyKey = exclusiveAffinityApplied pod topologyKey := by
  rw [exclusiveAffinityApplied_eq, exclusiveAffinityApplied_eq, same.affinity]

theorem sameOutsideContainers_appendTPUEnvVars (pod : Pod) (ref : ContainerRef) (vars : List EnvVar) :
    SameOutsideContainers pod (appendTPUEnvVars pod ref vars) := by
  cases ref <;> exact ⟨rfl, rfl, rfl, rfl, rfl⟩

theorem sameOutsideContainers_injectEnvVars (pod : Pod) (firstEnv : EnvVar) (e : List EnvVar) :
    SameOutsideContainers pod (injectEnvVars pod firstEnv e) := ⟨rfl, rfl, rfl, rfl, rfl⟩

/-! ## The TPU step -/

/-- The TPU step has nothing left to write: the container it would write to
already has a TPU variable, or no container requests TPUs. -/
def TpuApplied (pod : Pod) : Prop :=
  ∀ ref, getContainerRequestingTPUs pod.spec = some ref →
    ∀ container, pod.spec.container? ref = some container → hasTPUVariables container = true

/-- A pod that requests no TPUs has nothing for the TPU step. -/
theorem tpuApplied_of_not_podRequestsTPUs {pod : Pod} (requestsNone : podRequestsTPUs pod.spec = false) :
    TpuApplied pod := by
  intro ref requesting
  have requests : podRequestsTPUs pod.spec = true := podRequestsTPUs_of_getContainerRequestingTPUs requesting
  rw [requestsNone] at requests
  cases requests

/-- The TPU step finds the container it would write to and has nothing to
write there. -/
theorem tpuApplied_of_located {pod : Pod} {ref : ContainerRef}
    (requesting : getContainerRequestingTPUs pod.spec = some ref)
    (settled : ∀ container, pod.spec.container? ref = some container → hasTPUVariables container = true) :
    TpuApplied pod := by
  intro found foundRequesting
  rw [requesting] at foundRequesting
  cases foundRequesting
  exact settled

/-- The TPU step finds a container that already has the variables. -/
theorem tpuApplied_of_hasTPUVariables {pod : Pod} {ref : ContainerRef} {container : Container}
    (requesting : getContainerRequestingTPUs pod.spec = some ref)
    (located : pod.spec.container? ref = some container) (applied : hasTPUVariables container = true) :
    TpuApplied pod := by
  refine tpuApplied_of_located requesting fun other otherLocated => ?_
  rw [located] at otherLocated
  cases otherLocated
  exact applied

theorem addTPUVariablesSubGroup_of_tpuApplied {pod : Pod} (applied : TpuApplied pod) :
    addTPUVariablesSubGroup pod = .ok pod := by
  unfold addTPUVariablesSubGroup
  split
  case h_1 ref requesting =>
    split
    case h_1 container located =>
      rw [if_pos (applied ref requesting container located)]
      rfl
    case h_2 => rfl
  case h_2 => rfl

theorem addTPUVariables_of_tpuApplied {pod : Pod} (applied : TpuApplied pod) (size : Int) :
    addTPUVariables pod size = .ok pod := by
  unfold addTPUVariables
  split
  case isTrue => simp [addTPUVariablesSubGroup_of_tpuApplied applied]
  case isFalse =>
    split
    case h_1 ref requesting =>
      split
      case h_1 container located =>
        rw [if_pos (applied ref requesting container located)]
        rfl
      case h_2 => rfl
    case h_2 => rfl

/-- Appending the TPU variables to the container that requests TPUs leaves
nothing for the TPU step. -/
theorem tpuApplied_appendTPUEnvVars {pod : Pod} {ref : ContainerRef}
    (requesting : getContainerRequestingTPUs pod.spec = some ref) (hostnames : List String) (workerId : Int)
    (leaderName : String) : TpuApplied (appendTPUEnvVars pod ref (tpuEnvVars hostnames workerId leaderName)) := by
  have stillRequesting := getContainerRequestingTPUs_modifyContainer pod.spec
    (f := fun c => { c with env := c.env ++ tpuEnvVars hostnames workerId leaderName }) (fun _ => rfl) ref
  refine tpuApplied_of_located (stillRequesting.trans requesting) fun container located => ?_
  rw [appendTPUEnvVars, PodSpec.container?_modifyContainer, Option.map_eq_some_iff] at located
  obtain ⟨original, -, rfl⟩ := located
  simp [hasTPUVariables, tpuEnvVars]

/-- **What a successful TPU step did.** Either there was nothing to write and
the pod is returned as it is, or the three variables were appended to the
container that requests TPUs. The parsed values, the worker id and the
hostnames only feed the append that ends every path that returns. -/
theorem addTPUVariablesSubGroup_eq_ok {pod updated : Pod} (succeeded : addTPUVariablesSubGroup pod = .ok updated) :
    (updated = pod ∧ TpuApplied pod) ∨
      ∃ ref hostnames workerId leaderName, getContainerRequestingTPUs pod.spec = some ref ∧
        updated = appendTPUEnvVars pod ref (tpuEnvVars hostnames workerId leaderName) := by
  unfold addTPUVariablesSubGroup at succeeded
  split at succeeded
  case h_2 none =>
    cases succeeded
    exact .inl ⟨rfl, fun ref requesting => absurd requesting (none ref)⟩
  case h_1 ref requesting =>
    split at succeeded
    case h_2 missing =>
      cases succeeded
      exact .inl ⟨rfl, tpuApplied_of_located requesting fun container located => absurd located (missing container)⟩
    case h_1 container located =>
      split at succeeded
      case isTrue applied =>
        cases succeeded
        exact .inl ⟨rfl, tpuApplied_of_hasTPUVariables requesting located applied⟩
      case isFalse =>
        simp only [bind_eq_ok, apply_ite (· = Except.ok updated), pure_eq_ok, throw_ne_ok] at succeeded
        refine .inr ⟨ref, ?_⟩
        grind

theorem addTPUVariables_eq_ok {pod updated : Pod} {size : Int} (succeeded : addTPUVariables pod size = .ok updated) :
    (updated = pod ∧ TpuApplied pod) ∨
      ∃ ref hostnames workerId leaderName, getContainerRequestingTPUs pod.spec = some ref ∧
        updated = appendTPUEnvVars pod ref (tpuEnvVars hostnames workerId leaderName) := by
  unfold addTPUVariables at succeeded
  split at succeeded
  case isTrue => exact addTPUVariablesSubGroup_eq_ok succeeded
  case isFalse =>
    split at succeeded
    case h_2 none =>
      cases succeeded
      exact .inl ⟨rfl, fun ref requesting => absurd requesting (none ref)⟩
    case h_1 ref requesting =>
      split at succeeded
      case h_2 missing =>
        cases succeeded
        exact .inl ⟨rfl, tpuApplied_of_located requesting fun container located => absurd located (missing container)⟩
      case h_1 container located =>
        split at succeeded
        case isTrue applied =>
          cases succeeded
          exact .inl ⟨rfl, tpuApplied_of_hasTPUVariables requesting located applied⟩
        case isFalse =>
          simp only [bind_eq_ok, apply_ite (· = Except.ok updated), pure_eq_ok, throw_ne_ok] at succeeded
          refine .inr ⟨ref, ?_⟩
          grind

/-- **The TPU step settles itself.** Whatever the TPU step of the webhook
returns has nothing left for it, and differs from its input only in the
containers. -/
theorem tpuStep_applied {pod updated : Pod} {size : Int}
    (succeeded : (if podRequestsTPUs pod.spec then addTPUVariables pod size else pure pod) = .ok updated) :
    SameOutsideContainers pod updated ∧ TpuApplied updated := by
  split at succeeded
  case isTrue =>
    rcases addTPUVariables_eq_ok succeeded with ⟨rfl, applied⟩ | ⟨ref, hostnames, workerId, leaderName, requesting, rfl⟩
    · exact ⟨.refl _, applied⟩
    · exact ⟨sameOutsideContainers_appendTPUEnvVars pod ref _,
        tpuApplied_appendTPUEnvVars requesting hostnames workerId leaderName⟩
  case isFalse requestsNone =>
    cases succeeded
    exact ⟨.refl pod, tpuApplied_of_not_podRequestsTPUs (by simpa using requestsNone)⟩

/-! ## The environment step -/

theorem getContainerRequestingTPUs_injectEnvVars (pod : Pod) (firstEnv : EnvVar) (e : List EnvVar) :
    getContainerRequestingTPUs (injectEnvVars pod firstEnv e).spec = getContainerRequestingTPUs pod.spec := by
  simp only [getContainerRequestingTPUs, injectEnvVars, List.findIdx?_map]
  rfl

theorem container?_injectEnvVars (pod : Pod) (firstEnv : EnvVar) (e : List EnvVar) (ref : ContainerRef) :
    (injectEnvVars pod firstEnv e).spec.container? ref =
      (pod.spec.container? ref).map (addEnvVarsIfNotExists · firstEnv e) := by
  cases ref <;> simp [PodSpec.container?, injectEnvVars]

/-- The injected variables keep a TPU variable of the container, since none
of them is one. -/
theorem hasTPUVariables_addEnvVarsIfNotExists {c : Container} (applied : hasTPUVariables c = true)
    {firstEnv : EnvVar} {e : List EnvVar}
    (fresh : ∀ name ∈ (firstEnv :: e).map EnvVar.name, (name == tpuWorkerHostNames || name == tpuWorkerId) = false) :
    hasTPUVariables (addEnvVarsIfNotExists c firstEnv e) = true := by
  rw [hasTPUVariables, List.any_eq_true] at applied ⊢
  obtain ⟨var, member, isTpu⟩ := applied
  have unseen : var.name ∉ (firstEnv :: e).map EnvVar.name := by
    intro seen
    rw [fresh _ seen] at isTpu
    cases isTpu
  obtain ⟨kept, keptMember, sameName⟩ :=
    List.mem_map.mp (KeyedList.mem_map_firstByKey EnvVar.name (List.mem_map_of_mem member) unseen)
  refine ⟨kept, ?_, by rw [sameName]; exact isTpu⟩
  rw [addEnvVarsIfNotExists_env]
  exact List.mem_append_right _ keptMember

/-- **What the environment step keeps.** A successful run writes only the
containers, keeps a TPU variable where there was one, and leaves nothing for
a second run. -/
theorem addLWSVariables_settled {pod updated : Pod} (succeeded : addLWSVariables pod = .ok updated) :
    SameOutsideContainers pod updated ∧ (TpuApplied pod → TpuApplied updated) ∧
      addLWSVariables updated = .ok updated := by
  obtain ⟨firstEnv, e, leading, rest, rfl, again⟩ := addLWSVariables_eq_ok succeeded
  have fresh : ∀ name ∈ (firstEnv :: e).map EnvVar.name,
      (name == tpuWorkerHostNames || name == tpuWorkerId) = false := by
    rw [List.map_cons, leading, rest]
    decide
  refine ⟨sameOutsideContainers_injectEnvVars pod firstEnv e, ?_, by rw [again, injectEnvVars_idem]⟩
  intro applied ref requesting container located
  rw [getContainerRequestingTPUs_injectEnvVars] at requesting
  rw [container?_injectEnvVars, Option.map_eq_some_iff] at located
  obtain ⟨original, present, rfl⟩ := located
  exact hasTPUVariables_addEnvVarsIfNotExists (applied ref requesting original present) fresh

/-! ## The branches

After its first step, each step of a branch adds labels other than the worker
index and placement terms, and keeps the name, the annotations and the
subdomain; so every test a step makes true stays true to the end.
-/

/-- What the steps of a branch keep and add. -/
structure Extends (pod next : Pod) : Prop where
  name : next.name = pod.name
  annotations : next.annotations = pod.annotations
  subdomain : next.spec.subdomain = pod.spec.subdomain
  found : ∀ key, pod.labels.found key = true → next.labels.found key = true
  workerIndex : next.labels.lookup workerIndexLabelKey = pod.labels.lookup workerIndexLabelKey
  placed : ∀ topologyKey, exclusiveAffinityApplied pod topologyKey = true →
    exclusiveAffinityApplied next topologyKey = true
  containers : next.spec.containers = pod.spec.containers ∧ next.spec.initContainers = pod.spec.initContainers

theorem Extends.refl (pod : Pod) : Extends pod pod :=
  ⟨rfl, rfl, rfl, fun _ present => present, rfl, fun _ placed => placed, rfl, rfl⟩

theorem Extends.trans {pod middle next : Pod} (first : Extends pod middle) (second : Extends middle next) :
    Extends pod next :=
  ⟨second.name.trans first.name, second.annotations.trans first.annotations,
    second.subdomain.trans first.subdomain, fun key present => second.found key (first.found key present),
    second.workerIndex.trans first.workerIndex, fun key placed => second.placed key (first.placed key placed),
    second.containers.1.trans first.containers.1, second.containers.2.trans first.containers.2⟩

theorem extends_setLabel (pod : Pod) {key : String} (value : String) (other : key ≠ workerIndexLabelKey) :
    Extends pod (pod.setLabel key value) :=
  ⟨rfl, rfl, rfl, fun _ present => StringMap.found_set_of_found present key value,
    StringMap.lookup_set_of_ne _ value (Ne.symm other), fun _ placed => placed, rfl, rfl⟩

theorem extends_setExclusiveAffinities (pod : Pod) (groupUniqueKey topologyKey podAffinityKey : String) :
    Extends pod (setExclusiveAffinities pod groupUniqueKey topologyKey podAffinityKey) :=
  ⟨by simp, by simp, by simp, fun _ present => by simpa using present, by simp, fun _ placed => by simp [placed],
    setExclusiveAffinities_containers pod groupUniqueKey topologyKey podAffinityKey⟩

theorem extends_setSubGroupLabels (sha1Hash : String → String) (pod : Pod) (subGroupIndex groupName : String) :
    Extends pod (setSubGroupLabels sha1Hash pod subGroupIndex groupName) := by
  have labelled : Extends pod ((pod.setLabel subGroupIndexLabelKey subGroupIndex).setLabel
      subGroupUniqueHashLabelKey (genGroupUniqueKey sha1Hash groupName subGroupIndex)) :=
    (extends_setLabel pod _ (by decide)).trans (extends_setLabel _ _ (by decide))
  unfold setSubGroupLabels
  dsimp only
  split
  · exact labelled.trans (extends_setExclusiveAffinities _ _ _ _)
  · exact labelled

theorem extends_addGroupUniqueKey (sha1Hash : String → String) (pod : Pod) :
    Extends pod (addGroupUniqueKey sha1Hash pod).2 := by
  unfold addGroupUniqueKey
  split
  · exact extends_setLabel pod _ (by decide)
  · exact .refl pod

theorem extends_setGroupExclusiveAffinities (pod : Pod) (groupUniqueKey : String) :
    Extends pod (setGroupExclusiveAffinities pod groupUniqueKey) := by
  unfold setGroupExclusiveAffinities
  split
  · exact extends_setExclusiveAffinities _ _ _ _
  · exact .refl pod

theorem extends_addLeaderSubGroupLabels (sha1Hash : String → String) (pod : Pod) :
    Extends pod (addLeaderSubGroupLabels sha1Hash pod) := by
  unfold addLeaderSubGroupLabels
  dsimp only
  split
  · exact extends_setSubGroupLabels sha1Hash pod _ _
  · exact .refl pod

/-! ## The leader branch -/

/-- The condition under which a leader's subdomain becomes its name. -/
def UniquePerReplica (pod : Pod) : Prop :=
  pod.annotations.found subdomainPolicyAnnotationKey = true ∧
    pod.annotations.get subdomainPolicyAnnotationKey = SubdomainPolicy.subdomainUniquePerReplica.value

/-- The condition under which the leader's subgroup step writes. -/
def LeaderSubGroupPending (pod : Pod) : Prop :=
  pod.annotations.found subGroupSizeAnnotationKey = true ∧ pod.labels.get subGroupIndexLabelKey = "" ∧
    pod.annotations.get subGroupPolicyTypeAnnotationKey ≠ SubGroupPolicyType.subGroupPolicyTypeLeaderExcluded.value

/-- A leader on which the leader branch has nothing left to write. -/
structure LeaderApplied (pod : Pod) : Prop where
  indexed : pod.labels.found groupIndexLabelKey = true
  named : UniquePerReplica pod → pod.spec.subdomain = pod.name
  keyed : pod.labels.found groupUniqueHashLabelKey = true
  placed : ∀ epKey, pod.annotations.lookup exclusiveKeyAnnotationKey = some epKey →
    exclusiveAffinityApplied pod epKey = true
  subGrouped : ¬LeaderSubGroupPending pod

theorem LeaderApplied.of_sameOutsideContainers {pod other : Pod} (applied : LeaderApplied pod)
    (same : SameOutsideContainers pod other) : LeaderApplied other where
  indexed := same.labels ▸ applied.indexed
  named := by
    rw [UniquePerReplica, same.annotations, same.subdomain, same.name]
    exact applied.named
  keyed := same.labels ▸ applied.keyed
  placed := by
    intro epKey
    rw [same.annotations, exclusiveAffinityApplied_of_sameOutsideContainers same]
    exact applied.placed epKey
  subGrouped := by
    rw [LeaderSubGroupPending, same.annotations, same.labels]
    exact applied.subGrouped

theorem setUniquePerReplicaSubdomain_of_named {pod : Pod} (named : UniquePerReplica pod → pod.spec.subdomain = pod.name) :
    setUniquePerReplicaSubdomain pod = pod := by
  unfold setUniquePerReplicaSubdomain
  split
  case isTrue unique =>
    obtain ⟨name, namespaceName, labels, annotations, spec⟩ := pod
    have same : spec.subdomain = name := named unique
    rw [← same]
  case isFalse => rfl

theorem setGroupExclusiveAffinities_of_placed {pod : Pod} (groupUniqueKey : String)
    (placed : ∀ epKey, pod.annotations.lookup exclusiveKeyAnnotationKey = some epKey →
      exclusiveAffinityApplied pod epKey = true) :
    setGroupExclusiveAffinities pod groupUniqueKey = pod := by
  unfold setGroupExclusiveAffinities
  split
  case h_1 epKey present => simp [setExclusiveAffinities, placed epKey present]
  case h_2 => rfl

/-- A leader with nothing left to write is returned as it is. -/
theorem podWebhookDefaultLeader_of_leaderApplied (sha1Hash : String → String) {pod : Pod}
    (applied : LeaderApplied pod) : podWebhookDefaultLeader sha1Hash pod = .ok pod := by
  have indexed : addGroupIndexLabel pod = .ok pod := by simp [addGroupIndexLabel, applied.indexed]
  have keyed : addGroupUniqueKey sha1Hash pod = (pod.labels.get groupUniqueHashLabelKey, pod) := by
    simp [addGroupUniqueKey, applied.keyed]
  have subGrouped : addLeaderSubGroupLabels sha1Hash pod = pod := if_neg applied.subGrouped
  simp only [podWebhookDefaultLeader, indexed, ok_bind, setUniquePerReplicaSubdomain_of_named applied.named, keyed,
    setGroupExclusiveAffinities_of_placed _ applied.placed, subGrouped]
  rfl

theorem addGroupIndexLabel_applied {pod indexed : Pod} (added : addGroupIndexLabel pod = .ok indexed) :
    Extends pod indexed ∧ indexed.labels.found groupIndexLabelKey = true := by
  rcases addGroupIndexLabel_cases added with ⟨present, rfl⟩ | rfl
  · exact ⟨.refl _, present⟩
  · exact ⟨extends_setLabel pod _ (by decide), by simp [StringMap.found_eq]⟩

theorem setUniquePerReplicaSubdomain_named (pod : Pod) (unique : UniquePerReplica (setUniquePerReplicaSubdomain pod)) :
    (setUniquePerReplicaSubdomain pod).spec.subdomain = (setUniquePerReplicaSubdomain pod).name := by
  rw [UniquePerReplica, setUniquePerReplicaSubdomain_annotations] at unique
  unfold setUniquePerReplicaSubdomain
  rw [if_pos unique]

theorem addGroupUniqueKey_found (sha1Hash : String → String) (pod : Pod) :
    (addGroupUniqueKey sha1Hash pod).2.labels.found groupUniqueHashLabelKey = true := by
  unfold addGroupUniqueKey
  split
  case isTrue => simp [StringMap.found_eq]
  case isFalse present => simpa using present

theorem setGroupExclusiveAffinities_placed (pod : Pod) {groupUniqueKey epKey : String}
    (present : pod.annotations.lookup exclusiveKeyAnnotationKey = some epKey) :
    exclusiveAffinityApplied (setGroupExclusiveAffinities pod groupUniqueKey) epKey = true := by
  simp [setGroupExclusiveAffinities, present]

theorem addLeaderSubGroupLabels_settled (sha1Hash : String → String) (pod : Pod) :
    ¬LeaderSubGroupPending (addLeaderSubGroupLabels sha1Hash pod) := by
  unfold addLeaderSubGroupLabels
  dsimp only
  split
  case isTrue =>
    have different : subGroupIndexLabelKey ≠ subGroupUniqueHashLabelKey := by decide
    simp [LeaderSubGroupPending, StringMap.get_eq, different]
  case isFalse pending => exact pending

/-- **The leader branch settles itself.** A successful leader branch returns
a leader with nothing left to write, with the annotations, the worker index
and every label of its input. -/
theorem podWebhookDefaultLeader_applied {sha1Hash : String → String} {pod leader : Pod}
    (succeeded : podWebhookDefaultLeader sha1Hash pod = .ok leader) :
    LeaderApplied leader ∧ leader.annotations = pod.annotations ∧
      leader.labels.lookup workerIndexLabelKey = pod.labels.lookup workerIndexLabelKey ∧
      ∀ key, pod.labels.found key = true → leader.labels.found key = true := by
  rw [podWebhookDefaultLeader_eq] at succeeded
  cases indexing : addGroupIndexLabel pod with
  | error failure =>
    rw [indexing] at succeeded
    cases succeeded
  | ok indexed =>
    rw [indexing] at succeeded
    cases succeeded
    obtain ⟨indexedExtends, indexedFound⟩ := addGroupIndexLabel_applied indexing
    set named := setUniquePerReplicaSubdomain indexed
    set keyed := addGroupUniqueKey sha1Hash named
    set placed := setGroupExclusiveAffinities keyed.2 keyed.1
    have toPlaced : Extends keyed.2 placed := extends_setGroupExclusiveAffinities _ _
    have toLeader : Extends placed (addLeaderSubGroupLabels sha1Hash placed) := extends_addLeaderSubGroupLabels _ _
    have fromKeyed : Extends keyed.2 (addLeaderSubGroupLabels sha1Hash placed) := toPlaced.trans toLeader
    have fromNamed : Extends named (addLeaderSubGroupLabels sha1Hash placed) :=
      (extends_addGroupUniqueKey sha1Hash named).trans fromKeyed
    refine ⟨⟨?_, ?_, ?_, ?_, ?_⟩, ?_, ?_, ?_⟩
    · exact fromNamed.found _ (by simpa [named] using indexedFound)
    · intro unique
      rw [UniquePerReplica, fromNamed.annotations] at unique
      rw [fromNamed.subdomain, fromNamed.name]
      exact setUniquePerReplicaSubdomain_named indexed unique
    · exact fromKeyed.found _ (addGroupUniqueKey_found sha1Hash named)
    · intro epKey present
      rw [toLeader.annotations, toPlaced.annotations] at present
      exact toLeader.placed _ (setGroupExclusiveAffinities_placed _ present)
    · exact addLeaderSubGroupLabels_settled sha1Hash placed
    · rw [fromNamed.annotations, setUniquePerReplicaSubdomain_annotations, indexedExtends.annotations]
    · rw [fromNamed.workerIndex, setUniquePerReplicaSubdomain_labels, indexedExtends.workerIndex]
    · intro key present
      apply fromNamed.found key
      rw [setUniquePerReplicaSubdomain_labels]
      exact indexedExtends.found key present

/-! ## The worker branch -/

/-- A worker on which the worker branch has nothing left to write. -/
structure WorkerApplied (pod : Pod) : Prop where
  ordinal : (getParentNameAndOrdinal pod.name).2 ≠ -1
  indexed : pod.labels.lookup workerIndexLabelKey = some (Strconv.itoa (getParentNameAndOrdinal pod.name).2)
  subGrouped : pod.annotations.found subGroupSizeAnnotationKey = true → pod.labels.get subGroupIndexLabelKey ≠ ""

theorem WorkerApplied.of_sameOutsideContainers {pod other : Pod} (applied : WorkerApplied pod)
    (same : SameOutsideContainers pod other) : WorkerApplied other where
  ordinal := same.name ▸ applied.ordinal
  indexed := by
    rw [same.labels, same.name]
    exact applied.indexed
  subGrouped := by
    rw [same.annotations, same.labels]
    exact applied.subGrouped

/-- A worker with nothing left to write is returned as it is. -/
theorem podWebhookDefaultWorker_of_workerApplied (sha1Hash : String → String) (podCount : Int) {pod : Pod}
    (applied : WorkerApplied pod) : podWebhookDefaultWorker sha1Hash podCount pod = .ok pod := by
  have relabelled : pod.setLabel workerIndexLabelKey (Strconv.itoa (getParentNameAndOrdinal pod.name).2) = pod := by
    rw [Pod.setLabel, StringMap.set_of_lookup _ applied.indexed]
  unfold podWebhookDefaultWorker
  simp only [applied.ordinal, relabelled, if_false]
  cases sized : pod.annotations.lookup subGroupSizeAnnotationKey with
  | none => rfl
  | some size =>
    have labelled : pod.labels.get subGroupIndexLabelKey ≠ "" :=
      applied.subGrouped (by simp [StringMap.found_eq, sized])
    simp [labelled]

/-- A computed subgroup label is the text of a number, so it is never empty. -/
theorem getSubGroupIndex_ne_empty {podCount subGroupSize workerIndex : Int} {subGroupIndex : String}
    (computed : getSubGroupIndex podCount subGroupSize workerIndex = some subGroupIndex) : subGroupIndex ≠ "" := by
  unfold getSubGroupIndex at computed
  by_cases zero : subGroupSize = 0
  · simp [zero] at computed
  · simp [remainder?_of_ne _ zero, quotient?_of_ne _ zero] at computed
    split at computed <;>
    · cases computed
      exact Strconv.itoa_ne_empty _

/-- **The worker branch settles itself.** A successful worker branch returns
a worker with nothing left to write, with its input's name, annotations and
every label. Whatever the subgroup step does keeps what the worker index step
wrote. -/
theorem podWebhookDefaultWorker_applied {sha1Hash : String → String} {podCount : Int} {pod worker : Pod}
    (succeeded : podWebhookDefaultWorker sha1Hash podCount pod = .ok worker) :
    WorkerApplied worker ∧ worker.name = pod.name ∧ worker.annotations = pod.annotations ∧
      ∀ key, pod.labels.found key = true → worker.labels.found key = true := by
  unfold podWebhookDefaultWorker at succeeded
  by_cases unparsed : (getParentNameAndOrdinal pod.name).2 = -1
  · simp only [unparsed, if_true] at succeeded
    cases succeeded
  · set labelled := pod.setLabel workerIndexLabelKey (Strconv.itoa (getParentNameAndOrdinal pod.name).2)
    have settled : ∀ next, Extends labelled next →
        (next.annotations.found subGroupSizeAnnotationKey = true → next.labels.get subGroupIndexLabelKey ≠ "") →
        WorkerApplied next ∧ next.name = pod.name ∧ next.annotations = pod.annotations ∧
          ∀ key, pod.labels.found key = true → next.labels.found key = true := by
      intro next grown subGrouped
      refine ⟨⟨?_, ?_, subGrouped⟩, grown.name, grown.annotations, ?_⟩
      · rw [grown.name]
        exact unparsed
      · rw [grown.workerIndex, grown.name]
        simp [labelled]
      · intro key present
        exact grown.found key (StringMap.found_set_of_found present _ _)
    simp only [unparsed, if_false] at succeeded
    split at succeeded
    case h_1 size sized =>
      split at succeeded
      case isTrue unlabelled =>
        obtain ⟨subGroupSizeInt, -, succeeded⟩ := bind_eq_ok.mp succeeded
        obtain ⟨subGroupIndex, computed, succeeded⟩ := bind_eq_ok.mp succeeded
        cases succeeded
        have nonempty : subGroupIndex ≠ "" := getSubGroupIndex_ne_empty (liftPanic_eq_ok.mp computed)
        have different : subGroupIndexLabelKey ≠ subGroupUniqueHashLabelKey := by decide
        refine settled _ (extends_setSubGroupLabels _ _ _ _) fun _ => ?_
        simpa [StringMap.get_eq, different] using nonempty
      case isFalse labelledBefore =>
        cases succeeded
        exact settled labelled (.refl _) fun _ => labelledBefore
    case h_2 unsized =>
      cases succeeded
      refine settled labelled (.refl _) fun found => ?_
      rw [Pod.setLabel_annotations] at unsized
      simp [StringMap.found_eq, labelled, unsized] at found

/-! ## The webhook -/

/-- The leader branch run again on what the first call returned: nothing to
write, and the annotations, the worker index and the labels of the pod the
first call was given. -/
theorem podWebhookDefaultLeader_again {sha1Hash : String → String} {pod branched once : Pod}
    (branching : podWebhookDefaultLeader sha1Hash pod = .ok branched) (same : SameOutsideContainers branched once) :
    podWebhookDefaultLeader sha1Hash once = .ok once ∧
      once.labels.lookup workerIndexLabelKey = pod.labels.lookup workerIndexLabelKey ∧
      once.annotations = pod.annotations ∧ ∀ key, pod.labels.found key = true → once.labels.found key = true := by
  obtain ⟨applied, annotated, workerIndexed, labelsKept⟩ := podWebhookDefaultLeader_applied branching
  refine ⟨podWebhookDefaultLeader_of_leaderApplied sha1Hash (applied.of_sameOutsideContainers same), ?_, ?_, ?_⟩
  · rw [same.labels, workerIndexed]
  · rw [same.annotations, annotated]
  · intro key present
    rw [same.labels]
    exact labelsKept key present

/-- The worker branch run again on what the first call returned: nothing to
write, the worker index of the name, and the annotations and labels of the
pod the first call was given. -/
theorem podWebhookDefaultWorker_again {sha1Hash : String → String} {podCount : Int} {pod branched once : Pod}
    (branching : podWebhookDefaultWorker sha1Hash podCount pod = .ok branched)
    (same : SameOutsideContainers branched once) :
    podWebhookDefaultWorker sha1Hash podCount once = .ok once ∧
      once.labels.lookup workerIndexLabelKey = some (Strconv.itoa (getParentNameAndOrdinal pod.name).2) ∧
      once.annotations = pod.annotations ∧ ∀ key, pod.labels.found key = true → once.labels.found key = true := by
  obtain ⟨applied, named, annotated, labelsKept⟩ := podWebhookDefaultWorker_applied branching
  refine ⟨podWebhookDefaultWorker_of_workerApplied sha1Hash podCount (applied.of_sameOutsideContainers same), ?_, ?_, ?_⟩
  · rw [same.labels, ← named]
    exact applied.indexed
  · rw [same.annotations, annotated]
  · intro key present
    rw [same.labels]
    exact labelsKept key present

/-- **The steps after the branch settle themselves.** The TPU step, when the
pod requests TPUs, and the environment step write only containers, and
leave nothing for a second run. -/
theorem containerSteps_settled {branched once : Pod} {podCount : Int}
    (succeeded : (if podRequestsTPUs branched.spec then
        addTPUVariables branched podCount >>= fun pod => liftError (addLWSVariables pod)
      else pure branched >>= fun pod => liftError (addLWSVariables pod)) = .ok once) :
    SameOutsideContainers branched once ∧ TpuApplied once ∧ addLWSVariables once = .ok once := by
  have combined : (if podRequestsTPUs branched.spec then addTPUVariables branched podCount else pure branched) >>=
      (fun pod => liftError (addLWSVariables pod)) = .ok once := by
    split
    case isTrue requests => rwa [if_pos requests] at succeeded
    case isFalse requests => rwa [if_neg requests] at succeeded
  obtain ⟨withTpu, tpuStep, lwsStep⟩ := bind_eq_ok.mp combined
  obtain ⟨toTpu, tpuApplied⟩ := tpuStep_applied tpuStep
  obtain ⟨toOnce, keepsTpu, lwsAgain⟩ := addLWSVariables_settled (liftError_eq_ok.mp lwsStep)
  exact ⟨toTpu.trans toOnce, keepsTpu tpuApplied, lwsAgain⟩

/-- A pod on which every step of the webhook has nothing to write is
returned as it is. -/
theorem podWebhookDefault_of_settled (sha1Hash : String → String) {pod : Pod} {size : String} {podCount : Int}
    (member : pod.labels.found setNameLabelKey = true) (sized : pod.annotations.lookup sizeAnnotationKey = some size)
    (parsed : liftError (Strconv.atoi size) = .ok podCount)
    (branch : (if leaderPod pod then podWebhookDefaultLeader sha1Hash pod
      else podWebhookDefaultWorker sha1Hash podCount pod) = .ok pod)
    (tpu : TpuApplied pod) (lws : addLWSVariables pod = .ok pod) : podWebhookDefault sha1Hash pod = .ok pod := by
  have tpuFixed := addTPUVariables_of_tpuApplied tpu podCount
  by_cases leading : leaderPod pod = true
  · rw [if_pos leading] at branch
    simp [podWebhookDefault, member, sized, parsed, leading, branch, tpuFixed, lws]
  · rw [if_neg leading] at branch
    simp [podWebhookDefault, member, sized, parsed, leading, branch, tpuFixed, lws]

/-- **Calling the webhook again changes nothing** when the pod keeps its
branch: it was a leader, or the ordinal in its name is not `0`. The first
call leaves every step's test true, and the second reads the same branch,
the same size and the same labels. -/
theorem podWebhookDefault_idempotent {sha1Hash : String → String} {pod once : Pod}
    (succeeded : podWebhookDefault sha1Hash pod = .ok once)
    (keepsBranch : leaderPod pod = true ∨ (getParentNameAndOrdinal pod.name).2 ≠ 0) :
    podWebhookDefault sha1Hash once = .ok once := by
  unfold podWebhookDefault at succeeded
  by_cases member : pod.labels.found setNameLabelKey
  case neg =>
    simp only [member, Bool.not_false, if_true] at succeeded
    cases succeeded
    simp [podWebhookDefault, member]
  case pos =>
    simp only [member, Bool.not_true, Bool.false_eq_true, if_false] at succeeded
    split at succeeded
    case h_2 => cases succeeded
    case h_1 size sized =>
      obtain ⟨podCount, parsed, succeeded⟩ := bind_eq_ok.mp succeeded
      split at succeeded
      case isTrue leading =>
        obtain ⟨branched, branching, succeeded⟩ := bind_eq_ok.mp succeeded
        obtain ⟨same, tpuApplied, lwsAgain⟩ := containerSteps_settled succeeded
        obtain ⟨again, workerIndexed, annotated, labelsKept⟩ := podWebhookDefaultLeader_again branching same
        have stillLeading : leaderPod once = true := by
          rw [← leading, leaderPod, leaderPod, StringMap.get_eq, StringMap.get_eq, workerIndexed]
        refine podWebhookDefault_of_settled sha1Hash (labelsKept _ member) (annotated ▸ sized) parsed ?_ tpuApplied
          lwsAgain
        rw [if_pos stillLeading]
        exact again
      case isFalse leading =>
        obtain ⟨branched, branching, succeeded⟩ := bind_eq_ok.mp succeeded
        obtain ⟨same, tpuApplied, lwsAgain⟩ := containerSteps_settled succeeded
        obtain ⟨again, workerIndexed, annotated, labelsKept⟩ := podWebhookDefaultWorker_again branching same
        have notZero : Strconv.itoa (getParentNameAndOrdinal pod.name).2 ≠ "0" := by
          intro zero
          exact keepsBranch.resolve_left leading (Strconv.itoa_inj.mp (zero.trans (by decide)))
        have stillWorker : ¬leaderPod once = true := by
          rw [leaderPod, StringMap.get_eq, workerIndexed]
          simpa using notZero
        refine podWebhookDefault_of_settled sha1Hash (labelsKept _ member) (annotated ▸ sized) parsed ?_ tpuApplied
          lwsAgain
        rw [if_neg stillWorker]
        exact again

/-- The webhook writes no annotation: every branch and every container step
keeps them. -/
theorem podWebhookDefault_annotations {sha1Hash : String → String} {pod once : Pod}
    (succeeded : podWebhookDefault sha1Hash pod = .ok once) : once.annotations = pod.annotations := by
  unfold podWebhookDefault at succeeded
  by_cases member : pod.labels.found setNameLabelKey
  case neg =>
    simp only [member, Bool.not_false, if_true] at succeeded
    cases succeeded
    rfl
  case pos =>
    simp only [member, Bool.not_true, Bool.false_eq_true, if_false] at succeeded
    split at succeeded
    case h_2 => cases succeeded
    case h_1 size sized =>
      obtain ⟨podCount, -, succeeded⟩ := bind_eq_ok.mp succeeded
      split at succeeded
      case isTrue =>
        obtain ⟨branched, branching, succeeded⟩ := bind_eq_ok.mp succeeded
        rw [(containerSteps_settled succeeded).1.annotations]
        exact (podWebhookDefaultLeader_applied branching).2.1
      case isFalse =>
        obtain ⟨branched, branching, succeeded⟩ := bind_eq_ok.mp succeeded
        rw [(containerSteps_settled succeeded).1.annotations]
        exact (podWebhookDefaultWorker_applied branching).2.2.1

/-- Worker 1 of group 0 of set `lws`, in subgroups of two with their own
placement, before the webhook has seen it. -/
def subGroupWorkerPod : Pod where
  name := "lws-0-1"
  namespaceName := "default"
  labels := StringMap.ofList [(setNameLabelKey, "lws"), (groupIndexLabelKey, "0")]
  annotations := StringMap.ofList [(sizeAnnotationKey, "4"), (subGroupSizeAnnotationKey, "2"),
    (leaderPodNameAnnotationKey, "lws-0"), (subGroupExclusiveKeyAnnotationKey, "zone")]
  spec := ⟨"lws", none, [⟨"worker", "", [⟨lwsGroupSize, "1"⟩], 0, 0⟩], []⟩

/-- The subgroup worker completed once is completed already. -/
theorem podWebhookDefault_idempotent_on_subgroup_worker :
    let once := (podWebhookDefault id subGroupWorkerPod).toOption.getD subGroupWorkerPod
    podWebhookDefault id subGroupWorkerPod = .ok once ∧ (getParentNameAndOrdinal subGroupWorkerPod.name).2 ≠ 0 ∧
      podWebhookDefault id once = .ok once :=
  ⟨by decide, by decide, @podWebhookDefault_idempotent id subGroupWorkerPod _ (by decide) (.inr (by decide))⟩

/-- A pod of set `lws` and group `0` named like the group's leader, with no
worker index. -/
def zeroOrdinalPod : Pod where
  name := "lws-0"
  namespaceName := "default"
  labels := StringMap.ofList [(setNameLabelKey, "lws"), (groupIndexLabelKey, "0")]
  annotations := StringMap.ofList [(sizeAnnotationKey, "2")]
  spec := ⟨"lws", none, [⟨"worker", "", [], 0, 0⟩], []⟩

/-- The first call completes the pod as worker `0`; the second reads that
index as a leader's and adds the group key. -/
theorem podWebhookDefault_relabels_zero_ordinal_pod :
    ∃ once, podWebhookDefault id zeroOrdinalPod = .ok once ∧ podWebhookDefault id once ≠ .ok once :=
  ⟨(podWebhookDefault id zeroOrdinalPod).toOption.getD zeroOrdinalPod, by decide, by decide⟩

/-! ## What the webhook writes from a pod's name

The StatefulSet controller names a pod after its StatefulSet and its
ordinal, and the webhook reads the ordinal back: as group index of a leader
that has none, as worker index of a worker. Every other label of a leader
stays, but the group key and the subgroup labels.
-/

theorem setUniquePerReplicaSubdomain_name (pod : Pod) : (setUniquePerReplicaSubdomain pod).name = pod.name := by
  unfold setUniquePerReplicaSubdomain
  split <;> rfl

theorem addLeaderSubGroupLabels_lookup_of_ne (sha1Hash : String → String) (pod : Pod) {key : String}
    (notIndex : key ≠ subGroupIndexLabelKey) (notKey : key ≠ subGroupUniqueHashLabelKey) :
    (addLeaderSubGroupLabels sha1Hash pod).labels.lookup key = pod.labels.lookup key := by
  unfold addLeaderSubGroupLabels
  dsimp only
  split <;> simp [notIndex, notKey]

/-- After its group index step the leader branch keeps the name and every
label but the group key and the subgroup labels. -/
theorem podWebhookDefaultLeader_labels_of_indexing {sha1Hash : String → String} {pod indexed leader : Pod}
    (indexing : addGroupIndexLabel pod = .ok indexed) (succeeded : podWebhookDefaultLeader sha1Hash pod = .ok leader) :
    leader.name = indexed.name ∧ ∀ key, key ≠ groupUniqueHashLabelKey → key ≠ subGroupIndexLabelKey →
      key ≠ subGroupUniqueHashLabelKey → leader.labels.lookup key = indexed.labels.lookup key := by
  rw [podWebhookDefaultLeader_eq, indexing] at succeeded
  cases succeeded
  set keyed := addGroupUniqueKey sha1Hash (setUniquePerReplicaSubdomain indexed)
  have toLeader : Extends keyed.2
      (addLeaderSubGroupLabels sha1Hash (setGroupExclusiveAffinities keyed.2 keyed.1)) :=
    (extends_setGroupExclusiveAffinities _ _).trans (extends_addLeaderSubGroupLabels _ _)
  refine ⟨?_, fun key notKey notIndex notSubKey => ?_⟩
  · rw [toLeader.name, (extends_addGroupUniqueKey sha1Hash _).name, setUniquePerReplicaSubdomain_name]
  · rw [addLeaderSubGroupLabels_lookup_of_ne sha1Hash _ notIndex notSubKey, setGroupExclusiveAffinities_labels,
      addGroupUniqueKey_lookup_of_ne sha1Hash _ key notKey, setUniquePerReplicaSubdomain_labels]

/-- **What the leader branch writes.** On a pod without a group index it
keeps the name and every label but the group key and the subgroup labels, and
writes the ordinal of the name as group index. -/
theorem podWebhookDefaultLeader_labels {sha1Hash : String → String} {pod leader : Pod}
    (succeeded : podWebhookDefaultLeader sha1Hash pod = .ok leader)
    (unindexed : pod.labels.lookup groupIndexLabelKey = none) :
    leader.name = pod.name ∧ ∀ key, key ≠ groupUniqueHashLabelKey → key ≠ subGroupIndexLabelKey →
      key ≠ subGroupUniqueHashLabelKey →
        leader.labels.lookup key =
          (pod.labels.set groupIndexLabelKey (Strconv.itoa (getParentNameAndOrdinal pod.name).2)).lookup key := by
  cases indexing : addGroupIndexLabel pod with
  | error failure =>
    rw [podWebhookDefaultLeader_eq, indexing] at succeeded
    cases succeeded
  | ok indexed =>
    have written : indexed = pod.setLabel groupIndexLabelKey (Strconv.itoa (getParentNameAndOrdinal pod.name).2) := by
      rcases addGroupIndexLabel_cases indexing with ⟨present, -⟩ | written
      · simp [StringMap.found_eq, unindexed] at present
      · exact written
    obtain ⟨named, labelled⟩ := podWebhookDefaultLeader_labels_of_indexing indexing succeeded
    rw [written] at named labelled
    exact ⟨named, labelled⟩

/-- A successful call on a pod of a set is the branch its worker index
selects, the worker branch with the pod count read from the size annotation,
followed by steps that write only containers. -/
theorem podWebhookDefault_branch {sha1Hash : String → String} {pod once : Pod}
    (succeeded : podWebhookDefault sha1Hash pod = .ok once) (member : pod.labels.found setNameLabelKey = true) :
    ∃ branched, SameOutsideContainers branched once ∧
      (leaderPod pod = true ∧ podWebhookDefaultLeader sha1Hash pod = .ok branched ∨
        leaderPod pod = false ∧ ∃ size podCount, pod.annotations.lookup sizeAnnotationKey = some size ∧
          Strconv.atoi size = .ok podCount ∧ podWebhookDefaultWorker sha1Hash podCount pod = .ok branched) := by
  unfold podWebhookDefault at succeeded
  simp only [member, Bool.not_true, Bool.false_eq_true, if_false] at succeeded
  split at succeeded
  case h_2 => cases succeeded
  case h_1 size sized =>
    obtain ⟨podCount, parsed, succeeded⟩ := bind_eq_ok.mp succeeded
    split at succeeded
    case isTrue leading =>
      obtain ⟨branched, branching, succeeded⟩ := bind_eq_ok.mp succeeded
      exact ⟨branched, (containerSteps_settled succeeded).1, .inl ⟨leading, branching⟩⟩
    case isFalse leading =>
      obtain ⟨branched, branching, succeeded⟩ := bind_eq_ok.mp succeeded
      exact ⟨branched, (containerSteps_settled succeeded).1,
        .inr ⟨by simpa using leading, size, podCount, sized, liftError_eq_ok.mp parsed, branching⟩⟩

/-- A successful call on a leader of a set is its leader branch, followed by
steps that write only containers. -/
theorem podWebhookDefault_leaderBranch {sha1Hash : String → String} {pod once : Pod}
    (succeeded : podWebhookDefault sha1Hash pod = .ok once) (member : pod.labels.found setNameLabelKey = true)
    (leading : leaderPod pod = true) :
    ∃ branched, SameOutsideContainers branched once ∧ podWebhookDefaultLeader sha1Hash pod = .ok branched := by
  obtain ⟨branched, same, ⟨-, branching⟩ | ⟨working, -⟩⟩ := podWebhookDefault_branch succeeded member
  · exact ⟨branched, same, branching⟩
  · rw [leading] at working
    cases working

/-- **A leader is indexed from its name.** A pod of a set labelled worker `0`
and without a group index is admitted under its name, with its labels but
the group key and the subgroup labels, and the ordinal of its name as group
index. -/
theorem podWebhookDefault_leader {sha1Hash : String → String} {pod once : Pod}
    (succeeded : podWebhookDefault sha1Hash pod = .ok once) (member : pod.labels.found setNameLabelKey = true)
    (leading : leaderPod pod = true) (unindexed : pod.labels.lookup groupIndexLabelKey = none) :
    once.name = pod.name ∧ ∀ key, key ≠ groupUniqueHashLabelKey → key ≠ subGroupIndexLabelKey →
      key ≠ subGroupUniqueHashLabelKey →
        once.labels.lookup key =
          (pod.labels.set groupIndexLabelKey (Strconv.itoa (getParentNameAndOrdinal pod.name).2)).lookup key := by
  obtain ⟨branched, same, branching⟩ := podWebhookDefault_leaderBranch succeeded member leading
  obtain ⟨named, labelled⟩ := podWebhookDefaultLeader_labels branching unindexed
  rw [same.name, same.labels]
  exact ⟨named, labelled⟩

/-- **A leader keeps the group index it carries.** A pod of a set labelled
worker `0` with a group index is admitted under its name, with its labels but
the group key and the subgroup labels, its group index among them. -/
theorem podWebhookDefault_leader_of_indexed {sha1Hash : String → String} {pod once : Pod}
    (succeeded : podWebhookDefault sha1Hash pod = .ok once) (member : pod.labels.found setNameLabelKey = true)
    (leading : leaderPod pod = true) (indexed : pod.labels.found groupIndexLabelKey = true) :
    once.name = pod.name ∧ ∀ key, key ≠ groupUniqueHashLabelKey → key ≠ subGroupIndexLabelKey →
      key ≠ subGroupUniqueHashLabelKey → once.labels.lookup key = pod.labels.lookup key := by
  obtain ⟨branched, same, branching⟩ := podWebhookDefault_leaderBranch succeeded member leading
  obtain ⟨named, labelled⟩ := podWebhookDefaultLeader_labels_of_indexing (addGroupIndexLabel_of_found indexed) branching
  rw [same.name, same.labels]
  exact ⟨named, labelled⟩

/-- **A worker is indexed from its name.** A pod of a set not labelled worker
`0` is admitted under its name, with the ordinal of its name as worker
index. -/
theorem podWebhookDefault_worker {sha1Hash : String → String} {pod once : Pod}
    (succeeded : podWebhookDefault sha1Hash pod = .ok once) (member : pod.labels.found setNameLabelKey = true)
    (working : leaderPod pod = false) :
    once.name = pod.name ∧
      once.labels.lookup workerIndexLabelKey = some (Strconv.itoa (getParentNameAndOrdinal pod.name).2) := by
  obtain ⟨branched, same, ⟨leading, -⟩ | ⟨-, size, podCount, -, -, branching⟩⟩ :=
    podWebhookDefault_branch succeeded member
  · rw [working] at leading
    cases leading
  · obtain ⟨applied, named, -, -⟩ := podWebhookDefaultWorker_applied branching
    refine ⟨same.name.trans named, ?_⟩
    rw [same.labels, applied.indexed, named]

end Lws
