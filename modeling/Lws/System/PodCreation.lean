import Lws.System.ControllerRuns
import Lws.System.Admission

/-!
# The pods the StatefulSet controller creates

The StatefulSet controller creates the pods of the StatefulSets the two
controllers apply, from their templates, and the pod webhook completes each
pod before the API server stores it. A run of the namespace with these
creations keeps the groups named, as long as the templates leave it to the
webhook to label the pods: a leader template without a group index, whose
leaders the webhook numbers from their names, and a worker template that does
not mark its pods worker `0`, which would make them leaders.

Beside `NamespaceValid`, the invariant records that a StatefulSet named like
a group of a set carries the set's name and the group's index. A leader
created under a group's name then finds the group's worker StatefulSet, one
left over from an earlier leader of that name, labelled for it.

A leader template that carries a group index gives every leader that group,
and the naming breaks with the first leader of another ordinal.
-/

namespace Lws

/-! ## StatefulSets named like groups -/

/-- Every StatefulSet named like a group of the set, `statefulSetPodName` of
the set's name and a nonnegative index, carries the set's name and that
index. -/
def GroupStatefulSetsLabelled (cluster : Cluster) (lws : LeaderWorkerSet) : Prop :=
  ∀ sts ∈ cluster.statefulSets, ∀ index, 0 ≤ index → sts.statefulSet.name = statefulSetPodName lws.name index →
    matchingLabels (statefulSetSelector lws) sts.statefulSet.labels = true ∧
      groupIndex sts.statefulSet.labels = .ok index

section Labelled

variable {cluster other : Cluster} {lws : LeaderWorkerSet}

/-- The labelling reads only the StatefulSets' objects. -/
theorem GroupStatefulSetsLabelled.of_embedded (labelled : GroupStatefulSetsLabelled cluster lws)
    (statefulSets : ∀ sts ∈ other.statefulSets, ∃ original ∈ cluster.statefulSets,
      original.statefulSet = sts.statefulSet) :
    GroupStatefulSetsLabelled other lws := by
  intro sts member index nonnegative named
  obtain ⟨original, originalMember, same⟩ := statefulSets sts member
  rw [← same] at named ⊢
  exact labelled original originalMember index nonnegative named

/-- The labelling reads only the set's name. -/
theorem GroupStatefulSetsLabelled.of_name {renamed : LeaderWorkerSet} (labelled : GroupStatefulSetsLabelled cluster lws)
    (same : renamed.name = lws.name) : GroupStatefulSetsLabelled cluster renamed := by
  have listed : statefulSetSelector renamed = statefulSetSelector lws := by
    rw [statefulSetSelector, statefulSetSelector, same]
  intro sts member index nonnegative named
  rw [listed]
  exact labelled sts member index nonnegative (same ▸ named)

/-- The apply of a StatefulSet under a name that is no group name of the set
keeps the labelling. -/
theorem GroupStatefulSetsLabelled.applyStatefulSet (labelled : GroupStatefulSetsLabelled cluster lws)
    {config : StatefulSetApplyConfiguration} (apart : ∀ index, config.name ≠ statefulSetPodName lws.name index) :
    GroupStatefulSetsLabelled (cluster.applyStatefulSet config) lws := by
  intro sts member index nonnegative named
  have different : sts.statefulSet.name ≠ config.name := fun same => apart index (same ▸ named)
  exact labelled sts (Cluster.mem_applyStatefulSet_of_ne member different) index nonnegative named

/-- A worker StatefulSet created under the name of a leader pod of a named
set is labelled for the group of that name. -/
theorem GroupStatefulSetsLabelled.createStatefulSet (labelled : GroupStatefulSetsLabelled cluster lws)
    {created : ObservedStatefulSet}
    (groupLabelled : ∀ index, 0 ≤ index → created.statefulSet.name = statefulSetPodName lws.name index →
      matchingLabels (statefulSetSelector lws) created.statefulSet.labels = true ∧
        groupIndex created.statefulSet.labels = .ok index) :
    GroupStatefulSetsLabelled (cluster.createStatefulSet created) lws := by
  by_cases fresh : cluster.getStatefulSet created.statefulSet.name = none
  · intro sts member
    rw [Cluster.createStatefulSet_statefulSets fresh, List.mem_append, List.mem_singleton] at member
    rcases member with old | rfl
    · exact labelled sts old
    · exact groupLabelled
  · simp only [Cluster.createStatefulSet, fresh, dite_false]
    exact labelled

end Labelled

/-! ## Created pods keep the groups named -/

/-- A created pod keeps the naming of a set when, if it is one of the set's
leaders, its group index parses to a nonnegative index it is named after, and
every StatefulSet of its name carries the set's name and that index. -/
theorem GroupsNamed.createPod {cluster : Cluster} {lws : LeaderWorkerSet} (named : GroupsNamed cluster lws)
    {pod : Pod}
    (leaderNamed : matchingLabels (leaderPodSelector lws) pod.labels = true →
      groupIndex pod.labels = .ok (groupIndexValue pod.labels) ∧ 0 ≤ groupIndexValue pod.labels ∧
        pod.name = statefulSetPodName lws.name (groupIndexValue pod.labels) ∧
        ∀ sts ∈ cluster.statefulSets, sts.statefulSet.name = pod.name →
          matchingLabels (statefulSetSelector lws) sts.statefulSet.labels = true ∧
            groupIndex sts.statefulSet.labels = .ok (groupIndexValue pod.labels)) :
    GroupsNamed (cluster.createPod pod) lws := by
  have listedSame : (cluster.createPod pod).listStatefulSets (statefulSetSelector lws) =
      cluster.listStatefulSets (statefulSetSelector lws) := by
    simp only [Cluster.listStatefulSets, Cluster.createPod_statefulSets]
  refine ⟨fun leader member => ?_, by rw [listedSame]; exact named.listedStatefulSets, ?_⟩
  · obtain ⟨inPods, matching⟩ := Cluster.mem_listPods.mp member
    rcases Cluster.mem_createPod inPods with old | rfl
    · exact named.leaderPods leader (Cluster.mem_listPods.mpr ⟨old, matching⟩)
    · obtain ⟨parsed, nonnegative, podNamed, -⟩ := leaderNamed matching
      exact ⟨parsed, nonnegative, podNamed⟩
  · intro sts stsMember leader member nominated
    rw [Cluster.createPod_statefulSets] at stsMember
    obtain ⟨inPods, matching⟩ := Cluster.mem_listPods.mp member
    rcases Cluster.mem_createPod inPods with old | rfl
    · exact named.workerStatefulSets sts stsMember leader (Cluster.mem_listPods.mpr ⟨old, matching⟩) nominated
    · exact (leaderNamed matching).2.2.2 sts stsMember nominated

/-! ## What the controllers do to the labelling -/

section Controllers

variable {scaledValue : ScaledValue} {hashRevision : RevisionPatch → String} {view next : PodControllerView}
  {lws : LeaderWorkerSet}

/-- The pod side keeps the labelling: its reconcile creates a worker
StatefulSet only under the name of a leader pod, which its set names after
its group, and its other moves remove StatefulSets or report their status. -/
theorem GroupStatefulSetsLabelled.podStep (valid : NamespaceValid view)
    (labelled : GroupStatefulSetsLabelled view.cluster lws) (step : PodControllerStep view next) :
    GroupStatefulSetsLabelled next.cluster lws := by
  cases step with
  | reconcile podName =>
    rcases PodReconciler.reconcile_cluster view podName with same | ⟨name, deleted⟩ |
        ⟨pod, owner, services, sts, nodeSelector, reached, guards, created⟩
    · rw [same]
      exact labelled
    · rw [deleted]
      exact labelled.of_embedded fun sts member => ⟨sts, member, rfl⟩
    · rw [created]
      apply labelled.createStatefulSet
      intro index nonnegative named
      have ownerNamed := valid.named owner (PodControllerView.getLeaderWorkerSet_mem reached.reads.setFound)
      have leader := ownerNamed.leaderPods pod (mem_listPods_of_reached reached rfl)
      rw [name_created reached guards ownerNamed] at named
      obtain ⟨sameName, sameIndex⟩ := statefulSetPodName_inj leader.2.1 nonnegative named
      refine ⟨(matchingLabels_created guards lws).mpr sameName.symm, ?_⟩
      rw [groupIndex_created guards, leader.1, sameIndex]
  | deletePod name => exact labelled.of_embedded fun sts member => ⟨sts, member, rfl⟩
  | removePod name _ => exact labelled.of_embedded fun sts member => ⟨sts, member, rfl⟩
  | removeStatefulSet name =>
    exact labelled.of_embedded fun sts member => ⟨sts, (List.mem_filter.mp member).1, rfl⟩
  | podStatus name status => exact labelled.of_embedded fun sts member => ⟨sts, member, rfl⟩
  | statefulSetStatus name status =>
    exact labelled.of_embedded fun _ member => by
      obtain ⟨original, originalMember, rfl⟩ := List.mem_map.mp member
      exact ⟨original, originalMember, rfl⟩
  | otherObjects => exact labelled

/-- A reconcile of the LeaderWorkerSet controller keeps the labelling of a
set of the namespace: it applies only a StatefulSet under a set's name,
which is no group name. -/
theorem GroupStatefulSetsLabelled.reconcile (valid : NamespaceValid view)
    (setNamed : lws.name ∈ view.sets.map (·.lws.name)) (labelled : GroupStatefulSetsLabelled view.cluster lws)
    (name : String) (patchError : Option String) :
    GroupStatefulSetsLabelled (LeaderWorkerSetReconciler.reconcile scaledValue hashRevision view name patchError).1.cluster
      lws := by
  obtain ⟨writes, -⟩ := @LeaderWorkerSetReconciler.reconcile_writes scaledValue hashRevision patchError view name
  rcases writes with same | ⟨set, config, revisionKeyValue, found, configNamed, -, applied⟩
  · rw [same]
    exact labelled
  · rw [applied]
    apply labelled.applyStatefulSet
    intro index
    rw [configNamed]
    exact valid.separated _ (List.mem_map_of_mem (PodControllerView.getLeaderWorkerSet_mem found)) _ setNamed index

end Controllers

/-! ## Runs with pod creations -/

/-- A leader template that leaves the group index to the pod webhook. -/
def LeaderTemplateUnindexed (lws : LeaderWorkerSet) : Prop :=
  (lws.spec.leaderWorkerTemplate.leaderTemplate.getD lws.spec.leaderWorkerTemplate.workerTemplate).labels.lookup
    groupIndexLabelKey = none

/-- One move of the namespace, the creation of pods included: a move of the
two controllers, or the StatefulSet controller creating the pod of an
ordinal of a StatefulSet in the cluster, as the pod webhook admits it. -/
inductive NamespaceStep (scaledValue : ScaledValue) (hashRevision : RevisionPatch → String)
    (sha1Hash : String → String) : PodControllerView → PodControllerView → Prop where
  /-- A move of the controllers or of the cluster beside them. -/
  | controllers {view next : PodControllerView} (step : ControllersStep scaledValue hashRevision view next) :
    NamespaceStep scaledValue hashRevision sha1Hash view next
  /-- A pod of a set's leader StatefulSet, which the controller builds from
  the set under the template of a revision: an object of the set's name.
  Gate: the StatefulSet exists, and the leader template leaves the group
  index to the webhook. -/
  | createLeaderPod (view : PodControllerView) {set : ObservedLeaderWorkerSet} (member : set ∈ view.sets)
    {lws : LeaderWorkerSet} (owned : lws.name = set.lws.name)
    {partition replicas : Int} {revisionKeyValue : String} {sts : StatefulSetApplyConfiguration}
    (built : constructLeaderStatefulSetApplyConfiguration lws partition replicas revisionKeyValue = some sts)
    (present : (view.cluster.getStatefulSet sts.name).isSome) (unindexed : LeaderTemplateUnindexed lws)
    {ordinal : Int} (nonnegative : 0 ≤ ordinal) (fits : ordinal < 2147483648) {pod : Pod}
    (admitted : podWebhookDefault sha1Hash (statefulSetPod sts ordinal) = .ok pod) :
    NamespaceStep scaledValue hashRevision sha1Hash view { view with cluster := view.cluster.createPod pod }
  /-- A pod of the worker StatefulSet of a leader pod of a set, from ordinal
  1. Gate: the StatefulSet exists, and the revision's worker template does
  not mark its pods worker `0`. -/
  | createWorkerPod (view : PodControllerView) {set : ObservedLeaderWorkerSet} (member : set ∈ view.sets)
    {leader : ObservedPod} (leading : leader ∈ view.cluster.listPods (leaderPodSelector set.lws))
    {revision : ControllerRevision} {sts : StatefulSetApplyConfiguration}
    (built : constructWorkerStatefulSetApplyConfiguration leader.pod set.lws revision = some sts)
    (present : (view.cluster.getStatefulSet sts.name).isSome)
    (unleading : revision.data.leaderWorkerTemplate.workerTemplate.labels.get workerIndexLabelKey ≠ "0")
    {ordinal : Int} (worker : 1 ≤ ordinal) (fits : ordinal < 2147483648) {pod : Pod}
    (admitted : podWebhookDefault sha1Hash (statefulSetPod sts ordinal) = .ok pod) :
    NamespaceStep scaledValue hashRevision sha1Hash view { view with cluster := view.cluster.createPod pod }

/-- **A created leader is named for its group.** The pod of an ordinal of a
set's leader StatefulSet, from a template without a group index, is admitted
under the name of the ordinal's group, labelled a leader of the set with that
group index. -/
theorem leaderStatefulSetPod_labels {sha1Hash : String → String} {lws : LeaderWorkerSet}
    {partition replicas : Int} {revisionKeyValue : String} {sts : StatefulSetApplyConfiguration}
    (built : constructLeaderStatefulSetApplyConfiguration lws partition replicas revisionKeyValue = some sts)
    (unindexed : LeaderTemplateUnindexed lws) {ordinal : Int} (nonnegative : 0 ≤ ordinal)
    (fits : ordinal < 2147483648) {pod : Pod}
    (admitted : podWebhookDefault sha1Hash (statefulSetPod sts ordinal) = .ok pod) :
    pod.name = statefulSetPodName lws.name ordinal ∧ pod.labels.lookup setNameLabelKey = some lws.name ∧
      groupIndex pod.labels = .ok ordinal := by
  obtain ⟨_, -, named, -⟩ := constructLeaderStatefulSetApplyConfiguration_template built
  obtain ⟨setNamed, workerIndexed, kept⟩ := leaderStatefulSetPod_lookup built ordinal
  have podNamed : (statefulSetPod sts ordinal).name = statefulSetPodName lws.name ordinal := by
    rw [statefulSetPod, named]
  obtain ⟨sameName, labelled⟩ := podWebhookDefault_leader admitted (by simp [StringMap.found_eq, setNamed])
    (by simp [leaderPod, StringMap.get_eq, workerIndexed])
    (by rw [kept groupIndexLabelKey (by decide) (by decide) (by decide)]; exact unindexed)
  refine ⟨sameName.trans podNamed, ?_, ?_⟩
  · rw [labelled setNameLabelKey (by decide) (by decide) (by decide), StringMap.lookup_set_of_ne _ _ (by decide),
      setNamed]
  · rw [groupIndex, StringMap.get_eq, labelled groupIndexLabelKey (by decide) (by decide) (by decide), podNamed,
      getParentNameAndOrdinal_statefulSetPodName_lastLine _ _ nonnegative fits]
    simpa using atoi_itoa_of_nonneg nonnegative (by omega)

/-- A positive ordinal is printed as another text than `0`. -/
theorem itoa_ne_zero {ordinal : Int} (positive : 1 ≤ ordinal) : Strconv.itoa ordinal ≠ "0" := by
  intro zero
  have same : ordinal = 0 := Strconv.itoa_inj.mp (zero.trans (by decide))
  omega

/-- A created worker is labelled with the ordinal of its name, never `0`. -/
theorem workerStatefulSetPod_labels {sha1Hash : String → String} {leader : Pod} {lws : LeaderWorkerSet}
    {revision : ControllerRevision} {sts : StatefulSetApplyConfiguration}
    (built : constructWorkerStatefulSetApplyConfiguration leader lws revision = some sts)
    (unleading : revision.data.leaderWorkerTemplate.workerTemplate.labels.get workerIndexLabelKey ≠ "0")
    {ordinal : Int} (worker : 1 ≤ ordinal) (fits : ordinal < 2147483648) {pod : Pod}
    (admitted : podWebhookDefault sha1Hash (statefulSetPod sts ordinal) = .ok pod) :
    pod.labels.lookup workerIndexLabelKey = some (Strconv.itoa ordinal) := by
  obtain ⟨_, -, named, -, -⟩ := constructWorkerStatefulSetApplyConfiguration_template built
  obtain ⟨setNamed, -, kept⟩ := workerStatefulSetPod_lookup built ordinal
  obtain ⟨-, indexed⟩ := podWebhookDefault_worker admitted (by simp [StringMap.found_eq, setNamed])
    (by simpa [leaderPod, StringMap.get_eq, kept workerIndexLabelKey (by decide) (by decide) (by decide) (by decide)]
      using unleading)
  rw [indexed, statefulSetPod, named, getParentNameAndOrdinal_statefulSetPodName_lastLine _ _ (by omega) fits]

/-- A pod labelled with a set's name and a nonnegative group index, and named
for that group, keeps naming every set whose StatefulSets named like groups
are labelled for them: if it is one of the set's leaders, the set is the
pod's, and a worker StatefulSet of its name is labelled for its group. -/
theorem GroupsNamed.createLeader {cluster : Cluster} {other : LeaderWorkerSet} (named : GroupsNamed cluster other)
    (labelled : GroupStatefulSetsLabelled cluster other) {lws : LeaderWorkerSet} {pod : Pod} {ordinal : Int}
    (nonnegative : 0 ≤ ordinal) (podNamed : pod.name = statefulSetPodName lws.name ordinal)
    (setNamed : pod.labels.lookup setNameLabelKey = some lws.name) (parsed : groupIndex pod.labels = .ok ordinal) :
    GroupsNamed (cluster.createPod pod) other := by
  apply named.createPod
  intro matching
  have sameName : other.name = lws.name :=
    Option.some.inj (((matchingLabels_leaderPodSelector other pod.labels).mp matching).1.symm.trans setNamed)
  have otherNamed : pod.name = statefulSetPodName other.name ordinal := by
    rw [sameName]
    exact podNamed
  rw [groupIndexValue_of_groupIndex parsed]
  exact ⟨parsed, nonnegative, otherNamed,
    fun sts member nominated => labelled sts member ordinal nonnegative (nominated.trans otherNamed)⟩

/-- A pod not labelled worker `0` is no set's leader, and keeps every set
named. -/
theorem GroupsNamed.createWorker {cluster : Cluster} {other : LeaderWorkerSet} (named : GroupsNamed cluster other)
    {pod : Pod} (unleading : pod.labels.lookup workerIndexLabelKey ≠ some "0") :
    GroupsNamed (cluster.createPod pod) other := by
  apply named.createPod
  intro matching
  exact absurd ((matchingLabels_leaderPodSelector other pod.labels).mp matching).2 unleading

/-- What every run with pod creations keeps: the namespace is valid, and the
StatefulSets named like a set's groups are labelled for them. -/
structure PodsValid (view : PodControllerView) : Prop where
  valid : NamespaceValid view
  labelled : ∀ set ∈ view.sets, GroupStatefulSetsLabelled view.cluster set.lws

section Runs

variable {scaledValue : ScaledValue} {hashRevision : RevisionPatch → String} {sha1Hash : String → String}
  {view next : PodControllerView}

/-- The moves of the controllers keep the invariant. -/
theorem PodsValid.controllers (podsValid : PodsValid view) (step : ControllersStep scaledValue hashRevision view next) :
    PodsValid next := by
  refine ⟨podsValid.valid.step step, fun set member => ?_⟩
  obtain ⟨original, originalMember, same⟩ := exists_of_sameNames step.sameNames member
  have labelled := podsValid.labelled original originalMember
  apply GroupStatefulSetsLabelled.of_name _ same.symm
  cases step with
  | leaderWorkerSet name patchError =>
    exact labelled.reconcile podsValid.valid (List.mem_map_of_mem originalMember) name patchError
  | pods step setsKept => exact labelled.podStep podsValid.valid step
  | editSets sets sameNames => exact labelled

/-- A created pod that keeps every set named keeps the invariant: it changes
no StatefulSet and no set. -/
theorem PodsValid.createPod (podsValid : PodsValid view) {pod : Pod}
    (named : ∀ set ∈ view.sets, GroupsNamed (view.cluster.createPod pod) set.lws) :
    PodsValid { view with cluster := view.cluster.createPod pod } where
  valid :=
    { separated := podsValid.valid.separated
      named := named
      leaderUnindexed := fun set member sts found =>
        podsValid.valid.leaderUnindexed set member sts (by simpa using found) }
  labelled := fun set member =>
    (podsValid.labelled set member).of_embedded fun sts stsMember => ⟨sts, by simpa using stsMember, rfl⟩

/-- Every move of the namespace keeps the invariant: the controllers'
moves, a leader admitted under the name of its group, and a worker, which no
set counts among its leaders. -/
theorem PodsValid.step (podsValid : PodsValid view) (step : NamespaceStep scaledValue hashRevision sha1Hash view next) :
    PodsValid next := by
  cases step with
  | controllers step => exact podsValid.controllers step
  | createLeaderPod member owned built present unindexed nonnegative fits admitted =>
    obtain ⟨podNamed, setNamed, parsed⟩ := leaderStatefulSetPod_labels built unindexed nonnegative fits admitted
    exact podsValid.createPod fun other otherMember =>
      (podsValid.valid.named other otherMember).createLeader (podsValid.labelled other otherMember) nonnegative
        podNamed setNamed parsed
  | createWorkerPod member leading built present unleading worker fits admitted =>
    have indexed := workerStatefulSetPod_labels built unleading worker fits admitted
    exact podsValid.createPod fun other otherMember =>
      (podsValid.valid.named other otherMember).createWorker (by simpa [indexed] using itoa_ne_zero worker)

/-- **Created pods keep the groups named.** Along every run of the two
controllers, with the StatefulSet controller creating the pods of the
StatefulSets they apply and the pod webhook completing each, a valid
namespace stays valid, as long as the leader templates leave the group index
to the webhook and the worker templates do not mark pods worker `0`. -/
theorem podsValid_of_run (run : Relation.ReflTransGen (NamespaceStep scaledValue hashRevision sha1Hash) start view)
    (podsValid : PodsValid start) : PodsValid view :=
  Simulation.invariant_of_run (fun _ _ valid step => valid.step step) run podsValid

end Runs

/-- `rolloutNamespace` satisfies the invariant: its one StatefulSet bears
the set's name, no group name. -/
theorem rolloutNamespace_podsValid : PodsValid rolloutNamespace where
  valid := rolloutNamespace_valid
  labelled := by
    intro set member sts stsMember index _ named
    obtain rfl := List.mem_singleton.mp member
    obtain rfl := List.mem_singleton.mp stsMember
    exact absurd named (ne_statefulSetPodName le_rfl index)

/-- The StatefulSet controller creates the leader pod `lws-1` of the leader
StatefulSet of `lws`, and the namespace stays valid. -/
theorem podsValid_of_run_on_rollout :
    ∃ view, Relation.ReflTransGen (NamespaceStep getScaledValueFromIntOrPercent subdomainPolicyHash id)
      rolloutNamespace view ∧ (view.cluster.getPod "lws-1").isSome ∧ PodsValid view := by
  obtain ⟨sts, built⟩ : ∃ sts, constructLeaderStatefulSetApplyConfiguration rolloutLeaderWorkerSet 0 2 "old" = some sts :=
    Option.isSome_iff_exists.mp (by decide)
  obtain ⟨_, -, stsNamed, -⟩ := constructLeaderStatefulSetApplyConfiguration_template built
  obtain ⟨pod, admitted⟩ := exists_podWebhookDefault_leaderStatefulSetPod id built (by decide) (by decide)
    (fun _ configured => by cases configured) ⟨rfl, rfl, rfl⟩ (fun _ configured => by cases configured)
    (by decide) (by decide : (1 : Int) < 2147483648)
  have run : Relation.ReflTransGen (NamespaceStep getScaledValueFromIntOrPercent subdomainPolicyHash id)
      rolloutNamespace { rolloutNamespace with cluster := rolloutNamespace.cluster.createPod pod } :=
    .single (.createLeaderPod rolloutNamespace (List.mem_singleton_self recreatingLeaderWorkerSet) rfl built
      (by rw [stsNamed]; decide) (by unfold LeaderTemplateUnindexed; decide) (by decide) (by decide) admitted)
  have podNamed : pod.name = "lws-1" := by
    rw [podWebhookDefault_name admitted]
    show statefulSetPodName sts.name 1 = "lws-1"
    rw [stsNamed]
    decide
  refine ⟨_, run, ?_, podsValid_of_run run rolloutNamespace_podsValid⟩
  rw [← podNamed]
  exact Cluster.getPod_createPod_isSome _ _

/-! ## A leader template with a group index -/

/-- **An indexed leader template breaks the naming.** A leader template whose
group index label parses to `index` gives every leader that group, since the
pod webhook keeps a group index a pod carries. Once the leader of another
ordinal is created under a free name, the set has a leader that is not named
after its group. -/
theorem createPod_indexed_leader_breaks_groupsNamed {sha1Hash : String → String} {cluster : Cluster}
    {lws : LeaderWorkerSet} {partition replicas : Int} {revisionKeyValue : String}
    {sts : StatefulSetApplyConfiguration}
    (built : constructLeaderStatefulSetApplyConfiguration lws partition replicas revisionKeyValue = some sts)
    {index : Int}
    (indexed : groupIndex (lws.spec.leaderWorkerTemplate.leaderTemplate.getD
      lws.spec.leaderWorkerTemplate.workerTemplate).labels = .ok index)
    {ordinal : Int} (nonnegative : 0 ≤ ordinal) (other : ordinal ≠ index)
    (fresh : cluster.getPod (statefulSetPodName lws.name ordinal) = none) {pod : Pod}
    (admitted : podWebhookDefault sha1Hash (statefulSetPod sts ordinal) = .ok pod) :
    ¬GroupsNamed (cluster.createPod pod) lws := by
  intro named
  obtain ⟨_, -, stsNamed, -⟩ := constructLeaderStatefulSetApplyConfiguration_template built
  obtain ⟨setNamed, workerIndexed, kept⟩ := leaderStatefulSetPod_lookup built ordinal
  have podIndexed := kept groupIndexLabelKey (by decide) (by decide) (by decide)
  have found : (statefulSetPod sts ordinal).labels.found groupIndexLabelKey = true := by
    rw [StringMap.found_eq, podIndexed, Option.isSome_iff_ne_none]
    exact fun missing => groupIndex_of_lookup_none missing index indexed
  obtain ⟨sameName, labelled⟩ := podWebhookDefault_leader_of_indexed admitted (by simp [StringMap.found_eq, setNamed])
    (by simp [leaderPod, StringMap.get_eq, workerIndexed]) found
  have podNamed : pod.name = statefulSetPodName lws.name ordinal := by
    rw [sameName, statefulSetPod, stsNamed]
  have leading : ObservedPod.created pod ∈ (cluster.createPod pod).listPods (leaderPodSelector lws) := by
    refine Cluster.mem_listPods.mpr ⟨Cluster.created_mem_createPod (podNamed ▸ fresh), ?_⟩
    rw [matchingLabels_leaderPodSelector, ObservedPod.created,
      labelled setNameLabelKey (by decide) (by decide) (by decide),
      labelled workerIndexLabelKey (by decide) (by decide) (by decide)]
    exact ⟨setNamed, workerIndexed⟩
  have parsed : groupIndex pod.labels = .ok index := by
    rw [groupIndex_congr (labelled groupIndexLabelKey (by decide) (by decide) (by decide)), groupIndex_congr podIndexed]
    exact indexed
  obtain ⟨-, indexNonnegative, leaderNamed⟩ := named.leaderPods _ leading
  change 0 ≤ groupIndexValue pod.labels at indexNonnegative
  change pod.name = statefulSetPodName lws.name (groupIndexValue pod.labels) at leaderNamed
  rw [groupIndexValue_of_groupIndex parsed] at indexNonnegative leaderNamed
  exact other (statefulSetPodName_inj nonnegative indexNonnegative (podNamed.symm.trans leaderNamed)).2

/-- `lws` with a leader template that labels its pods group `0`. -/
def indexedLeaderWorkerSet : LeaderWorkerSet :=
  { rolloutLeaderWorkerSet with
    spec :=
      { rolloutLeaderWorkerSet.spec with
        leaderWorkerTemplate :=
          { rolloutLeaderWorkerSet.spec.leaderWorkerTemplate with
            leaderTemplate := some ⟨StringMap.ofList [(groupIndexLabelKey, "0")], ∅, ⟨"", none, [], []⟩⟩ } } }

/-- The set of `rolloutNamespace` is named, and stops being named once its
leader StatefulSet, built from the indexed template, creates the leader pod
`lws-1`. -/
theorem createPod_indexed_leader_breaks_groupsNamed_on_rollout :
    GroupsNamed rolloutNamespace.cluster indexedLeaderWorkerSet ∧
      ∃ sts, constructLeaderStatefulSetApplyConfiguration indexedLeaderWorkerSet 0 2 "old" = some sts ∧
        ∃ pod, podWebhookDefault id (statefulSetPod sts 1) = .ok pod ∧
          ¬GroupsNamed (rolloutNamespace.cluster.createPod pod) indexedLeaderWorkerSet := by
  obtain ⟨sts, built⟩ : ∃ sts, constructLeaderStatefulSetApplyConfiguration indexedLeaderWorkerSet 0 2 "old" = some sts :=
    Option.isSome_iff_exists.mp (by decide)
  obtain ⟨pod, admitted⟩ := exists_podWebhookDefault_leaderStatefulSetPod id built (by decide) (by decide)
    (fun _ configured => by cases configured) ⟨by decide, by decide, by decide⟩ (fun _ configured => by cases configured)
    (by decide) (by decide : (1 : Int) < 2147483648)
  refine ⟨(rolloutNamespace_valid.named _ (List.mem_singleton_self _)).of_name rfl, sts, built, pod, admitted, ?_⟩
  exact createPod_indexed_leader_breaks_groupsNamed built (by decide) (by decide) (by decide : (1 : Int) ≠ 0) (by decide)
    admitted

end Lws
