import Lws.Controllers.PodController
import Lws.Webhooks.PodIdempotence

/-!
# The groups of a set over runs of the pod controller

The two readings of a set's groups in the LeaderWorkerSet controller, the
status counts of `updateConditions` and the states of `getReplicaStates`,
agree when the leader pods and StatefulSets are named and labelled as
`GroupsNamed` says. The pod controller keeps that naming: it creates each
worker StatefulSet named after a leader pod of its set and labelled with the
set's name and the leader's group index. So does the rest of the cluster it
runs beside: deletions, the garbage collector, and the status reports of the
kubelet and the StatefulSet controller. The creation of pods and of leader
StatefulSets belongs to the StatefulSet controller and the LeaderWorkerSet
controller and is not among these moves.

The pods a worker StatefulSet creates carry their leader's name in an
annotation, which the pod webhook keeps. `Reconcile` refuses a leader pod
that carries it, so a worker pod never gets a worker StatefulSet of its own,
even one numbered `0`, which the webhook labels a leader.
-/

namespace Lws

/-! ## The naming survives what keeps names and labels -/

section Naming

variable {cluster other : Cluster} {lws : LeaderWorkerSet}

/-- `GroupsNamed` reads only the pods' and the StatefulSets' objects: it holds
of a cluster whose objects are all objects of a named one. -/
theorem GroupsNamed.of_embedded (named : GroupsNamed cluster lws)
    (pods : ∀ pod ∈ other.pods, ∃ original ∈ cluster.pods, original.pod = pod.pod)
    (statefulSets : ∀ sts ∈ other.statefulSets, ∃ original ∈ cluster.statefulSets,
      original.statefulSet = sts.statefulSet) :
    GroupsNamed other lws where
  leaderPods pod member := by
    obtain ⟨inPods, matching⟩ := Cluster.mem_listPods.mp member
    obtain ⟨original, originalMember, same⟩ := pods pod inPods
    rw [← same]
    exact named.leaderPods original (Cluster.mem_listPods.mpr ⟨originalMember, same ▸ matching⟩)
  listedStatefulSets sts member := by
    obtain ⟨inSets, matching⟩ := Cluster.mem_listStatefulSets.mp member
    obtain ⟨original, originalMember, same⟩ := statefulSets sts inSets
    rw [← same]
    exact named.listedStatefulSets original (Cluster.mem_listStatefulSets.mpr ⟨originalMember, same ▸ matching⟩)
  workerStatefulSets sts member pod podMember nominated := by
    obtain ⟨inPods, matching⟩ := Cluster.mem_listPods.mp podMember
    obtain ⟨originalPod, originalPodMember, samePod⟩ := pods pod inPods
    obtain ⟨original, originalMember, same⟩ := statefulSets sts member
    rw [← same, ← samePod]
    exact named.workerStatefulSets original originalMember originalPod
      (Cluster.mem_listPods.mpr ⟨originalPodMember, samePod ▸ matching⟩) (by rw [same, samePod]; exact nominated)

theorem GroupsNamed.markDeleting (named : GroupsNamed cluster lws) (name : String) :
    GroupsNamed (cluster.markDeleting name) lws :=
  named.of_embedded (fun _ member => by
      obtain ⟨original, originalMember, rfl⟩ := List.mem_map.mp member
      exact ⟨original, originalMember, rfl⟩)
    (fun sts member => ⟨sts, member, rfl⟩)

theorem GroupsNamed.removePod (named : GroupsNamed cluster lws) (name : String) :
    GroupsNamed (cluster.removePod name) lws :=
  named.of_embedded (fun pod member => ⟨pod, (List.mem_filter.mp member).1, rfl⟩)
    (fun sts member => ⟨sts, member, rfl⟩)

theorem GroupsNamed.removeStatefulSet (named : GroupsNamed cluster lws) (name : String) :
    GroupsNamed (cluster.removeStatefulSet name) lws :=
  named.of_embedded (fun pod member => ⟨pod, member, rfl⟩)
    (fun sts member => ⟨sts, (List.mem_filter.mp member).1, rfl⟩)

theorem GroupsNamed.setPodStatus (named : GroupsNamed cluster lws) (name : String) (status : PodStatus) :
    GroupsNamed (cluster.setPodStatus name status) lws :=
  named.of_embedded (fun _ member => by
      obtain ⟨original, originalMember, rfl⟩ := List.mem_map.mp member
      exact ⟨original, originalMember, rfl⟩)
    (fun sts member => ⟨sts, member, rfl⟩)

theorem GroupsNamed.setStatefulSetStatus (named : GroupsNamed cluster lws) (name : String)
    (status : StatefulSetStatus) : GroupsNamed (cluster.setStatefulSetStatus name status) lws :=
  named.of_embedded (fun pod member => ⟨pod, member, rfl⟩)
    (fun _ member => by
      obtain ⟨original, originalMember, rfl⟩ := List.mem_map.mp member
      exact ⟨original, originalMember, rfl⟩)

/-- A created StatefulSet keeps the naming when it is named and labelled as
the group of the leader pod it is named after. -/
theorem GroupsNamed.createStatefulSet (named : GroupsNamed cluster lws) {sts : ObservedStatefulSet}
    (listed : matchingLabels (statefulSetSelector lws) sts.statefulSet.labels = true →
      groupIndex sts.statefulSet.labels = .ok (groupIndexValue sts.statefulSet.labels) →
        0 ≤ groupIndexValue sts.statefulSet.labels ∧
          sts.statefulSet.name = statefulSetPodName lws.name (groupIndexValue sts.statefulSet.labels))
    (owned : ∀ pod ∈ cluster.listPods (leaderPodSelector lws), sts.statefulSet.name = pod.pod.name →
      matchingLabels (statefulSetSelector lws) sts.statefulSet.labels = true ∧
        groupIndex sts.statefulSet.labels = .ok (groupIndexValue pod.pod.labels)) :
    GroupsNamed (cluster.createStatefulSet sts) lws := by
  by_cases fresh : cluster.getStatefulSet sts.statefulSet.name = none
  · have samePods : (cluster.createStatefulSet sts).listPods (leaderPodSelector lws) =
        cluster.listPods (leaderPodSelector lws) := Cluster.listPods_createStatefulSet _ _ _
    refine ⟨?_, ?_, ?_⟩
    · rw [samePods]
      exact named.leaderPods
    · intro other member
      obtain ⟨inSets, matching⟩ := Cluster.mem_listStatefulSets.mp member
      rw [Cluster.createStatefulSet_statefulSets fresh, List.mem_append, List.mem_singleton] at inSets
      rcases inSets with old | rfl
      · exact named.listedStatefulSets other (Cluster.mem_listStatefulSets.mpr ⟨old, matching⟩)
      · exact listed matching
    · intro other member pod podMember nominated
      rw [samePods] at podMember
      rw [Cluster.createStatefulSet_statefulSets fresh, List.mem_append, List.mem_singleton] at member
      rcases member with old | rfl
      · exact named.workerStatefulSets other old pod podMember nominated
      · exact owned pod podMember nominated
  · simp only [Cluster.createStatefulSet, fresh, dite_false]
    exact named

end Naming

/-! ## The pod controller keeps the naming -/

section Created

variable {view : PodControllerView} {podName : String} {pod : ObservedPod} {set : ObservedLeaderWorkerSet}
  {services : List PodAction} {sts : StatefulSetApplyConfiguration} {nodeSelector : Option (String × String)}
  (reached : ReachesLeaderSteps view podName pod set services)
  (guards : CreatesWorkerStatefulSet view pod set sts nodeSelector)
include reached guards

omit reached in
/-- The created worker StatefulSet reads as the group of its leader. -/
theorem groupIndex_created : groupIndex sts.created.statefulSet.labels = groupIndex pod.pod.labels := by
  obtain ⟨revision, -, built⟩ := guards.built
  simp [StatefulSetApplyConfiguration.created, groupIndex, (constructWorkerStatefulSetApplyConfiguration_leader built).2.2.1]

omit reached in
/-- The sets the created worker StatefulSet is listed for are the sets named
like its leader's. -/
theorem matchingLabels_created (lws : LeaderWorkerSet) :
    matchingLabels (statefulSetSelector lws) sts.created.statefulSet.labels = true ↔ lws.name = set.lws.name := by
  obtain ⟨revision, -, built⟩ := guards.built
  simp only [matchingLabels, statefulSetSelector, List.all_cons, List.all_nil, Bool.and_true,
    StatefulSetApplyConfiguration.created, (constructWorkerStatefulSetApplyConfiguration_leader built).2.1,
    beq_iff_eq, Option.some.injEq]
  exact eq_comm

omit guards in
/-- The leader is a leader pod of every set named like its own. -/
theorem mem_listPods_of_reached {lws : LeaderWorkerSet} (same : lws.name = set.lws.name) :
    pod ∈ view.cluster.listPods (leaderPodSelector lws) := by
  have setName := PodControllerView.getLeaderWorkerSet_name reached.reads.setFound
  have indexZero : pod.pod.labels.get workerIndexLabelKey = "0" := by simpa [leaderPod] using reached.leader
  have indexed := StringMap.lookup_of_get_ne_empty (show pod.pod.labels.get workerIndexLabelKey ≠ "" by
    rw [indexZero]
    decide)
  refine Cluster.mem_listPods.mpr ⟨(Cluster.getPod_eq_some.mp reached.reads.found).1, ?_⟩
  rw [matchingLabels_leaderPodSelector, StringMap.lookup_of_get_ne_empty reached.reads.named, indexed, indexZero, same,
    setName]
  exact ⟨rfl, rfl⟩

/-- The created worker StatefulSet is named like a group of the leader's set. -/
theorem name_created (named : GroupsNamed view.cluster set.lws) :
    sts.created.statefulSet.name = statefulSetPodName set.lws.name (groupIndexValue pod.pod.labels) := by
  obtain ⟨revision, -, built⟩ := guards.built
  have stsNamed : sts.created.statefulSet.name = pod.pod.name :=
    (constructWorkerStatefulSetApplyConfiguration_leader built).1
  rw [stsNamed]
  exact (named.leaderPods pod (mem_listPods_of_reached reached rfl)).2.2

/-- **The created worker StatefulSet keeps the naming** of every set: it is
named after its leader and carries the set's name and the leader's group
index. The only pod of the leader's name is the leader. -/
theorem GroupsNamed.created {lws : LeaderWorkerSet} (named : GroupsNamed view.cluster lws) :
    GroupsNamed (view.cluster.createStatefulSet sts.created) lws := by
  obtain ⟨revision, -, built⟩ := guards.built
  have stsNamed : sts.created.statefulSet.name = pod.pod.name :=
    (constructWorkerStatefulSetApplyConfiguration_leader built).1
  have inPods : pod ∈ view.cluster.pods := (Cluster.getPod_eq_some.mp reached.reads.found).1
  apply named.createStatefulSet
  · intro matched _
    have leader := named.leaderPods pod
      (mem_listPods_of_reached reached ((matchingLabels_created guards lws).mp matched))
    have sameValue : groupIndexValue sts.created.statefulSet.labels = groupIndexValue pod.pod.labels := by
      simp [groupIndexValue, StatefulSetApplyConfiguration.created,
        (constructWorkerStatefulSetApplyConfiguration_leader built).2.2.1]
    rw [sameValue, stsNamed]
    exact leader.2
  · intro other otherMember nominated
    have same : other = pod :=
      List.inj_on_of_nodup_map view.cluster.podNamesUnique (Cluster.mem_listPods.mp otherMember).1 inPods
        (nominated.symm.trans stsNamed)
    subst same
    have listedFor : lws.name = set.lws.name := by
      have matched := (Cluster.mem_listPods.mp otherMember).2
      have setName := PodControllerView.getLeaderWorkerSet_name reached.reads.setFound
      rw [matchingLabels_leaderPodSelector, StringMap.lookup_of_get_ne_empty reached.reads.named,
        Option.some.injEq] at matched
      rw [setName, matched.1]
    exact ⟨(matchingLabels_created guards lws).mpr listedFor,
      (groupIndex_created guards).trans (named.leaderPods other otherMember).1⟩

end Created

/-- What a reconcile's requests do to the cluster: nothing, the deletion of a
pod, or the creation of the worker StatefulSet of a leader that reaches the
leader steps. -/
theorem PodReconciler.reconcile_cluster (view : PodControllerView) (podName : String) :
    let after := (view.applyActions (PodReconciler.reconcile view podName).actions).cluster
    after = view.cluster ∨ (∃ name, after = view.cluster.markDeleting name) ∨
      ∃ pod set services sts nodeSelector, ReachesLeaderSteps view podName pod set services ∧
        CreatesWorkerStatefulSet view pod set sts nodeSelector ∧ after = view.cluster.createStatefulSet sts.created := by
  rcases reconcile_actions view podName with none | ⟨pod, set, leaderName, -, -, deletes⟩ |
      ⟨pod, set, services, reached, sends⟩
  · rw [none]
    exact .inl rfl
  · rw [deletes]
    exact .inr (.inl ⟨leaderName, rfl⟩)
  · have creations := fun action member => (leaderPodServices_creations reached.servicesBuilt action member).imp
      fun _ created => created.1
    dsimp only
    rw [sends, PodControllerView.applyActions_append, applyActions_of_services creations view]
    rcases reconcileWorkerStatefulSet_actions view pod set with none | ⟨sts, nodeSelector, sent, guards⟩
    · rw [none]
      exact .inl rfl
    · rw [sent]
      exact .inr (.inr ⟨pod, set, services, sts, nodeSelector, reached, guards, rfl⟩)

/-- A reconcile with its requests carried out keeps the naming of every set. -/
theorem GroupsNamed.reconcile {view : PodControllerView} {lws : LeaderWorkerSet}
    (named : GroupsNamed view.cluster lws) (podName : String) :
    GroupsNamed (view.applyActions (PodReconciler.reconcile view podName).actions).cluster lws := by
  rcases PodReconciler.reconcile_cluster view podName with same | ⟨name, deleted⟩ |
      ⟨pod, set, services, sts, nodeSelector, reached, guards, created⟩
  · rw [same]
    exact named
  · rw [deleted]
    exact named.markDeleting name
  · rw [created]
    exact named.created reached guards

/-! ## Runs -/

/-- One move of the system the pod controller runs in: a reconcile whose
requests the API server carries out, or a move of the rest of the cluster. -/
inductive PodControllerStep : PodControllerView → PodControllerView → Prop where
  /-- The pod controller reconciles a pod. -/
  | reconcile (view : PodControllerView) (podName : String) :
    PodControllerStep view (view.applyActions (PodReconciler.reconcile view podName).actions)
  /-- Another client deletes a pod. -/
  | deletePod (view : PodControllerView) (name : String) :
    PodControllerStep view { view with cluster := view.cluster.markDeleting name }
  /-- The garbage collector ends the deletion of a pod being deleted. -/
  | removePod (view : PodControllerView) (name : String)
    (deleting : ∃ pod, view.cluster.getPod name = some pod ∧ pod.deleting = true) :
    PodControllerStep view { view with cluster := view.cluster.removePod name }
  /-- The garbage collector or another client removes a StatefulSet. -/
  | removeStatefulSet (view : PodControllerView) (name : String) :
    PodControllerStep view { view with cluster := view.cluster.removeStatefulSet name }
  /-- The kubelet reports a pod's status. -/
  | podStatus (view : PodControllerView) (name : String) (status : PodStatus) :
    PodControllerStep view { view with cluster := view.cluster.setPodStatus name status }
  /-- The StatefulSet controller reports a StatefulSet's status. -/
  | statefulSetStatus (view : PodControllerView) (name : String) (status : StatefulSetStatus) :
    PodControllerStep view { view with cluster := view.cluster.setStatefulSetStatus name status }
  /-- The LeaderWorkerSets, nodes, services and revisions change. -/
  | otherObjects (view : PodControllerView) (sets : List ObservedLeaderWorkerSet) (nodes : List Node)
    (services : List HeadlessService) (revisions : List ControllerRevision) :
    PodControllerStep view { view with sets, nodes, services, revisions }

/-- Every move keeps the naming of every set. -/
theorem GroupsNamed.step {view next : PodControllerView} {lws : LeaderWorkerSet}
    (named : GroupsNamed view.cluster lws) (step : PodControllerStep view next) : GroupsNamed next.cluster lws := by
  cases step with
  | reconcile podName => exact named.reconcile podName
  | deletePod name => exact named.markDeleting name
  | removePod name _ => exact named.removePod name
  | removeStatefulSet name => exact named.removeStatefulSet name
  | podStatus name status => exact named.setPodStatus name status
  | statefulSetStatus name status => exact named.setStatefulSetStatus name status
  | otherObjects => exact named

/-- **The groups stay named over every run.** From a cluster whose leader
pods and StatefulSets are named and labelled as `GroupsNamed` says, every run
of the pod controller, interleaved with deletions, status reports and the
garbage collector, reaches only clusters that are: each worker StatefulSet
the pod controller creates is named after a leader pod of its set and
labelled with the set's name and the leader's group index. -/
theorem groupsNamed_of_run {start view : PodControllerView} {lws : LeaderWorkerSet}
    (run : Relation.ReflTransGen PodControllerStep start view) (named : GroupsNamed start.cluster lws) :
    GroupsNamed view.cluster lws := by
  induction run with
  | refl => exact named
  | tail _ step inductionHypothesis => exact inductionHypothesis.step step

/-- Group 0 of `lws` before its worker StatefulSet exists, with the revision
its leader carries. -/
def freshGroupView : PodControllerView where
  cluster :=
    { pods := [runningLeaderPod 0 "old"]
      statefulSets := [⟨⟨"lws", StringMap.ofList [(setNameLabelKey, "lws")], ∅, 2, 0⟩, ⟨1, "lws-old", "lws-old"⟩⟩]
      podNamesUnique := by decide
      statefulSetNamesUnique := by decide }
  sets := [recreatingLeaderWorkerSet]
  nodes := []
  services := []
  revisions := [oldRevision]

/-- Reconciling the leader creates the worker StatefulSet of group 0, and the
groups stay named. -/
theorem groupsNamed_of_run_on_fresh_group :
    (freshGroupView.applyActions (PodReconciler.reconcile freshGroupView "lws-0").actions).cluster.getStatefulSet
        "lws-0" ≠ none ∧
      GroupsNamed (freshGroupView.applyActions (PodReconciler.reconcile freshGroupView "lws-0").actions).cluster
        rolloutLeaderWorkerSet :=
  ⟨by decide, groupsNamed_of_run (.single (.reconcile freshGroupView "lws-0")) (by decide)⟩

/-! ## Worker pods never get worker StatefulSets -/

/-- **No StatefulSet creation loop.** A pod the StatefulSet controller
creates from a worker StatefulSet the pod controller built, with any ordinal,
carries its leader's name in an annotation that the pod webhook keeps, and
its reconcile sends no StatefulSet creation. This holds of ordinal `0` too,
which a StatefulSet controller without start ordinals gives out and which
the webhook labels a leader. -/
theorem reconcile_never_creates_for_worker_pod {view : PodControllerView} {leaderPod : Pod}
    {lws : LeaderWorkerSet} {revision : ControllerRevision} {sts : StatefulSetApplyConfiguration}
    {sha1Hash : String → String} {ordinal : Int} {admitted : Pod} {observed : ObservedPod}
    (built : constructWorkerStatefulSetApplyConfiguration leaderPod lws revision = some sts)
    (named : leaderPod.name ≠ "")
    (defaulted : podWebhookDefault sha1Hash (statefulSetPod sts ordinal) = .ok admitted)
    (stored : view.cluster.getPod admitted.name = some observed) (same : observed.pod = admitted)
    (created : StatefulSetApplyConfiguration) (nodeSelector : Option (String × String)) :
    .createStatefulSet created nodeSelector ∉ (PodReconciler.reconcile view admitted.name).actions := by
  intro member
  obtain ⟨pod, set, services, reached, -⟩ := exists_guards_of_creates member
  have read : pod = observed := Option.some.inj (reached.reads.found.symm.trans stored)
  have annotated : admitted.annotations.lookup leaderPodNameAnnotationKey = some leaderPod.name := by
    rw [podWebhookDefault_annotations defaulted]
    exact (constructWorkerStatefulSetApplyConfiguration_leader built).2.2.2
  have refused := reached.notWorkerTemplate
  rw [read, same, StringMap.get_eq, annotated, Option.getD_some] at refused
  exact named refused

/-- The worker StatefulSet of group 0 at the revision keyed `old`. -/
def groupZeroWorkers : StatefulSetApplyConfiguration :=
  (constructWorkerStatefulSetApplyConfiguration oldRevisionLeaderPod rolloutLeaderWorkerSet oldRevision).get
    (by decide)

/-- The pod of ordinal `0` of the worker StatefulSet of group 0, as the
webhook admits it. -/
def zeroOrdinalWorkerPod : Pod :=
  (podWebhookDefault id (statefulSetPod groupZeroWorkers 0)).toOption.getD (statefulSetPod groupZeroWorkers 0)

/-- The worker pod of ordinal `0` beside its leader, with the revision both
carry. -/
def zeroOrdinalView : PodControllerView where
  cluster :=
    { pods := [⟨oldRevisionLeaderPod, false, "node", ⟨some .podRunning, [], [], []⟩⟩,
        ⟨zeroOrdinalWorkerPod, false, "node", ⟨some .podRunning, [], [], []⟩⟩]
      statefulSets := []
      podNamesUnique := by decide
      statefulSetNamesUnique := List.nodup_nil }
  sets := [recreatingLeaderWorkerSet]
  nodes := []
  services := []
  revisions := [oldRevision]

/-- The webhook labels worker `0` a leader, and its reconcile still creates
no StatefulSet. -/
theorem reconcile_never_creates_for_worker_pod_on_zero_ordinal :
    leaderPod zeroOrdinalWorkerPod = true ∧
      ∀ created nodeSelector, .createStatefulSet created nodeSelector ∉
        (PodReconciler.reconcile zeroOrdinalView zeroOrdinalWorkerPod.name).actions :=
  ⟨by decide, @reconcile_never_creates_for_worker_pod zeroOrdinalView oldRevisionLeaderPod rolloutLeaderWorkerSet
    oldRevision groupZeroWorkers id 0 zeroOrdinalWorkerPod
    ⟨zeroOrdinalWorkerPod, false, "node", ⟨some .podRunning, [], [], []⟩⟩ (by decide) (by decide) (by decide)
    (by decide) rfl⟩

end Lws
