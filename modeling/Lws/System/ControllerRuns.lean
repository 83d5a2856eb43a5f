import Lws.Controllers.LeaderWorkerSetController
import Lws.Library.Simulation
import Lws.System.GroupLifecycle

/-!
# Runs of the two controllers

The LeaderWorkerSet controller and the pod controller run side by side over
one namespace, each reconciling on its own schedule, beside the API server's
own moves and the clients that edit the sets. A run is any interleaving of
these moves: a reconcile of either controller with its writes carried out, a
deletion of a pod, the garbage collector, a status report of the kubelet or
of the StatefulSet controller, and an edit of the sets that keeps their names.

Two things hold over every run from a namespace whose objects are named as
the controllers name them (`NamespaceValid`).

The groups stay named. The apply of a leader StatefulSet under its set's name
never lands on a group's worker StatefulSet and never gives the leader a
group index, and the pod controller creates worker StatefulSets under group
names only.

Each set's revisions and its leader's revision key move as the revision
history model says: every move of the namespace is a `RevisionStep` of the
set (a reconcile of the model, or the removal of the leader StatefulSet) or
leaves them. So the model's invariant holds of the namespace over every run:
revision names stay unique and the leader's key names a stored revision.

Set names are kept apart from group names as a precondition: the leader
StatefulSet of a set named `lws-0` has the name of the worker StatefulSet of
group 0 of a set named `lws`. Sets are neither created nor deleted along a
run, and the pods that the StatefulSet controller creates are not among the
moves.
-/

namespace Lws

/-! ## The namespace's invariant -/

/-- No set is named like a group of a set, `statefulSetPodName` of a set's
name and an index. -/
def NamesSeparated (names : List String) : Prop :=
  ∀ name ∈ names, ∀ other ∈ names, ∀ index : Int, name ≠ statefulSetPodName other index

/-- What every run keeps: set names stay apart from group names, the groups of
every set are named as `GroupsNamed` says, and the StatefulSet under a set's
name carries no group index. -/
structure NamespaceValid (view : PodControllerView) : Prop where
  separated : NamesSeparated (view.sets.map (·.lws.name))
  named : ∀ set ∈ view.sets, GroupsNamed view.cluster set.lws
  leaderUnindexed : ∀ set ∈ view.sets, ∀ sts, view.cluster.getStatefulSet set.lws.name = some sts →
    ∀ index, groupIndex sts.statefulSet.labels ≠ .ok index

/-- One move of the namespace. -/
inductive ControllersStep (scaledValue : ScaledValue) (hashRevision : RevisionPatch → String) :
    PodControllerView → PodControllerView → Prop where
  /-- The LeaderWorkerSet controller reconciles a set, and the API server
  carries out its writes or refuses the patch of its apply. -/
  | leaderWorkerSet (view : PodControllerView) (name : String) (patchError : Option String) :
    ControllersStep scaledValue hashRevision view
      (LeaderWorkerSetReconciler.reconcile scaledValue hashRevision view name patchError).1
  /-- The pod controller reconciles a pod, or the cluster beside it moves;
  the sets and the revisions stay. -/
  | pods {view next : PodControllerView} (step : PodControllerStep view next) (setsKept : next.sets = view.sets)
    (revisionsKept : next.revisions = view.revisions) : ControllersStep scaledValue hashRevision view next
  /-- A client edits the sets, or a status write lands; their names stay. -/
  | editSets (view : PodControllerView) (sets : List ObservedLeaderWorkerSet)
    (sameNames : sets.map (·.lws.name) = view.sets.map (·.lws.name)) :
    ControllersStep scaledValue hashRevision view { view with sets }

/-! ## Names -/

/-- A name is no group name of a set whose name is at least as long. -/
theorem ne_statefulSetPodName {name other : String} (shorter : name.length ≤ other.length) (index : Int) :
    name ≠ statefulSetPodName other index := by
  intro same
  have longer := congrArg String.length same
  simp only [statefulSetPodName, String.length_append] at longer
  have dash : "-".length = 1 := rfl
  omega

/-- `GroupsNamed` reads only the set's name. -/
theorem GroupsNamed.of_name {cluster : Cluster} {lws other : LeaderWorkerSet} (named : GroupsNamed cluster lws)
    (same : other.name = lws.name) : GroupsNamed cluster other := by
  have leaders : leaderPodSelector other = leaderPodSelector lws := by
    rw [leaderPodSelector, leaderPodSelector, same]
  have listed : statefulSetSelector other = statefulSetSelector lws := by
    rw [statefulSetSelector, statefulSetSelector, same]
  obtain ⟨leaderPods, listedStatefulSets, workerStatefulSets⟩ := named
  constructor
  · rw [leaders, same]
    exact leaderPods
  · rw [listed, same]
    exact listedStatefulSets
  · rw [leaders, listed]
    exact workerStatefulSets

/-- A set of a namespace whose names are another's is named like one of the
other's sets. -/
theorem exists_of_sameNames {sets others : List ObservedLeaderWorkerSet}
    (sameNames : others.map (·.lws.name) = sets.map (·.lws.name)) {set : ObservedLeaderWorkerSet}
    (member : set ∈ others) : ∃ original ∈ sets, original.lws.name = set.lws.name := by
  have listed : set.lws.name ∈ sets.map (·.lws.name) := by
    rw [← sameNames]
    exact List.mem_map_of_mem member
  exact List.mem_map.mp listed

/-- The invariant carries over to a namespace with the same set names whose
cluster keeps the naming of the sets and leaves their StatefulSets
unindexed. -/
theorem NamespaceValid.of_names {view next : PodControllerView} (valid : NamespaceValid view)
    (sameNames : next.sets.map (·.lws.name) = view.sets.map (·.lws.name))
    (named : ∀ set ∈ view.sets, GroupsNamed next.cluster set.lws)
    (leaderUnindexed : ∀ set ∈ view.sets, ∀ sts, next.cluster.getStatefulSet set.lws.name = some sts →
      ∀ index, groupIndex sts.statefulSet.labels ≠ .ok index) :
    NamespaceValid next where
  separated := by
    rw [sameNames]
    exact valid.separated
  named set member := by
    obtain ⟨original, originalMember, same⟩ := exists_of_sameNames sameNames member
    exact (named original originalMember).of_name same.symm
  leaderUnindexed set member := by
    obtain ⟨original, originalMember, same⟩ := exists_of_sameNames sameNames member
    rw [← same]
    exact leaderUnindexed original originalMember

/-! ## The apply of a leader StatefulSet -/

/-- `groupIndex` reads only the group index label. -/
theorem groupIndex_congr {labels other : StringMap}
    (same : labels.lookup groupIndexLabelKey = other.lookup groupIndexLabelKey) :
    groupIndex labels = groupIndex other := by
  rw [groupIndex, groupIndex, StringMap.get_eq, StringMap.get_eq, same]

/-- Without a group index label, `strconv.Atoi` reads the empty text and
fails. -/
theorem groupIndex_of_lookup_none {labels : StringMap} (missing : labels.lookup groupIndexLabelKey = none)
    (index : Int) : groupIndex labels ≠ .ok index := by
  have empty : Strconv.atoi "" = .error (Strconv.syntaxError "Atoi" "") := rfl
  rw [groupIndex, StringMap.get_eq, missing, Option.getD_none, empty]
  exact fun parsed => by cases parsed

/-- After the apply of a leader StatefulSet, whose labels are the set's name
and a revision key, the StatefulSet under its name has the group index label
of the one stored before, if any. -/
theorem getStatefulSet_applyStatefulSet_leader (cluster : Cluster) {config : StatefulSetApplyConfiguration}
    {name revisionKeyValue : String}
    (labelled : config.labels = StringMap.ofList [(setNameLabelKey, name), (revisionKey, revisionKeyValue)]) :
    ∃ sts, (cluster.applyStatefulSet config).getStatefulSet config.name = some sts ∧
      sts.statefulSet.labels.lookup groupIndexLabelKey =
        (cluster.getStatefulSet config.name).bind fun old => old.statefulSet.labels.lookup groupIndexLabelKey := by
  obtain ⟨sts, found, labels⟩ := Cluster.getStatefulSet_applyStatefulSet_self cluster config
  have unlabelled : config.labels.lookup groupIndexLabelKey = none := by
    have notName : groupIndexLabelKey ≠ setNameLabelKey := by decide
    have notRevision : groupIndexLabelKey ≠ revisionKey := by decide
    simp [labelled, StringMap.ofList, notName, notRevision]
  refine ⟨sts, found, ?_⟩
  rw [labels, unlabelled, Option.none_or]

/-- The apply of a leader StatefulSet leaves every StatefulSet under a name
unindexed that was. -/
theorem unindexed_applyStatefulSet {cluster : Cluster} {config : StatefulSetApplyConfiguration}
    {name revisionKeyValue : String}
    (labelled : config.labels = StringMap.ofList [(setNameLabelKey, name), (revisionKey, revisionKeyValue)])
    {setName : String}
    (unindexed : ∀ sts, cluster.getStatefulSet setName = some sts → ∀ index, groupIndex sts.statefulSet.labels ≠ .ok index)
    (sts : ObservedStatefulSet) (found : (cluster.applyStatefulSet config).getStatefulSet setName = some sts) :
    ∀ index, groupIndex sts.statefulSet.labels ≠ .ok index := by
  by_cases applied : setName = config.name
  · subst applied
    obtain ⟨leader, leaderFound, lookup⟩ := getStatefulSet_applyStatefulSet_leader cluster labelled
    obtain rfl : leader = sts := Option.some.inj (leaderFound.symm.trans found)
    cases stored : cluster.getStatefulSet config.name with
    | none =>
      rw [stored, Option.bind_none] at lookup
      exact groupIndex_of_lookup_none lookup
    | some old =>
      rw [stored, Option.bind_some] at lookup
      rw [groupIndex_congr lookup]
      exact unindexed old stored
  · rw [Cluster.getStatefulSet_applyStatefulSet_of_ne applied] at found
    exact unindexed sts found

/-- **The apply of a leader StatefulSet keeps the naming** of every set none
of whose group names is the leader's, when the StatefulSet it leaves under
the leader's name has no group index. A StatefulSet after the apply is the
applied leader or was there before. -/
theorem GroupsNamed.applyStatefulSet {cluster : Cluster} {lws : LeaderWorkerSet}
    {config : StatefulSetApplyConfiguration} (named : GroupsNamed cluster lws)
    (apart : ∀ index, config.name ≠ statefulSetPodName lws.name index)
    (unindexed : ∀ sts, (cluster.applyStatefulSet config).getStatefulSet config.name = some sts →
      ∀ index, groupIndex sts.statefulSet.labels ≠ .ok index) :
    GroupsNamed (cluster.applyStatefulSet config) lws := by
  have samePods : ∀ selector, (cluster.applyStatefulSet config).listPods selector = cluster.listPods selector := by
    intro selector
    simp only [Cluster.listPods, Cluster.applyStatefulSet_pods]
  have stored : ∀ sts ∈ (cluster.applyStatefulSet config).statefulSets,
      (cluster.applyStatefulSet config).getStatefulSet config.name = some sts ∨ sts ∈ cluster.statefulSets := by
    intro sts member
    by_cases leader : sts.statefulSet.name = config.name
    · exact .inl (Cluster.getStatefulSet_eq_some.mpr ⟨member, leader⟩)
    · exact .inr (Cluster.mem_applyStatefulSet_of_ne member leader)
  constructor
  · rw [samePods]
    exact named.leaderPods
  · intro sts member parsed
    obtain ⟨inSets, matching⟩ := Cluster.mem_listStatefulSets.mp member
    rcases stored sts inSets with leader | old
    · exact absurd parsed (unindexed sts leader _)
    · exact named.listedStatefulSets sts (Cluster.mem_listStatefulSets.mpr ⟨old, matching⟩) parsed
  · intro sts member pod podMember nominated
    rw [samePods] at podMember
    rcases stored sts member with leader | old
    · have leaderNamed := (Cluster.getStatefulSet_eq_some.mp leader).2
      exact absurd ((leaderNamed.symm.trans nominated).trans (named.leaderPods pod podMember).2.2) (apart _)
    · exact named.workerStatefulSets sts old pod podMember nominated

/-! ## What each move keeps -/

section Step

variable {scaledValue : ScaledValue} {hashRevision : RevisionPatch → String} {view next : PodControllerView}

/-- A reconcile of the LeaderWorkerSet controller keeps the invariant. -/
theorem NamespaceValid.reconcile (valid : NamespaceValid view) (name : String) (patchError : Option String) :
    NamespaceValid (LeaderWorkerSetReconciler.reconcile scaledValue hashRevision view name patchError).1 := by
  obtain ⟨writes, sameNames⟩ :=
    @LeaderWorkerSetReconciler.reconcile_writes scaledValue hashRevision patchError view name
  rcases writes with same | ⟨set, config, revisionKeyValue, found, configNamed, labelled, applied⟩
  · apply valid.of_names sameNames
    · rw [same]
      exact valid.named
    · rw [same]
      exact valid.leaderUnindexed
  · have member := PodControllerView.getLeaderWorkerSet_mem found
    have leaderUnindexed := valid.leaderUnindexed set member
    rw [← configNamed] at leaderUnindexed
    apply valid.of_names sameNames
    · intro other otherMember
      rw [applied]
      apply (valid.named other otherMember).applyStatefulSet
      · rw [configNamed]
        exact valid.separated _ (List.mem_map_of_mem member) _ (List.mem_map_of_mem otherMember)
      · exact unindexed_applyStatefulSet labelled leaderUnindexed
    · intro other otherMember
      rw [applied]
      exact unindexed_applyStatefulSet labelled (valid.leaderUnindexed other otherMember)

/-- **The pod side never writes a set's leader StatefulSet**: after any of its
moves, the StatefulSet under a set's name is gone or the same object, with at
most its status changed. -/
theorem PodControllerStep.leaderStatefulSet (valid : NamespaceValid view) (step : PodControllerStep view next)
    {set : ObservedLeaderWorkerSet} (member : set ∈ view.sets) :
    next.cluster.getStatefulSet set.lws.name = none ∨
      (next.cluster.getStatefulSet set.lws.name).map (·.statefulSet) =
        (view.cluster.getStatefulSet set.lws.name).map (·.statefulSet) := by
  cases step with
  | reconcile podName =>
    right
    rcases PodReconciler.reconcile_cluster view podName with same | ⟨name, deleted⟩ |
        ⟨pod, owner, services, sts, nodeSelector, reached, guards, created⟩
    · rw [same]
    · rw [deleted, Cluster.getStatefulSet_markDeleting]
    · -- the worker StatefulSet takes a group name of the leader's set
      have ownerMember := PodControllerView.getLeaderWorkerSet_mem reached.reads.setFound
      have apart : set.lws.name ≠ sts.created.statefulSet.name := by
        rw [name_created reached guards (valid.named owner ownerMember)]
        exact valid.separated _ (List.mem_map_of_mem member) _ (List.mem_map_of_mem ownerMember) _
      rw [created, Cluster.getStatefulSet_createStatefulSet_of_ne apart]
  | deletePod name => exact .inr rfl
  | removePod name _ => exact .inr rfl
  | removeStatefulSet name =>
    simp only [Cluster.getStatefulSet_removeStatefulSet]
    split
    · exact .inl rfl
    · exact .inr rfl
  | podStatus name status => exact .inr rfl
  | statefulSetStatus name status =>
    right
    rw [Cluster.getStatefulSet_setStatefulSetStatus, Option.map_map]
    rfl
  | otherObjects => exact .inr rfl

/-- A move of the pod side keeps the invariant. -/
theorem NamespaceValid.podStep (valid : NamespaceValid view) (step : PodControllerStep view next)
    (setsKept : next.sets = view.sets) : NamespaceValid next := by
  apply valid.of_names (by rw [setsKept])
  · intro set member
    exact (valid.named set member).step step
  · intro set member sts found
    rcases PodControllerStep.leaderStatefulSet valid step member with gone | same
    · rw [gone] at found
      cases found
    · cases stored : view.cluster.getStatefulSet set.lws.name with
      | none =>
        rw [found, stored] at same
        cases same
      | some old =>
        rw [found, stored] at same
        have sameObject : sts.statefulSet = old.statefulSet := Option.some.inj same
        rw [sameObject]
        exact valid.leaderUnindexed set member old stored

/-- Every move keeps the invariant. -/
theorem NamespaceValid.step (valid : NamespaceValid view) (step : ControllersStep scaledValue hashRevision view next) :
    NamespaceValid next := by
  cases step with
  | leaderWorkerSet name patchError => exact valid.reconcile name patchError
  | pods step setsKept => exact valid.podStep step setsKept
  | editSets sets sameNames => exact valid.of_names sameNames valid.named valid.leaderUnindexed

/-- Every move keeps the set names. -/
theorem ControllersStep.sameNames (step : ControllersStep scaledValue hashRevision view next) :
    next.sets.map (·.lws.name) = view.sets.map (·.lws.name) := by
  cases step with
  | leaderWorkerSet name patchError => exact (LeaderWorkerSetReconciler.reconcile_writes view name).2
  | pods _ setsKept => rw [setsKept]
  | editSets sets sameNames => exact sameNames

/-- A set's store reads only the revisions and the object of its leader
StatefulSet. -/
theorem PodControllerView.revisionStore_congr {name : String} (revisionsKept : next.revisions = view.revisions)
    (leader : (next.cluster.getStatefulSet name).map (·.statefulSet) =
      (view.cluster.getStatefulSet name).map (·.statefulSet)) :
    next.revisionStore name = view.revisionStore name := by
  have key := congrArg (Option.map fun sts : StatefulSet => getRevisionKey sts.labels) leader
  rw [Option.map_map, Option.map_map] at key
  simp only [PodControllerView.revisionStore, revisionsKept]
  exact congrArg (RevisionStore.mk _) key

/-- A reconcile of the LeaderWorkerSet controller moves a set's revisions and
leader key as the model does, or leaves them. -/
theorem revisionStore_reconcile (view : PodControllerView) (reconciled name : String) (patchError : Option String) :
    (LeaderWorkerSetReconciler.reconcile scaledValue hashRevision view reconciled patchError).1.revisionStore name =
        view.revisionStore name ∨
      RevisionStep hashRevision name (view.revisionStore name)
        ((LeaderWorkerSetReconciler.reconcile scaledValue hashRevision view reconciled patchError).1.revisionStore
          name) := by
  by_cases other : name = reconciled
  · subst other
    cases found : view.getLeaderWorkerSet name with
    | none =>
      left
      rcases @LeaderWorkerSetReconciler.reconcile_cases scaledValue hashRevision patchError view name with
          ⟨ending, unchanged, -⟩ | ⟨set, -, -, -, setFound, -⟩
      · rw [unchanged]
      · rw [found] at setFound
        cases setFound
    | some set =>
      rcases @LeaderWorkerSetReconciler.reconcile_refines_reconcileRevisions scaledValue hashRevision patchError view
          _ _ found with same | ⟨outcome, moved⟩
      · exact .inl same
      · right
        rw [moved]
        exact .reconcile set.lws (PodControllerView.getLeaderWorkerSet_name found) outcome _
  · exact .inl (LeaderWorkerSetReconciler.reconcile_revisionStore_of_ne view other)

/-- **Every move is a move of the revision history model** for each set, or
leaves its revisions and its leader's key. -/
theorem revisionStore_step (valid : NamespaceValid view) {name : String}
    (setNamed : name ∈ view.sets.map (·.lws.name)) (step : ControllersStep scaledValue hashRevision view next) :
    next.revisionStore name = view.revisionStore name ∨
      RevisionStep hashRevision name (view.revisionStore name) (next.revisionStore name) := by
  cases step with
  | leaderWorkerSet reconciled patchError => exact revisionStore_reconcile view reconciled name patchError
  | pods step _ revisionsKept =>
    obtain ⟨set, member, rfl⟩ := List.mem_map.mp setNamed
    rcases PodControllerStep.leaderStatefulSet valid step member with gone | same
    · right
      have removed : next.revisionStore set.lws.name =
          { view.revisionStore set.lws.name with leaderRevisionKey := none } := by
        simp only [PodControllerView.revisionStore, gone, revisionsKept, Option.map_none]
      rw [removed]
      exact .leaderRemoved _
    · exact .inl (PodControllerView.revisionStore_congr revisionsKept same)
  | editSets sets => exact .inl rfl

/-- A move keeps the invariant and a set's name. -/
theorem ControllersStep.tracks {name : String} (step : ControllersStep scaledValue hashRevision view next)
    (tracked : NamespaceValid view ∧ name ∈ view.sets.map (·.lws.name)) :
    NamespaceValid next ∧ name ∈ next.sets.map (·.lws.name) := by
  obtain ⟨valid, setNamed⟩ := tracked
  refine ⟨valid.step step, ?_⟩
  rw [step.sameNames]
  exact setNamed

end Step

/-! ## Runs -/

section Runs

variable {scaledValue : ScaledValue} {hashRevision : RevisionPatch → String} {start view : PodControllerView}

/-- **Both controllers keep the groups named over every run.** Start from a
valid namespace: its set names keep apart from group names, its groups are
named as `GroupsNamed` says and its leader StatefulSets carry no group index.
Every interleaving of the two controllers' reconciles with deletions, status
reports, the garbage collector and edits of the sets keeps it valid. -/
theorem namespaceValid_of_run (run : Relation.ReflTransGen (ControllersStep scaledValue hashRevision) start view)
    (valid : NamespaceValid start) : NamespaceValid view :=
  Simulation.invariant_of_run (fun _ _ valid step => valid.step step) run valid

/-- `rolloutNamespace` is valid: one set, whose group 0 is named and whose
leader StatefulSet carries no group index. -/
theorem rolloutNamespace_valid : NamespaceValid rolloutNamespace where
  separated := by
    intro name member other otherMember index
    obtain rfl := List.mem_singleton.mp member
    obtain rfl := List.mem_singleton.mp otherMember
    exact ne_statefulSetPodName le_rfl index
  named := by
    intro set member
    obtain rfl := List.mem_singleton.mp member
    decide
  leaderUnindexed := by
    intro set member sts found
    obtain rfl := List.mem_singleton.mp member
    obtain rfl : rolloutLeaderStatefulSet = sts := Option.some.inj found
    exact groupIndex_of_lookup_none (by decide)

/-- The pod controller creates the worker StatefulSet of group 0, then the
LeaderWorkerSet controller reconciles `lws`. -/
theorem rolloutRun : Relation.ReflTransGen (ControllersStep getScaledValueFromIntOrPercent subdomainPolicyHash)
    rolloutNamespace (LeaderWorkerSetReconciler.reconcile getScaledValueFromIntOrPercent subdomainPolicyHash
      (rolloutNamespace.applyActions (PodReconciler.reconcile rolloutNamespace "lws-0").actions) "lws" none).1 :=
  have kept := PodControllerView.applyActions_sets_revisions rolloutNamespace
    (PodReconciler.reconcile rolloutNamespace "lws-0").actions
  .tail (.single (.pods (.reconcile rolloutNamespace "lws-0") kept.1 kept.2)) (.leaderWorkerSet _ "lws" none)

/-- After the run the namespace is valid, with the worker StatefulSet of
group 0 created. -/
theorem namespaceValid_of_run_on_rollout :
    let after := (LeaderWorkerSetReconciler.reconcile getScaledValueFromIntOrPercent subdomainPolicyHash
      (rolloutNamespace.applyActions (PodReconciler.reconcile rolloutNamespace "lws-0").actions) "lws" none).1
    after.cluster.getStatefulSet "lws-0" ≠ none ∧ NamespaceValid after :=
  ⟨by decide, namespaceValid_of_run rolloutRun rolloutNamespace_valid⟩

/-- **The controllers refine the revision history model.** Along every run,
the revisions of a set and its leader's key move by steps of the model: a
reconcile of the model with some outcome of its later calls, or the removal
of the leader StatefulSet. -/
theorem revisionSteps_of_run (run : Relation.ReflTransGen (ControllersStep scaledValue hashRevision) start view)
    (valid : NamespaceValid start) {name : String} (setNamed : name ∈ start.sets.map (·.lws.name)) :
    Relation.ReflTransGen (RevisionStep hashRevision name) (start.revisionStore name) (view.revisionStore name) :=
  @Simulation.abstract_run _ _ _ (fun view => NamespaceValid view ∧ name ∈ view.sets.map (·.lws.name))
    (fun view => view.revisionStore name) _ (fun _ _ tracked step => step.tracks tracked)
    (fun _ _ tracked step => revisionStore_step tracked.1 tracked.2 step) _ _ run ⟨valid, setNamed⟩

/-- The revisions of `lws` move by steps of the model along the run. -/
theorem revisionSteps_of_run_on_rollout :
    "lws" ∈ rolloutNamespace.sets.map (·.lws.name) ∧
      Relation.ReflTransGen (RevisionStep subdomainPolicyHash "lws") (rolloutNamespace.revisionStore "lws")
        ((LeaderWorkerSetReconciler.reconcile getScaledValueFromIntOrPercent subdomainPolicyHash
          (rolloutNamespace.applyActions (PodReconciler.reconcile rolloutNamespace "lws-0").actions)
            "lws" none).1.revisionStore "lws") :=
  ⟨by decide, revisionSteps_of_run rolloutRun rolloutNamespace_valid (by decide)⟩

/-- **Revisions stay sound over every run.** From a valid namespace where a
set's revision names are unique and its leader's key names a stored revision,
every run of the two controllers keeps both. -/
theorem revisionStore_valid_of_run (run : Relation.ReflTransGen (ControllersStep scaledValue hashRevision) start view)
    (valid : NamespaceValid start) {name : String} (setNamed : name ∈ start.sets.map (·.lws.name))
    (initial : (start.revisionStore name).Valid) : (view.revisionStore name).Valid := by
  have preserves : ∀ state next,
      (NamespaceValid state ∧ name ∈ state.sets.map (·.lws.name)) ∧ (state.revisionStore name).Valid →
        ControllersStep scaledValue hashRevision state next →
          (NamespaceValid next ∧ name ∈ next.sets.map (·.lws.name)) ∧ (next.revisionStore name).Valid := by
    rintro state next ⟨tracked, stored⟩ step
    refine ⟨step.tracks tracked, ?_⟩
    rcases revisionStore_step tracked.1 tracked.2 step with same | moved
    · rw [same]
      exact stored
    · exact stored.revisionStep moved
  exact (Simulation.invariant_of_run preserves run ⟨⟨valid, setNamed⟩, initial⟩).2

/-- The revisions of `lws` start valid, with the leader keyed `old` and its
revision stored, and stay so along the run. -/
theorem revisionStore_valid_of_run_on_rollout :
    (rolloutNamespace.revisionStore "lws").Valid ∧
      ((LeaderWorkerSetReconciler.reconcile getScaledValueFromIntOrPercent subdomainPolicyHash
        (rolloutNamespace.applyActions (PodReconciler.reconcile rolloutNamespace "lws-0").actions)
          "lws" none).1.revisionStore "lws").Valid :=
  have initial : (rolloutNamespace.revisionStore "lws").Valid :=
    ⟨by decide, fun revisionKeyValue stored => ⟨oldRevision, List.mem_singleton_self _, Option.some.inj stored⟩⟩
  ⟨initial, revisionStore_valid_of_run rolloutRun rolloutNamespace_valid (by decide) initial⟩

end Runs

end Lws
