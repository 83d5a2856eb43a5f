import Lws.Controllers.PodController
import Lws.System.RevisionHistory

/-!
# The LeaderWorkerSet controller

`Reconcile` of a LeaderWorkerSet reads the set and its leader StatefulSet,
finds or creates the ControllerRevision that the leader's key names, and
creates a revision of the set as it is now when its template or network
configuration changed. It then computes the partition and replicas of the
rolling update, applies the leader StatefulSet with server-side apply,
creates the set's headless service under a `Shared` subdomain policy, writes
the status, and once the update is done deletes the set's revisions with
another key.

The reconcile is modelled with the objects it reads and writes passed
explicitly: the pods, StatefulSets, services, revisions and LeaderWorkerSets
of the namespace, the same objects the pod controller reads. Each call
changes them as the API server does, and a later read sees the writes of the
earlier calls: `updateStatus` reads the leader StatefulSet the apply has just
written. Events, log lines, owner references and the unstructured conversion
of the apply are left out, as are transport errors and status conflicts; a
`CreateRevision` of a name that is taken fails, and the reconcile returns its
error. The API server may refuse the patch of the apply: the reconcile is
given the server's answer, and a refused patch ends it with that error, after
the revisions it has created. A panic is a way the reconcile ends.

The revision logic was modelled on its own in `Lws.System.RevisionHistory`,
with a set's revisions and its leader's key as the store and the later calls
summed up by whether they succeeded. The reconcile here refines it: what it
does to a set's revisions and its leader's key is either nothing or one
`reconcileRevisions` of that model, and it leaves the other sets' untouched.
So the invariants proved there hold of the controller.
-/

namespace Lws

/-! ## What the reconcile reads and writes -/

/-- `ListRevisions` with the selector of a set's name: its revisions, in the
order they were created. -/
def listRevisions (revisions : List ControllerRevision) (setName : String) : List ControllerRevision :=
  revisions.filter fun revision => revision.labels.lookup setNameLabelKey == some setName

namespace PodControllerView

/-- What the revision logic of the set named `name` reads: the set's
revisions, and the revision key of the StatefulSet of that name, `none` when
there is none. -/
def revisionStore (view : PodControllerView) (name : String) : RevisionStore where
  revisions := listRevisions view.revisions name
  leaderRevisionKey := (view.cluster.getStatefulSet name).map fun sts => getRevisionKey sts.statefulSet.labels

/-- `Status().Update` of the set named `name`: the conditions and the counters
of its status. -/
def writeStatus (view : PodControllerView) (name : String) (update : StatusUpdate) : PodControllerView :=
  { view with
    sets := view.sets.map fun set =>
      if set.lws.name = name then { set with lws := { set.lws with status := update.lws.status }, counters := update.counters }
      else set }

end PodControllerView

/-- The StatefulSet a server-side apply leaves of a stored one: the labels and
annotations of the configuration over the stored ones, its replicas and
partition, and the stored status. -/
def StatefulSetApplyConfiguration.appliedTo (config : StatefulSetApplyConfiguration) (sts : ObservedStatefulSet) :
    ObservedStatefulSet where
  statefulSet :=
    { sts.statefulSet with
      labels := sts.statefulSet.labels.withEntries config.labels
      annotations := sts.statefulSet.annotations.withEntries config.annotations
      replicas := config.replicas
      partition := (config.rollingUpdate.map Prod.snd).getD sts.statefulSet.partition }
  status := sts.status

@[simp] theorem StatefulSetApplyConfiguration.appliedTo_name (config : StatefulSetApplyConfiguration)
    (sts : ObservedStatefulSet) : (config.appliedTo sts).statefulSet.name = sts.statefulSet.name := rfl

@[simp] theorem StatefulSetApplyConfiguration.appliedTo_labels (config : StatefulSetApplyConfiguration)
    (sts : ObservedStatefulSet) :
    (config.appliedTo sts).statefulSet.labels = sts.statefulSet.labels.withEntries config.labels := rfl

/-- `Patch` with `client.Apply` and `Force`: the StatefulSet of the
configuration's name takes the configuration's fields, or is created. -/
def Cluster.applyStatefulSet (cluster : Cluster) (config : StatefulSetApplyConfiguration) : Cluster :=
  match cluster.getStatefulSet config.name with
  | none => cluster.createStatefulSet config.created
  | some _ =>
    { cluster with
      statefulSets := cluster.statefulSets.map fun sts =>
        if sts.statefulSet.name = config.name then config.appliedTo sts else sts
      statefulSetNamesUnique := by
        simpa [List.map_map, Function.comp_def, apply_ite] using cluster.statefulSetNamesUnique }

/-! ## `Reconcile` -/

/-- Whether `rollingUpdateParameters` calls `getReplicaStates`: past the
first three cases, with the rolling update configuration set and `maxSurge`
scaled. -/
def readsReplicaStates (scaledValue : ScaledValue) (lws : LeaderWorkerSet) (sts : StatefulSet)
    (lwsUpdated : Bool) : Bool :=
  match lws.spec.rolloutStrategy.rollingUpdateConfiguration with
  | none => false
  | some configuration =>
    (scaledValue configuration.maxSurge lws.spec.replicas true).isOk && !lwsUpdated &&
      !(sts.partition == 0 && sts.replicas == lws.spec.replicas)

/-- `r.rollingUpdateParameters` as `Reconcile` calls it: with the leader
StatefulSet read at the start, and `getReplicaStates` of the namespace
called when the parameters need the states, so that its panic is a panic of
the call. -/
def rollingUpdateParametersOf (scaledValue : ScaledValue) (cluster : Cluster) (lws : LeaderWorkerSet)
    (leaderSts : Option ObservedStatefulSet) (revisionKeyValue : String) (lwsUpdated : Bool) :
    Except Failure (Int × Int) :=
  match leaderSts with
  | none => rollingUpdateParameters scaledValue lws none (.ok []) lwsUpdated
  | some sts =>
    match getReplicaStates cluster lws sts.statefulSet.replicas revisionKeyValue with
    | some states => rollingUpdateParameters scaledValue lws (some sts.statefulSet) (.ok states) lwsUpdated
    | none =>
      if readsReplicaStates scaledValue lws sts.statefulSet lwsUpdated then .error .panic
      else rollingUpdateParameters scaledValue lws (some sts.statefulSet) (.ok []) lwsUpdated

/-- `reconcileHeadlessServices`: without a network configuration or under a
`Shared` subdomain policy, the set's headless service. `none` is the panic on
a network configuration without a subdomain policy. -/
def reconcileHeadlessServices (view : PodControllerView) (lws : LeaderWorkerSet) : Option (List PodAction) :=
  let services := createHeadlessServiceIfNotExists view lws lws.name (StringMap.ofList [(setNameLabelKey, lws.name)])
  match lws.spec.networkConfig with
  | none => some services
  | some networkConfig =>
    networkConfig.subdomainPolicy.map fun subdomainPolicy =>
      if subdomainPolicy = .subdomainShared then services else []

namespace LeaderWorkerSetReconciler

/-- `getOrCreateRevisionIfNonExist`: the revision of the set that the leader
StatefulSet's key names or, when there is none, a new revision with that
key, created. It returns the revisions of the namespace after the call. -/
def getOrCreateRevisionIfNonExist (hashRevision : RevisionPatch → String) (view : PodControllerView)
    (sts : Option ObservedStatefulSet) (lws : LeaderWorkerSet) :
    Except String (List ControllerRevision × ControllerRevision) := do
  let revisionKeyValue := (sts.map fun sts => getRevisionKey sts.statefulSet.labels).getD ""
  match getRevision view.revisions lws revisionKeyValue with
  | some stsRevision => pure (view.revisions, stsRevision)
  | none =>
    let revision := newRevision hashRevision (listRevisions view.revisions lws.name) lws revisionKeyValue
    let revisions ← createRevision view.revisions revision
    pure (revisions, revision)

/-- `getUpdatedRevision`: once the leader StatefulSet exists, a new revision
of the set as it is now, when its patch differs from the given revision's. -/
def getUpdatedRevision (hashRevision : RevisionPatch → String) (view : PodControllerView)
    (sts : Option ObservedStatefulSet) (lws : LeaderWorkerSet) (revision : ControllerRevision) :
    Option ControllerRevision :=
  match sts with
  | none => none
  | some _ =>
    let currentRevision := newRevision hashRevision (listRevisions view.revisions lws.name) lws ""
    if !equalRevision currentRevision revision then some currentRevision else none

/-- The calls of `Reconcile` once the revision is chosen: the rolling update
parameters, `SSAWithStatefulset`, the headless service, the status and the
truncation of the history. `patchError` is the API server's answer to the
patch of the apply: `none` when it accepts it, else the error the reconcile
returns. -/
def reconcileWithRevision (scaledValue : ScaledValue) (view : PodControllerView) (set : ObservedLeaderWorkerSet)
    (leaderSts : Option ObservedStatefulSet) (revision : ControllerRevision) (lwsUpdated : Bool)
    (patchError : Option String) : PodControllerView × ReconcileEnding :=
  let lws := set.lws
  let revisionKeyValue := getRevisionKey revision.labels
  match rollingUpdateParametersOf scaledValue view.cluster lws leaderSts revisionKeyValue lwsUpdated with
  | .error (.error message) => (view, .failed message)
  | .error .panic => (view, .panicked)
  | .ok (partition, replicas) =>
    match constructLeaderStatefulSetApplyConfiguration lws partition replicas revisionKeyValue with
    | none => (view, .panicked)
    | some leaderStatefulSet =>
      match patchError with
      | some message => (view, .failed message)
      | none =>
        let view := { view with cluster := view.cluster.applyStatefulSet leaderStatefulSet }
        match reconcileHeadlessServices view lws with
        | none => (view, .panicked)
        | some services =>
          let view := view.applyActions services
          match updateStatus view.cluster lws set.counters revisionKeyValue with
          | .error message => (view, .failed message)
          | .ok update =>
            -- `Status().Update` only when something changed
            let view := if update.changed then view.writeStatus lws.name update else view
            if update.updateDone then
              ({ view with revisions := truncateRevisions view.revisions lws revisionKeyValue }, .done)
            else (view, .done)

/-- `LeaderWorkerSetReconciler.Reconcile` of the set named `name`, with the
API server's answer to its apply: the objects after it and how it returned. -/
def reconcile (scaledValue : ScaledValue) (hashRevision : RevisionPatch → String) (view : PodControllerView)
    (name : String) (patchError : Option String) : PodControllerView × ReconcileEnding :=
  match view.getLeaderWorkerSet name with
  | none => (view, .done)
  | some set =>
    if set.deleting then (view, .done)
    else
      let lws := set.lws
      let leaderSts := view.cluster.getStatefulSet lws.name
      match getOrCreateRevisionIfNonExist hashRevision view leaderSts lws with
      | .error message => (view, .failed message)
      | .ok (revisions, revision) =>
        let view := { view with revisions }
        match getUpdatedRevision hashRevision view leaderSts lws revision with
        | none => reconcileWithRevision scaledValue view set leaderSts revision false patchError
        | some updatedRevision =>
          match createRevision view.revisions updatedRevision with
          | .error message => (view, .failed message)
          | .ok revisions =>
            reconcileWithRevision scaledValue { view with revisions } set leaderSts updatedRevision true patchError

end LeaderWorkerSetReconciler

/-! ## What the calls read after the writes -/

section Revisions

variable {revisions updated : List ControllerRevision} {revision : ControllerRevision} {setName : String}

/-- A revision labelled with the set's name is listed after its creation. -/
theorem listRevisions_append_of_labelled (labelled : revision.labels.lookup setNameLabelKey = some setName) :
    listRevisions (revisions ++ [revision]) setName = listRevisions revisions setName ++ [revision] := by
  simp [listRevisions, List.filter_append, labelled]

/-- A revision labelled with another set's name is not listed. -/
theorem listRevisions_append_of_ne {other : String} (labelled : revision.labels.lookup setNameLabelKey = some other)
    (different : other ≠ setName) :
    listRevisions (revisions ++ [revision]) setName = listRevisions revisions setName := by
  simp [listRevisions, List.filter_append, labelled, different]

/-- `GetRevision` lists the revisions with the set's name, so it reads the
same among them as among all. -/
theorem getRevision_listRevisions (revisions : List ControllerRevision) (lws : LeaderWorkerSet)
    (revisionKeyValue : String) :
    getRevision (listRevisions revisions lws.name) lws revisionKeyValue = getRevision revisions lws revisionKeyValue := by
  have same : revisionsWithKey (listRevisions revisions lws.name) lws.name revisionKeyValue =
      revisionsWithKey revisions lws.name revisionKeyValue := by
    simp only [revisionsWithKey, listRevisions, List.filter_filter]
    congr 1
    funext revision
    cases revision.labels.lookup setNameLabelKey == some lws.name <;> simp
  simp only [getRevision, same]

theorem listRevisions_truncateRevisions (revisions : List ControllerRevision) (lws : LeaderWorkerSet)
    (revisionKeyValue : String) :
    listRevisions (truncateRevisions revisions lws revisionKeyValue) lws.name =
      truncateRevisions (listRevisions revisions lws.name) lws revisionKeyValue := by
  simp only [listRevisions, truncateRevisions, List.filter_filter, Bool.and_comm]

/-- `TruncateRevisions` of one set leaves the revisions of another. -/
theorem listRevisions_truncateRevisions_of_ne {lws : LeaderWorkerSet} (revisionKeyValue : String)
    (different : setName ≠ lws.name) :
    listRevisions (truncateRevisions revisions lws revisionKeyValue) setName = listRevisions revisions setName := by
  simp only [listRevisions, truncateRevisions, List.filter_filter]
  congr 1
  funext revision
  by_cases labelled : revision.labels.lookup setNameLabelKey = some setName
  · simp [labelled, different]
  · simp [labelled]

/-- A name the API server finds free among all revisions is free among the
set's. -/
theorem createRevision_listRevisions (created : createRevision revisions revision = .ok updated)
    (labelled : revision.labels.lookup setNameLabelKey = some setName) :
    createRevision (listRevisions revisions setName) revision = .ok (listRevisions updated setName) := by
  obtain ⟨fresh, rfl⟩ := createRevision_eq_ok.mp created
  rw [listRevisions_append_of_labelled labelled]
  exact createRevision_eq_ok.mpr ⟨fun taken => fresh ((List.filter_sublist.map _).subset taken), rfl⟩

end Revisions

namespace Cluster

variable {cluster : Cluster} {config : StatefulSetApplyConfiguration}

theorem applyStatefulSet_of_none (fresh : cluster.getStatefulSet config.name = none) :
    cluster.applyStatefulSet config = cluster.createStatefulSet config.created := by
  simp only [applyStatefulSet, fresh]

theorem applyStatefulSet_statefulSets_of_some {old : ObservedStatefulSet}
    (stored : cluster.getStatefulSet config.name = some old) :
    (cluster.applyStatefulSet config).statefulSets = cluster.statefulSets.map fun sts =>
      if sts.statefulSet.name = config.name then config.appliedTo sts else sts := by
  simp only [applyStatefulSet, stored]

/-- After the apply, `Get` of the configuration's name finds a StatefulSet
with the configuration's labels over those of the one stored before. -/
theorem getStatefulSet_applyStatefulSet_self (cluster : Cluster) (config : StatefulSetApplyConfiguration) :
    ∃ sts, (cluster.applyStatefulSet config).getStatefulSet config.name = some sts ∧
      ∀ key, sts.statefulSet.labels.lookup key =
        (config.labels.lookup key).or ((cluster.getStatefulSet config.name).bind fun old => old.statefulSet.labels.lookup key) := by
  cases stored : cluster.getStatefulSet config.name with
  | none =>
    refine ⟨config.created, ?_, fun key => by simp [StatefulSetApplyConfiguration.created]⟩
    rw [applyStatefulSet_of_none stored]
    exact getStatefulSet_createStatefulSet_self stored
  | some old =>
    refine ⟨config.appliedTo old, ?_, fun key => by simp⟩
    obtain ⟨member, named⟩ := getStatefulSet_eq_some.mp stored
    rw [getStatefulSet_eq_some, applyStatefulSet_statefulSets_of_some stored]
    exact ⟨List.mem_map.mpr ⟨old, member, by simp [named]⟩, named⟩

@[simp] theorem applyStatefulSet_pods (cluster : Cluster) (config : StatefulSetApplyConfiguration) :
    (cluster.applyStatefulSet config).pods = cluster.pods := by
  unfold applyStatefulSet
  split
  · exact createStatefulSet_pods _ _
  · rfl

/-- A StatefulSet of another name after the apply was there before. -/
theorem mem_applyStatefulSet_of_ne {sts : ObservedStatefulSet}
    (member : sts ∈ (cluster.applyStatefulSet config).statefulSets) (different : sts.statefulSet.name ≠ config.name) :
    sts ∈ cluster.statefulSets := by
  cases stored : cluster.getStatefulSet config.name with
  | none =>
    rw [applyStatefulSet_of_none stored, createStatefulSet_statefulSets stored, List.mem_append,
      List.mem_singleton] at member
    rcases member with old | rfl
    · exact old
    · exact absurd rfl different
  | some old =>
    rw [applyStatefulSet_statefulSets_of_some stored, List.mem_map] at member
    obtain ⟨original, originalMember, applied⟩ := member
    split at applied
    · subst applied
      exact absurd ‹_› different
    · rw [← applied]
      exact originalMember

/-- The apply leaves the StatefulSets of other names. -/
theorem getStatefulSet_applyStatefulSet_of_ne {name : String} (different : name ≠ config.name) :
    (cluster.applyStatefulSet config).getStatefulSet name = cluster.getStatefulSet name := by
  cases stored : cluster.getStatefulSet config.name with
  | none =>
    rw [applyStatefulSet_of_none stored]
    unfold getStatefulSet
    rw [@createStatefulSet_statefulSets cluster config.created stored, List.find?_append]
    simp [StatefulSetApplyConfiguration.created, Ne.symm different]
  | some old =>
    have keepsNames : ((fun sts : ObservedStatefulSet => sts.statefulSet.name == name) ∘ fun sts =>
        if sts.statefulSet.name = config.name then config.appliedTo sts else sts) =
        fun sts => sts.statefulSet.name == name := by
      funext sts
      simp only [Function.comp_apply]
      split <;> rfl
    unfold getStatefulSet
    rw [applyStatefulSet_statefulSets_of_some stored, List.find?_map, keepsNames]
    cases found : cluster.statefulSets.find? fun sts => sts.statefulSet.name == name with
    | none => rfl
    | some sts =>
      have named : sts.statefulSet.name = name := by simpa using List.find?_some found
      simp [named, different]

end Cluster

namespace PodControllerView

variable {view : PodControllerView}

/-- The apply of a StatefulSet under the set's name writes its key into the
set's store. -/
theorem revisionStore_applyStatefulSet {config : StatefulSetApplyConfiguration} {revisionKeyValue : String}
    (keyed : config.labels.lookup revisionKey = some revisionKeyValue) :
    { view with cluster := view.cluster.applyStatefulSet config }.revisionStore config.name =
      { view.revisionStore config.name with leaderRevisionKey := some revisionKeyValue } := by
  obtain ⟨sts, found, labelled⟩ := view.cluster.getStatefulSet_applyStatefulSet_self config
  simp [revisionStore, found, getRevisionKey, StringMap.get_eq, labelled, keyed]

/-- The apply leaves the stores of the sets of other names. -/
theorem revisionStore_applyStatefulSet_of_ne {config : StatefulSetApplyConfiguration} {name : String}
    (different : name ≠ config.name) :
    { view with cluster := view.cluster.applyStatefulSet config }.revisionStore name = view.revisionStore name := by
  simp [revisionStore, Cluster.getStatefulSet_applyStatefulSet_of_ne different]

/-- Creating services leaves every store. -/
theorem revisionStore_applyActions_of_services {actions : List PodAction}
    (creations : ∀ action ∈ actions, ∃ service, action = .createService service) (name : String) :
    (view.applyActions actions).revisionStore name = view.revisionStore name := by
  rw [applyActions_of_services creations view]
  rfl

@[simp] theorem revisionStore_writeStatus (setName name : String) (update : StatusUpdate) :
    (view.writeStatus setName update).revisionStore name = view.revisionStore name := rfl

/-- `TruncateRevisions` truncates the set's store. -/
theorem revisionStore_truncateRevisions (lws : LeaderWorkerSet) (revisionKeyValue : String) :
    { view with revisions := truncateRevisions view.revisions lws revisionKeyValue }.revisionStore lws.name =
      { view.revisionStore lws.name with
        revisions := truncateRevisions (view.revisionStore lws.name).revisions lws revisionKeyValue } := by
  simp [revisionStore, listRevisions_truncateRevisions]

/-- `TruncateRevisions` of one set leaves the stores of the others. -/
theorem revisionStore_truncateRevisions_of_ne {lws : LeaderWorkerSet} (revisionKeyValue : String) {name : String}
    (different : name ≠ lws.name) :
    { view with revisions := truncateRevisions view.revisions lws revisionKeyValue }.revisionStore name =
      view.revisionStore name := by
  simp [revisionStore, listRevisions_truncateRevisions_of_ne revisionKeyValue different]

end PodControllerView

/-- The leader StatefulSet is applied under the set's name, labelled with the
set's name and the revision's key. -/
theorem constructLeaderStatefulSetApplyConfiguration_labels {lws : LeaderWorkerSet} {partition replicas : Int}
    {revisionKeyValue : String} {config : StatefulSetApplyConfiguration}
    (built : constructLeaderStatefulSetApplyConfiguration lws partition replicas revisionKeyValue = some config) :
    config.name = lws.name ∧
      config.labels = StringMap.ofList [(setNameLabelKey, lws.name), (revisionKey, revisionKeyValue)] := by
  simp only [constructLeaderStatefulSetApplyConfiguration, Option.bind_eq_bind, Option.bind_eq_some_iff] at built
  obtain ⟨annotations, -, configuration, -, applied⟩ := built
  cases applied
  exact ⟨rfl, rfl⟩

/-- The headless service step only creates services. -/
theorem reconcileHeadlessServices_creations {view : PodControllerView} {lws : LeaderWorkerSet}
    {services : List PodAction} (built : reconcileHeadlessServices view lws = some services) :
    ∀ action ∈ services, ∃ service, action = .createService service := by
  have created : ∀ action ∈ createHeadlessServiceIfNotExists view lws lws.name
      (StringMap.ofList [(setNameLabelKey, lws.name)]), ∃ service, action = .createService service := by
    intro action member
    unfold createHeadlessServiceIfNotExists at member
    split at member
    · cases member
    · exact ⟨_, List.mem_singleton.mp member⟩
  unfold reconcileHeadlessServices at built
  split at built
  · cases built
    exact created
  · obtain ⟨policy, -, rfl⟩ := Option.map_eq_some_iff.mp built
    split
    · exact created
    · intro action member
      cases member

namespace LeaderWorkerSetReconciler

variable {scaledValue : ScaledValue} {hashRevision : RevisionPatch → String} {view : PodControllerView}
  {patchError : Option String}
  {lws : LeaderWorkerSet} {revisions : List ControllerRevision} {revision : ControllerRevision}

/-- What `getOrCreateRevisionIfNonExist` can return: the revision the
leader's key names with the revisions as they were, or a revision of the set
as it is now, labelled with its name and created. A revision is found only
when the leader exists: `GetRevision` finds nothing for the empty key. -/
theorem getOrCreateRevisionIfNonExist_cases {sts : Option ObservedStatefulSet}
    (succeeded : getOrCreateRevisionIfNonExist hashRevision view sts lws = .ok (revisions, revision)) :
    (revisions = view.revisions ∧ revision ∈ listRevisions view.revisions lws.name ∧ sts.isSome) ∨
      (revision.data = getPatch lws ∧ revision.labels.lookup setNameLabelKey = some lws.name ∧
        createRevision view.revisions revision = .ok revisions) := by
  dsimp only [getOrCreateRevisionIfNonExist] at succeeded
  split at succeeded
  · rename_i found
    simp only [pure_eq_ok, Prod.mk.injEq] at succeeded
    obtain ⟨rfl, rfl⟩ := succeeded
    have named : sts.isSome := by
      cases sts with
      | none => simp [getRevision] at found
      | some leader => rfl
    rw [← getRevision_listRevisions] at found
    exact .inl ⟨rfl, getRevision_mem found, named⟩
  · obtain ⟨created, creating, returned⟩ := bind_eq_ok.mp succeeded
    simp only [pure_eq_ok, Prod.mk.injEq] at returned
    obtain ⟨rfl, rfl⟩ := returned
    exact .inr ⟨newRevision_data .., newRevision_lookup_setName .., creating⟩

/-- The namespace's `getOrCreateRevisionIfNonExist` returns what the set's
store's returns, with the set's revisions listed. -/
theorem getOrCreateRevisionIfNonExist_store
    (succeeded : getOrCreateRevisionIfNonExist hashRevision view (view.cluster.getStatefulSet lws.name) lws =
      .ok (revisions, revision)) :
    Lws.getOrCreateRevisionIfNonExist hashRevision (view.revisionStore lws.name) lws =
      .ok (listRevisions revisions lws.name, revision) := by
  dsimp only [getOrCreateRevisionIfNonExist] at succeeded
  dsimp only [Lws.getOrCreateRevisionIfNonExist, PodControllerView.revisionStore]
  rw [getRevision_listRevisions]
  cases found : getRevision view.revisions lws
      (((view.cluster.getStatefulSet lws.name).map fun sts => getRevisionKey sts.statefulSet.labels).getD "") with
  | some stsRevision =>
    rw [found] at succeeded
    simp only [pure_eq_ok, Prod.mk.injEq] at succeeded
    obtain ⟨rfl, rfl⟩ := succeeded
    rfl
  | none =>
    rw [found] at succeeded
    obtain ⟨created, creating, returned⟩ := bind_eq_ok.mp succeeded
    simp only [pure_eq_ok, Prod.mk.injEq] at returned
    obtain ⟨rfl, rfl⟩ := returned
    simp only [createRevision_listRevisions creating (newRevision_lookup_setName ..)]
    rfl

/-- Once the leader exists, no updated revision means the given revision
records the set as it is. -/
theorem getUpdatedRevision_current {leader : ObservedStatefulSet}
    (unchanged : getUpdatedRevision hashRevision view (some leader) lws revision = none) :
    revision.data = getPatch lws := by
  dsimp only [getUpdatedRevision] at unchanged
  split at unchanged
  · cases unchanged
  · rename_i same
    have current : getPatch lws = revision.data := by simpa [equalRevision] using same
    exact current.symm

/-- The namespace's `getUpdatedRevision` is the store's. -/
theorem getUpdatedRevision_store (view : PodControllerView) (lws : LeaderWorkerSet) (revision : ControllerRevision) :
    getUpdatedRevision hashRevision view (view.cluster.getStatefulSet lws.name) lws revision =
      Lws.getUpdatedRevision hashRevision (view.revisionStore lws.name) lws revision := by
  unfold getUpdatedRevision Lws.getUpdatedRevision
  cases found : view.cluster.getStatefulSet lws.name <;> simp [PodControllerView.revisionStore, found]

/-- An updated revision is the set as it is now, and its patch differs from
the given revision's. -/
theorem getUpdatedRevision_eq_some {sts : Option ObservedStatefulSet} {updated : ControllerRevision}
    (found : getUpdatedRevision hashRevision view sts lws revision = some updated) :
    updated = newRevision hashRevision (listRevisions view.revisions lws.name) lws "" ∧
      revision.data ≠ getPatch lws := by
  unfold getUpdatedRevision at found
  split at found
  · cases found
  · dsimp only at found
    split at found
    · rename_i differs
      cases found
      simp only [equalRevision, newRevision_data, Bool.not_eq_eq_eq_not, Bool.not_true, beq_eq_false_iff_ne] at differs
      exact ⟨rfl, Ne.symm differs⟩
    · cases found

/-- **What the calls after the revision do to the set's store**: nothing
when they stop before the apply or the server refuses its patch; once the
patch is accepted, the revision's key
in the leader and, when the status reports the update done, the set's
revisions truncated to that key. This is `applyAndTruncate` of the history
model for the outcome the calls reach; a reconcile that returns without
error went through the apply. -/
theorem reconcileWithRevision_revisionStore (view : PodControllerView) (set : ObservedLeaderWorkerSet)
    (leaderSts : Option ObservedStatefulSet) (revision : ControllerRevision) (lwsUpdated : Bool) :
    ∃ outcome : ReconcileOutcome,
      (reconcileWithRevision scaledValue view set leaderSts revision lwsUpdated patchError).1.revisionStore set.lws.name =
          applyAndTruncate set.lws outcome revision (view.revisionStore set.lws.name) ∧
        ((reconcileWithRevision scaledValue view set leaderSts revision lwsUpdated patchError).2 = .done →
          outcome.applied = true) := by
  have stopped : ∀ ending : ReconcileEnding, ending ≠ .done → ∃ outcome : ReconcileOutcome,
      view.revisionStore set.lws.name = applyAndTruncate set.lws outcome revision (view.revisionStore set.lws.name) ∧
        (ending = .done → outcome.applied = true) :=
    fun ending notDone => ⟨⟨false, false⟩, (applyAndTruncate_of_failed revision rfl).symm, fun done => absurd done notDone⟩
  dsimp only [reconcileWithRevision]
  split
  · exact stopped _ (by simp)
  · exact stopped _ (by simp)
  · split
    · exact stopped _ (by simp)
    · rename_i config built
      obtain ⟨named, labelled⟩ := constructLeaderStatefulSetApplyConfiguration_labels built
      have keyed : config.labels.lookup revisionKey = some (getRevisionKey revision.labels) := by
        simp [labelled, StringMap.ofList]
      have applied := @PodControllerView.revisionStore_applyStatefulSet view config _ keyed
      rw [named] at applied
      have written : ∀ other : PodControllerView, ∀ update : StatusUpdate,
          (if update.changed then other.writeStatus set.lws.name update else other).revisionStore set.lws.name =
            other.revisionStore set.lws.name := by
        intro other update
        split <;> rfl
      split
      · exact stopped _ (by simp)
      · split
        · refine ⟨⟨true, false⟩, ?_, fun _ => rfl⟩
          rw [applied, applyAndTruncate_of_applied revision rfl]
          rfl
        · rename_i services creating
          have created := reconcileHeadlessServices_creations creating
          split
          · refine ⟨⟨true, false⟩, ?_, fun _ => rfl⟩
            rw [PodControllerView.revisionStore_applyActions_of_services created, applied,
              applyAndTruncate_of_applied revision rfl]
            rfl
          · split
            · refine ⟨⟨true, true⟩, ?_, fun _ => rfl⟩
              rw [PodControllerView.revisionStore_truncateRevisions, written,
                PodControllerView.revisionStore_applyActions_of_services created, applied,
                applyAndTruncate_of_applied revision rfl]
              rfl
            · refine ⟨⟨true, false⟩, ?_, fun _ => rfl⟩
              rw [written, PodControllerView.revisionStore_applyActions_of_services created, applied,
                applyAndTruncate_of_applied revision rfl]
              rfl

/-- What the calls after the revision write besides services: at most the
apply of the leader StatefulSet under the set's name, labelled with the
set's name and the revision's key, the status of the sets of that name, and
the truncation of that set's revisions. -/
theorem reconcileWithRevision_writes (view : PodControllerView) (set : ObservedLeaderWorkerSet)
    (leaderSts : Option ObservedStatefulSet) (revision : ControllerRevision) (lwsUpdated : Bool) :
    let after := (reconcileWithRevision scaledValue view set leaderSts revision lwsUpdated patchError).1
    (after.cluster = view.cluster ∨
      ∃ config : StatefulSetApplyConfiguration, config.name = set.lws.name ∧
        config.labels = StringMap.ofList [(setNameLabelKey, set.lws.name), (revisionKey, getRevisionKey revision.labels)] ∧
        after.cluster = view.cluster.applyStatefulSet config) ∧
      after.sets.map (·.lws.name) = view.sets.map (·.lws.name) ∧
      ∀ other ≠ set.lws.name, listRevisions after.revisions other = listRevisions view.revisions other := by
  have written : ∀ other : PodControllerView, ∀ update : StatusUpdate,
      let statused := if update.changed then other.writeStatus set.lws.name update else other
      statused.cluster = other.cluster ∧ statused.sets.map (·.lws.name) = other.sets.map (·.lws.name) ∧
        statused.revisions = other.revisions := by
    intro other update
    split
    · refine ⟨rfl, ?_, rfl⟩
      simp only [PodControllerView.writeStatus, List.map_map]
      congr 1
      funext set
      simp only [Function.comp_apply]
      split <;> rfl
    · exact ⟨rfl, rfl, rfl⟩
  dsimp only [reconcileWithRevision]
  split
  · exact ⟨.inl rfl, rfl, fun _ _ => rfl⟩
  · exact ⟨.inl rfl, rfl, fun _ _ => rfl⟩
  · split
    · exact ⟨.inl rfl, rfl, fun _ _ => rfl⟩
    · rename_i config built
      obtain ⟨named, labelled⟩ := constructLeaderStatefulSetApplyConfiguration_labels built
      split
      · exact ⟨.inl rfl, rfl, fun _ _ => rfl⟩
      · split
        · exact ⟨.inr ⟨config, named, labelled, rfl⟩, rfl, fun _ _ => rfl⟩
        · rename_i services creating
          rw [applyActions_of_services (reconcileHeadlessServices_creations creating)]
          split
          · exact ⟨.inr ⟨config, named, labelled, rfl⟩, rfl, fun _ _ => rfl⟩
          · rename_i update _
            obtain ⟨sameCluster, sameNames, sameRevisions⟩ := written
              { view with cluster := view.cluster.applyStatefulSet config, services := _ } update
            split
            · refine ⟨.inr ⟨config, named, labelled, sameCluster⟩, sameNames, fun other different => ?_⟩
              dsimp only
              rw [listRevisions_truncateRevisions_of_ne _ different, sameRevisions]
            · exact ⟨.inr ⟨config, named, labelled, sameCluster⟩, sameNames, fun other _ => by rw [sameRevisions]⟩

/-- **Everything `Reconcile` can do**: return with nothing written, or go
through the revision steps and hand the later calls a revision of the set as
it is now, stored among the set's revisions. The revisions the steps create
carry the set's name. A revision created by the first step records the set as
it is, so the second step finds it. -/
theorem reconcile_cases (view : PodControllerView) (name : String) :
    (∃ ending, reconcile scaledValue hashRevision view name patchError = (view, ending) ∧
      (ending = .done → ∀ set, view.getLeaderWorkerSet name = some set → set.deleting = true)) ∨
      ∃ set revisions revision lwsUpdated, view.getLeaderWorkerSet name = some set ∧
        revision.data = getPatch set.lws ∧ revision ∈ listRevisions revisions set.lws.name ∧
        (∀ other ≠ set.lws.name, listRevisions revisions other = listRevisions view.revisions other) ∧
        reconcile scaledValue hashRevision view name patchError =
          reconcileWithRevision scaledValue { view with revisions } set (view.cluster.getStatefulSet set.lws.name)
            revision lwsUpdated patchError := by
  unfold reconcile
  cases found : view.getLeaderWorkerSet name with
  | none => exact .inl ⟨_, rfl, fun _ _ missing => by cases missing⟩
  | some set =>
    dsimp only
    by_cases deleting : set.deleting = true
    · refine .inl ⟨.done, by simp [deleting], fun _ other same => ?_⟩
      cases same
      exact deleting
    rw [if_neg deleting]
    cases got : getOrCreateRevisionIfNonExist hashRevision view (view.cluster.getStatefulSet set.lws.name) set.lws with
    | error message => exact .inl ⟨_, rfl, by simp⟩
    | ok result =>
      obtain ⟨revisions, revision⟩ := result
      dsimp only
      cases updated : getUpdatedRevision hashRevision { view with revisions } (view.cluster.getStatefulSet set.lws.name)
          set.lws revision with
      | none =>
        refine .inr ⟨set, revisions, revision, false, rfl, ?_, ?_, ?_, rfl⟩ <;>
          rcases getOrCreateRevisionIfNonExist_cases got with ⟨rfl, stored, leader⟩ | ⟨current, labelled, created⟩
        · obtain ⟨leader, named⟩ := Option.isSome_iff_exists.mp leader
          rw [named] at updated
          exact getUpdatedRevision_current updated
        · exact current
        · exact stored
        · rw [(createRevision_eq_ok.mp created).2, listRevisions_append_of_labelled labelled]
          exact List.mem_concat_self
        · exact fun _ _ => rfl
        · intro other different
          rw [(createRevision_eq_ok.mp created).2, listRevisions_append_of_ne labelled (Ne.symm different)]
      | some updatedRevision =>
        obtain ⟨rfl, changed⟩ := getUpdatedRevision_eq_some updated
        have unchanged : revisions = view.revisions := by
          rcases getOrCreateRevisionIfNonExist_cases got with found | ⟨current, -, -⟩
          · exact found.1
          · exact absurd current changed
        subst unchanged
        dsimp only
        cases created : createRevision view.revisions
            (newRevision hashRevision (listRevisions view.revisions set.lws.name) set.lws "") with
        | error message => exact .inl ⟨_, rfl, by simp⟩
        | ok updatedRevisions =>
          have labelled := newRevision_lookup_setName hashRevision (listRevisions view.revisions set.lws.name) set.lws ""
          rw [(createRevision_eq_ok.mp created).2]
          refine .inr ⟨set, _, _, true, rfl, newRevision_data .., ?_, fun other different => ?_, rfl⟩
          · rw [listRevisions_append_of_labelled labelled]
            exact List.mem_concat_self
          · rw [listRevisions_append_of_ne labelled (Ne.symm different)]

/-- **The controller refines the revision history model.** A reconcile of a
set leaves the set's revisions and its leader's key as they were, or does to
them what one `reconcileRevisions` of the history model does, for the
outcome its later calls reach. It leaves them when the set is being
deleted, and when `CreateRevision` fails on a name that a revision of
another set holds, which the model of one set's revisions does not see.
Proof: the two take the same first steps; a revision created by the first
records the set as it is, so the second never creates another; the rest is
`reconcileWithRevision_revisionStore`. -/
theorem reconcile_refines_reconcileRevisions (view : PodControllerView) {name : String}
    {set : ObservedLeaderWorkerSet} (found : view.getLeaderWorkerSet name = some set) :
    (reconcile scaledValue hashRevision view name patchError).1.revisionStore name = view.revisionStore name ∨
      ∃ outcome, (reconcile scaledValue hashRevision view name patchError).1.revisionStore name =
        reconcileRevisions hashRevision set.lws outcome (view.revisionStore name) := by
  obtain rfl := PodControllerView.getLeaderWorkerSet_name found
  unfold reconcile
  rw [found]
  dsimp only
  by_cases deleting : set.deleting = true
  · simp [deleting]
  rw [if_neg deleting]
  cases got : getOrCreateRevisionIfNonExist hashRevision view (view.cluster.getStatefulSet set.lws.name) set.lws with
  | error message => exact .inl rfl
  | ok result =>
    obtain ⟨revisions, revision⟩ := result
    have abstractGot := getOrCreateRevisionIfNonExist_store got
    have sameUpdated := @getUpdatedRevision_store hashRevision { view with revisions } set.lws revision
    dsimp only
    cases updated : getUpdatedRevision hashRevision { view with revisions } (view.cluster.getStatefulSet set.lws.name)
        set.lws revision with
    | none =>
      have abstractNone : Lws.getUpdatedRevision hashRevision
          { view.revisionStore set.lws.name with revisions := listRevisions revisions set.lws.name } set.lws revision =
            none := sameUpdated.symm.trans updated
      obtain ⟨outcome, reached, -⟩ :=
        @reconcileWithRevision_revisionStore scaledValue patchError { view with revisions } set _ revision false
      refine .inr ⟨outcome, ?_⟩
      simp only [reconcileRevisions, abstractGot, abstractNone]
      rw [reached]
      rfl
    | some updatedRevision =>
      have abstractSome : Lws.getUpdatedRevision hashRevision
          { view.revisionStore set.lws.name with revisions := listRevisions revisions set.lws.name } set.lws revision =
            some updatedRevision := sameUpdated.symm.trans updated
      obtain ⟨rfl, changed⟩ := getUpdatedRevision_eq_some updated
      have unchanged : revisions = view.revisions := by
        rcases getOrCreateRevisionIfNonExist_cases got with found | ⟨current, -, -⟩
        · exact found.1
        · exact absurd current changed
      subst unchanged
      dsimp only
      cases created : createRevision view.revisions
          (newRevision hashRevision (listRevisions view.revisions set.lws.name) set.lws "") with
      | error message => exact .inl rfl
      | ok updatedRevisions =>
        have abstractCreated := createRevision_listRevisions created (newRevision_lookup_setName ..)
        obtain ⟨outcome, reached, -⟩ :=
          @reconcileWithRevision_revisionStore scaledValue patchError { view with revisions := updatedRevisions } set _ _ true
        refine .inr ⟨outcome, ?_⟩
        simp only [reconcileRevisions, abstractGot, abstractSome, abstractCreated]
        rw [reached]
        rfl

/-- **A reconcile leaves the other sets' revisions and leader keys**: the
revisions it creates carry its set's name, its truncation deletes only its
set's revisions, and it applies only the StatefulSet of its set's name. -/
theorem reconcile_revisionStore_of_ne (view : PodControllerView) {name other : String} (different : other ≠ name) :
    (reconcile scaledValue hashRevision view name patchError).1.revisionStore other = view.revisionStore other := by
  rcases reconcile_cases view name with ⟨ending, unchanged, -⟩ |
      ⟨set, revisions, revision, lwsUpdated, found, -, -, kept, reconciled⟩
  · rw [unchanged]
  obtain rfl := PodControllerView.getLeaderWorkerSet_name found
  obtain ⟨cluster, -, revisionsKept⟩ := @reconcileWithRevision_writes scaledValue patchError { view with revisions } set
    (view.cluster.getStatefulSet set.lws.name) revision lwsUpdated
  rw [reconciled]
  simp only [PodControllerView.revisionStore]
  rw [revisionsKept other different, kept other different]
  rcases cluster with same | ⟨config, named, -, applied⟩
  · rw [same]
  · rw [applied, Cluster.getStatefulSet_applyStatefulSet_of_ne (named ▸ different)]

/-- What `Reconcile` writes to the cluster: at most the apply of the leader
StatefulSet of the set it finds, under the set's name and labelled with the
set's name and a revision key. It keeps the names of the sets. -/
theorem reconcile_writes (view : PodControllerView) (name : String) :
    let after := (reconcile scaledValue hashRevision view name patchError).1
    (after.cluster = view.cluster ∨
      ∃ set config revisionKeyValue, view.getLeaderWorkerSet name = some set ∧ config.name = set.lws.name ∧
        config.labels = StringMap.ofList [(setNameLabelKey, set.lws.name), (revisionKey, revisionKeyValue)] ∧
        after.cluster = view.cluster.applyStatefulSet config) ∧
      after.sets.map (·.lws.name) = view.sets.map (·.lws.name) := by
  rcases reconcile_cases view name with ⟨ending, unchanged, -⟩ |
      ⟨set, revisions, revision, lwsUpdated, found, -, -, -, reconciled⟩
  · rw [unchanged]
    exact ⟨.inl rfl, rfl⟩
  obtain ⟨cluster, names, -⟩ := @reconcileWithRevision_writes scaledValue patchError { view with revisions } set
    (view.cluster.getStatefulSet set.lws.name) revision lwsUpdated
  dsimp only
  rw [reconciled]
  refine ⟨?_, names⟩
  rcases cluster with same | ⟨config, named, labelled, applied⟩
  · exact .inl same
  · exact .inr ⟨set, config, _, found, named, labelled, applied⟩

/-- **A reconcile that returns without error points the leader at the set as
it is**: the leader StatefulSet's key then names a revision among the set's
that records the set's current template and network configuration, whether
that revision was found, created for a new set, or created for a change. -/
theorem reconcile_leader_names_current_revision (view : PodControllerView) {name : String}
    {set : ObservedLeaderWorkerSet} (found : view.getLeaderWorkerSet name = some set) (alive : set.deleting = false)
    (done : (reconcile scaledValue hashRevision view name patchError).2 = .done) :
    ∃ revision ∈ ((reconcile scaledValue hashRevision view name patchError).1.revisionStore name).revisions,
      ((reconcile scaledValue hashRevision view name patchError).1.revisionStore name).leaderRevisionKey =
          some (getRevisionKey revision.labels) ∧
        revision.data = getPatch set.lws := by
  rcases reconcile_cases view name with ⟨ending, unchanged, stopped⟩ |
      ⟨other, revisions, revision, lwsUpdated, otherFound, current, stored, -, reconciled⟩
  · rw [unchanged] at done
    simp [stopped done set found] at alive
  obtain rfl : set = other := Option.some.inj (found.symm.trans otherFound)
  obtain rfl := PodControllerView.getLeaderWorkerSet_name found
  obtain ⟨outcome, reached, applied⟩ := @reconcileWithRevision_revisionStore scaledValue patchError { view with revisions } set
    (view.cluster.getStatefulSet set.lws.name) revision lwsUpdated
  rw [reconciled] at done ⊢
  rw [reached, applyAndTruncate_of_applied revision (applied done)]
  refine ⟨revision, ?_, rfl, current⟩
  split
  · exact mem_truncateRevisions stored
  · exact stored

end LeaderWorkerSetReconciler

/-- The leader StatefulSet of `lws` at the revision keyed `old`. -/
def rolloutLeaderStatefulSet : ObservedStatefulSet :=
  ⟨⟨"lws", StringMap.ofList [(setNameLabelKey, "lws"), (revisionKey, "old")], ∅, 2, 0⟩, ⟨1, "lws-old", "lws-old"⟩⟩

/-- The namespace of `lws` with its leader StatefulSet, the leader pod of
group 0 and the revision keyed `old`, before the worker StatefulSet of group
0 exists. -/
def rolloutNamespace : PodControllerView where
  cluster :=
    { pods := [runningLeaderPod 0 "old"]
      statefulSets := [rolloutLeaderStatefulSet]
      podNamesUnique := List.nodup_singleton _
      statefulSetNamesUnique := List.nodup_singleton _ }
  sets := [recreatingLeaderWorkerSet]
  nodes := []
  services := []
  revisions := [oldRevision]

/-- Reconciling `lws` returns without error, and its leader keeps naming the
revision of its template. -/
theorem reconcile_leader_names_current_revision_on_rollout :
    let after := (LeaderWorkerSetReconciler.reconcile getScaledValueFromIntOrPercent subdomainPolicyHash
      rolloutNamespace "lws" none).1
    ∃ revision ∈ (after.revisionStore "lws").revisions,
      (after.revisionStore "lws").leaderRevisionKey = some (getRevisionKey revision.labels) ∧
        revision.data = getPatch recreatingLeaderWorkerSet.lws :=
  LeaderWorkerSetReconciler.reconcile_leader_names_current_revision rolloutNamespace rfl rfl (by decide)

end Lws
