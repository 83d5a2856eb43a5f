import Lws.Controllers.Status

/-!
# The pod controller

The pod controller reconciles each pod that carries a LeaderWorkerSet's name
label. For every pod it first applies the restart policy: under
`RecreateGroupOnPodRestart`, a pod with a restarted container or a deletion
timestamp has the leader of its group deleted, with foreground propagation,
so that the whole group is recreated. A worker finds its leader by the name
of its StatefulSet, and only acts on a leader at its own revision.

For a leader pod it then creates what the group needs beside the leader: a
headless service named after the leader under `UniquePerReplica`, and the
worker StatefulSet named after the leader, built from the revision the leader
carries. The StatefulSet is not created for a leader that is being deleted,
for groups of one pod, for a leader not yet ready under `LeaderReady`, before
the revision exists, or, under exclusive placement, before the leader is
scheduled; its workers are then pinned to the leader's topology domain.

A reconcile is modelled by the requests it sends to the API server, in order,
and how it ends. Requests sent before an error stay sent. Events, log lines
and owner references are left out, as are transport errors of `Get`,
`Create` and `Delete`; a `Create` that finds the name taken is
`AlreadyExists`, which the controller ignores.
-/

namespace Lws

/-! ## What the pod controller reads -/

/-- `StartupPolicyType`. -/
inductive StartupPolicyType where
  | leaderReadyStartupPolicy
  | leaderCreatedStartupPolicy
deriving DecidableEq, Repr

/-- A LeaderWorkerSet as the controllers read it: the object, the startup
policy of its spec, whether its deletion timestamp is set, and the counters of
its status. -/
structure ObservedLeaderWorkerSet where
  lws : LeaderWorkerSet
  startupPolicy : StartupPolicyType
  deleting : Bool
  counters : StatusCounters
deriving DecidableEq

/-- `corev1.Node`: its name and labels. -/
structure Node where
  name : String
  labels : StringMap
deriving DecidableEq

/-- The headless service of a group: its name, its labels and its selector. -/
structure HeadlessService where
  name : String
  labels : StringMap
  selector : StringMap
deriving DecidableEq

/-- The objects the pod controller reads: the pods and StatefulSets of the
namespace, its LeaderWorkerSets, services and controller revisions, and the
nodes. -/
structure PodControllerView where
  cluster : Cluster
  sets : List ObservedLeaderWorkerSet
  nodes : List Node
  services : List HeadlessService
  revisions : List ControllerRevision

namespace PodControllerView

/-- `Get` of a LeaderWorkerSet; `none` is a `NotFound` error. -/
def getLeaderWorkerSet (view : PodControllerView) (name : String) : Option ObservedLeaderWorkerSet :=
  view.sets.find? fun set => set.lws.name == name

/-- `Get` of a node; `none` is a `NotFound` error. -/
def getNode (view : PodControllerView) (name : String) : Option Node :=
  view.nodes.find? fun node => node.name == name

/-- `Get` of a service; `none` is a `NotFound` error. -/
def getService (view : PodControllerView) (name : String) : Option HeadlessService :=
  view.services.find? fun service => service.name == name

/-- `Get` of a LeaderWorkerSet finds it by its name. -/
theorem getLeaderWorkerSet_name {view : PodControllerView} {name : String}
    {set : ObservedLeaderWorkerSet} (found : view.getLeaderWorkerSet name = some set) : set.lws.name = name := by
  simpa using List.find?_some found

theorem getLeaderWorkerSet_mem {view : PodControllerView} {name : String}
    {set : ObservedLeaderWorkerSet} (found : view.getLeaderWorkerSet name = some set) : set ∈ view.sets :=
  List.mem_of_find?_eq_some found

end PodControllerView

/-! ## What a reconcile asks of the API server -/

/-- A request the pod controller sends. -/
inductive PodAction where
  /-- `Delete` of a pod with foreground propagation. -/
  | deletePod (name : String)
  /-- `Create` of a headless service. -/
  | createService (service : HeadlessService)
  /-- `Create` of a worker StatefulSet, with the node selector entry its pods
  get under exclusive placement. -/
  | createStatefulSet (sts : StatefulSetApplyConfiguration) (nodeSelector : Option (String × String))
deriving DecidableEq

/-- How `Reconcile` returns: without error, asking to be run again after a
second, with an error, or by a panic. -/
inductive ReconcileEnding where
  | done
  | requeue
  | failed (message : String)
  | panicked
deriving DecidableEq, Repr

/-- The requests of one reconcile, in the order sent, and how it returned. -/
structure PodReconcileOutcome where
  actions : List PodAction
  ending : ReconcileEnding
deriving DecidableEq

/-! ## `handleRestartPolicy` -/

/-- What `handleRestartPolicy` returns: `false`; or `true` because the
group's leader is being deleted already, or because the call deleted it. -/
inductive RestartOutcome where
  | groupKept
  | leaderDeleting
  | leaderDeleted (leaderName : String)
deriving DecidableEq, Repr

/-- The leader `handleRestartPolicy` acts on: a leader pod itself; for a
worker, the pod named after the worker's StatefulSet, when `Get` finds it at
the worker's revision. -/
def restartLeader (cluster : Cluster) (pod : ObservedPod) : Except String (Option ObservedPod) :=
  if !leaderPod pod.pod then
    let (leaderPodName, ordinal) := getParentNameAndOrdinal pod.pod.name
    if ordinal = -1 then .error ("parsing pod name for pod " ++ pod.pod.name)
    else
      match cluster.getPod leaderPodName with
      | none => .ok none
      | some leader =>
        -- a leader of another revision is about to be replaced with its group
        if getRevisionKey leader.pod.labels ≠ getRevisionKey pod.pod.labels then .ok none
        else .ok (some leader)
  else .ok (some pod)

/-- `handleRestartPolicy`. -/
def handleRestartPolicy (cluster : Cluster) (pod : ObservedPod) (set : ObservedLeaderWorkerSet) :
    Except String RestartOutcome := do
  if set.lws.spec.leaderWorkerTemplate.restartPolicy ≠ .recreateGroupOnPodRestart then return .groupKept
  if !containerRestarted pod && !podDeleted pod then return .groupKept
  match ← restartLeader cluster pod with
  | none => return .groupKept
  | some leader =>
    if leader.deleting then return .leaderDeleting
    return .leaderDeleted leader.pod.name

/-! ## The leader's service and worker StatefulSet -/

/-- `topologyValueFromPod`. A node that is not found is not an error: the
value is empty. The error text prints the missing value, not the key. -/
def topologyValueFromPod (view : PodControllerView) (pod : ObservedPod) (topologyKey : String) :
    Except String String :=
  match view.getNode pod.nodeName with
  | none => .ok ""
  | some node =>
    let topology := node.labels.get topologyKey
    if !node.labels.found topologyKey then .error ("node does not have topology label: " ++ topology)
    else .ok topology

/-- `controllerutils.CreateHeadlessServiceIfNotExists`. -/
def createHeadlessServiceIfNotExists (view : PodControllerView) (lws : LeaderWorkerSet) (serviceName : String)
    (serviceSelector : StringMap) : List PodAction :=
  match view.getService serviceName with
  | some _ => []
  | none =>
    [.createService
      { name := serviceName
        labels := StringMap.ofList [(setNameLabelKey, lws.name)]
        selector := serviceSelector }]

/-- The service step of `Reconcile` for a leader: under `UniquePerReplica`,
the leader's own headless service. `none` is the panic on a network
configuration without a subdomain policy. -/
def leaderPodServices (view : PodControllerView) (lws : LeaderWorkerSet) (pod : ObservedPod) :
    Option (List PodAction) :=
  match lws.spec.networkConfig with
  | none => some []
  | some networkConfig =>
    networkConfig.subdomainPolicy.map fun subdomainPolicy =>
      if subdomainPolicy = .subdomainUniquePerReplica then
        createHeadlessServiceIfNotExists view lws pod.pod.name
          (StringMap.ofList [(setNameLabelKey, lws.name), (groupIndexLabelKey, pod.pod.labels.get groupIndexLabelKey)])
      else []

/-- The last step of `Reconcile`: `Get` of the worker StatefulSet named after
the leader, and its `Create` when there is none. -/
def createWorkerStatefulSetIfNotExists (view : PodControllerView) (pod : ObservedPod)
    (statefulSet : StatefulSetApplyConfiguration) (nodeSelector : Option (String × String)) : PodReconcileOutcome :=
  match view.cluster.getStatefulSet pod.pod.name with
  | some _ => ⟨[], .done⟩
  | none => ⟨[.createStatefulSet statefulSet nodeSelector], .done⟩

/-- The steps of `Reconcile` that build and create the worker StatefulSet of
a leader. -/
def reconcileWorkerStatefulSet (view : PodControllerView) (pod : ObservedPod) (set : ObservedLeaderWorkerSet) :
    PodReconcileOutcome :=
  let lws := set.lws
  if pod.deleting then ⟨[], .done⟩
  else if lws.spec.leaderWorkerTemplate.size = 1 then ⟨[], .done⟩
  else if set.startupPolicy = .leaderReadyStartupPolicy ∧ isPodReady pod = false then ⟨[], .done⟩
  else
    match getRevision view.revisions lws (getRevisionKey pod.pod.labels) with
    | none => ⟨[], .requeue⟩
    | some revision =>
      match constructWorkerStatefulSetApplyConfiguration pod.pod lws revision with
      | none => ⟨[], .panicked⟩
      | some statefulSet =>
        match lws.annotations.lookup exclusiveKeyAnnotationKey with
        | none => createWorkerStatefulSetIfNotExists view pod statefulSet none
        | some topologyKey =>
          if pod.nodeName = "" then ⟨[], .done⟩
          else
            match topologyValueFromPod view pod topologyKey with
            | .error message => ⟨[], .failed message⟩
            | .ok topologyValue =>
              createWorkerStatefulSetIfNotExists view pod statefulSet (some (topologyKey, topologyValue))

/-- The steps of `Reconcile` for a leader pod, once the restart policy kept
its group. A leader that carries the leader-name annotation of a worker
template is refused, with a warning event. -/
def reconcileLeaderPod (view : PodControllerView) (pod : ObservedPod) (set : ObservedLeaderWorkerSet) :
    PodReconcileOutcome :=
  if pod.pod.annotations.get leaderPodNameAnnotationKey ≠ "" then ⟨[], .done⟩
  else
    match leaderPodServices view set.lws pod with
    | none => ⟨[], .panicked⟩
    | some services =>
      let outcome := reconcileWorkerStatefulSet view pod set
      { outcome with actions := services ++ outcome.actions }

/-- `PodReconciler.Reconcile` of the pod named `podName`. -/
def PodReconciler.reconcile (view : PodControllerView) (podName : String) : PodReconcileOutcome :=
  match view.cluster.getPod podName with
  | none => ⟨[], .done⟩
  | some pod =>
    let lwsName := pod.pod.labels.get setNameLabelKey
    if lwsName = "" then ⟨[], .failed "leaderworkerset.sigs.k8s.io/name label is unexpected missing"⟩
    else if !pod.pod.labels.found workerIndexLabelKey then
      ⟨[], .failed "leaderworkerset.sigs.k8s.io/worker-index label is unexpected missing"⟩
    else
      match view.getLeaderWorkerSet lwsName with
      | none => ⟨[], .done⟩
      | some set =>
        match handleRestartPolicy view.cluster pod set with
        | .error message => ⟨[], .failed message⟩
        | .ok (.leaderDeleted leaderName) => ⟨[.deletePod leaderName], .done⟩
        | .ok .leaderDeleting => ⟨[], .done⟩
        | .ok .groupKept =>
          -- a worker pod is reconciled only for its restart policy
          if !leaderPod pod.pod then ⟨[], .done⟩ else reconcileLeaderPod view pod set

/-! ## What the API server does with the requests -/

/-- The StatefulSet the API server stores for an apply configuration, with
the empty status the StatefulSet controller has not filled yet. -/
def StatefulSetApplyConfiguration.created (sts : StatefulSetApplyConfiguration) : ObservedStatefulSet where
  statefulSet :=
    { name := sts.name
      labels := sts.labels
      annotations := sts.annotations
      replicas := sts.replicas
      partition := (sts.rollingUpdate.map Prod.snd).getD 0 }
  status := ⟨0, "", ""⟩

/-- A request carried out: a deletion sets the deletion timestamp, and a
creation of a name that is taken changes nothing. -/
def PodAction.apply (view : PodControllerView) : PodAction → PodControllerView
  | .deletePod name => { view with cluster := view.cluster.markDeleting name }
  | .createService service =>
    if (view.getService service.name).isSome then view else { view with services := view.services ++ [service] }
  | .createStatefulSet sts _ => { view with cluster := view.cluster.createStatefulSet sts.created }

/-- The requests of a reconcile carried out in order. -/
def PodControllerView.applyActions (view : PodControllerView) (actions : List PodAction) : PodControllerView :=
  actions.foldl PodAction.apply view

/-! ## What the restart policy decides -/

/-- `handleRestartPolicy` acts only under `RecreateGroupOnPodRestart` on a
pod that restarted or is being deleted, and then on the leader
`restartLeader` finds. -/
theorem handleRestartPolicy_eq (cluster : Cluster) (pod : ObservedPod) (set : ObservedLeaderWorkerSet) :
    handleRestartPolicy cluster pod set =
      if set.lws.spec.leaderWorkerTemplate.restartPolicy = .recreateGroupOnPodRestart ∧ (containerRestarted pod || podDeleted pod) = true then
        (restartLeader cluster pod).map fun
          | none => .groupKept
          | some leader => if leader.deleting then .leaderDeleting else .leaderDeleted leader.pod.name
      else .ok .groupKept := by
  unfold handleRestartPolicy
  by_cases recreating : set.lws.spec.leaderWorkerTemplate.restartPolicy = .recreateGroupOnPodRestart
  · cases triggered : (containerRestarted pod || podDeleted pod) with
    | false =>
      have quiet : containerRestarted pod = false ∧ podDeleted pod = false := by simpa using triggered
      simp [recreating, quiet]
    | true =>
      have loud : ¬(containerRestarted pod = false ∧ podDeleted pod = false) := by
        intro ⟨a, b⟩; simp [a, b] at triggered
      cases leader : restartLeader cluster pod with
      | error message => simp [recreating, loud, Except.map]
      | ok found =>
        cases found with
        | none => simp [recreating, loud, Except.map, pure, Except.pure]
        | some leader' => by_cases d : leader'.deleting <;> simp [recreating, loud, d, Except.map, pure, Except.pure]
  · simp [recreating]

/-- The leader of a restart: the leader pod itself, or the pod named after
a worker's StatefulSet, at the worker's revision. -/
theorem restartLeader_eq_some {cluster : Cluster} {pod leader : ObservedPod} :
    restartLeader cluster pod = .ok (some leader) ↔
      (leaderPod pod.pod = true ∧ leader = pod) ∨
      (leaderPod pod.pod = false ∧ (getParentNameAndOrdinal pod.pod.name).2 ≠ -1 ∧
        cluster.getPod (getParentNameAndOrdinal pod.pod.name).1 = some leader ∧
        getRevisionKey leader.pod.labels = getRevisionKey pod.pod.labels) := by
  unfold restartLeader
  cases leading : leaderPod pod.pod with
  | true => simp [eq_comm]
  | false =>
    simp only [Bool.not_false, if_true]
    split_ifs with unparsed
    · simp [unparsed]
    · cases found : cluster.getPod (getParentNameAndOrdinal pod.pod.name).1 with
      | none => simp [unparsed]
      | some other =>
        simp only [unparsed, ne_eq, not_false_eq_true, false_and, true_and, false_or, Option.some.injEq]
        by_cases same : getRevisionKey other.pod.labels = getRevisionKey pod.pod.labels
        · rw [if_neg (not_not.mpr same)]
          constructor
          · rintro ⟨⟩
            exact ⟨rfl, same⟩
          · rintro ⟨rfl, -⟩
            rfl
        · rw [if_pos same]
          constructor
          · rintro ⟨⟩
          · rintro ⟨rfl, kept⟩
            exact absurd kept same

theorem handleRestartPolicy_of_leader {cluster : Cluster} {pod leader : ObservedPod} {set : ObservedLeaderWorkerSet}
    (recreating : set.lws.spec.leaderWorkerTemplate.restartPolicy = .recreateGroupOnPodRestart)
    (triggered : (containerRestarted pod || podDeleted pod) = true)
    (found : restartLeader cluster pod = .ok (some leader)) :
    handleRestartPolicy cluster pod set =
      .ok (if leader.deleting then .leaderDeleting else .leaderDeleted leader.pod.name) := by
  rw [handleRestartPolicy_eq, if_pos ⟨recreating, triggered⟩, found]
  rfl

/-- The restart policy deletes a leader that is not being deleted yet, one
that `restartLeader` finds for a pod that restarted or is being deleted. -/
theorem handleRestartPolicy_eq_leaderDeleted {cluster : Cluster} {pod : ObservedPod}
    {set : ObservedLeaderWorkerSet} {name : String} :
    handleRestartPolicy cluster pod set = .ok (.leaderDeleted name) ↔
      set.lws.spec.leaderWorkerTemplate.restartPolicy = .recreateGroupOnPodRestart ∧ (containerRestarted pod || podDeleted pod) = true ∧
        ∃ leader, restartLeader cluster pod = .ok (some leader) ∧ leader.deleting = false ∧
          leader.pod.name = name := by
  constructor
  · intro deleted
    rw [handleRestartPolicy_eq] at deleted
    split_ifs at deleted with triggered
    · cases found : restartLeader cluster pod with
      | error message =>
        rw [found] at deleted
        cases deleted
      | ok leader =>
        rw [found] at deleted
        cases leader with
        | none => cases deleted
        | some leader =>
          refine ⟨triggered.1, triggered.2, leader, rfl, ?_⟩
          cases deleting : leader.deleting
          · simp only [Except.map, deleting, Bool.false_eq_true, if_false, Except.ok.injEq,
              RestartOutcome.leaderDeleted.injEq] at deleted
            exact ⟨rfl, deleted⟩
          · simp [Except.map, deleting] at deleted
    · cases deleted
  · rintro ⟨recreating, triggered, leader, found, notDeleting, rfl⟩
    rw [handleRestartPolicy_of_leader recreating triggered found, notDeleting]
    rfl

/-- A leader's restart check never fails, nor does a worker's whose name
carries an ordinal. -/
theorem restartLeader_ne_error {cluster : Cluster} {pod : ObservedPod}
    (parsed : leaderPod pod.pod = false → (getParentNameAndOrdinal pod.pod.name).2 ≠ -1) (message : String) :
    restartLeader cluster pod ≠ .error message := by
  unfold restartLeader
  cases leading : leaderPod pod.pod with
  | true => simp
  | false =>
    simp only [Bool.not_false, if_true, if_neg (parsed leading)]
    split
    · simp
    · split <;> simp

theorem handleRestartPolicy_ne_error {cluster : Cluster} {pod : ObservedPod} {set : ObservedLeaderWorkerSet}
    {message : String} (succeeds : restartLeader cluster pod ≠ .error message) :
    handleRestartPolicy cluster pod set ≠ .error message := by
  rw [handleRestartPolicy_eq]
  split_ifs
  · cases found : restartLeader cluster pod with
    | error other =>
      simp only [Except.map, ne_eq, Except.error.injEq]
      rintro rfl
      exact succeeds found
    | ok leader => simp [Except.map]
  · simp

/-- The restart policy reads the pods only through `Get`. -/
theorem handleRestartPolicy_congr {cluster other : Cluster} (samePods : ∀ name, other.getPod name = cluster.getPod name)
    (pod : ObservedPod) (set : ObservedLeaderWorkerSet) :
    handleRestartPolicy other pod set = handleRestartPolicy cluster pod set := by
  simp [handleRestartPolicy_eq, restartLeader, samePods]

@[simp] theorem containerRestarted_markDeleting (pod : ObservedPod) (name : String) :
    containerRestarted (pod.markDeleting name) = containerRestarted pod := rfl

/-- After a leader's deletion, the pods that named it find it being deleted. -/
theorem restartLeader_markDeleting {cluster : Cluster} {pod leader : ObservedPod} (name : String)
    (found : restartLeader cluster pod = .ok (some leader)) :
    restartLeader (cluster.markDeleting name) (pod.markDeleting name) = .ok (some (leader.markDeleting name)) := by
  rw [restartLeader_eq_some] at found ⊢
  rcases found with ⟨leading, rfl⟩ | ⟨working, parsed, foundLeader, sameRevision⟩
  · exact .inl ⟨leading, rfl⟩
  · refine .inr ⟨working, parsed, ?_, sameRevision⟩
    rw [ObservedPod.markDeleting_pod, Cluster.getPod_markDeleting, foundLeader]
    rfl

/-- **A deletion is sent once.** After the leader the restart policy deletes
is marked, the same pod's restart check finds it being deleted. -/
theorem handleRestartPolicy_markDeleting {cluster : Cluster} {pod : ObservedPod} {set : ObservedLeaderWorkerSet}
    {name : String} (deleted : handleRestartPolicy cluster pod set = .ok (.leaderDeleted name)) :
    handleRestartPolicy (cluster.markDeleting name) (pod.markDeleting name) set = .ok .leaderDeleting := by
  obtain ⟨recreating, triggered, leader, found, -, named⟩ := handleRestartPolicy_eq_leaderDeleted.mp deleted
  have stillTriggered : (containerRestarted (pod.markDeleting name) || podDeleted (pod.markDeleting name)) = true := by
    rcases Bool.or_eq_true_iff.mp triggered with restarted | deleting
    · simp [restarted]
    · simp only [podDeleted] at deleting
      simp [podDeleted, deleting]
  rw [handleRestartPolicy_of_leader recreating stillTriggered (restartLeader_markDeleting name found)]
  simp [named]

/-! ## The worker StatefulSet step -/

/-- The guards `Reconcile` of a leader kept by its restart policy passes
before it sends the creation of the worker StatefulSet `sts`. -/
structure CreatesWorkerStatefulSet (view : PodControllerView) (pod : ObservedPod) (set : ObservedLeaderWorkerSet)
    (sts : StatefulSetApplyConfiguration) (nodeSelector : Option (String × String)) : Prop where
  notDeleting : pod.deleting = false
  hasWorkers : set.lws.spec.leaderWorkerTemplate.size ≠ 1
  started : set.startupPolicy = .leaderReadyStartupPolicy → isPodReady pod = true
  built : ∃ revision, getRevision view.revisions set.lws (getRevisionKey pod.pod.labels) = some revision ∧
    constructWorkerStatefulSetApplyConfiguration pod.pod set.lws revision = some sts
  placed : (set.lws.annotations.lookup exclusiveKeyAnnotationKey = none ∧ nodeSelector = none) ∨
    ∃ topologyKey topologyValue, set.lws.annotations.lookup exclusiveKeyAnnotationKey = some topologyKey ∧
      pod.nodeName ≠ "" ∧ topologyValueFromPod view pod topologyKey = .ok topologyValue ∧
      nodeSelector = some (topologyKey, topologyValue)
  absent : view.cluster.getStatefulSet pod.pod.name = none

theorem createWorkerStatefulSetIfNotExists_actions (view : PodControllerView) (pod : ObservedPod)
    (statefulSet : StatefulSetApplyConfiguration) (nodeSelector : Option (String × String)) :
    (createWorkerStatefulSetIfNotExists view pod statefulSet nodeSelector).actions =
      if view.cluster.getStatefulSet pod.pod.name = none then [.createStatefulSet statefulSet nodeSelector] else [] := by
  unfold createWorkerStatefulSetIfNotExists
  split <;> simp_all

/-- **What the worker StatefulSet step sends**: nothing, or the creation of
the StatefulSet its guards let through. -/
theorem reconcileWorkerStatefulSet_actions (view : PodControllerView) (pod : ObservedPod)
    (set : ObservedLeaderWorkerSet) :
    (reconcileWorkerStatefulSet view pod set).actions = [] ∨
      ∃ sts nodeSelector, (reconcileWorkerStatefulSet view pod set).actions = [.createStatefulSet sts nodeSelector] ∧
        CreatesWorkerStatefulSet view pod set sts nodeSelector := by
  dsimp only [reconcileWorkerStatefulSet]
  by_cases deleting : pod.deleting = true
  · rw [if_pos deleting]
    exact .inl rfl
  rw [if_neg deleting]
  by_cases sized : set.lws.spec.leaderWorkerTemplate.size = 1
  · rw [if_pos sized]
    exact .inl rfl
  rw [if_neg sized]
  by_cases unstarted : set.startupPolicy = .leaderReadyStartupPolicy ∧ isPodReady pod = false
  · rw [if_pos unstarted]
    exact .inl rfl
  rw [if_neg unstarted]
  cases revised : getRevision view.revisions set.lws (getRevisionKey pod.pod.labels) with
  | none => exact .inl rfl
  | some revision =>
    dsimp only
    cases built : constructWorkerStatefulSetApplyConfiguration pod.pod set.lws revision with
    | none => exact .inl rfl
    | some statefulSet =>
      dsimp only
      have guards := fun nodeSelector placed absent =>
        @CreatesWorkerStatefulSet.mk view pod set statefulSet nodeSelector (by simpa using deleting) sized
          (fun ready => by simpa [ready] using unstarted) ⟨revision, revised, built⟩ placed absent
      cases exclusive : set.lws.annotations.lookup exclusiveKeyAnnotationKey with
      | none =>
        dsimp only
        rw [createWorkerStatefulSetIfNotExists_actions]
        split_ifs with absent
        · exact .inr ⟨_, _, rfl, guards none (.inl ⟨exclusive, rfl⟩) absent⟩
        · exact .inl rfl
      | some topologyKey =>
        dsimp only
        split_ifs with unscheduled
        · exact .inl rfl
        · cases topology : topologyValueFromPod view pod topologyKey with
          | error message => exact .inl rfl
          | ok topologyValue =>
            dsimp only
            rw [createWorkerStatefulSetIfNotExists_actions]
            split_ifs with absent
            · exact .inr ⟨_, _, rfl,
                guards _ (.inr ⟨topologyKey, topologyValue, exclusive, unscheduled, topology, rfl⟩) absent⟩
            · exact .inl rfl

/-- The step reads neither the services nor the LeaderWorkerSets. -/
theorem reconcileWorkerStatefulSet_services (view : PodControllerView) (services : List HeadlessService)
    (pod : ObservedPod) (set : ObservedLeaderWorkerSet) :
    reconcileWorkerStatefulSet { view with services } pod set = reconcileWorkerStatefulSet view pod set := rfl

/-- Once `Get` finds the worker StatefulSet, the step sends nothing. -/
theorem reconcileWorkerStatefulSet_of_found {view : PodControllerView} {pod : ObservedPod}
    {set : ObservedLeaderWorkerSet} {existing : ObservedStatefulSet}
    (found : view.cluster.getStatefulSet pod.pod.name = some existing) :
    (reconcileWorkerStatefulSet view pod set).actions = [] := by
  rcases reconcileWorkerStatefulSet_actions view pod set with none | ⟨sts, nodeSelector, -, guards⟩
  · exact none
  · rw [guards.absent] at found
    cases found

/-- A worker template names its leader. -/
theorem workerPodAnnotations_leaderName {leaderPod : Pod} {lws : LeaderWorkerSet} {podAnnotations : StringMap}
    (annotated : workerPodAnnotations leaderPod lws = some podAnnotations) :
    podAnnotations.lookup leaderPodNameAnnotationKey = some leaderPod.name := by
  have keys : leaderPodNameAnnotationKey ≠ exclusiveKeyAnnotationKey ∧
      leaderPodNameAnnotationKey ≠ subGroupSizeAnnotationKey ∧
      leaderPodNameAnnotationKey ≠ subGroupExclusiveKeyAnnotationKey ∧
      leaderPodNameAnnotationKey ≠ leaderRequestsTPUsAnnotationKey ∧
      leaderPodNameAnnotationKey ≠ sizeAnnotationKey := by decide
  unfold workerPodAnnotations at annotated
  cases policy : lws.spec.leaderWorkerTemplate.subGroupPolicy with
  | none =>
    simp only [policy, Option.pure_def, Option.bind_eq_bind, Option.bind_some, Option.some.injEq] at annotated
    subst annotated
    simp [addTPUAnnotations, copyAnnotationIfSet]
    split_ifs <;> simp [keys]
  | some subGroupPolicy =>
    cases sized : subGroupPolicy.subGroupSize with
    | none => simp [policy, sized] at annotated
    | some subGroupSize =>
      simp only [policy, sized, Option.pure_def, Option.bind_eq_bind, Option.bind_some, Option.some.injEq] at annotated
      subst annotated
      simp [addTPUAnnotations, copyAnnotationIfSet]
      split_ifs <;> simp [keys]

/-- A worker StatefulSet is named after its leader, carries the set's name
and the leader's group index in its labels, and gives its pods the leader's
name. -/
theorem constructWorkerStatefulSetApplyConfiguration_leader {leaderPod : Pod} {lws : LeaderWorkerSet}
    {revision : ControllerRevision} {sts : StatefulSetApplyConfiguration}
    (built : constructWorkerStatefulSetApplyConfiguration leaderPod lws revision = some sts) :
    sts.name = leaderPod.name ∧ sts.labels.lookup setNameLabelKey = some lws.name ∧
      sts.labels.get groupIndexLabelKey = leaderPod.labels.get groupIndexLabelKey ∧
      sts.template.annotations.lookup leaderPodNameAnnotationKey = some leaderPod.name := by
  have keys : setNameLabelKey ≠ revisionKey ∧ setNameLabelKey ≠ groupUniqueHashLabelKey ∧
      groupIndexLabelKey ≠ revisionKey ∧ groupIndexLabelKey ≠ groupUniqueHashLabelKey ∧
      groupIndexLabelKey ≠ setNameLabelKey := by decide
  unfold constructWorkerStatefulSetApplyConfiguration at built
  cases annotated : workerPodAnnotations leaderPod lws with
  | none => simp [annotated] at built
  | some podAnnotations =>
    cases served : workerServiceName leaderPod lws with
    | none => simp [annotated, served] at built
    | some serviceName =>
      simp only [annotated, served, Option.bind_eq_bind, Option.bind_some, Option.pure_def,
        Option.some.injEq] at built
      subst built
      refine ⟨rfl, ?_, ?_, ?_⟩
      · simp [StringMap.ofList, keys]
      · simp [StringMap.get, StringMap.ofList, keys]
      · simp [workerPodAnnotations_leaderName annotated]

/-! ## The services step -/

namespace PodControllerView

@[simp] theorem applyActions_nil (view : PodControllerView) : view.applyActions [] = view := rfl

theorem applyActions_append (view : PodControllerView) (first rest : List PodAction) :
    view.applyActions (first ++ rest) = (view.applyActions first).applyActions rest :=
  List.foldl_append

theorem applyActions_singleton (view : PodControllerView) (action : PodAction) :
    view.applyActions [action] = action.apply view := rfl

/-- The pod controller's requests leave the LeaderWorkerSets and the
revisions. -/
theorem applyActions_sets_revisions (view : PodControllerView) (actions : List PodAction) :
    (view.applyActions actions).sets = view.sets ∧ (view.applyActions actions).revisions = view.revisions := by
  induction actions generalizing view with
  | nil => exact ⟨rfl, rfl⟩
  | cons action rest inductionHypothesis =>
    obtain ⟨sets, revisions⟩ := inductionHypothesis (action.apply view)
    rw [← List.singleton_append, applyActions_append, applyActions_singleton, sets, revisions]
    cases action with
    | deletePod name => exact ⟨rfl, rfl⟩
    | createService service =>
      simp only [PodAction.apply]
      split <;> exact ⟨rfl, rfl⟩
    | createStatefulSet sts nodeSelector => exact ⟨rfl, rfl⟩

end PodControllerView

/-- A service creation touches nothing but the services. -/
theorem applyActions_of_services {actions : List PodAction}
    (creations : ∀ action ∈ actions, ∃ service, action = .createService service) (view : PodControllerView) :
    view.applyActions actions = { view with services := (view.applyActions actions).services } := by
  induction actions generalizing view with
  | nil => rfl
  | cons action rest inductionHypothesis =>
    obtain ⟨service, rfl⟩ := creations action List.mem_cons_self
    have restCreations := fun other member => creations other (List.mem_cons_of_mem _ member)
    rw [← List.singleton_append, PodControllerView.applyActions_append, inductionHypothesis restCreations]
    simp only [PodControllerView.applyActions_singleton, PodAction.apply]
    split <;> rfl

/-- The services step creates at most the leader's own service, when `Get`
does not find it. -/
theorem leaderPodServices_creations {view : PodControllerView} {lws : LeaderWorkerSet} {pod : ObservedPod}
    {services : List PodAction} (built : leaderPodServices view lws pod = some services) :
    ∀ action ∈ services, ∃ service, action = .createService service ∧ service.name = pod.pod.name ∧
      view.getService pod.pod.name = none := by
  intro action member
  unfold leaderPodServices at built
  split at built
  · cases built
    cases member
  · obtain ⟨subdomainPolicy, -, rfl⟩ := Option.map_eq_some_iff.mp built
    split_ifs at member
    · unfold createHeadlessServiceIfNotExists at member
      split at member
      · cases member
      · next absent =>
        rw [List.mem_singleton] at member
        exact ⟨_, member, rfl, absent⟩
    · cases member

/-- The services step reads only the services. -/
theorem leaderPodServices_congr {view other : PodControllerView} (same : other.services = view.services)
    (lws : LeaderWorkerSet) (pod : ObservedPod) :
    leaderPodServices other lws pod = leaderPodServices view lws pod := by
  simp [leaderPodServices, createHeadlessServiceIfNotExists, PodControllerView.getService, same]

/-- Once its creations are carried out, the services step sends nothing. -/
theorem leaderPodServices_applyActions {view : PodControllerView} {lws : LeaderWorkerSet} {pod : ObservedPod}
    {services : List PodAction} (built : leaderPodServices view lws pod = some services) :
    leaderPodServices (view.applyActions services) lws pod = some [] := by
  unfold leaderPodServices at built ⊢
  split at built
  · rfl
  · obtain ⟨subdomainPolicy, policy, rfl⟩ := Option.map_eq_some_iff.mp built
    rw [policy, Option.map_some]
    split_ifs with unique
    · unfold createHeadlessServiceIfNotExists at ⊢
      cases found : view.getService pod.pod.name with
      | some service =>
        simp only [found, PodControllerView.applyActions_nil]
      | none =>
        simp only [found, PodControllerView.applyActions_singleton,
          PodAction.apply, Option.isSome_none, Bool.false_eq_true, if_false]
        have absent : view.services.find? (fun service => service.name == pod.pod.name) = none := found
        simp [PodControllerView.getService, List.find?_append, absent]
    · rfl

/-! ## What one reconcile sends -/

/-- The reads of `Reconcile` before the restart policy: the pod, its two
labels and its LeaderWorkerSet. -/
structure ReconcileReads (view : PodControllerView) (podName : String) (pod : ObservedPod)
    (set : ObservedLeaderWorkerSet) : Prop where
  found : view.cluster.getPod podName = some pod
  named : pod.pod.labels.get setNameLabelKey ≠ ""
  indexed : pod.pod.labels.found workerIndexLabelKey = true
  setFound : view.getLeaderWorkerSet (pod.pod.labels.get setNameLabelKey) = some set

/-- After its reads, `Reconcile` follows the restart policy's outcome. -/
theorem reconcile_of_reads {view : PodControllerView} {podName : String} {pod : ObservedPod}
    {set : ObservedLeaderWorkerSet} (reads : ReconcileReads view podName pod set) :
    PodReconciler.reconcile view podName =
      match handleRestartPolicy view.cluster pod set with
      | .error message => ⟨[], .failed message⟩
      | .ok (.leaderDeleted leaderName) => ⟨[.deletePod leaderName], .done⟩
      | .ok .leaderDeleting => ⟨[], .done⟩
      | .ok .groupKept => if !leaderPod pod.pod then ⟨[], .done⟩ else reconcileLeaderPod view pod set := by
  have indexed : ¬(!pod.pod.labels.found workerIndexLabelKey) = true := by simp [reads.indexed]
  unfold PodReconciler.reconcile
  rw [reads.found]
  dsimp only
  rw [if_neg reads.named, if_neg indexed, reads.setFound]

/-- A reconcile whose reads fail sends nothing. -/
theorem reconcile_actions_of_unread {view : PodControllerView} {podName : String}
    (unread : ∀ pod set, ¬ReconcileReads view podName pod set) : (PodReconciler.reconcile view podName).actions = [] := by
  unfold PodReconciler.reconcile
  cases found : view.cluster.getPod podName with
  | none => rfl
  | some pod =>
    dsimp only
    by_cases unnamed : pod.pod.labels.get setNameLabelKey = ""
    · rw [if_pos unnamed]
    rw [if_neg unnamed]
    by_cases unindexed : (!pod.pod.labels.found workerIndexLabelKey) = true
    · rw [if_pos unindexed]
    rw [if_neg unindexed]
    cases setFound : view.getLeaderWorkerSet (pod.pod.labels.get setNameLabelKey) with
    | none => rfl
    | some set => exact absurd ⟨found, unnamed, by simpa using unindexed, setFound⟩ (unread pod set)

/-- A reconcile that reaches the leader steps: its reads pass, the restart
policy keeps the group, and the pod is a leader without a worker template's
leader-name annotation, whose service step does not panic. -/
structure ReachesLeaderSteps (view : PodControllerView) (podName : String) (pod : ObservedPod)
    (set : ObservedLeaderWorkerSet) (services : List PodAction) : Prop where
  reads : ReconcileReads view podName pod set
  groupKept : handleRestartPolicy view.cluster pod set = .ok .groupKept
  leader : leaderPod pod.pod = true
  notWorkerTemplate : pod.pod.annotations.get leaderPodNameAnnotationKey = ""
  servicesBuilt : leaderPodServices view set.lws pod = some services

/-- The requests of a reconcile that reaches the leader steps: the service
step's, then the worker StatefulSet step's. -/
theorem reconcile_of_reachesLeaderSteps {view : PodControllerView} {podName : String} {pod : ObservedPod}
    {set : ObservedLeaderWorkerSet} {services : List PodAction}
    (reached : ReachesLeaderSteps view podName pod set services) :
    (PodReconciler.reconcile view podName).actions = services ++ (reconcileWorkerStatefulSet view pod set).actions := by
  rw [reconcile_of_reads reached.reads, reached.groupKept]
  simp [reached.leader, reconcileLeaderPod, reached.notWorkerTemplate, reached.servicesBuilt]

/-- **What one reconcile sends**: nothing; the deletion of the leader the
restart policy names; or, for a leader, its service step's creations and then
its worker StatefulSet step's. -/
theorem reconcile_actions (view : PodControllerView) (podName : String) :
    (PodReconciler.reconcile view podName).actions = [] ∨
      (∃ pod set leaderName, ReconcileReads view podName pod set ∧
        handleRestartPolicy view.cluster pod set = .ok (.leaderDeleted leaderName) ∧
        (PodReconciler.reconcile view podName).actions = [.deletePod leaderName]) ∨
      (∃ pod set services, ReachesLeaderSteps view podName pod set services ∧
        (PodReconciler.reconcile view podName).actions = services ++ (reconcileWorkerStatefulSet view pod set).actions) := by
  by_cases read : ∃ pod set, ReconcileReads view podName pod set
  · obtain ⟨pod, set, reads⟩ := read
    rw [reconcile_of_reads reads]
    cases restart : handleRestartPolicy view.cluster pod set with
    | error message => exact .inl rfl
    | ok outcome =>
      cases outcome with
      | leaderDeleted leaderName => exact .inr (.inl ⟨pod, set, leaderName, reads, restart, rfl⟩)
      | leaderDeleting => exact .inl rfl
      | groupKept =>
        cases leading : leaderPod pod.pod with
        | false => exact .inl rfl
        | true =>
          dsimp only [Bool.not_true, Bool.false_eq_true, if_false, reconcileLeaderPod]
          by_cases nominated : pod.pod.annotations.get leaderPodNameAnnotationKey ≠ ""
          · rw [if_pos nominated]
            exact .inl rfl
          rw [if_neg nominated]
          cases built : leaderPodServices view set.lws pod with
          | none => exact .inl rfl
          | some services =>
            exact .inr (.inr ⟨pod, set, services, ⟨reads, restart, leading, not_not.mp nominated, built⟩, rfl⟩)
  · push Not at read
    exact .inl (reconcile_actions_of_unread read)

/-- A reconcile that sends a StatefulSet's creation reached the leader steps
and passed the guards of the worker StatefulSet step. -/
theorem exists_guards_of_creates {view : PodControllerView} {podName : String}
    {sts : StatefulSetApplyConfiguration} {nodeSelector : Option (String × String)}
    (member : .createStatefulSet sts nodeSelector ∈ (PodReconciler.reconcile view podName).actions) :
    ∃ pod set services, ReachesLeaderSteps view podName pod set services ∧
      CreatesWorkerStatefulSet view pod set sts nodeSelector := by
  rcases reconcile_actions view podName with none | ⟨pod, set, leaderName, -, -, deletes⟩ |
      ⟨pod, set, services, reached, sends⟩
  · rw [none] at member
    cases member
  · rw [deletes, List.mem_singleton] at member
    cases member
  · rw [sends, List.mem_append] at member
    rcases member with service | worker
    · obtain ⟨created, same, -⟩ := leaderPodServices_creations reached.servicesBuilt _ service
      cases same
    · rcases reconcileWorkerStatefulSet_actions view pod set with none | ⟨sent, sentSelector, sends, guards⟩
      · rw [none] at worker
        cases worker
      · rw [sends, List.mem_singleton] at worker
        cases worker
        exact ⟨pod, set, services, reached, guards⟩

/-- The leader steps are reached again on a view with the same pods and
LeaderWorkerSets, with the services step of that view. -/
theorem ReachesLeaderSteps.transfer {view other : PodControllerView} {podName : String} {pod : ObservedPod}
    {set : ObservedLeaderWorkerSet} {services others : List PodAction}
    (reached : ReachesLeaderSteps view podName pod set services)
    (samePods : ∀ name, other.cluster.getPod name = view.cluster.getPod name) (sameSets : other.sets = view.sets)
    (servicesBuilt : leaderPodServices other set.lws pod = some others) :
    ReachesLeaderSteps other podName pod set others where
  reads :=
    { found := (samePods podName).trans reached.reads.found
      named := reached.reads.named
      indexed := reached.reads.indexed
      setFound := by
        rw [← reached.reads.setFound]
        simp [PodControllerView.getLeaderWorkerSet, sameSets] }
  groupKept := (handleRestartPolicy_congr samePods pod set).trans reached.groupKept
  leader := reached.leader
  notWorkerTemplate := reached.notWorkerTemplate
  servicesBuilt := servicesBuilt

/-- **A reconcile's requests settle the pod.** Once the requests of one
reconcile are carried out, a second reconcile of the same pod sends nothing:
a deleted leader is found being deleted, and the service and the worker
StatefulSet it created are found by `Get`. -/
theorem reconcile_settles (view : PodControllerView) (podName : String) :
    (PodReconciler.reconcile (view.applyActions (PodReconciler.reconcile view podName).actions) podName).actions =
      [] := by
  rcases reconcile_actions view podName with none | ⟨pod, set, leaderName, reads, deleted, deletes⟩ |
      ⟨pod, set, services, reached, sends⟩
  · rw [none, PodControllerView.applyActions_nil]
    exact none
  · -- the leader is marked: the restart check now finds it being deleted
    rw [deletes, PodControllerView.applyActions_singleton]
    have markedReads : ReconcileReads (PodAction.apply view (.deletePod leaderName)) podName
        (pod.markDeleting leaderName) set :=
      ⟨by simp [PodAction.apply, Cluster.getPod_markDeleting, reads.found], reads.named, reads.indexed,
        reads.setFound⟩
    rw [reconcile_of_reads markedReads]
    simp only [PodAction.apply]
    rw [handleRestartPolicy_markDeleting deleted]
  · have creations := fun action member => (leaderPodServices_creations reached.servicesBuilt action member).imp
      fun _ created => created.1
    have servicesOnly := applyActions_of_services creations view
    have servicesDone := leaderPodServices_applyActions reached.servicesBuilt
    rw [sends, PodControllerView.applyActions_append]
    rcases reconcileWorkerStatefulSet_actions view pod set with none | ⟨sts, nodeSelector, sent, guards⟩
    · -- nothing was created: the second run reads what the first read
      rw [none, PodControllerView.applyActions_nil]
      have again := reached.transfer (fun name => by rw [servicesOnly]) (by rw [servicesOnly]) servicesDone
      rw [reconcile_of_reachesLeaderSteps again, List.nil_append, servicesOnly, reconcileWorkerStatefulSet_services,
        none]
    · -- the worker StatefulSet was created: the second run finds it
      obtain ⟨revision, -, built⟩ := guards.built
      have named := (constructWorkerStatefulSetApplyConfiguration_leader built).1
      rw [sent, PodControllerView.applyActions_singleton]
      have created : (PodAction.apply (view.applyActions services) (.createStatefulSet sts nodeSelector)).cluster =
          view.cluster.createStatefulSet sts.created := by
        rw [servicesOnly]
        rfl
      have again := reached.transfer (fun name => by rw [created, Cluster.getPod_createStatefulSet])
        (by rw [servicesOnly]; rfl)
        ((leaderPodServices_congr (by rw [servicesOnly]; rfl) _ _).trans servicesDone)
      have fresh : view.cluster.getStatefulSet sts.created.statefulSet.name = none := by
        rw [show sts.created.statefulSet.name = pod.pod.name from named]
        exact guards.absent
      rw [reconcile_of_reachesLeaderSteps again, List.nil_append]
      apply reconcileWorkerStatefulSet_of_found
      rw [created, ← show sts.created.statefulSet.name = pod.pod.name from named]
      exact Cluster.getStatefulSet_createStatefulSet_self fresh

/-! ## A worker's reconcile -/

/-- The restart of a worker recreates its group: the set recreates groups on
restarts, the worker restarted a container or is being deleted, and the
leader named after its StatefulSet exists at the worker's revision and is not
being deleted yet. -/
def WorkerRestartsGroup (cluster : Cluster) (set : ObservedLeaderWorkerSet) (worker : ObservedPod)
    (leaderName : String) : Prop :=
  set.lws.spec.leaderWorkerTemplate.restartPolicy = .recreateGroupOnPodRestart ∧ (containerRestarted worker = true ∨ podDeleted worker = true) ∧
    ∃ leader, cluster.getPod leaderName = some leader ∧
      getRevisionKey leader.pod.labels = getRevisionKey worker.pod.labels ∧ leader.deleting = false

/-- **A worker's reconcile deletes at most its own leader.** The reconcile of
worker `ordinal` of the worker StatefulSet named after `leaderName` sends
exactly the deletion of `leaderName` when the worker's restart recreates the
group, and nothing otherwise. -/
theorem reconcile_worker_deletes_own_leader {view : PodControllerView} {leaderName : String} {ordinal : Int}
    {worker : ObservedPod} {set : ObservedLeaderWorkerSet}
    (reads : ReconcileReads view (statefulSetPodName leaderName ordinal) worker set)
    (working : leaderPod worker.pod = false)
    (oneLine : '\n' ∉ leaderName.toList) (nonnegative : 0 ≤ ordinal) (fits : ordinal < 2147483648) :
    ((PodReconciler.reconcile view (statefulSetPodName leaderName ordinal)).actions = [.deletePod leaderName] ∧
        WorkerRestartsGroup view.cluster set worker leaderName) ∨
      ((PodReconciler.reconcile view (statefulSetPodName leaderName ordinal)).actions = [] ∧
        ¬WorkerRestartsGroup view.cluster set worker leaderName) := by
  have parsed : getParentNameAndOrdinal worker.pod.name = (leaderName, ordinal) := by
    rw [(Cluster.getPod_eq_some.mp reads.found).2]
    exact getParentNameAndOrdinal_statefulSetPodName leaderName ordinal oneLine nonnegative fits
  have hasOrdinal : (getParentNameAndOrdinal worker.pod.name).2 ≠ -1 := by
    rw [parsed]
    dsimp only
    omega
  rw [reconcile_of_reads reads]
  by_cases restarts : WorkerRestartsGroup view.cluster set worker leaderName
  · obtain ⟨recreating, triggered, leader, found, sameRevision, notDeleting⟩ := restarts
    have leaderFound : restartLeader view.cluster worker = .ok (some leader) :=
      restartLeader_eq_some.mpr (.inr ⟨working, hasOrdinal, by rw [parsed]; exact found, sameRevision⟩)
    have leaderNamed : leader.pod.name = leaderName := (Cluster.getPod_eq_some.mp found).2
    rw [handleRestartPolicy_of_leader recreating (by simpa using triggered) leaderFound, notDeleting]
    exact .inl ⟨by simp [leaderNamed], recreating, triggered, leader, found, sameRevision, notDeleting⟩
  · refine .inr ⟨?_, restarts⟩
    have noDeletion : ∀ name, handleRestartPolicy view.cluster worker set ≠ .ok (.leaderDeleted name) := by
      intro name deleted
      obtain ⟨recreating, triggered, leader, leaderFound, notDeleting, -⟩ :=
        handleRestartPolicy_eq_leaderDeleted.mp deleted
      rcases restartLeader_eq_some.mp leaderFound with ⟨leading, -⟩ | ⟨-, -, found, sameRevision⟩
      · rw [working] at leading
        cases leading
      · rw [parsed] at found
        exact restarts ⟨recreating, by simpa using triggered, leader, found, sameRevision, notDeleting⟩
    cases restart : handleRestartPolicy view.cluster worker set with
    | error message =>
      exact absurd restart (handleRestartPolicy_ne_error (restartLeader_ne_error (fun _ => hasOrdinal) message))
    | ok outcome =>
      cases outcome with
      | groupKept => simp [working]
      | leaderDeleting => rfl
      | leaderDeleted name => exact absurd restart (noDeletion name)

/-- Worker 1 of group 0 of `lws`, running, with a restarted container. -/
def restartedWorkerPod : ObservedPod where
  pod :=
    { name := statefulSetPodName "lws-0" 1
      namespaceName := "default"
      labels := StringMap.ofList [(setNameLabelKey, "lws"), (workerIndexLabelKey, "1"), (revisionKey, "new")]
      annotations := ∅
      spec := ⟨"lws", none, [], []⟩ }
  deleting := false
  nodeName := "node"
  status := ⟨some .podRunning, [], [], [⟨1⟩]⟩

/-- The set `lws`, recreating its groups on restarts. -/
def recreatingLeaderWorkerSet : ObservedLeaderWorkerSet :=
  ⟨rolloutLeaderWorkerSet, .leaderCreatedStartupPolicy, false, ⟨0, 0, 0, ""⟩⟩

/-- The restarted worker beside its leader. -/
def restartView : PodControllerView where
  cluster :=
    { pods := [runningLeaderPod 0 "new", restartedWorkerPod]
      statefulSets := []
      podNamesUnique := by decide
      statefulSetNamesUnique := by decide }
  sets := [recreatingLeaderWorkerSet]
  nodes := []
  services := []
  revisions := []

/-- The restarted worker deletes leader `lws-0`. -/
theorem reconcile_worker_deletes_own_leader_on_restart :
    ((PodReconciler.reconcile restartView (statefulSetPodName "lws-0" 1)).actions = [.deletePod "lws-0"] ∧
        WorkerRestartsGroup restartView.cluster recreatingLeaderWorkerSet restartedWorkerPod "lws-0") ∨
      ((PodReconciler.reconcile restartView (statefulSetPodName "lws-0" 1)).actions = [] ∧
        ¬WorkerRestartsGroup restartView.cluster recreatingLeaderWorkerSet restartedWorkerPod "lws-0") :=
  reconcile_worker_deletes_own_leader ⟨by decide, by decide, by decide, by decide⟩ (by decide) (by decide)
    (by decide) (by decide)

end Lws
