import Lws.Api.LeaderWorkerSet
import Lws.Library.KeyedList

/-!
# The objects a controller reads from the API server

A controller reads objects through its client: `List` with a label selector,
and `Get` by name. A pod and a StatefulSet are read here with what the
controllers read of them beyond the fields the webhooks see: a pod's status,
the node it runs on and whether it is being deleted, and a StatefulSet's
status.

The reads of one reconcile are modelled over a snapshot of the set's
namespace. The API server keeps one object of a kind per name, so `Get`
finds at most one; a read that fails for another reason than a missing object
(a transport error, a timeout) is left out.
-/

namespace Lws

/-- A pod as a controller reads it: the object, whether its deletion timestamp
is set, `spec.nodeName` (empty before scheduling) and its status. -/
structure ObservedPod where
  pod : Pod
  deleting : Bool
  nodeName : String
  status : PodStatus
deriving DecidableEq

/-- A StatefulSet as a controller reads it, with its status. -/
structure ObservedStatefulSet where
  statefulSet : StatefulSet
  status : StatefulSetStatus
deriving DecidableEq

/-- The zero value of `corev1.Pod`, as `make` fills a slice with it. -/
def ObservedPod.zero : ObservedPod where
  pod := ⟨"", "", ∅, ∅, ⟨"", none, [], []⟩⟩
  deleting := false
  nodeName := ""
  status := ⟨none, [], [], []⟩

/-- The zero value of `appsv1.StatefulSet`. -/
def ObservedStatefulSet.zero : ObservedStatefulSet where
  statefulSet := ⟨"", ∅, ∅, 0, 0⟩
  status := ⟨0, "", ""⟩

/-- A pod as the API server stores it on its creation: not being deleted, not
yet scheduled, and with no status reported. -/
def ObservedPod.created (pod : Pod) : ObservedPod where
  pod := pod
  deleting := false
  nodeName := ""
  status := ⟨none, [], [], []⟩

@[simp] theorem ObservedPod.zero_name : ObservedPod.zero.pod.name = "" := rfl

@[simp] theorem ObservedStatefulSet.zero_name : ObservedStatefulSet.zero.statefulSet.name = "" := rfl

/-- `client.MatchingLabels`: every entry of the selector is among the labels. -/
def matchingLabels (selector : List (String × String)) (labels : StringMap) : Bool :=
  selector.all fun entry => labels.lookup entry.1 == some entry.2

/-- A pod after a `Delete` of the pod `name`: its deletion timestamp is set
when it is that pod. -/
def ObservedPod.markDeleting (pod : ObservedPod) (name : String) : ObservedPod :=
  { pod with deleting := pod.deleting || pod.pod.name == name }

@[simp] theorem ObservedPod.markDeleting_pod (pod : ObservedPod) (name : String) :
    (pod.markDeleting name).pod = pod.pod := rfl

@[simp] theorem ObservedPod.markDeleting_status (pod : ObservedPod) (name : String) :
    (pod.markDeleting name).status = pod.status := rfl

@[simp] theorem ObservedPod.markDeleting_nodeName (pod : ObservedPod) (name : String) :
    (pod.markDeleting name).nodeName = pod.nodeName := rfl

@[simp] theorem ObservedPod.markDeleting_deleting (pod : ObservedPod) (name : String) :
    (pod.markDeleting name).deleting = (pod.deleting || pod.pod.name == name) := rfl

/-- The pods and StatefulSets of the set's namespace. -/
structure Cluster where
  pods : List ObservedPod
  statefulSets : List ObservedStatefulSet
  podNamesUnique : (pods.map (·.pod.name)).Nodup
  statefulSetNamesUnique : (statefulSets.map (·.statefulSet.name)).Nodup

namespace Cluster

/-- `List` of the pods whose labels match the selector. -/
def listPods (cluster : Cluster) (selector : List (String × String)) : List ObservedPod :=
  cluster.pods.filter fun pod => matchingLabels selector pod.pod.labels

/-- `List` of the StatefulSets whose labels match the selector. -/
def listStatefulSets (cluster : Cluster) (selector : List (String × String)) :
    List ObservedStatefulSet :=
  cluster.statefulSets.filter fun sts => matchingLabels selector sts.statefulSet.labels

/-- `Get` of a StatefulSet; `none` is a `NotFound` error. -/
def getStatefulSet (cluster : Cluster) (name : String) : Option ObservedStatefulSet :=
  cluster.statefulSets.find? fun sts => sts.statefulSet.name == name

/-- `Get` of a pod; `none` is a `NotFound` error. -/
def getPod (cluster : Cluster) (name : String) : Option ObservedPod :=
  cluster.pods.find? fun pod => pod.pod.name == name

/-! ## What the API server does on a request

A controller's `Delete`, `Create` and status writes, and the moves of the
rest of the cluster that the controllers watch: the kubelet's pod status,
the StatefulSet controller's status, and the garbage collector ending a
deletion.
-/

/-- `Delete` of a pod with foreground propagation: the API server sets the
pod's deletion timestamp and keeps it until its dependents are gone. -/
def markDeleting (cluster : Cluster) (name : String) : Cluster where
  pods := cluster.pods.map (·.markDeleting name)
  statefulSets := cluster.statefulSets
  podNamesUnique := by simpa [List.map_map, Function.comp_def] using cluster.podNamesUnique
  statefulSetNamesUnique := cluster.statefulSetNamesUnique

/-- The end of a pod's deletion: it is gone. -/
def removePod (cluster : Cluster) (name : String) : Cluster where
  pods := cluster.pods.filter fun pod => pod.pod.name != name
  statefulSets := cluster.statefulSets
  podNamesUnique := cluster.podNamesUnique.sublist (List.filter_sublist.map _)
  statefulSetNamesUnique := cluster.statefulSetNamesUnique

/-- The end of a StatefulSet's deletion: it is gone. -/
def removeStatefulSet (cluster : Cluster) (name : String) : Cluster where
  pods := cluster.pods
  statefulSets := cluster.statefulSets.filter fun sts => sts.statefulSet.name != name
  podNamesUnique := cluster.podNamesUnique
  statefulSetNamesUnique := cluster.statefulSetNamesUnique.sublist (List.filter_sublist.map _)

/-- The kubelet reports a pod's status. -/
def setPodStatus (cluster : Cluster) (name : String) (status : PodStatus) : Cluster where
  pods := cluster.pods.map fun pod => { pod with status := if pod.pod.name = name then status else pod.status }
  statefulSets := cluster.statefulSets
  podNamesUnique := by simpa [List.map_map, Function.comp_def] using cluster.podNamesUnique
  statefulSetNamesUnique := cluster.statefulSetNamesUnique

/-- The StatefulSet controller reports a StatefulSet's status. -/
def setStatefulSetStatus (cluster : Cluster) (name : String) (status : StatefulSetStatus) : Cluster where
  pods := cluster.pods
  statefulSets := cluster.statefulSets.map fun sts =>
    { sts with status := if sts.statefulSet.name = name then status else sts.status }
  podNamesUnique := cluster.podNamesUnique
  statefulSetNamesUnique := by simpa [List.map_map, Function.comp_def] using cluster.statefulSetNamesUnique

theorem mem_listPods {cluster : Cluster} {selector : List (String × String)} {pod : ObservedPod} :
    pod ∈ cluster.listPods selector ↔ pod ∈ cluster.pods ∧ matchingLabels selector pod.pod.labels = true :=
  List.mem_filter

theorem mem_listStatefulSets {cluster : Cluster} {selector : List (String × String)}
    {sts : ObservedStatefulSet} :
    sts ∈ cluster.listStatefulSets selector ↔
      sts ∈ cluster.statefulSets ∧ matchingLabels selector sts.statefulSet.labels = true :=
  List.mem_filter

theorem nodup_names_listPods (cluster : Cluster) (selector : List (String × String)) :
    ((cluster.listPods selector).map (·.pod.name)).Nodup :=
  cluster.podNamesUnique.sublist (List.filter_sublist.map _)

theorem nodup_names_listStatefulSets (cluster : Cluster) (selector : List (String × String)) :
    ((cluster.listStatefulSets selector).map (·.statefulSet.name)).Nodup :=
  cluster.statefulSetNamesUnique.sublist (List.filter_sublist.map _)

/-- `Get` finds the StatefulSet of the name, the only one there is. -/
theorem getStatefulSet_eq_some {cluster : Cluster} {name : String} {sts : ObservedStatefulSet} :
    cluster.getStatefulSet name = some sts ↔ sts ∈ cluster.statefulSets ∧ sts.statefulSet.name = name :=
  KeyedList.find?_key_eq_some_iff (fun sts : ObservedStatefulSet => sts.statefulSet.name)
    cluster.statefulSetNamesUnique

/-- `Get` finds the pod of the name, the only one there is. -/
theorem getPod_eq_some {cluster : Cluster} {name : String} {pod : ObservedPod} :
    cluster.getPod name = some pod ↔ pod ∈ cluster.pods ∧ pod.pod.name = name :=
  KeyedList.find?_key_eq_some_iff (fun pod : ObservedPod => pod.pod.name) cluster.podNamesUnique

theorem getStatefulSet_eq_none {cluster : Cluster} {name : String} :
    cluster.getStatefulSet name = none ↔ ∀ sts ∈ cluster.statefulSets, sts.statefulSet.name ≠ name := by
  simp [getStatefulSet]

theorem getPod_eq_none {cluster : Cluster} {name : String} :
    cluster.getPod name = none ↔ ∀ pod ∈ cluster.pods, pod.pod.name ≠ name := by
  simp [getPod]

/-- `Create` of a StatefulSet; a name that is taken is `AlreadyExists` and
changes nothing. -/
def createStatefulSet (cluster : Cluster) (sts : ObservedStatefulSet) : Cluster :=
  if fresh : cluster.getStatefulSet sts.statefulSet.name = none then
    { cluster with
      statefulSets := cluster.statefulSets ++ [sts]
      statefulSetNamesUnique := by
        rw [List.map_append, List.nodup_append]
        refine ⟨cluster.statefulSetNamesUnique, List.nodup_singleton _, ?_⟩
        intro name member other otherMember same
        obtain ⟨existing, existingMember, rfl⟩ := List.mem_map.mp member
        rw [List.map_singleton, List.mem_singleton] at otherMember
        exact getStatefulSet_eq_none.mp fresh existing existingMember (same.trans otherMember) }
  else cluster

/-- `Create` of a pod; a name that is taken is `AlreadyExists` and changes
nothing. -/
def createPod (cluster : Cluster) (pod : Pod) : Cluster :=
  if fresh : cluster.getPod pod.name = none then
    { cluster with
      pods := cluster.pods ++ [ObservedPod.created pod]
      podNamesUnique := by
        rw [List.map_append, List.nodup_append]
        refine ⟨cluster.podNamesUnique, List.nodup_singleton _, ?_⟩
        intro name member other otherMember same
        obtain ⟨existing, existingMember, rfl⟩ := List.mem_map.mp member
        rw [List.map_singleton, List.mem_singleton] at otherMember
        exact getPod_eq_none.mp fresh existing existingMember (same.trans otherMember) }
  else cluster

/-! ## What the reads see after a write -/

@[simp] theorem markDeleting_statefulSets (cluster : Cluster) (name : String) :
    (cluster.markDeleting name).statefulSets = cluster.statefulSets := rfl

theorem getPod_markDeleting (cluster : Cluster) (name other : String) :
    (cluster.markDeleting name).getPod other = (cluster.getPod other).map (·.markDeleting name) := by
  simp [getPod, markDeleting, List.find?_map, Function.comp_def]

theorem listPods_markDeleting (cluster : Cluster) (name : String) (selector : List (String × String)) :
    (cluster.markDeleting name).listPods selector = (cluster.listPods selector).map (·.markDeleting name) := by
  simp [listPods, markDeleting, List.filter_map, Function.comp_def]

@[simp] theorem getStatefulSet_markDeleting (cluster : Cluster) (name other : String) :
    (cluster.markDeleting name).getStatefulSet other = cluster.getStatefulSet other := rfl

@[simp] theorem createStatefulSet_pods (cluster : Cluster) (sts : ObservedStatefulSet) :
    (cluster.createStatefulSet sts).pods = cluster.pods := by
  unfold createStatefulSet
  split <;> rfl

theorem getPod_createStatefulSet (cluster : Cluster) (sts : ObservedStatefulSet) (name : String) :
    (cluster.createStatefulSet sts).getPod name = cluster.getPod name := by
  simp [getPod]

theorem listPods_createStatefulSet (cluster : Cluster) (sts : ObservedStatefulSet)
    (selector : List (String × String)) :
    (cluster.createStatefulSet sts).listPods selector = cluster.listPods selector := by
  simp [listPods]

/-- A created StatefulSet joins the others, when its name is free. -/
theorem createStatefulSet_statefulSets {cluster : Cluster} {sts : ObservedStatefulSet}
    (fresh : cluster.getStatefulSet sts.statefulSet.name = none) :
    (cluster.createStatefulSet sts).statefulSets = cluster.statefulSets ++ [sts] := by
  simp [createStatefulSet, fresh]

/-- After its creation, `Get` finds a StatefulSet by its name. -/
theorem getStatefulSet_createStatefulSet_self {cluster : Cluster} {sts : ObservedStatefulSet}
    (fresh : cluster.getStatefulSet sts.statefulSet.name = none) :
    (cluster.createStatefulSet sts).getStatefulSet sts.statefulSet.name = some sts := by
  rw [getStatefulSet_eq_some, createStatefulSet_statefulSets fresh]
  exact ⟨List.mem_append_right _ (List.mem_singleton_self sts), rfl⟩

/-- A creation leaves the StatefulSets of other names. -/
theorem getStatefulSet_createStatefulSet_of_ne {cluster : Cluster} {sts : ObservedStatefulSet} {name : String}
    (different : name ≠ sts.statefulSet.name) :
    (cluster.createStatefulSet sts).getStatefulSet name = cluster.getStatefulSet name := by
  by_cases fresh : cluster.getStatefulSet sts.statefulSet.name = none
  · unfold getStatefulSet
    rw [createStatefulSet_statefulSets fresh, List.find?_append]
    simp [Ne.symm different]
  · simp only [createStatefulSet, fresh, dite_false]

/-- After a removal `Get` finds nothing under the name, and the same as before
under the others. -/
theorem getStatefulSet_removeStatefulSet (cluster : Cluster) (name other : String) :
    (cluster.removeStatefulSet name).getStatefulSet other =
      if other = name then none else cluster.getStatefulSet other := by
  split
  · rename_i same
    subst same
    exact getStatefulSet_eq_none.mpr fun sts member named => by
      simp [removeStatefulSet, named] at member
  · rename_i different
    cases found : cluster.getStatefulSet other with
    | none =>
      exact getStatefulSet_eq_none.mpr fun sts member =>
        getStatefulSet_eq_none.mp found sts (List.mem_filter.mp member).1
    | some sts =>
      obtain ⟨member, named⟩ := getStatefulSet_eq_some.mp found
      exact getStatefulSet_eq_some.mpr ⟨List.mem_filter.mpr ⟨member, by simp [named, different]⟩, named⟩

/-- A status report changes the status of the StatefulSet `Get` finds, and
nothing else of it. -/
theorem getStatefulSet_setStatefulSetStatus (cluster : Cluster) (name : String) (status : StatefulSetStatus)
    (other : String) :
    (cluster.setStatefulSetStatus name status).getStatefulSet other =
      (cluster.getStatefulSet other).map fun sts =>
        { sts with status := if sts.statefulSet.name = name then status else sts.status } := by
  rw [getStatefulSet, getStatefulSet, setStatefulSetStatus, List.find?_map]
  rfl

@[simp] theorem createPod_statefulSets (cluster : Cluster) (pod : Pod) :
    (cluster.createPod pod).statefulSets = cluster.statefulSets := by
  unfold createPod
  split <;> rfl

@[simp] theorem getStatefulSet_createPod (cluster : Cluster) (pod : Pod) (name : String) :
    (cluster.createPod pod).getStatefulSet name = cluster.getStatefulSet name := by
  simp [getStatefulSet]

/-- A pod after a creation was there before or is the created one. -/
theorem mem_createPod {cluster : Cluster} {pod : Pod} {observed : ObservedPod}
    (member : observed ∈ (cluster.createPod pod).pods) :
    observed ∈ cluster.pods ∨ observed = ObservedPod.created pod := by
  by_cases fresh : cluster.getPod pod.name = none
  · simpa [createPod, fresh] using member
  · simp only [createPod, fresh, dite_false] at member
    exact .inl member

/-- A creation under a free name adds the pod. -/
theorem created_mem_createPod {cluster : Cluster} {pod : Pod} (fresh : cluster.getPod pod.name = none) :
    ObservedPod.created pod ∈ (cluster.createPod pod).pods := by
  simp only [createPod, fresh, dite_true]
  exact List.mem_append_right _ (List.mem_singleton_self _)

/-- After a creation the pod's name is taken, by the created pod or by the one
that had it. -/
theorem getPod_createPod_isSome (cluster : Cluster) (pod : Pod) : ((cluster.createPod pod).getPod pod.name).isSome := by
  by_cases fresh : cluster.getPod pod.name = none
  · exact Option.isSome_iff_exists.mpr
      ⟨ObservedPod.created pod, getPod_eq_some.mpr ⟨created_mem_createPod fresh, rfl⟩⟩
  · simp only [createPod, fresh, dite_false]
    exact Option.isSome_iff_ne_none.mpr fresh

end Cluster

end Lws
