import Mathlib.Data.Finmap

/-!
# The Kubernetes objects the controllers and webhooks read

Pods, their containers and templates, and status conditions, restricted to the
fields that the modelled code of this repository reads or writes. A Go
`map[string]string` is a finite map from keys to values: its entries have no
order, a missing key reads as the empty string, and assignment overwrites.

A container's `google.com/tpu` resource is kept as the integer value of the
quantity in its limits and in its requests, zero when the entry is absent.
Status condition timestamps are real time and are left out. Of a pod's status
the phase, the conditions' types and statuses and the containers' restart
counts are kept: the readiness and restart checks read nothing else.
-/

namespace Lws

/-- A Go `map[string]string`, as labels, annotations and selectors are. -/
abbrev StringMap := Finmap (fun _ : String => String)

namespace StringMap

/-- `m[key]`: the stored value, or the empty string for a missing key. -/
def get (m : StringMap) (key : String) : String := (m.lookup key).getD ""

/-- The `found` result of `_, found := m[key]`. -/
def found (m : StringMap) (key : String) : Bool := (m.lookup key).isSome

/-- `m[key] = value`. -/
def set (m : StringMap) (key value : String) : StringMap := m.insert key value

/-- A map of the given entries, later entries overwriting earlier ones, as a
Go map literal is written. -/
def ofList (entries : List (String × String)) : StringMap :=
  entries.foldl (fun m entry => m.set entry.1 entry.2) ∅

/-- `WithLabels` and `WithAnnotations` of an apply configuration: the given
entries are put into the map, overwriting entries with the same key. -/
def withEntries (m entries : StringMap) : StringMap := entries ∪ m

@[simp] theorem lookup_set_self (m : StringMap) (key value : String) :
    (m.set key value).lookup key = some value := Finmap.lookup_insert m

@[simp] theorem lookup_set_of_ne (m : StringMap) {key other : String} (value : String)
    (different : other ≠ key) : (m.set key value).lookup other = m.lookup other :=
  Finmap.lookup_insert_of_ne m different

/-- Writing the value a key already holds leaves the map as it is. -/
theorem set_of_lookup (m : StringMap) {key value : String} (stored : m.lookup key = some value) :
    m.set key value = m := by
  apply Finmap.ext_lookup
  intro other
  by_cases same : other = key
  · rw [same, lookup_set_self, stored]
  · rw [lookup_set_of_ne m value same]

theorem get_eq (m : StringMap) (key : String) : m.get key = (m.lookup key).getD "" := rfl

theorem found_eq (m : StringMap) (key : String) : m.found key = (m.lookup key).isSome := rfl

/-- A write keeps every key the map had. -/
theorem found_set_of_found {m : StringMap} {other : String} (present : m.found other = true) (key value : String) :
    (m.set key value).found other = true := by
  by_cases same : other = key
  · simp [found_eq, same]
  · simpa [found_eq, same] using present

/-- Reading a map after `WithLabels` finds the new entry first, then the old. -/
@[simp] theorem lookup_withEntries (m entries : StringMap) (key : String) :
    (m.withEntries entries).lookup key = ((entries.lookup key).or (m.lookup key)) := by
  by_cases present : key ∈ entries
  · obtain ⟨value, stored⟩ := Finmap.mem_iff.mp present
    rw [withEntries, Finmap.lookup_union_left present, stored, Option.some_or]
  · rw [withEntries, Finmap.lookup_union_right present, Finmap.lookup_eq_none.mpr present,
      Option.none_or]

/-- A read of a label that is not empty finds it. -/
theorem lookup_of_get_ne_empty {m : StringMap} {key : String} (present : m.get key ≠ "") :
    m.lookup key = some (m.get key) := by
  rw [get_eq] at present ⊢
  cases found : m.lookup key with
  | none =>
    rw [found] at present
    exact absurd rfl present
  | some value => rfl

end StringMap

/-- `corev1.EnvVar`, with a literal value. -/
structure EnvVar where
  name : String
  value : String
deriving DecidableEq, Repr

/-- `corev1.Container`: its name, image, environment and TPU resource. The
command, arguments, ports, probes, volume mounts and resources other than
`google.com/tpu` are left out: no modelled function reads them, and an edit
of them changes the revision patch as an edit of the image does. -/
structure Container where
  name : String
  image : String
  env : List EnvVar
  /-- The value of `resources.limits["google.com/tpu"]`, zero when absent. -/
  tpuLimit : Int
  /-- The value of `resources.requests["google.com/tpu"]`, zero when absent. -/
  tpuRequest : Int
deriving DecidableEq, Repr

/-- `metav1.LabelSelectorOperator`. -/
inductive LabelSelectorOperator where
  | opIn
  | opNotIn
  | opExists
  | opDoesNotExist
deriving DecidableEq, Repr

/-- `metav1.LabelSelectorRequirement`. -/
structure LabelSelectorRequirement where
  key : String
  operator : LabelSelectorOperator
  values : List String
deriving DecidableEq, Repr

/-- `corev1.PodAffinityTerm` with a selector of match expressions. -/
structure PodAffinityTerm where
  matchExpressions : List LabelSelectorRequirement
  topologyKey : String
deriving DecidableEq, Repr

/-- The required terms of `corev1.PodAffinity`, and likewise of
`corev1.PodAntiAffinity`. -/
structure PodAffinity where
  requiredDuringSchedulingIgnoredDuringExecution : List PodAffinityTerm
deriving DecidableEq, Repr

/-- `corev1.Affinity`; its two pointers are `none` when nil. -/
structure Affinity where
  podAffinity : Option PodAffinity
  podAntiAffinity : Option PodAffinity
deriving DecidableEq, Repr

/-- `corev1.PodSpec`. -/
structure PodSpec where
  subdomain : String
  affinity : Option Affinity
  containers : List Container
  initContainers : List Container
deriving DecidableEq

/-- `corev1.Pod`. -/
structure Pod where
  name : String
  namespaceName : String
  labels : StringMap
  annotations : StringMap
  spec : PodSpec
deriving DecidableEq

/-- `corev1.PodTemplateSpec`. -/
structure PodTemplateSpec where
  labels : StringMap
  annotations : StringMap
  spec : PodSpec
deriving DecidableEq

/-- `metav1.ConditionStatus`. -/
inductive ConditionStatus where
  | conditionTrue
  | conditionFalse
  | conditionUnknown
deriving DecidableEq, Repr

/-- `metav1.Condition`, without its transition time. -/
structure Condition where
  type : String
  status : ConditionStatus
  reason : String
  message : String
deriving DecidableEq, Repr

/-- `corev1.PodPhase`. -/
inductive PodPhase where
  | podPending
  | podRunning
  | podSucceeded
  | podFailed
  | podUnknown
deriving DecidableEq, Repr

/-- `corev1.PodReady`, the type of the pod condition the readiness checks read. -/
def podReadyConditionType : String := "Ready"

/-- `corev1.PodCondition`: its type and status. -/
structure PodCondition where
  type : String
  status : ConditionStatus
deriving DecidableEq, Repr

/-- `corev1.ContainerStatus`: its restart count. -/
structure ContainerStatus where
  restartCount : Int
deriving DecidableEq, Repr

/-- `corev1.PodStatus`; a phase the kubelet has not reported yet is `none`. -/
structure PodStatus where
  phase : Option PodPhase
  conditions : List PodCondition
  initContainerStatuses : List ContainerStatus
  containerStatuses : List ContainerStatus
deriving DecidableEq, Repr

end Lws
