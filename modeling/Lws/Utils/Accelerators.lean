import Lws.Api.LeaderWorkerSet
import Lws.Go.Runtime
import Lws.Utils.StatefulSet

/-!
# TPU environment variables

A group whose pods request TPUs forms one TPU slice. Each TPU-requesting pod
gets `TPU_WORKER_HOSTNAMES`, the hostnames of the slice's pods in worker
order, `TPU_WORKER_ID`, its own position in that list, and `TPU_NAME`, the
leader's name. With subgroups, each subgroup is a slice of its own.

Only workers carry the annotation that says whether the leader requests
TPUs: the controller writes it into the worker template. The variables go to
the first container, or else the first init container, that requests TPUs,
and they are not written again once it has `TPU_WORKER_HOSTNAMES` or
`TPU_WORKER_ID`.

`Atoi` errors and a failed name parse are errors; a remainder by zero
panics, and a hostname loop whose bound is the largest `int` never ends,
which is modelled as a panic too.
-/

namespace Lws

def tpuWorkerHostNames : String := "TPU_WORKER_HOSTNAMES"
def tpuWorkerId : String := "TPU_WORKER_ID"
def tpuName : String := "TPU_NAME"
def leaderRequestsTPUsAnnotationKey : String := "leaderworkerset.sigs.k8s.io/leader-requests-tpus"

/-- `numTPUsRequested`: the TPU limit, else the TPU request, else zero. -/
def numTPUsRequested (container : Container) : Int :=
  if container.tpuLimit ≠ 0 then container.tpuLimit
  else if container.tpuRequest ≠ 0 then container.tpuRequest
  else 0

/-- `containersRequestTPUs`. -/
def containersRequestTPUs (containers : List Container) : Bool :=
  containers.any fun container => numTPUsRequested container ≠ 0

/-- `PodRequestsTPUs`. -/
def podRequestsTPUs (podTs : PodSpec) : Bool :=
  containersRequestTPUs podTs.containers || containersRequestTPUs podTs.initContainers

/-- Where a `*corev1.Container` into a pod spec points. -/
inductive ContainerRef where
  | container (index : Nat)
  | initContainer (index : Nat)
deriving DecidableEq, Repr

/-- The container a reference points to. -/
def PodSpec.container? (spec : PodSpec) : ContainerRef → Option Container
  | .container index => spec.containers[index]?
  | .initContainer index => spec.initContainers[index]?

/-- Writing through a container reference. -/
def PodSpec.modifyContainer (spec : PodSpec) (f : Container → Container) : ContainerRef → PodSpec
  | .container index => { spec with containers := spec.containers.modify index f }
  | .initContainer index => { spec with initContainers := spec.initContainers.modify index f }

/-- `getContainerRequestingTPUs`: the first container requesting TPUs, else
the first such init container. -/
def getContainerRequestingTPUs (spec : PodSpec) : Option ContainerRef :=
  match spec.containers.findIdx? (fun container => containersRequestTPUs [container]) with
  | some index => some (.container index)
  | none => (spec.initContainers.findIdx? fun container => containersRequestTPUs [container]).map .initContainer

/-- The loop over a container's environment that stops the injection: a TPU
variable is already there. -/
def hasTPUVariables (container : Container) : Bool :=
  container.env.any fun env => env.name == tpuWorkerHostNames || env.name == tpuWorkerId

/-- The hostnames `leaderName-i.subdomain` of the loop `for i := start; i <=
end; i++`, or a panic when `end` is the largest `int` and the loop never
stops. -/
def workerHostnames (leaderName subdomain : String) (start stop : Int) : Option (List String) :=
  if stop = 9223372036854775807 then none
  else some ((List.range (stop - start + 1).toNat).map fun offset =>
    leaderName ++ "-" ++ Strconv.itoa (start + offset) ++ "." ++ subdomain)

/-- The three variables appended to the TPU container. -/
def tpuEnvVars (hostnames : List String) (workerId : Int) (leaderName : String) : List EnvVar :=
  [⟨tpuWorkerHostNames, ",".intercalate hostnames⟩, ⟨tpuWorkerId, Strconv.itoa workerId⟩,
    ⟨tpuName, leaderName⟩]

/-- `container.Env = append(container.Env, ...)` through the reference. -/
def appendTPUEnvVars (pod : Pod) (ref : ContainerRef) (vars : List EnvVar) : Pod :=
  { pod with spec := pod.spec.modifyContainer (fun c => { c with env := c.env ++ vars }) ref }

/-- `addTPUVariablesSubGroup`: a slice per subgroup. Subgroup `j` of size `g`
holds workers `g*j+1 .. g*(j+1)`, shifted down by one when the leader
requests TPUs and joins subgroup 0. -/
def addTPUVariablesSubGroup (pod : Pod) : Except Failure Pod := do
  let some ref := getContainerRequestingTPUs pod.spec | pure pod
  let some container := pod.spec.container? ref | pure pod
  if hasTPUVariables container then return pod
  let subGroupSize ← liftError (Strconv.atoi (pod.annotations.get subGroupSizeAnnotationKey))
  let subGroupIndex ← liftError (Strconv.atoi (pod.labels.get subGroupIndexLabelKey))
  let workerIndex ← liftError (Strconv.atoi (pod.labels.get workerIndexLabelKey))
  let leaderRequestsTPUs := pod.annotations.get leaderRequestsTPUsAnnotationKey == "true"
  -- both remainders are computed, the second only when the annotation is not "true"
  let tpuWorkerId ← liftPanic (remainder? workerIndex subGroupSize)
  let tpuWorkerId ←
    if !leaderRequestsTPUs then liftPanic (remainder? (int64 (workerIndex - 1)) subGroupSize)
    else pure tpuWorkerId
  let start := int64 (subGroupSize * subGroupIndex + 1)
  let stop := int64 (subGroupSize * (subGroupIndex + 1))
  let (leaderName, leaderHostnames, start, stop) ←
    if pod.labels.get workerIndexLabelKey == "0" then
      pure (pod.name, [pod.name ++ "." ++ pod.spec.subdomain], start, int64 (stop - 1))
    else do
      let leaderName := (getParentNameAndOrdinal pod.name).1
      if leaderName == "" then throw (.error ("parsing parent name from pod " ++ pod.name))
      if leaderRequestsTPUs && subGroupIndex == 0 then
        pure (leaderName, [leaderName ++ "." ++ pod.spec.subdomain], start, int64 (stop - 1))
      else if leaderRequestsTPUs then
        pure (leaderName, [], int64 (start - 1), int64 (stop - 1))
      else pure (leaderName, [], start, stop)
  let hostnames ← liftPanic (workerHostnames leaderName pod.spec.subdomain start stop)
  return appendTPUEnvVars pod ref (tpuEnvVars (leaderHostnames ++ hostnames) tpuWorkerId leaderName)

/-- `AddTPUVariables`: one slice for the whole group of `size` pods, or one
per subgroup when the pod carries a subgroup size. -/
def addTPUVariables (pod : Pod) (size : Int) : Except Failure Pod := do
  if pod.annotations.found subGroupSizeAnnotationKey then return ← addTPUVariablesSubGroup pod
  let some ref := getContainerRequestingTPUs pod.spec | pure pod
  let some container := pod.spec.container? ref | pure pod
  if hasTPUVariables container then return pod
  let (leaderName, tpuWorkerId, leaderHostnames) ←
    if pod.labels.get workerIndexLabelKey == "0" then
      pure (pod.name, 0, [pod.name ++ "." ++ pod.spec.subdomain])
    else do
      let (leaderName, ordinal) := getParentNameAndOrdinal pod.name
      if leaderName == "" then throw (.error ("parsing parent name from pod " ++ pod.name))
      if pod.annotations.get leaderRequestsTPUsAnnotationKey == "true" then
        pure (leaderName, ordinal, [leaderName ++ "." ++ pod.spec.subdomain])
      else pure (leaderName, ordinal - 1, [])
  let hostnames ← liftPanic (workerHostnames leaderName pod.spec.subdomain 1 (int64 (size - 1)))
  return appendTPUEnvVars pod ref (tpuEnvVars (leaderHostnames ++ hostnames) tpuWorkerId leaderName)

/-- `AddTPUAnnotations`: the annotation that tells workers their leader
requests TPUs. -/
def addTPUAnnotations (leaderPod : Pod) (annotations : StringMap) : StringMap :=
  if podRequestsTPUs leaderPod.spec then annotations.set leaderRequestsTPUsAnnotationKey "true"
  else annotations

/-- A container that the search finds requests TPUs, so the pod does. -/
theorem podRequestsTPUs_of_getContainerRequestingTPUs {spec : PodSpec} {ref : ContainerRef}
    (requesting : getContainerRequestingTPUs spec = some ref) : podRequestsTPUs spec = true := by
  have anyRequests : ∀ containers : List Container,
      containers.any (fun container => containersRequestTPUs [container]) = containersRequestTPUs containers := by
    intro containers
    simp [containersRequestTPUs]
  unfold getContainerRequestingTPUs at requesting
  unfold podRequestsTPUs
  split at requesting
  case h_1 index found =>
    have requested := congrArg Option.isSome found
    rw [List.findIdx?_isSome, anyRequests] at requested
    simp [requested]
  case h_2 =>
    obtain ⟨index, found, -⟩ := Option.map_eq_some_iff.mp requesting
    have requested := congrArg Option.isSome found
    rw [List.findIdx?_isSome, anyRequests] at requested
    simp [requested]

/-! ## Writing through a container reference -/

/-- A write through a reference changes the referenced container. -/
@[simp] theorem PodSpec.container?_modifyContainer (spec : PodSpec) (f : Container → Container)
    (ref : ContainerRef) : (spec.modifyContainer f ref).container? ref = (spec.container? ref).map f := by
  cases ref <;> simp [PodSpec.modifyContainer, PodSpec.container?]

/-- A search for the first element with a property is not moved by a write
that keeps the property of every element. -/
theorem findIdx?_modify_of_keeps {α : Type} {p : α → Bool} {f : α → α} (keeps : ∀ a, p (f a) = p a)
    (index : Nat) (l : List α) : (l.modify index f).findIdx? p = l.findIdx? p := by
  have sameMap : (l.modify index f).map p = l.map p := by
    apply List.ext_getElem?
    intro position
    rw [List.getElem?_map, List.getElem?_map, List.getElem?_modify]
    cases l[position]? <;> split <;> simp [keeps]
  simpa [List.findIdx?_map] using congrArg (List.findIdx? id) sameMap

/-- A write that keeps every container's TPU resources leaves the container
that requests TPUs where it was. -/
theorem getContainerRequestingTPUs_modifyContainer (spec : PodSpec) {f : Container → Container}
    (keeps : ∀ c, numTPUsRequested (f c) = numTPUsRequested c) (ref : ContainerRef) :
    getContainerRequestingTPUs (spec.modifyContainer f ref) = getContainerRequestingTPUs spec := by
  have requests : ∀ c, containersRequestTPUs [f c] = containersRequestTPUs [c] := by
    simp [containersRequestTPUs, keeps]
  cases ref <;> simp [getContainerRequestingTPUs, PodSpec.modifyContainer,
    findIdx?_modify_of_keeps (p := fun container => containersRequestTPUs [container]) requests]

end Lws
