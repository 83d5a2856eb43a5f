import Lws.Api.Cluster
import Lws.Library.KeyedList

/-!
# Pod helpers: the leader test, the status checks and the injected environment

`PodRunningAndReady` and `IsPodReady` read the pod's `Ready` condition: the
first condition of that type in the status, when its status is `True`.
`ContainerRestarted` sees a restart of any container, init or not, of a
running or pending pod.

`AddLWSVariables` gives every container and init container of a pod three
variables built from the pod's labels and annotations: the leader's address,
the group size and the worker index. `addEnvVarsIfNotExists` puts them first,
in that order, so that later variables can refer to the leader's address, and
keeps after them each variable of the container whose name it has not seen
yet. The loop checks names against the list it is building, so it also drops
a repeated name of the container's own list.
-/

namespace Lws

/-- `podutils.LeaderPod`: the pod is the leader of its group. -/
def leaderPod (pod : Pod) : Bool := pod.labels.get workerIndexLabelKey == "0"

/-! ## The status checks -/

/-- `getPodConditionFromList`: the index and the value of the first condition
of the type. -/
def getPodConditionFromList : List PodCondition → String → Option (Nat × PodCondition)
  | [], _ => none
  | condition :: conditions, conditionType =>
    if condition.type = conditionType then some (0, condition)
    else (getPodConditionFromList conditions conditionType).map fun found => (found.1 + 1, found.2)

/-- `getPodCondition`, on a status that is never nil here. -/
def getPodCondition (status : PodStatus) (conditionType : String) : Option (Nat × PodCondition) :=
  getPodConditionFromList status.conditions conditionType

/-- `getPodReadyCondition`. -/
def getPodReadyCondition (status : PodStatus) : Option PodCondition :=
  (getPodCondition status podReadyConditionType).map Prod.snd

/-- `podReadyConditionTrue`. -/
def podReadyConditionTrue (status : PodStatus) : Bool :=
  match getPodReadyCondition status with
  | some condition => condition.status == .conditionTrue
  | none => false

/-- `podReady`. -/
def podReady (pod : ObservedPod) : Bool := podReadyConditionTrue pod.status

/-- `podutils.PodRunningAndReady`. -/
def podRunningAndReady (pod : ObservedPod) : Bool :=
  pod.status.phase == some .podRunning && podReady pod

/-- `podutils.IsPodReadyConditionTrue`. It reads the condition through
`GetPodReadyCondition`, `GetPodCondition` and `GetPodConditionFromList`,
exported copies of the three functions behind `podReadyConditionTrue`. -/
def isPodReadyConditionTrue (status : PodStatus) : Bool := podReadyConditionTrue status

/-- `podutils.IsPodReady`. -/
def isPodReady (pod : ObservedPod) : Bool := isPodReadyConditionTrue pod.status

/-- `podutils.ContainerRestarted`. Each of its two loops returns at the first
restarted container. -/
def containerRestarted (pod : ObservedPod) : Bool :=
  if pod.status.phase = some .podRunning ∨ pod.status.phase = some .podPending then
    pod.status.initContainerStatuses.any (fun stat => stat.restartCount > 0) ||
      pod.status.containerStatuses.any (fun stat => stat.restartCount > 0)
  else false

/-- `podutils.PodDeleted`: the deletion timestamp is set. -/
def podDeleted (pod : ObservedPod) : Bool := pod.deleting

/-- The index the search returns is dropped: the first condition of the type. -/
theorem getPodConditionFromList_snd (conditions : List PodCondition) (conditionType : String) :
    (getPodConditionFromList conditions conditionType).map Prod.snd =
      conditions.find? (fun condition => condition.type == conditionType) := by
  induction conditions with
  | nil => rfl
  | cons condition conditions inductionHypothesis =>
    by_cases typed : condition.type = conditionType
    · simp [getPodConditionFromList, typed]
    · have unmatched : (condition.type == conditionType) = false := beq_eq_false_iff_ne.mpr typed
      simp only [getPodConditionFromList, typed, if_false, Option.map_map, List.find?_cons, unmatched]
      rw [← inductionHypothesis]
      rfl

/-- **What readiness reads.** A pod is ready when the first `Ready` condition
of its status is `True`. -/
theorem podReadyConditionTrue_iff (status : PodStatus) :
    podReadyConditionTrue status = true ↔
      ∃ condition, status.conditions.find? (fun condition => condition.type == podReadyConditionType) =
        some condition ∧ condition.status = .conditionTrue := by
  unfold podReadyConditionTrue getPodReadyCondition getPodCondition
  rw [getPodConditionFromList_snd]
  cases status.conditions.find? (fun condition => condition.type == podReadyConditionType) <;> simp

/-- `podutils.addEnvVarsIfNotExists`: `firstEnv` and `e` first, then each
variable of the container whose name is not among those already placed. -/
def addEnvVarsIfNotExists (c : Container) (firstEnv : EnvVar) (e : List EnvVar) : Container :=
  let newEnvVars := [firstEnv] ++ e
  -- the range loop runs over the container's original list; the inner loop
  -- looks for the name in the list being built
  let newEnvVars := c.env.foldl (fun newEnvVars env =>
    if !(newEnvVars.any fun newEnv => newEnv.name == env.name) then newEnvVars ++ [env]
    else newEnvVars) newEnvVars
  { c with env := newEnvVars }

/-- `klog.KObj(pod)` as `%v` prints it: `namespace/name`, or the name alone
in the empty namespace. -/
def kObj (namespaceName name : String) : String :=
  if namespaceName = "" then name else namespaceName ++ "/" ++ name

/-- The two loops of `AddLWSVariables`: the variables given to every
container and every init container. -/
def injectEnvVars (pod : Pod) (firstEnv : EnvVar) (e : List EnvVar) : Pod :=
  { pod with
    spec := { pod.spec with
      containers := pod.spec.containers.map (addEnvVarsIfNotExists · firstEnv e)
      initContainers := pod.spec.initContainers.map (addEnvVarsIfNotExists · firstEnv e) } }

/-- `podutils.AddLWSVariables`. -/
def addLWSVariables (pod : Pod) : Except String Pod := do
  let some lwsName := pod.labels.lookup setNameLabelKey
    | throw ("Failure constructing environment variables, no name label found for pod " ++
        kObj pod.namespaceName pod.name)
  let some groupIndex := pod.labels.lookup groupIndexLabelKey
    | throw ("Failure constructing environment variables, no group index label found for pod " ++
        kObj pod.namespaceName pod.name)
  let leaderAddressEnvVar : EnvVar :=
    { name := lwsLeaderAddress
      value := lwsName ++ "-" ++ groupIndex ++ "." ++ pod.spec.subdomain ++ "." ++ pod.namespaceName }
  let some size := pod.annotations.lookup sizeAnnotationKey
    | throw ("Failure constructing environment variables, no size annotation found for pod " ++
        kObj pod.namespaceName pod.name)
  let sizeEnvVar : EnvVar := { name := lwsGroupSize, value := size }
  let some workerIndex := pod.labels.lookup workerIndexLabelKey
    | throw ("Failure constructing environment variables, no worker index label found for pod " ++
        kObj pod.namespaceName pod.name)
  let workerIndexEnvVar : EnvVar := { name := lwsWorkerIndex, value := workerIndex }
  pure (injectEnvVars pod leaderAddressEnvVar [sizeEnvVar, workerIndexEnvVar])

@[simp] theorem injectEnvVars_labels (pod : Pod) (firstEnv : EnvVar) (e : List EnvVar) :
    (injectEnvVars pod firstEnv e).labels = pod.labels := rfl

@[simp] theorem injectEnvVars_annotations (pod : Pod) (firstEnv : EnvVar) (e : List EnvVar) :
    (injectEnvVars pod firstEnv e).annotations = pod.annotations := rfl

@[simp] theorem injectEnvVars_subdomain (pod : Pod) (firstEnv : EnvVar) (e : List EnvVar) :
    (injectEnvVars pod firstEnv e).spec.subdomain = pod.spec.subdomain := rfl

/-- **The injected environment.** The given variables come first, then the
first occurrence of each name of the container's list that they do not
carry, in the container's order. -/
theorem addEnvVarsIfNotExists_env (c : Container) (firstEnv : EnvVar) (e : List EnvVar) :
    (addEnvVarsIfNotExists c firstEnv e).env =
      firstEnv :: e ++ KeyedList.firstByKey EnvVar.name ((firstEnv :: e).map EnvVar.name) c.env := by
  simp only [addEnvVarsIfNotExists]
  rw [KeyedList.foldl_append_if_absent EnvVar.name]
  rfl

/-- With distinct names among the given variables, all names of the result
are distinct. A kept name is one the given variables do not carry. -/
theorem addEnvVarsIfNotExists_nodup (c : Container) (firstEnv : EnvVar) (e : List EnvVar)
    (distinct : ((firstEnv :: e).map EnvVar.name).Nodup) :
    ((addEnvVarsIfNotExists c firstEnv e).env.map EnvVar.name).Nodup := by
  rw [addEnvVarsIfNotExists_env, List.map_append, List.nodup_append]
  refine ⟨distinct, KeyedList.nodup_map_firstByKey EnvVar.name _ c.env, ?_⟩
  intro given givenMember kept keptMember same
  obtain ⟨keptVar, keptIn, rfl⟩ := List.mem_map.mp keptMember
  exact KeyedList.key_not_mem_of_mem_firstByKey EnvVar.name keptIn (same ▸ givenMember)

/-- The first injected variable leads the result. -/
theorem head?_names_addEnvVarsIfNotExists (c : Container) (firstEnv : EnvVar) (e : List EnvVar) :
    ((addEnvVarsIfNotExists c firstEnv e).env.map EnvVar.name).head? = some firstEnv.name := by
  rw [addEnvVarsIfNotExists_env]
  simp

/-- Injecting the same variables again changes nothing. -/
theorem addEnvVarsIfNotExists_idem (c : Container) (firstEnv : EnvVar) (e : List EnvVar) :
    addEnvVarsIfNotExists (addEnvVarsIfNotExists c firstEnv e) firstEnv e =
      addEnvVarsIfNotExists c firstEnv e := by
  have given : ∀ var ∈ firstEnv :: e, var.name ∈ (firstEnv :: e).map EnvVar.name :=
    fun var member => List.mem_map_of_mem member
  have sameEnv : (addEnvVarsIfNotExists (addEnvVarsIfNotExists c firstEnv e) firstEnv e).env =
      (addEnvVarsIfNotExists c firstEnv e).env := by
    rw [addEnvVarsIfNotExists_env, addEnvVarsIfNotExists_env c,
      KeyedList.firstByKey_append_of_forall_mem EnvVar.name _ given, KeyedList.firstByKey_firstByKey]
  cases c
  simpa [addEnvVarsIfNotExists] using sameEnv

/-- Injecting the same variables into a pod twice is injecting them once. -/
theorem injectEnvVars_idem (pod : Pod) (firstEnv : EnvVar) (e : List EnvVar) :
    injectEnvVars (injectEnvVars pod firstEnv e) firstEnv e = injectEnvVars pod firstEnv e := by
  have twice : (addEnvVarsIfNotExists · firstEnv e) ∘ (addEnvVarsIfNotExists · firstEnv e) =
      (addEnvVarsIfNotExists · firstEnv e) := by
    funext c
    exact addEnvVarsIfNotExists_idem c firstEnv e
  simp only [injectEnvVars, List.map_map, twice]

/-- **What a successful run did.** `AddLWSVariables` succeeded by injecting
the leader address, the group size and the worker index, in this order; run
again on its result it reads the same labels and annotations and injects the
same three variables. Each of the four reads either fails, and then so does
the run, or gives the value the second run reads again. -/
theorem addLWSVariables_eq_ok {pod updated : Pod} (succeeded : addLWSVariables pod = .ok updated) :
    ∃ firstEnv e, firstEnv.name = lwsLeaderAddress ∧ e.map EnvVar.name = [lwsGroupSize, lwsWorkerIndex] ∧
      updated = injectEnvVars pod firstEnv e ∧
      addLWSVariables updated = .ok (injectEnvVars updated firstEnv e) := by
  unfold addLWSVariables at succeeded ⊢
  cases named : pod.labels.lookup setNameLabelKey with
  | none => simp [named] at succeeded
  | some lwsName =>
    cases grouped : pod.labels.lookup groupIndexLabelKey with
    | none => simp [named, grouped] at succeeded
    | some groupIndex =>
      cases sized : pod.annotations.lookup sizeAnnotationKey with
      | none => simp [named, grouped, sized] at succeeded
      | some size =>
        cases indexed : pod.labels.lookup workerIndexLabelKey with
        | none => simp [named, grouped, sized, indexed] at succeeded
        | some workerIndex =>
          simp only [named, grouped, sized, indexed] at succeeded
          cases succeeded
          refine ⟨_, _, rfl, rfl, rfl, ?_⟩
          simp [named, grouped, sized, indexed]
          rfl

/-- **Env-var injection has a fixed shape.** The given variables, when their
names are distinct, come first and are followed by the first occurrence of
each other name of the container, so all names are distinct; after a
successful `AddLWSVariables` every container starts with the leader address
and has distinct names; and running `AddLWSVariables` twice is running it
once. -/
theorem addLWSVariables_env_shape :
    (∀ (c : Container) (firstEnv : EnvVar) (e : List EnvVar),
      ((firstEnv :: e).map EnvVar.name).Nodup →
        (addEnvVarsIfNotExists c firstEnv e).env =
            firstEnv :: e ++ KeyedList.firstByKey EnvVar.name ((firstEnv :: e).map EnvVar.name) c.env ∧
          ((addEnvVarsIfNotExists c firstEnv e).env.map EnvVar.name).Nodup) ∧
    (∀ pod updated : Pod, addLWSVariables pod = .ok updated →
      ∀ c ∈ updated.spec.containers ++ updated.spec.initContainers,
        (c.env.map EnvVar.name).head? = some lwsLeaderAddress ∧ (c.env.map EnvVar.name).Nodup) ∧
    (∀ pod : Pod, (addLWSVariables pod).bind addLWSVariables = addLWSVariables pod) := by
  refine ⟨fun c firstEnv e distinct =>
    ⟨addEnvVarsIfNotExists_env c firstEnv e, addEnvVarsIfNotExists_nodup c firstEnv e distinct⟩, ?_, ?_⟩
  · intro pod updated succeeded c member
    obtain ⟨firstEnv, e, leaderFirst, named, rfl, -⟩ := addLWSVariables_eq_ok succeeded
    have distinct : ((firstEnv :: e).map EnvVar.name).Nodup := by
      rw [List.map_cons, leaderFirst, named]
      decide
    have injected : ∃ original, c = addEnvVarsIfNotExists original firstEnv e := by
      simp only [injectEnvVars, List.mem_append, List.mem_map] at member
      rcases member with ⟨original, -, rfl⟩ | ⟨original, -, rfl⟩ <;> exact ⟨original, rfl⟩
    obtain ⟨original, rfl⟩ := injected
    rw [head?_names_addEnvVarsIfNotExists, leaderFirst]
    exact ⟨rfl, addEnvVarsIfNotExists_nodup original firstEnv e distinct⟩
  · intro pod
    cases result : addLWSVariables pod with
    | error message => rfl
    | ok updated =>
      obtain ⟨firstEnv, e, -, -, rfl, again⟩ := addLWSVariables_eq_ok result
      change addLWSVariables (injectEnvVars pod firstEnv e) = _
      rw [again, injectEnvVars_idem]

/-- A worker's container that already sets the group size and repeats a name
of its own. -/
def envWorkerContainer : Container :=
  ⟨"worker", "", [⟨lwsGroupSize, "8"⟩, ⟨"MODEL", "a"⟩, ⟨"MODEL", "b"⟩], 0, 0⟩

/-- Worker 1 of group 0 with that container. -/
def envWorkerPod : Pod where
  name := "lws-0-1"
  namespaceName := "default"
  labels := StringMap.ofList [(setNameLabelKey, "lws"), (groupIndexLabelKey, "0"), (workerIndexLabelKey, "1")]
  annotations := StringMap.ofList [(sizeAnnotationKey, "2")]
  spec := { subdomain := "lws", affinity := none, containers := [envWorkerContainer], initContainers := [] }

/-- The worker's container after the injection: leader address first, the
stale group size replaced, the repeated name dropped. -/
theorem addLWSVariables_env_shape_on_worker_pod :
    let injected := addEnvVarsIfNotExists envWorkerContainer ⟨lwsLeaderAddress, "lws-0.lws.default"⟩
      [⟨lwsGroupSize, "2"⟩, ⟨lwsWorkerIndex, "1"⟩]
    (injected.env = ⟨lwsLeaderAddress, "lws-0.lws.default"⟩ :: [⟨lwsGroupSize, "2"⟩, ⟨lwsWorkerIndex, "1"⟩] ++
        KeyedList.firstByKey EnvVar.name [lwsLeaderAddress, lwsGroupSize, lwsWorkerIndex] envWorkerContainer.env ∧
      (injected.env.map EnvVar.name).Nodup) ∧
    ((injected.env.map EnvVar.name).head? = some lwsLeaderAddress ∧ (injected.env.map EnvVar.name).Nodup) :=
  ⟨addLWSVariables_env_shape.1 envWorkerContainer ⟨lwsLeaderAddress, "lws-0.lws.default"⟩
      [⟨lwsGroupSize, "2"⟩, ⟨lwsWorkerIndex, "1"⟩] (by decide),
    addLWSVariables_env_shape.2.1 envWorkerPod
      (injectEnvVars envWorkerPod ⟨lwsLeaderAddress, "lws-0.lws.default"⟩
        [⟨lwsGroupSize, "2"⟩, ⟨lwsWorkerIndex, "1"⟩]) (by decide) _ (by simp [injectEnvVars, envWorkerPod])⟩

end Lws
