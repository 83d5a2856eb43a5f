import Lws.Controllers.Conditions
import Lws.Controllers.Revision
import Lws.Controllers.RollingUpdate
import Lws.Controllers.StatefulSets
import Lws.Utils.Common
import Lws.Utils.Pod
import Lws.Utils.StatefulSet
import Lws.Library.IndexCount

/-!
# The groups of a LeaderWorkerSet as its controller sees them

Two functions of the LeaderWorkerSet controller read the groups of a set from
its leader pods, listed by the set's name and worker index `0`, and from the
worker StatefulSet of each group, named after its leader pod. A set of size
one has no worker StatefulSets.

`updateConditions` walks the leader pods once and counts the groups that are
ready, that are updated, and, among the groups below `spec.replicas` (the
others are surge groups), those that exist, are updated, and are both. A
group whose worker StatefulSet is missing is skipped; a group index that does
not parse ends the walk with its error. The counts choose the conditions:
`UpdateInProgress` while an existing group below `spec.replicas` is not
updated, `Available` once the updated and ready groups below `spec.replicas`
are `spec.replicas`, and `Progressing` otherwise. `updateStatus` also records
the leader StatefulSet's replicas and the selector of the leader pods, and
writes the status when something changed.

`getReplicaStates` sorts the leader pods and the StatefulSets by the group
index label and gives each index below the leader StatefulSet's replicas a
state: ready and updated as its leader pod and worker StatefulSet are, and
neither when one of them is missing or misnamed. The rolling update reads
these states.

The status is kept in two parts: the conditions, in the object, and the
counters, which no other modelled function reads. Events and log lines are
left out.
-/

namespace Lws

/-! ## The reads -/

/-- The labels of a set's leader pods: its name, and worker index `0`. -/
def leaderPodSelector (lws : LeaderWorkerSet) : List (String × String) :=
  [(setNameLabelKey, lws.name), (workerIndexLabelKey, "0")]

/-- A pod is a leader pod of a set exactly when it carries the set's name and
worker index `0`. -/
theorem matchingLabels_leaderPodSelector (lws : LeaderWorkerSet) (labels : StringMap) :
    matchingLabels (leaderPodSelector lws) labels = true ↔
      labels.lookup setNameLabelKey = some lws.name ∧ labels.lookup workerIndexLabelKey = some "0" := by
  simp [matchingLabels, leaderPodSelector]

/-- The labels of a set's StatefulSets. -/
def statefulSetSelector (lws : LeaderWorkerSet) : List (String × String) :=
  [(setNameLabelKey, lws.name)]

/-- `strconv.Atoi` of the group index label. -/
def groupIndex (labels : StringMap) : Except String Int :=
  Strconv.atoi (labels.get groupIndexLabelKey)

/-- The index `strconv.Atoi` returns beside its error for a group index
label. -/
def groupIndexValue (labels : StringMap) : Int := Strconv.atoiValue (labels.get groupIndexLabelKey)

theorem groupIndexValue_of_groupIndex {labels : StringMap} {index : Int}
    (parsed : groupIndex labels = .ok index) : groupIndexValue labels = index :=
  Strconv.atoiValue_of_atoi parsed

/-- A label that parses reads as its value. -/
theorem groupIndex_eq_value {labels : StringMap} {index : Int} (parsed : groupIndex labels = .ok index) :
    groupIndex labels = .ok (groupIndexValue labels) := by
  rw [groupIndexValue_of_groupIndex parsed]
  exact parsed

/-- The worker StatefulSet `updateConditions` reads for a leader pod: `some
none` when the groups have none (`size` is one), and `none` when `Get` finds
none and the loop continues. -/
def getWorkerStatefulSet (cluster : Cluster) (lws : LeaderWorkerSet) (pod : ObservedPod) :
    Option (Option ObservedStatefulSet) :=
  if lws.spec.leaderWorkerTemplate.size = 1 then some none
  else (cluster.getStatefulSet pod.pod.name).map some

/-- `(noWorkerSts || StatefulsetReady(sts)) && PodRunningAndReady(pod)`. -/
def groupReady (sts : Option ObservedStatefulSet) (pod : ObservedPod) : Bool :=
  sts.all statefulsetReady && podRunningAndReady pod

/-- `(noWorkerSts || GetRevisionKey(&sts) == revisionKey) &&
GetRevisionKey(&pod) == revisionKey`. -/
def groupUpdated (revisionKeyValue : String) (sts : Option ObservedStatefulSet) (pod : ObservedPod) : Bool :=
  sts.all (fun sts => getRevisionKey sts.statefulSet.labels == revisionKeyValue) &&
    getRevisionKey pod.pod.labels == revisionKeyValue

/-! ## `updateConditions` and `updateStatus` -/

/-- The five counters of the loop of `updateConditions`. -/
structure ReplicaCounts where
  readyCount : Int
  updatedCount : Int
  updatedNonBurstWorkerCount : Int
  currentNonBurstWorkerCount : Int
  updatedAndReadyCount : Int
deriving DecidableEq, Repr

/-- The counters before the loop. -/
def ReplicaCounts.zero : ReplicaCounts := ⟨0, 0, 0, 0, 0⟩

/-- The counters after a group of index `index`, ready and updated as given;
groups at or above `replicas` are surge groups. -/
def ReplicaCounts.count (counts : ReplicaCounts) (replicas index : Int) (ready updated : Bool) :
    ReplicaCounts where
  readyCount := if ready then counts.readyCount + 1 else counts.readyCount
  updatedCount := if updated then counts.updatedCount + 1 else counts.updatedCount
  updatedNonBurstWorkerCount :=
    if updated ∧ index < replicas then counts.updatedNonBurstWorkerCount + 1
    else counts.updatedNonBurstWorkerCount
  currentNonBurstWorkerCount :=
    if index < replicas then counts.currentNonBurstWorkerCount + 1 else counts.currentNonBurstWorkerCount
  updatedAndReadyCount :=
    if ready ∧ updated ∧ index < replicas then counts.updatedAndReadyCount + 1
    else counts.updatedAndReadyCount

/-- The loop body of `updateConditions` after the group index is read. -/
def countGroup (cluster : Cluster) (lws : LeaderWorkerSet) (revisionKeyValue : String) (index : Int)
    (counts : ReplicaCounts) (pod : ObservedPod) : ReplicaCounts :=
  match getWorkerStatefulSet cluster lws pod with
  | none => counts
  | some sts =>
    counts.count lws.spec.replicas index (groupReady sts pod) (groupUpdated revisionKeyValue sts pod)

/-- One pass of the loop of `updateConditions` over a leader pod. -/
def countLeaderPod (cluster : Cluster) (lws : LeaderWorkerSet) (revisionKeyValue : String)
    (counts : ReplicaCounts) (pod : ObservedPod) : Except String ReplicaCounts := do
  let index ← groupIndex pod.pod.labels
  pure (countGroup cluster lws revisionKeyValue index counts pod)

/-- The conditions `updateConditions` sets for the counts, and whether the
update is done. -/
def conditionsFor (counts : ReplicaCounts) (replicas : Int) : List Condition × Bool :=
  if counts.updatedNonBurstWorkerCount < counts.currentNonBurstWorkerCount then
    ([makeCondition leaderWorkerSetUpdateInProgress, makeCondition leaderWorkerSetProgressing], false)
  else if counts.updatedAndReadyCount = replicas then ([makeCondition leaderWorkerSetAvailable], true)
  else ([makeCondition leaderWorkerSetProgressing], false)

/-- The counters of `LeaderWorkerSetStatus`, beside its conditions. -/
structure StatusCounters where
  replicas : Int
  readyReplicas : Int
  updatedReplicas : Int
  hpaPodSelector : String
deriving DecidableEq, Repr

/-- What `updateConditions` and `updateStatus` leave: the object with its new
conditions, the new counters, whether the status changed, and whether the
update is done. -/
structure StatusUpdate where
  lws : LeaderWorkerSet
  counters : StatusCounters
  changed : Bool
  updateDone : Bool
deriving DecidableEq

/-- The rest of `updateConditions` once the loop has counted: the counters
and the conditions the counts set. -/
def recordCounts (lws : LeaderWorkerSet) (counters : StatusCounters) (counts : ReplicaCounts) :
    StatusUpdate :=
  let readyReplicas := int32 counts.readyCount
  let updatedReplicas := int32 counts.updatedCount
  let updateStatus := counters.readyReplicas != readyReplicas || counters.updatedReplicas != updatedReplicas
  let (conditions, updateDone) := conditionsFor counts lws.spec.replicas
  let (stored, updateCondition) := setConditions lws.status.conditions conditions
  { lws := { lws with status := ⟨stored⟩ }
    counters := { counters with readyReplicas, updatedReplicas }
    changed := updateStatus || updateCondition
    updateDone }

section RecordCounts

variable (lws : LeaderWorkerSet) (counters : StatusCounters) (counts : ReplicaCounts)

@[simp] theorem recordCounts_lws :
    (recordCounts lws counters counts).lws =
      { lws with status := ⟨(setConditions lws.status.conditions (conditionsFor counts lws.spec.replicas).1).1⟩ } :=
  rfl

@[simp] theorem recordCounts_counters :
    (recordCounts lws counters counts).counters =
      { counters with readyReplicas := int32 counts.readyCount, updatedReplicas := int32 counts.updatedCount } :=
  rfl

@[simp] theorem recordCounts_changed :
    (recordCounts lws counters counts).changed =
      ((counters.readyReplicas != int32 counts.readyCount || counters.updatedReplicas != int32 counts.updatedCount) ||
        (setConditions lws.status.conditions (conditionsFor counts lws.spec.replicas).1).2) :=
  rfl

@[simp] theorem recordCounts_updateDone :
    (recordCounts lws counters counts).updateDone = (conditionsFor counts lws.spec.replicas).2 :=
  rfl

end RecordCounts

/-- `updateConditions`. -/
def updateConditions (cluster : Cluster) (lws : LeaderWorkerSet) (counters : StatusCounters)
    (revisionKeyValue : String) : Except String StatusUpdate := do
  let counts ← (cluster.listPods (leaderPodSelector lws)).foldlM
    (countLeaderPod cluster lws revisionKeyValue) ReplicaCounts.zero
  pure (recordCounts lws counters counts)

/-- The text of the selector of the leader pods, as `LabelSelectorAsSelector`
prints it: keys in order, `key=value`, separated by commas. Its error branch
is not reached: the set's name is a DNS label, which is a valid label value. -/
def leaderPodSelectorText (lws : LeaderWorkerSet) : String :=
  setNameLabelKey ++ "=" ++ lws.name ++ "," ++ workerIndexLabelKey ++ "=0"

/-- The `NotFound` error of a `Get`. -/
def notFound (resource name : String) : String := resource ++ " \"" ++ name ++ "\" not found"

/-- The first part of `updateStatus`: the replicas of the leader StatefulSet
and the selector of the leader pods, recorded in the counters, and whether
they changed. -/
def recordLeaderStatefulSet (lws : LeaderWorkerSet) (counters : StatusCounters) (sts : ObservedStatefulSet) :
    StatusCounters × Bool :=
  let replicas := sts.status.replicas
  let updateStatus := counters.replicas != replicas
  let counters := { counters with replicas }
  if counters.hpaPodSelector = "" then ({ counters with hpaPodSelector := leaderPodSelectorText lws }, true)
  else (counters, updateStatus)

/-- Once the counters hold the leader StatefulSet's replicas and a selector,
recording them again changes nothing. -/
theorem recordLeaderStatefulSet_of_recorded (lws : LeaderWorkerSet) {counters : StatusCounters}
    {sts : ObservedStatefulSet} (replicas : counters.replicas = sts.status.replicas)
    (selected : counters.hpaPodSelector ≠ "") :
    recordLeaderStatefulSet lws counters sts = (counters, false) := by
  cases counters with
  | mk recorded readyReplicas updatedReplicas hpaPodSelector =>
    simp only at replicas selected
    subst replicas
    simp [recordLeaderStatefulSet, selected]

/-- The counters `updateStatus` records hold the leader StatefulSet's replicas
and a selector. -/
theorem recordLeaderStatefulSet_recorded (lws : LeaderWorkerSet) (counters : StatusCounters)
    (sts : ObservedStatefulSet) :
    (recordLeaderStatefulSet lws counters sts).1.replicas = sts.status.replicas ∧
      (recordLeaderStatefulSet lws counters sts).1.hpaPodSelector ≠ "" := by
  dsimp only [recordLeaderStatefulSet]
  split
  · refine ⟨rfl, fun empty => ?_⟩
    have length := congrArg String.length empty
    simp [leaderPodSelectorText] at length
  · next selected => exact ⟨rfl, selected⟩

/-- `updateStatus`: `changed` says whether it calls `Status().Update`. -/
def updateStatus (cluster : Cluster) (lws : LeaderWorkerSet) (counters : StatusCounters)
    (revisionKeyValue : String) : Except String StatusUpdate := do
  let sts ← match cluster.getStatefulSet lws.name with
    | some sts => pure sts
    | none => throw (notFound "statefulsets.apps" lws.name)
  let (counters, updateStatus) := recordLeaderStatefulSet lws counters sts
  let update ← updateConditions cluster lws counters revisionKeyValue
  pure { update with changed := updateStatus || update.changed }

/-! ## `getReplicaStates` -/

/-- The state `getReplicaStates` gives index `idx` from the leader pod and the
StatefulSet sorted to it. -/
def replicaStateAt (lws : LeaderWorkerSet) (revisionKeyValue : String) (idx : Nat) (pod : ObservedPod)
    (sts : ObservedStatefulSet) : ReplicaState :=
  let nominatedName := statefulSetPodName lws.name idx
  let noWorkerSts := lws.spec.leaderWorkerTemplate.size = 1
  if nominatedName ≠ pod.pod.name ∨ (¬noWorkerSts ∧ nominatedName ≠ sts.statefulSet.name) then
    ⟨false, false⟩
  else
    let leaderUpdated := getRevisionKey pod.pod.labels == revisionKeyValue
    let leaderReady := podRunningAndReady pod
    if noWorkerSts then ⟨leaderReady, leaderUpdated⟩
    else
      ⟨leaderReady && statefulsetReady sts,
        leaderUpdated && getRevisionKey sts.statefulSet.labels == revisionKeyValue⟩

/-- `getReplicaStates`; `none` is a panic. The loop reads `sortedSts[idx]`
whether or not the groups have worker StatefulSets; the read is inside the
slice either way. -/
def getReplicaStates (cluster : Cluster) (lws : LeaderWorkerSet) (stsReplicas : Int)
    (revisionKeyValue : String) : Option (List ReplicaState) := do
  let states ← makeSlice stsReplicas (⟨false, false⟩ : ReplicaState)
  let sortedPods ← sortByIndex ObservedPod.zero (fun pod => groupIndex pod.pod.labels)
    (cluster.listPods (leaderPodSelector lws)) stsReplicas
  let sortedSts ← sortByIndex ObservedStatefulSet.zero (fun sts => groupIndex sts.statefulSet.labels)
    (cluster.listStatefulSets (statefulSetSelector lws)) stsReplicas
  (List.range stsReplicas.toNat).foldlM (fun states (idx : Nat) => do
    let pod ← index? sortedPods idx
    let sts ← index? sortedSts idx
    setIndex? states idx (replicaStateAt lws revisionKeyValue idx pod sts)) states

/-! ## What the loop of `updateConditions` counts -/

/-- The loop counts a leader pod: its worker StatefulSet is there, or none is
needed. -/
def counted (cluster : Cluster) (lws : LeaderWorkerSet) (pod : ObservedPod) : Bool :=
  (getWorkerStatefulSet cluster lws pod).isSome

/-- The loop counts a leader pod's group as ready. -/
def countedReady (cluster : Cluster) (lws : LeaderWorkerSet) (pod : ObservedPod) : Bool :=
  (getWorkerStatefulSet cluster lws pod).any (groupReady · pod)

/-- The loop counts a leader pod's group as updated. -/
def countedUpdated (cluster : Cluster) (lws : LeaderWorkerSet) (revisionKeyValue : String)
    (pod : ObservedPod) : Bool :=
  (getWorkerStatefulSet cluster lws pod).any (groupUpdated revisionKeyValue · pod)

theorem counted_of_countedUpdated {cluster : Cluster} {lws : LeaderWorkerSet} {revisionKeyValue : String}
    {pod : ObservedPod} (updated : countedUpdated cluster lws revisionKeyValue pod = true) :
    counted cluster lws pod = true := by
  unfold countedUpdated at updated
  unfold counted
  cases found : getWorkerStatefulSet cluster lws pod with
  | none => simp [found] at updated
  | some sts => rfl

/-- A group counted ready and updated has its worker StatefulSet read, and is
ready and updated with it. -/
theorem countedReady_and_countedUpdated {cluster : Cluster} {lws : LeaderWorkerSet}
    {revisionKeyValue : String} {pod : ObservedPod} :
    (countedReady cluster lws pod && countedUpdated cluster lws revisionKeyValue pod) = true ↔
      ∃ sts, getWorkerStatefulSet cluster lws pod = some sts ∧ groupReady sts pod = true ∧
        groupUpdated revisionKeyValue sts pod = true := by
  unfold countedReady countedUpdated
  cases getWorkerStatefulSet cluster lws pod <;> simp

/-- **One pass of the loop.** Each counter goes up by one exactly when the
pod passes its test. -/
theorem countGroup_eq (cluster : Cluster) (lws : LeaderWorkerSet) (revisionKeyValue : String)
    (index : Int) (counts : ReplicaCounts) (pod : ObservedPod) :
    countGroup cluster lws revisionKeyValue index counts pod =
      { readyCount :=
          if countedReady cluster lws pod then counts.readyCount + 1 else counts.readyCount
        updatedCount :=
          if countedUpdated cluster lws revisionKeyValue pod then counts.updatedCount + 1
          else counts.updatedCount
        updatedNonBurstWorkerCount :=
          if countedUpdated cluster lws revisionKeyValue pod && decide (index < lws.spec.replicas) then
            counts.updatedNonBurstWorkerCount + 1
          else counts.updatedNonBurstWorkerCount
        currentNonBurstWorkerCount :=
          if counted cluster lws pod && decide (index < lws.spec.replicas) then
            counts.currentNonBurstWorkerCount + 1
          else counts.currentNonBurstWorkerCount
        updatedAndReadyCount :=
          if countedReady cluster lws pod && countedUpdated cluster lws revisionKeyValue pod &&
              decide (index < lws.spec.replicas) then counts.updatedAndReadyCount + 1
          else counts.updatedAndReadyCount } := by
  unfold countGroup counted countedReady countedUpdated
  cases getWorkerStatefulSet cluster lws pod with
  | none => simp
  | some sts => simp [ReplicaCounts.count, Bool.and_assoc]

section Loop

variable (cluster : Cluster) (lws : LeaderWorkerSet) (revisionKeyValue : String)
  (indexOf : ObservedPod → Int)

/-- The counters the loop of `updateConditions` leaves when each pod's group
index reads as `indexOf` gives it. -/
def loopCounts (pods : List ObservedPod) : ReplicaCounts :=
  pods.foldl (fun counts pod => countGroup cluster lws revisionKeyValue (indexOf pod) counts pod)
    ReplicaCounts.zero

/-- The loop returns its counters when every group index parses. -/
theorem foldlM_countLeaderPod {pods : List ObservedPod}
    (parsed : ∀ pod ∈ pods, groupIndex pod.pod.labels = .ok (indexOf pod)) :
    pods.foldlM (countLeaderPod cluster lws revisionKeyValue) ReplicaCounts.zero =
      .ok (loopCounts cluster lws revisionKeyValue indexOf pods) := by
  have body : countLeaderPod cluster lws revisionKeyValue = fun counts pod =>
      groupIndex pod.pod.labels >>= fun index => pure (countGroup cluster lws revisionKeyValue index counts pod) :=
    rfl
  rw [body]
  exact @SliceLoop.foldlM_read_of_ok ObservedPod ReplicaCounts String Int (fun pod => groupIndex pod.pod.labels)
    (fun counts index pod => countGroup cluster lws revisionKeyValue index counts pod) indexOf pods
    ReplicaCounts.zero parsed

theorem loopCounts_updatedAndReadyCount (pods : List ObservedPod) :
    (loopCounts cluster lws revisionKeyValue indexOf pods).updatedAndReadyCount =
      pods.countP fun pod => countedReady cluster lws pod && countedUpdated cluster lws revisionKeyValue pod &&
        decide (indexOf pod < lws.spec.replicas) := by
  have counting := SliceLoop.foldl_field_count ReplicaCounts.updatedAndReadyCount
    (fun pod => countedReady cluster lws pod && countedUpdated cluster lws revisionKeyValue pod &&
        decide (indexOf pod < lws.spec.replicas))
    (fun counts pod => countGroup cluster lws revisionKeyValue (indexOf pod) counts pod)
    (fun counts pod => by rw [countGroup_eq]) pods ReplicaCounts.zero
  unfold loopCounts
  simpa [ReplicaCounts.zero] using counting

theorem loopCounts_updatedNonBurstWorkerCount (pods : List ObservedPod) :
    (loopCounts cluster lws revisionKeyValue indexOf pods).updatedNonBurstWorkerCount =
      pods.countP fun pod => countedUpdated cluster lws revisionKeyValue pod &&
        decide (indexOf pod < lws.spec.replicas) := by
  have counting := SliceLoop.foldl_field_count ReplicaCounts.updatedNonBurstWorkerCount
    (fun pod => countedUpdated cluster lws revisionKeyValue pod && decide (indexOf pod < lws.spec.replicas))
    (fun counts pod => countGroup cluster lws revisionKeyValue (indexOf pod) counts pod)
    (fun counts pod => by rw [countGroup_eq]) pods ReplicaCounts.zero
  unfold loopCounts
  simpa [ReplicaCounts.zero] using counting

theorem loopCounts_currentNonBurstWorkerCount (pods : List ObservedPod) :
    (loopCounts cluster lws revisionKeyValue indexOf pods).currentNonBurstWorkerCount =
      pods.countP fun pod => counted cluster lws pod && decide (indexOf pod < lws.spec.replicas) := by
  have counting := SliceLoop.foldl_field_count ReplicaCounts.currentNonBurstWorkerCount
    (fun pod => counted cluster lws pod && decide (indexOf pod < lws.spec.replicas))
    (fun counts pod => countGroup cluster lws revisionKeyValue (indexOf pod) counts pod)
    (fun counts pod => by rw [countGroup_eq]) pods ReplicaCounts.zero
  unfold loopCounts
  simpa [ReplicaCounts.zero] using counting

/-- No existing group below `spec.replicas` is left outdated exactly when
every counted leader pod below it is updated. An updated group is a counted
one, so the updated groups are those that pass both tests. -/
theorem not_updatedNonBurst_lt_iff (pods : List ObservedPod) :
    ¬(loopCounts cluster lws revisionKeyValue indexOf pods).updatedNonBurstWorkerCount <
        (loopCounts cluster lws revisionKeyValue indexOf pods).currentNonBurstWorkerCount ↔
      ∀ pod ∈ pods, counted cluster lws pod = true → indexOf pod < lws.spec.replicas →
        countedUpdated cluster lws revisionKeyValue pod = true := by
  rw [loopCounts_updatedNonBurstWorkerCount, loopCounts_currentNonBurstWorkerCount]
  have both : (pods.countP fun pod => countedUpdated cluster lws revisionKeyValue pod &&
        decide (indexOf pod < lws.spec.replicas)) =
      pods.countP fun pod => countedUpdated cluster lws revisionKeyValue pod &&
        (counted cluster lws pod && decide (indexOf pod < lws.spec.replicas)) := by
    apply List.countP_congr
    intro pod _
    cases updated : countedUpdated cluster lws revisionKeyValue pod
    · simp
    · simp [counted_of_countedUpdated updated]
  have atMost := List.countP_mono_left (l := pods)
    (p := fun pod => countedUpdated cluster lws revisionKeyValue pod &&
      (counted cluster lws pod && decide (indexOf pod < lws.spec.replicas)))
    (q := fun pod => counted cluster lws pod && decide (indexOf pod < lws.spec.replicas))
    (fun pod _ passes => by simp_all)
  have equalIff := IndexCount.countP_and_eq_countP_iff
    (fun pod => countedUpdated cluster lws revisionKeyValue pod)
    (fun pod => counted cluster lws pod && decide (indexOf pod < lws.spec.replicas)) pods
  rw [both]
  constructor
  · intro notFewer pod member isCounted below
    have equal := equalIff.mp (by omega) pod member (by simp [isCounted, below])
    exact equal
  · intro allUpdated
    have equal := equalIff.mpr fun pod member passes => by
      simp only [Bool.and_eq_true, decide_eq_true_eq] at passes
      exact allUpdated pod member passes.1 passes.2
    omega

/-- `updateConditions` when every group index parses: the loop's counters set
the counters of the status and choose the conditions. -/
theorem updateConditions_eq_ok (counters : StatusCounters)
    (parsed : ∀ pod ∈ cluster.listPods (leaderPodSelector lws),
      groupIndex pod.pod.labels = .ok (indexOf pod)) :
    updateConditions cluster lws counters revisionKeyValue =
      .ok (recordCounts lws counters
        (loopCounts cluster lws revisionKeyValue indexOf (cluster.listPods (leaderPodSelector lws)))) := by
  unfold updateConditions
  rw [foldlM_countLeaderPod cluster lws revisionKeyValue indexOf parsed]
  rfl

end Loop

/-- The update is done when no existing group below `spec.replicas` is
outdated and the updated and ready ones are `spec.replicas`. -/
theorem conditionsFor_updateDone (counts : ReplicaCounts) (replicas : Int) :
    (conditionsFor counts replicas).2 = true ↔
      ¬counts.updatedNonBurstWorkerCount < counts.currentNonBurstWorkerCount ∧
        counts.updatedAndReadyCount = replicas := by
  unfold conditionsFor
  split_ifs <;> simp_all

/-- The group indices of the leader pods as `indexOf` reads them: every label
parses to it, and the indices are nonnegative and pairwise distinct, as the
pod webhook labels the pods of the leader StatefulSet. -/
structure GroupsIndexed (pods : List ObservedPod) (indexOf : ObservedPod → Int) : Prop where
  parsed : ∀ pod ∈ pods, groupIndex pod.pod.labels = .ok (indexOf pod)
  nonnegative : ∀ pod ∈ pods, 0 ≤ indexOf pod
  distinct : (pods.map indexOf).Nodup

/-- The group of index `index` has a leader pod whose worker StatefulSet is
read, and is ready and updated with it. -/
def GroupReadyAndUpdated (cluster : Cluster) (lws : LeaderWorkerSet) (revisionKeyValue : String)
    (indexOf : ObservedPod → Int) (index : Int) : Prop :=
  ∃ pod ∈ cluster.listPods (leaderPodSelector lws), indexOf pod = index ∧
    ∃ sts, getWorkerStatefulSet cluster lws pod = some sts ∧ groupReady sts pod = true ∧
      groupUpdated revisionKeyValue sts pod = true

/-- With distinct nonnegative group indices, the update is done exactly when
every group below `spec.replicas` is ready and updated.
Proof: the updated and ready groups below `spec.replicas` are counted by
distinct indices, so they are `spec.replicas` exactly when they fill
`[0, spec.replicas)`; then every counted group below it is the one of its
index, and is updated. -/
theorem updateDone_iff_groups_ready {cluster : Cluster} {lws : LeaderWorkerSet}
    {counters : StatusCounters} {revisionKeyValue : String} {indexOf : ObservedPod → Int}
    (indexed : GroupsIndexed (cluster.listPods (leaderPodSelector lws)) indexOf)
    (bound : 0 ≤ lws.spec.replicas) {update : StatusUpdate}
    (updated : updateConditions cluster lws counters revisionKeyValue = .ok update) :
    update.updateDone = true ↔
      ∀ index, 0 ≤ index → index < lws.spec.replicas →
        GroupReadyAndUpdated cluster lws revisionKeyValue indexOf index := by
  rw [updateConditions_eq_ok cluster lws revisionKeyValue indexOf counters indexed.parsed] at updated
  cases updated
  rw [recordCounts_updateDone, conditionsFor_updateDone, not_updatedNonBurst_lt_iff, loopCounts_updatedAndReadyCount,
    IndexCount.countP_below_eq_iff indexed.distinct indexed.nonnegative bound]
  simp only [GroupReadyAndUpdated, countedReady_and_countedUpdated]
  constructor
  · rintro ⟨-, covered⟩
    exact covered
  · intro covered
    refine ⟨fun pod member _ below => ?_, covered⟩
    obtain ⟨other, otherMember, sameIndex, ready⟩ :=
      covered (indexOf pod) (indexed.nonnegative pod member) below
    have same : other = pod := List.inj_on_of_nodup_map indexed.distinct otherMember member sameIndex
    rw [← same]
    have both := countedReady_and_countedUpdated.mpr ready
    simp only [Bool.and_eq_true] at both
    exact both.2

/-! ## What `getReplicaStates` gives -/

/-- **The states `getReplicaStates` gives.** With a nonnegative length and
nonnegative group indices, each index holds the state of the leader pod and
the StatefulSet that `SortByIndex` puts there. -/
theorem getReplicaStates_eq (cluster : Cluster) (lws : LeaderWorkerSet) {stsReplicas : Int}
    (revisionKeyValue : String) (lengthNonnegative : 0 ≤ stsReplicas)
    (podIndices : ∀ pod ∈ cluster.listPods (leaderPodSelector lws), ∀ index,
      groupIndex pod.pod.labels = .ok index → 0 ≤ index)
    (stsIndices : ∀ sts ∈ cluster.listStatefulSets (statefulSetSelector lws), ∀ index,
      groupIndex sts.statefulSet.labels = .ok index → 0 ≤ index) :
    getReplicaStates cluster lws stsReplicas revisionKeyValue =
      some ((List.range stsReplicas.toNat).map fun idx =>
        replicaStateAt lws revisionKeyValue idx
          (lastItemAt ObservedPod.zero (fun pod => groupIndex pod.pod.labels)
            (cluster.listPods (leaderPodSelector lws)) idx)
          (lastItemAt ObservedStatefulSet.zero (fun sts => groupIndex sts.statefulSet.labels)
            (cluster.listStatefulSets (statefulSetSelector lws)) idx)) := by
  have made : makeSlice stsReplicas (⟨false, false⟩ : ReplicaState) =
      some (List.replicate stsReplicas.toNat ⟨false, false⟩) := by
    simp [makeSlice, Int.not_lt.mpr lengthNonnegative]
  unfold getReplicaStates
  rw [made, Option.bind_eq_bind, Option.bind_some,
    sortByIndex_eq _ _ _ _ lengthNonnegative podIndices, Option.bind_eq_bind, Option.bind_some,
    sortByIndex_eq _ _ _ _ lengthNonnegative stsIndices, Option.bind_eq_bind, Option.bind_some]
  refine foldlM_range_fill _ _ _ List.length_replicate fun current idx inside _ => ?_
  simp [inside]

/-- No group below `lwsReplicas` is unready exactly when each index below it
holds a ready and updated state. -/
theorem calculateLWSUnreadyReplicas_eq_zero_iff (states : List ReplicaState) (lwsReplicas : Int) :
    calculateLWSUnreadyReplicas states lwsReplicas = 0 ↔
      ∀ idx < lwsReplicas.toNat, states[idx]? = some ⟨true, true⟩ := by
  unfold calculateLWSUnreadyReplicas
  rw [Int.natCast_eq_zero, List.countP_eq_zero]
  simp only [List.mem_range]
  refine forall_congr' fun idx => imp_congr_right fun _ => ?_
  cases states[idx]? with
  | none => simp
  | some state =>
    cases state with
    | mk ready updated => cases ready <;> cases updated <;> simp

/-! ## The status and the rolling update see the same groups -/

/-- The leader pods and StatefulSets of a set as the controllers and the pod
webhook name and label them: a leader pod's group index parses, is
nonnegative, and names the pod; a StatefulSet with the set's label and a group
index that parses is named after a nonnegative index; and the StatefulSet
named after a leader pod, its worker StatefulSet, carries the set's label and
the pod's group index. -/
structure GroupsNamed (cluster : Cluster) (lws : LeaderWorkerSet) : Prop where
  leaderPods : ∀ pod ∈ cluster.listPods (leaderPodSelector lws),
    groupIndex pod.pod.labels = .ok (groupIndexValue pod.pod.labels) ∧ 0 ≤ groupIndexValue pod.pod.labels ∧
      pod.pod.name = statefulSetPodName lws.name (groupIndexValue pod.pod.labels)
  listedStatefulSets : ∀ sts ∈ cluster.listStatefulSets (statefulSetSelector lws),
    groupIndex sts.statefulSet.labels = .ok (groupIndexValue sts.statefulSet.labels) →
      0 ≤ groupIndexValue sts.statefulSet.labels ∧
        sts.statefulSet.name = statefulSetPodName lws.name (groupIndexValue sts.statefulSet.labels)
  workerStatefulSets : ∀ sts ∈ cluster.statefulSets, ∀ pod ∈ cluster.listPods (leaderPodSelector lws),
    sts.statefulSet.name = pod.pod.name →
      matchingLabels (statefulSetSelector lws) sts.statefulSet.labels = true ∧
        groupIndex sts.statefulSet.labels = .ok (groupIndexValue pod.pod.labels)

instance (cluster : Cluster) (lws : LeaderWorkerSet) : Decidable (GroupsNamed cluster lws) :=
  decidable_of_iff (_ ∧ _ ∧ _) ⟨fun ⟨leaderPods, listed, workers⟩ => ⟨leaderPods, listed, workers⟩,
    fun named => ⟨named.leaderPods, named.listedStatefulSets, named.workerStatefulSets⟩⟩

section Named

variable {cluster : Cluster} {lws : LeaderWorkerSet} (named : GroupsNamed cluster lws)
include named

/-- Two leader pods of one group index are one pod: their names are equal. -/
theorem GroupsNamed.leaderPod_unique {pod other : ObservedPod}
    (member : pod ∈ cluster.listPods (leaderPodSelector lws))
    (otherMember : other ∈ cluster.listPods (leaderPodSelector lws))
    (same : groupIndexValue other.pod.labels = groupIndexValue pod.pod.labels) : other = pod := by
  apply List.inj_on_of_nodup_map (cluster.nodup_names_listPods _) otherMember member
  rw [(named.leaderPods other otherMember).2.2, (named.leaderPods pod member).2.2, same]

/-- The leader pods carry distinct nonnegative indices that parse. -/
theorem GroupsNamed.groupsIndexed :
    GroupsIndexed (cluster.listPods (leaderPodSelector lws)) fun pod => groupIndexValue pod.pod.labels where
  parsed pod member := (named.leaderPods pod member).1
  nonnegative pod member := (named.leaderPods pod member).2.1
  distinct := List.Nodup.map_on (fun _ member _ otherMember same =>
      named.leaderPod_unique otherMember member same)
    ((cluster.nodup_names_listPods _).of_map _)

/-- The leader pod of a group is the one `SortByIndex` puts at its index. -/
theorem GroupsNamed.sortedLeaderPod {pod : ObservedPod} (member : pod ∈ cluster.listPods (leaderPodSelector lws))
    {idx : Nat} (indexed : groupIndexValue pod.pod.labels = idx) :
    lastItemAt ObservedPod.zero (fun pod => groupIndex pod.pod.labels)
      (cluster.listPods (leaderPodSelector lws)) idx = pod := by
  apply lastItemAt_of_unique _ _ member (indexed ▸ (named.leaderPods pod member).1)
  intro other otherMember otherPlaced
  exact named.leaderPod_unique member otherMember ((groupIndexValue_of_groupIndex otherPlaced).trans indexed.symm)

/-- The worker StatefulSet of a leader pod is the one `SortByIndex` puts at
the pod's index. A listed StatefulSet of the same index has the same name. -/
theorem GroupsNamed.sortedStatefulSet {pod : ObservedPod} (member : pod ∈ cluster.listPods (leaderPodSelector lws))
    {idx : Nat} (indexed : groupIndexValue pod.pod.labels = idx) {sts : ObservedStatefulSet}
    (stsMember : sts ∈ cluster.statefulSets) (nominated : sts.statefulSet.name = pod.pod.name) :
    lastItemAt ObservedStatefulSet.zero (fun sts => groupIndex sts.statefulSet.labels)
      (cluster.listStatefulSets (statefulSetSelector lws)) idx = sts := by
  obtain ⟨labelled, placed⟩ := named.workerStatefulSets sts stsMember pod member nominated
  rw [indexed] at placed
  have listed : sts ∈ cluster.listStatefulSets (statefulSetSelector lws) :=
    Cluster.mem_listStatefulSets.mpr ⟨stsMember, labelled⟩
  apply lastItemAt_of_unique _ _ listed placed
  intro other otherMember otherPlaced
  have otherValue := groupIndexValue_of_groupIndex otherPlaced
  have otherNamed := (named.listedStatefulSets other otherMember (groupIndex_eq_value otherPlaced)).2
  have podNamed := (named.leaderPods pod member).2.2
  apply List.inj_on_of_nodup_map (cluster.nodup_names_listStatefulSets _) otherMember listed
  rw [otherNamed, nominated, podNamed, indexed]
  exact congrArg _ otherValue

end Named

/-- A group of size one: the state is its leader pod's. -/
theorem replicaStateAt_of_single {lws : LeaderWorkerSet} (revisionKeyValue : String) {idx : Nat}
    {pod : ObservedPod} (sts : ObservedStatefulSet) (single : lws.spec.leaderWorkerTemplate.size = 1)
    (nominated : pod.pod.name = statefulSetPodName lws.name idx) :
    replicaStateAt lws revisionKeyValue idx pod sts =
      ⟨groupReady none pod, groupUpdated revisionKeyValue none pod⟩ := by
  simp [replicaStateAt, single, nominated, groupReady, groupUpdated]

/-- A group with workers, both named after their index: the state combines
the leader pod's and the StatefulSet's. -/
theorem replicaStateAt_of_workers {lws : LeaderWorkerSet} (revisionKeyValue : String) {idx : Nat}
    {pod : ObservedPod} {sts : ObservedStatefulSet} (workers : lws.spec.leaderWorkerTemplate.size ≠ 1)
    (nominated : pod.pod.name = statefulSetPodName lws.name idx)
    (stsNominated : sts.statefulSet.name = statefulSetPodName lws.name idx) :
    replicaStateAt lws revisionKeyValue idx pod sts =
      ⟨groupReady (some sts) pod, groupUpdated revisionKeyValue (some sts) pod⟩ := by
  simp [replicaStateAt, workers, nominated, stsNominated, groupReady, groupUpdated, Bool.and_comm]

/-- A leader pod or, in a group with workers, a StatefulSet not named after
the index: the state is neither ready nor updated. -/
theorem replicaStateAt_of_misnamed {lws : LeaderWorkerSet} (revisionKeyValue : String) {idx : Nat}
    {pod : ObservedPod} {sts : ObservedStatefulSet}
    (misnamed : statefulSetPodName lws.name idx ≠ pod.pod.name ∨
      (lws.spec.leaderWorkerTemplate.size ≠ 1 ∧ statefulSetPodName lws.name idx ≠ sts.statefulSet.name)) :
    replicaStateAt lws revisionKeyValue idx pod sts = ⟨false, false⟩ := by
  simp only [replicaStateAt]
  rw [if_pos misnamed]

/-- A state that `getReplicaStates` gives as ready and updated comes from a
leader pod of its index that `updateConditions` counts as ready and updated,
in any cluster: the names checked by `getReplicaStates` are those `Get`
reads by. A ready state is not the one of a misnamed pod or StatefulSet, and a
pod named after the index is no zero value but the leader pod of the index. -/
theorem groupReadyAndUpdated_of_replicaStateAt {cluster : Cluster} {lws : LeaderWorkerSet}
    (revisionKeyValue : String) {idx : Nat}
    (placed : replicaStateAt lws revisionKeyValue idx
        (lastItemAt ObservedPod.zero (fun pod => groupIndex pod.pod.labels)
          (cluster.listPods (leaderPodSelector lws)) idx)
        (lastItemAt ObservedStatefulSet.zero (fun sts => groupIndex sts.statefulSet.labels)
          (cluster.listStatefulSets (statefulSetSelector lws)) idx) = ⟨true, true⟩) :
    GroupReadyAndUpdated cluster lws revisionKeyValue (fun pod => groupIndexValue pod.pod.labels) idx := by
  have podCases := lastItemAt_cases ObservedPod.zero (fun pod => groupIndex pod.pod.labels)
    (cluster.listPods (leaderPodSelector lws)) idx
  have stsCases := lastItemAt_cases ObservedStatefulSet.zero (fun sts => groupIndex sts.statefulSet.labels)
    (cluster.listStatefulSets (statefulSetSelector lws)) idx
  generalize lastItemAt ObservedPod.zero (fun pod => groupIndex pod.pod.labels)
    (cluster.listPods (leaderPodSelector lws)) idx = pod at podCases placed
  generalize lastItemAt ObservedStatefulSet.zero (fun sts => groupIndex sts.statefulSet.labels)
    (cluster.listStatefulSets (statefulSetSelector lws)) idx = sts at stsCases placed
  by_cases misnamed : statefulSetPodName lws.name idx ≠ pod.pod.name ∨
      (lws.spec.leaderWorkerTemplate.size ≠ 1 ∧ statefulSetPodName lws.name idx ≠ sts.statefulSet.name)
  · rw [replicaStateAt_of_misnamed revisionKeyValue misnamed] at placed
    cases placed
  push Not at misnamed
  obtain ⟨podNamed, stsNamed⟩ := misnamed
  obtain ⟨member, parsed⟩ : pod ∈ cluster.listPods (leaderPodSelector lws) ∧
      groupIndex pod.pod.labels = .ok (idx : Int) := by
    rcases podCases with zero | listed
    · rw [zero, ObservedPod.zero_name] at podNamed
      exact absurd podNamed (statefulSetPodName_ne_empty _ _)
    · exact listed
  refine ⟨pod, member, groupIndexValue_of_groupIndex parsed, ?_⟩
  by_cases single : lws.spec.leaderWorkerTemplate.size = 1
  · rw [replicaStateAt_of_single revisionKeyValue sts single podNamed.symm, ReplicaState.mk.injEq] at placed
    exact ⟨none, by simp [getWorkerStatefulSet, single], placed.1, placed.2⟩
  · have stsNominated := stsNamed single
    have stsMember : sts ∈ cluster.statefulSets := by
      rcases stsCases with zero | listed
      · rw [zero, ObservedStatefulSet.zero_name] at stsNominated
        exact absurd stsNominated (statefulSetPodName_ne_empty _ _)
      · exact (Cluster.mem_listStatefulSets.mp listed.1).1
    have found : cluster.getStatefulSet pod.pod.name = some sts :=
      Cluster.getStatefulSet_eq_some.mpr ⟨stsMember, stsNominated.symm.trans podNamed⟩
    rw [replicaStateAt_of_workers revisionKeyValue single podNamed.symm stsNominated.symm,
      ReplicaState.mk.injEq] at placed
    exact ⟨some sts, by simp [getWorkerStatefulSet, single, found], placed.1, placed.2⟩

section Agreement

variable {cluster : Cluster} {lws : LeaderWorkerSet} (named : GroupsNamed cluster lws)
  (revisionKeyValue : String)
include named

/-- A group that `updateConditions` counts as ready and updated gets a ready
and updated state from `getReplicaStates`. -/
theorem GroupsNamed.replicaStateAt_of_groupReadyAndUpdated {idx : Nat}
    (counted : GroupReadyAndUpdated cluster lws revisionKeyValue (fun pod => groupIndexValue pod.pod.labels) idx) :
    replicaStateAt lws revisionKeyValue idx
        (lastItemAt ObservedPod.zero (fun pod => groupIndex pod.pod.labels)
          (cluster.listPods (leaderPodSelector lws)) idx)
        (lastItemAt ObservedStatefulSet.zero (fun sts => groupIndex sts.statefulSet.labels)
          (cluster.listStatefulSets (statefulSetSelector lws)) idx) = ⟨true, true⟩ := by
  obtain ⟨leader, member, indexed, worker, found, ready, updated⟩ := counted
  have indexed : groupIndexValue leader.pod.labels = idx := indexed
  have leaderNamed : leader.pod.name = statefulSetPodName lws.name idx := by
    rw [(named.leaderPods leader member).2.2, indexed]
  rw [named.sortedLeaderPod member indexed]
  by_cases single : lws.spec.leaderWorkerTemplate.size = 1
  · have noWorkers : worker = none := by
      simp only [getWorkerStatefulSet, single, if_true, Option.some.injEq] at found
      exact found.symm
    subst noWorkers
    rw [replicaStateAt_of_single revisionKeyValue _ single leaderNamed, ready, updated]
  · obtain ⟨sts, fetched, rfl⟩ : ∃ sts, cluster.getStatefulSet leader.pod.name = some sts ∧ some sts = worker := by
      simpa [getWorkerStatefulSet, single] using found
    obtain ⟨stsMember, stsNamed⟩ := Cluster.getStatefulSet_eq_some.mp fetched
    rw [named.sortedStatefulSet member indexed stsMember stsNamed,
      replicaStateAt_of_workers revisionKeyValue single leaderNamed (stsNamed.trans leaderNamed), ready, updated]

end Agreement

/-- **The status and the rolling update agree on the groups.** For a set
whose leader pods and StatefulSets are named and labelled as the controllers
make them, both `updateConditions` and `getReplicaStates` (for a leader
StatefulSet with at least `spec.replicas` replicas) return, and the status
reports the update done exactly when the rolling update counts no unready
group below `spec.replicas`.
Proof: the update is done exactly when every group below `spec.replicas` is
counted ready and updated; `SortByIndex` puts that group's leader pod and
StatefulSet at its index, where `getReplicaStates` finds them. -/
theorem updateConditions_agrees_with_getReplicaStates {cluster : Cluster} {lws : LeaderWorkerSet}
    (counters : StatusCounters) (revisionKeyValue : String) {stsReplicas : Int}
    (named : GroupsNamed cluster lws) (bound : 0 ≤ lws.spec.replicas)
    (covering : lws.spec.replicas ≤ stsReplicas) :
    ∃ update states, updateConditions cluster lws counters revisionKeyValue = .ok update ∧
      getReplicaStates cluster lws stsReplicas revisionKeyValue = some states ∧
      (update.updateDone = true ↔ calculateLWSUnreadyReplicas states lws.spec.replicas = 0) := by
  have indexed := named.groupsIndexed
  have podIndices : ∀ pod ∈ cluster.listPods (leaderPodSelector lws), ∀ index,
      groupIndex pod.pod.labels = .ok index → 0 ≤ index := by
    intro pod member index parsed
    rw [← groupIndexValue_of_groupIndex parsed]
    exact (named.leaderPods pod member).2.1
  have stsIndices : ∀ sts ∈ cluster.listStatefulSets (statefulSetSelector lws), ∀ index,
      groupIndex sts.statefulSet.labels = .ok index → 0 ≤ index := by
    intro sts member index parsed
    rw [← groupIndexValue_of_groupIndex parsed]
    exact (named.listedStatefulSets sts member (groupIndex_eq_value parsed)).1
  have updated := updateConditions_eq_ok cluster lws revisionKeyValue (fun pod => groupIndexValue pod.pod.labels)
    counters indexed.parsed
  refine ⟨_, _, updated, getReplicaStates_eq cluster lws revisionKeyValue (by omega) podIndices stsIndices, ?_⟩
  rw [updateDone_iff_groups_ready indexed bound updated, calculateLWSUnreadyReplicas_eq_zero_iff]
  constructor
  · intro covered idx below
    rw [List.getElem?_map, List.getElem?_range (by omega), Option.map_some,
      named.replicaStateAt_of_groupReadyAndUpdated revisionKeyValue (covered idx (by omega) (by omega))]
  · intro allReady index lower upper
    lift index to ℕ using lower
    have placed := allReady index (by omega)
    rw [List.getElem?_map, List.getElem?_range (by omega), Option.map_some, Option.some_inj] at placed
    exact groupReadyAndUpdated_of_replicaStateAt revisionKeyValue placed

/-- The leader pod of group `index` of the set `lws`, running and ready, at
revision `key`. -/
def runningLeaderPod (index : Nat) (key : String) : ObservedPod where
  pod :=
    { name := statefulSetPodName "lws" index
      namespaceName := "default"
      labels := StringMap.ofList [(setNameLabelKey, "lws"), (workerIndexLabelKey, "0"),
        (groupIndexLabelKey, Strconv.itoa index), (revisionKey, key)]
      annotations := ∅
      spec := ⟨"lws", none, [], []⟩ }
  deleting := false
  nodeName := "node"
  status := ⟨some .podRunning, [⟨podReadyConditionType, .conditionTrue⟩], [], []⟩

/-- The worker StatefulSet of group `index`, rolled out at revision `key`. -/
def rolledOutWorkers (index : Nat) (key : String) : ObservedStatefulSet where
  statefulSet :=
    { name := statefulSetPodName "lws" index
      labels := StringMap.ofList [(setNameLabelKey, "lws"), (groupIndexLabelKey, Strconv.itoa index),
        (revisionKey, key)]
      annotations := ∅
      replicas := 1
      partition := 0 }
  status := ⟨1, "workers", "workers"⟩

/-- The two groups of `lws` halfway through a rollout to revision `new`:
group 0 is updated, group 1 still runs `old`. The leader StatefulSet carries
no group index. -/
def halfRolledCluster : Cluster where
  pods := [runningLeaderPod 0 "new", runningLeaderPod 1 "old"]
  statefulSets := [⟨⟨"lws", StringMap.ofList [(setNameLabelKey, "lws")], ∅, 2, 1⟩, ⟨2, "lws-old", "lws-new"⟩⟩,
    rolledOutWorkers 0 "new", rolledOutWorkers 1 "old"]
  podNamesUnique := by decide
  statefulSetNamesUnique := by decide

/-- The half-rolled set: both views return, and agree. -/
theorem updateConditions_agrees_with_getReplicaStates_on_half_rollout :
    ∃ update states,
      updateConditions halfRolledCluster rolloutLeaderWorkerSet ⟨0, 0, 0, ""⟩ "new" = .ok update ∧
      getReplicaStates halfRolledCluster rolloutLeaderWorkerSet 2 "new" = some states ∧
      (update.updateDone = true ↔ calculateLWSUnreadyReplicas states rolloutLeaderWorkerSet.spec.replicas = 0) :=
  updateConditions_agrees_with_getReplicaStates ⟨0, 0, 0, ""⟩ "new" (by decide) (by decide) (by decide)

/-! ## Repeated runs of `updateStatus` -/

/-- What one run of `updateStatus` reads: the leader StatefulSet, and the
counts of the loop over the leader pods. -/
theorem updateStatus_eq_ok_iff {cluster : Cluster} {lws : LeaderWorkerSet} {counters : StatusCounters}
    {revisionKeyValue : String} {update : StatusUpdate} :
    updateStatus cluster lws counters revisionKeyValue = .ok update ↔
      ∃ sts counts, cluster.getStatefulSet lws.name = some sts ∧
        (cluster.listPods (leaderPodSelector lws)).foldlM (countLeaderPod cluster lws revisionKeyValue)
          ReplicaCounts.zero = .ok counts ∧
        update = { recordCounts lws (recordLeaderStatefulSet lws counters sts).1 counts with
          changed := (recordLeaderStatefulSet lws counters sts).2 ||
            (recordCounts lws (recordLeaderStatefulSet lws counters sts).1 counts).changed } := by
  unfold updateStatus updateConditions
  cases found : cluster.getStatefulSet lws.name with
  | none => exact ⟨(fun ran => by cases ran), (fun ⟨_, _, never, _⟩ => by cases never)⟩
  | some sts =>
    cases looped : (cluster.listPods (leaderPodSelector lws)).foldlM
        (countLeaderPod cluster lws revisionKeyValue) ReplicaCounts.zero with
    | error message => simp
    | ok counts => simp [eq_comm]

/-- The conditions `updateConditions` chooses are one of its three lists. -/
theorem conditionsFor_lists (counts : ReplicaCounts) (replicas : Int) :
    (conditionsFor counts replicas).1 = [makeCondition leaderWorkerSetUpdateInProgress,
        makeCondition leaderWorkerSetProgressing] ∨
      (conditionsFor counts replicas).1 = [makeCondition leaderWorkerSetAvailable] ∨
      (conditionsFor counts replicas).1 = [makeCondition leaderWorkerSetProgressing] := by
  unfold conditionsFor
  split_ifs <;> simp

/-- The counters of a status `updateStatus` has written: the leader
StatefulSet's replicas, a selector, and the two counts. -/
structure CountersRecorded (counters : StatusCounters) (sts : ObservedStatefulSet) (counts : ReplicaCounts) :
    Prop where
  replicas : counters.replicas = sts.status.replicas
  selected : counters.hpaPodSelector ≠ ""
  ready : counters.readyReplicas = int32 counts.readyCount
  updated : counters.updatedReplicas = int32 counts.updatedCount

/-- A run of `updateStatus` records its reads in the counters. -/
theorem countersRecorded_recordCounts (lws : LeaderWorkerSet) (counters : StatusCounters)
    (sts : ObservedStatefulSet) (counts : ReplicaCounts) :
    CountersRecorded (recordCounts lws (recordLeaderStatefulSet lws counters sts).1 counts).counters sts counts := by
  obtain ⟨replicas, selected⟩ := recordLeaderStatefulSet_recorded lws counters sts
  exact ⟨replicas, selected, rfl, rfl⟩

/-- From recorded counters, a run that reads the same writes only what
`setConditions` changes. -/
theorem recordCounts_of_recorded (lws : LeaderWorkerSet) {counters : StatusCounters}
    {sts : ObservedStatefulSet} {counts : ReplicaCounts} (recorded : CountersRecorded counters sts counts) :
    { recordCounts lws (recordLeaderStatefulSet lws counters sts).1 counts with
        changed := (recordLeaderStatefulSet lws counters sts).2 ||
          (recordCounts lws (recordLeaderStatefulSet lws counters sts).1 counts).changed } =
      { lws := { lws with
          status := ⟨(setConditions lws.status.conditions (conditionsFor counts lws.spec.replicas).1).1⟩ }
        counters := counters
        changed := (setConditions lws.status.conditions (conditionsFor counts lws.spec.replicas).1).2
        updateDone := (conditionsFor counts lws.spec.replicas).2 } := by
  rw [recordLeaderStatefulSet_of_recorded lws recorded.replicas recorded.selected]
  simp [← recorded.ready, ← recorded.updated]

/-- **Status writes stop.** On a cluster that does not change, the third of
three runs of `updateStatus` in a row does not write the status, and leaves
it as the second run wrote it: the first run records the counters, and the
conditions settle within two runs, the second needed when the short-circuit
of `setConditions` skipped `Progressing`. The later runs read the same leader
StatefulSet and count the same groups, and the third sets the conditions a
third time, which changes nothing. -/
theorem updateStatus_stops_writing {cluster : Cluster} {lws : LeaderWorkerSet} {counters : StatusCounters}
    {revisionKeyValue : String} {first second third : StatusUpdate}
    (ranFirst : updateStatus cluster lws counters revisionKeyValue = .ok first)
    (ranSecond : updateStatus cluster first.lws first.counters revisionKeyValue = .ok second)
    (ranThird : updateStatus cluster second.lws second.counters revisionKeyValue = .ok third) :
    third.changed = false ∧ third.lws = second.lws ∧ third.counters = second.counters := by
  obtain ⟨sts, counts, found, looped, rfl⟩ := updateStatus_eq_ok_iff.mp ranFirst
  have recorded := countersRecorded_recordCounts lws counters sts counts
  obtain ⟨secondSts, secondCounts, secondFound, secondLooped, rfl⟩ := updateStatus_eq_ok_iff.mp ranSecond
  obtain rfl : sts = secondSts := Option.some.inj (found.symm.trans secondFound)
  obtain rfl : counts = secondCounts := Except.ok.inj (looped.symm.trans secondLooped)
  rw [recordCounts_of_recorded _ recorded] at ranThird ⊢
  obtain ⟨thirdSts, thirdCounts, thirdFound, thirdLooped, rfl⟩ := updateStatus_eq_ok_iff.mp ranThird
  obtain rfl : sts = thirdSts := Option.some.inj (found.symm.trans thirdFound)
  obtain rfl : counts = thirdCounts := Except.ok.inj (looped.symm.trans thirdLooped)
  rw [recordCounts_of_recorded _ recorded]
  have settled := setConditions_third_run lws.status.conditions _ (conditionsFor_lists counts lws.spec.replicas)
  simp only [recordCounts_lws]
  rw [setConditions_of_flag_false settled]
  exact ⟨rfl, rfl, trivial⟩

/-- The half-rolled set as `updateStatus` leaves it with `conditions` stored. -/
def halfRolledStatus (conditions : List Condition) (changed : Bool) : StatusUpdate where
  lws := { rolloutLeaderWorkerSet with status := ⟨conditions⟩ }
  counters := ⟨2, 2, 1, leaderPodSelectorText rolloutLeaderWorkerSet⟩
  changed
  updateDone := false

/-- From an empty status, the first run records the counters and sets
`UpdateInProgress`, the second sets `Progressing`, and the third writes
nothing. -/
theorem updateStatus_stops_writing_on_half_rollout :
    (halfRolledStatus [makeCondition leaderWorkerSetUpdateInProgress, makeCondition leaderWorkerSetProgressing]
        false).changed = false ∧
      (halfRolledStatus [makeCondition leaderWorkerSetUpdateInProgress,
          makeCondition leaderWorkerSetProgressing] false).lws =
        (halfRolledStatus [makeCondition leaderWorkerSetUpdateInProgress,
          makeCondition leaderWorkerSetProgressing] true).lws ∧
      (halfRolledStatus [makeCondition leaderWorkerSetUpdateInProgress,
          makeCondition leaderWorkerSetProgressing] false).counters =
        (halfRolledStatus [makeCondition leaderWorkerSetUpdateInProgress,
          makeCondition leaderWorkerSetProgressing] true).counters :=
  @updateStatus_stops_writing halfRolledCluster rolloutLeaderWorkerSet ⟨0, 0, 0, ""⟩ "new"
    (halfRolledStatus [makeCondition leaderWorkerSetUpdateInProgress] true)
    (halfRolledStatus [makeCondition leaderWorkerSetUpdateInProgress, makeCondition leaderWorkerSetProgressing] true)
    (halfRolledStatus [makeCondition leaderWorkerSetUpdateInProgress, makeCondition leaderWorkerSetProgressing] false)
    (by decide) (by decide) (by decide)

end Lws
