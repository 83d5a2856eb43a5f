import Lws.Webhooks.SubGroupLayout

/-!
# TPU slices and the subgroup layout

With subgroups, every subgroup of TPU-requesting pods is one TPU slice: its
pods share `TPU_WORKER_HOSTNAMES`, and each pod's `TPU_WORKER_ID` is the
position of its own hostname there. The pod webhook labels the subgroups with
`getSubGroupIndex` and computes the slices in `addTPUVariablesSubGroup`,
which shifts the ids by one unless the pod carries the annotation saying the
leader requests TPUs. Only the controller's worker template carries it; a
leader never does.
-/

namespace Lws

/-- A remainder of `-1` by a modulus of two or more keeps its sign. -/
theorem tmod_neg_one {modulus : Int} (several : 2 ≤ modulus) : (-1 : Int).tmod modulus = -1 := by
  rw [Int.neg_tmod, Int.tmod_eq_of_lt (by decide) (by omega)]

/-- **The leader's TPU worker id in subgroup mode.** A TPU-requesting leader
in subgroup 0 never carries the annotation that says the leader requests
TPUs, so its id is computed as a worker's, `(0 - 1) % g`: `-1` for every
subgroup size of two or more, while its own hostname opens the list. -/
theorem addTPUVariablesSubGroup_leader {pod : Pod} {ref : ContainerRef} {container : Container}
    {subGroupSize : Int} (requesting : getContainerRequestingTPUs pod.spec = some ref)
    (located : pod.spec.container? ref = some container) (fresh : hasTPUVariables container = false)
    (sized : pod.annotations.get subGroupSizeAnnotationKey = Strconv.itoa subGroupSize)
    (several : 2 ≤ subGroupSize) (fits : subGroupSize ≤ 2147483647)
    (firstSubGroup : pod.labels.get subGroupIndexLabelKey = "0")
    (leader : pod.labels.get workerIndexLabelKey = "0")
    (unannotated : pod.annotations.get leaderRequestsTPUsAnnotationKey ≠ "true") :
    ∃ hostnames, addTPUVariablesSubGroup pod =
      .ok (appendTPUEnvVars pod ref (tpuEnvVars ((pod.name ++ "." ++ pod.spec.subdomain) :: hostnames) (-1) pod.name)) := by
  have nonzero : subGroupSize ≠ 0 := by omega
  have sizeRead : Strconv.atoi (Strconv.itoa subGroupSize) = .ok subGroupSize :=
    Strconv.atoi_itoa _ (by simp only [SignedWord.Fits]; omega)
  have zeroRead : Strconv.atoi "0" = .ok 0 := by decide
  have shifted : int64 (0 - 1) = -1 := by decide
  have start : int64 (subGroupSize * 0 + 1) = 1 := by simp [int64_of_range]
  have stop : int64 (int64 (subGroupSize * (0 + 1)) - 1) = subGroupSize - 1 := by
    have inner : int64 subGroupSize = subGroupSize := int64_of_range ⟨by omega, by omega⟩
    rw [show subGroupSize * (0 + 1) = subGroupSize by omega, inner]
    exact int64_of_range ⟨by omega, by omega⟩
  have notTrue : (pod.annotations.get leaderRequestsTPUsAnnotationKey == "true") = false := by
    simpa using unannotated
  have bounded : subGroupSize - 1 ≠ 9223372036854775807 := by omega
  refine ⟨(List.range (subGroupSize - 1 - 1 + 1).toNat).map fun offset =>
    pod.name ++ "-" ++ Strconv.itoa (1 + offset) ++ "." ++ pod.spec.subdomain, ?_⟩
  unfold addTPUVariablesSubGroup
  simp only [requesting, located, fresh, sized, firstSubGroup, leader, sizeRead, zeroRead, liftError_ok, ok_bind,
    remainder?_of_ne _ nonzero, liftPanic_some, Bool.false_eq_true, if_false, notTrue, Bool.not_false,
    if_true, beq_self_eq_true, shifted, tmod_neg_one several, start, stop]
  simp [workerHostnames, bounded]

/-- The leader of a group of four in subgroups of two, as the leader
StatefulSet creates it, with one container requesting four TPUs. -/
def subGroupTpuLeaderPod : Pod where
  name := "lws-0"
  namespaceName := "default"
  labels := StringMap.ofList [(workerIndexLabelKey, "0"), (setNameLabelKey, "lws")]
  annotations := StringMap.ofList [(sizeAnnotationKey, "4"),
    (subGroupPolicyTypeAnnotationKey, SubGroupPolicyType.subGroupPolicyTypeLeaderWorker.value),
    (subGroupSizeAnnotationKey, "2")]
  spec := { subdomain := "lws", affinity := none, containers := [⟨"tpu", "", [], 4, 4⟩], initContainers := [] }

/-- The webhook puts the leader first in its slice's hostnames and gives it
the id `-1`, so no pod of the slice gets id 0. The hash only names labels and
placement terms, never a TPU variable; it is the identity here. -/
theorem podWebhookDefault_numbers_tpu_leader_minus_one :
    (podWebhookDefault id subGroupTpuLeaderPod).map (fun defaulted => defaulted.spec.containers.map fun c =>
        c.env.filter fun env => env.name == tpuWorkerHostNames || env.name == tpuWorkerId) =
      .ok [[⟨tpuWorkerHostNames, "lws-0.lws,lws-0-1.lws"⟩, ⟨tpuWorkerId, "-1"⟩]] := by
  decide

end Lws
