import Lws.Api.Core
import Lws.Api.Intstr

/-!
# The LeaderWorkerSet API

The label, annotation and environment keys of `leaderworkerset_types.go`, and
the LeaderWorkerSet object as the API server stores it: after the CRD defaults
have filled `replicas`, `size`, the restart policy and the subgroup policy
type. The rollout strategy type, whose only admitted value is
`RollingUpdate`, is left out; the startup policy and the status counters are
kept beside the object, as the controllers read them.
-/

namespace Lws

/-! The constants of `leaderworkerset_types.go`, under their Go names in lower
camel case: the label and annotation keys LeaderWorkerSet puts on its objects
and the environment variables it injects.
-/

def exclusiveKeyAnnotationKey : String := "leaderworkerset.sigs.k8s.io/exclusive-topology"
def subGroupExclusiveKeyAnnotationKey : String :=
  "leaderworkerset.sigs.k8s.io/subgroup-exclusive-topology"
def setNameLabelKey : String := "leaderworkerset.sigs.k8s.io/name"
def groupIndexLabelKey : String := "leaderworkerset.sigs.k8s.io/group-index"
def workerIndexLabelKey : String := "leaderworkerset.sigs.k8s.io/worker-index"
def sizeAnnotationKey : String := "leaderworkerset.sigs.k8s.io/size"
def replicasAnnotationKey : String := "leaderworkerset.sigs.k8s.io/replicas"
def groupUniqueHashLabelKey : String := "leaderworkerset.sigs.k8s.io/group-key"
def leaderPodNameAnnotationKey : String := "leaderworkerset.sigs.k8s.io/leader-name"
def revisionKey : String := "leaderworkerset.sigs.k8s.io/template-revision-hash"
def lwsLeaderAddress : String := "LWS_LEADER_ADDRESS"
def lwsGroupSize : String := "LWS_GROUP_SIZE"
def lwsWorkerIndex : String := "LWS_WORKER_INDEX"
def subGroupIndexLabelKey : String := "leaderworkerset.sigs.k8s.io/subgroup-index"
def subGroupSizeAnnotationKey : String := "leaderworkerset.sigs.k8s.io/subgroup-size"
def subGroupUniqueHashLabelKey : String := "leaderworkerset.sigs.k8s.io/subgroup-key"
def subGroupPolicyTypeAnnotationKey : String := "leaderworkerset.sigs.k8s.io/subgroup-policy-type"
def subdomainPolicyAnnotationKey : String := "leaderworkerset.sigs.k8s.io/subdomainPolicy"

/-! The values of `LeaderWorkerSetConditionType`, a string type. -/

def leaderWorkerSetAvailable : String := "Available"
def leaderWorkerSetProgressing : String := "Progressing"
def leaderWorkerSetUpdateInProgress : String := "UpdateInProgress"

/-- `SubdomainPolicy`, an enumeration the CRD schema restricts to two values. -/
inductive SubdomainPolicy where
  | subdomainShared
  | subdomainUniquePerReplica
deriving DecidableEq, Repr

/-- The string a `SubdomainPolicy` is. -/
def SubdomainPolicy.value : SubdomainPolicy → String
  | .subdomainShared => "Shared"
  | .subdomainUniquePerReplica => "UniquePerReplica"

/-- `NetworkConfig`; a nil policy pointer is `none`. -/
structure NetworkConfig where
  subdomainPolicy : Option SubdomainPolicy
deriving DecidableEq, Repr

/-- `SubGroupPolicyType`. -/
inductive SubGroupPolicyType where
  | subGroupPolicyTypeLeaderWorker
  | subGroupPolicyTypeLeaderExcluded
deriving DecidableEq, Repr

/-- The string a `SubGroupPolicyType` is. -/
def SubGroupPolicyType.value : SubGroupPolicyType → String
  | .subGroupPolicyTypeLeaderWorker => "LeaderWorker"
  | .subGroupPolicyTypeLeaderExcluded => "LeaderExcluded"

/-- `SubGroupPolicy`. The type is filled by the CRD default `LeaderWorker`;
the subgroup size has no default and may be missing. -/
structure SubGroupPolicy where
  type : SubGroupPolicyType
  subGroupSize : Option Int
deriving DecidableEq, Repr

/-- `RestartPolicyType`, an enumeration the CRD schema restricts to three
values; the webhook rewrites `Default` to `None`. -/
inductive RestartPolicyType where
  | recreateGroupOnPodRestart
  | deprecatedDefaultRestartPolicy
  | noneRestartPolicy
deriving DecidableEq, Repr

/-- `LeaderWorkerTemplate`, with `size` and `restartPolicy` filled by their
CRD defaults. -/
structure LeaderWorkerTemplate where
  leaderTemplate : Option PodTemplateSpec
  workerTemplate : PodTemplateSpec
  size : Int
  restartPolicy : RestartPolicyType
  subGroupPolicy : Option SubGroupPolicy
deriving DecidableEq

/-- `RollingUpdateConfiguration`. -/
structure RollingUpdateConfiguration where
  maxUnavailable : IntOrString
  maxSurge : IntOrString
deriving DecidableEq, Repr

/-- `RolloutStrategy`; the configuration pointer is `none` when nil. -/
structure RolloutStrategy where
  rollingUpdateConfiguration : Option RollingUpdateConfiguration
deriving DecidableEq, Repr

/-- `LeaderWorkerSetSpec`, with `replicas` filled by its CRD default. -/
structure LeaderWorkerSetSpec where
  replicas : Int
  leaderWorkerTemplate : LeaderWorkerTemplate
  rolloutStrategy : RolloutStrategy
  networkConfig : Option NetworkConfig
deriving DecidableEq

/-- `LeaderWorkerSetStatus`: its conditions. -/
structure LeaderWorkerSetStatus where
  conditions : List Condition
deriving DecidableEq, Repr

/-- `LeaderWorkerSet`. -/
structure LeaderWorkerSet where
  name : String
  namespaceName : String
  annotations : StringMap
  spec : LeaderWorkerSetSpec
  status : LeaderWorkerSetStatus
deriving DecidableEq

/-- The leader StatefulSet as the controller observes it: its labels and
annotations, `spec.replicas` and the rolling update partition. -/
structure StatefulSet where
  name : String
  labels : StringMap
  annotations : StringMap
  replicas : Int
  partition : Int
deriving DecidableEq

/-- `appsv1.StatefulSetStatus`: the replicas the StatefulSet controller has
created and its current and update revisions. -/
structure StatefulSetStatus where
  replicas : Int
  currentRevision : String
  updateRevision : String
deriving DecidableEq, Repr

end Lws
