import Lws.Library.SignedWord
import Lws.Library.DecimalText
import Lws.Go.Strconv
import Lws.Go.Runtime
import Lws.Api.Core
import Lws.Api.Intstr
import Lws.Api.LeaderWorkerSet
import Lws.Api.Cluster
import Lws.Controllers.RollingUpdate
import Lws.Controllers.Conditions
import Lws.Controllers.Revision
import Lws.Controllers.StatefulSets
import Lws.Library.LastField
import Lws.Utils.StatefulSet
import Lws.Utils.Common
import Lws.Utils.Pod
import Lws.Utils.Accelerators
import Lws.Webhooks.LeaderWorkerSet
import Lws.Webhooks.Pod
import Lws.Webhooks.SubGroupLayout
import Lws.Webhooks.TpuLayout
import Lws.Webhooks.PodIdempotence
import Lws.Webhooks.PodAdmission
import Lws.System.Admission
import Lws.System.RevisionHistory
import Lws.Library.IndexCount
import Lws.Controllers.Status
import Lws.Controllers.PodController
import Lws.System.GroupLifecycle
import Lws.Controllers.LeaderWorkerSetController
import Lws.Library.Simulation
import Lws.System.ControllerRuns
import Lws.System.PodCreation
