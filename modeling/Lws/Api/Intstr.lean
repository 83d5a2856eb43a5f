import Lws.Go.Strconv

/-!
# Integers or percentages

`intstr.IntOrString` holds either an integer or a string; the rollout
configuration's `maxUnavailable` and `maxSurge` are such values, and a string
is meant as a percentage of the replica count.

`intstr.GetScaledValueFromIntOrPercent` belongs to the Kubernetes libraries,
not to this repository. The controller and the webhook receive it as a
parameter. `getScaledValueFromIntOrPercent` below follows its documentation,
as a concrete function to evaluate the model on: an integer is returned as it
is; a string must end in `%` after a decimal number, which is scaled by the
total and rounded up or down. Go computes the product in `float64`; for the
values admitted here, a percentage of at most 100 of an `int32` total, the
product is below `2^53` and the rounding is exact.
-/

namespace Lws

/-- `intstr.IntOrString`. -/
inductive IntOrString where
  | int (intVal : Int)
  | string (strVal : String)
deriving DecidableEq, Repr

/-- The signature of `intstr.GetScaledValueFromIntOrPercent`: the value, the
total it is a percentage of, and whether to round up. -/
abbrev ScaledValue := IntOrString → Int → Bool → Except String Int

/-- `intstr.GetScaledValueFromIntOrPercent`, as documented. -/
def getScaledValueFromIntOrPercent : ScaledValue
  | .int intVal, _, _ => .ok intVal
  | .string strVal, total, roundUp =>
    match strVal.toList.reverse with
    | '%' :: digits =>
      match Strconv.atoi (String.ofList digits.reverse) with
      | .ok value =>
        .ok (if roundUp then -((-(value * total)) / 100) else value * total / 100)
      | .error message => .error ("invalid value for IntOrString: invalid value \"" ++ strVal ++
          "\": " ++ message)
    | _ => .error "invalid value for IntOrString: invalid type: string is not a percentage"

end Lws
