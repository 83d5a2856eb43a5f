import Lws.Api.LeaderWorkerSet
import Lws.Go.Runtime

/-!
# The LeaderWorkerSet admission webhook

`Default` fills the rollout configuration and the network configuration of a
LeaderWorkerSet; `generalValidate` collects the field errors of a new or
changed object, and `ValidateUpdate` adds the immutability checks of an
update. An object is admitted when no error is collected.

Errors are collected, not returned early: every check runs, including those
whose inputs an earlier check already rejected. A Go runtime panic (a nil
pointer, a division by zero, a slice bound) is `none`.

`apivalidation.ValidateObjectMeta` and `utilvalidation.IsValidPercent` belong
to the Kubernetes libraries and are parameters, as is
`intstr.GetScaledValueFromIntOrPercent`.
-/

namespace Lws

/-- `field.ErrorType`. -/
inductive ErrorType where
  | errorTypeNotFound
  | errorTypeRequired
  | errorTypeDuplicate
  | errorTypeInvalid
  | errorTypeNotSupported
  | errorTypeForbidden
  | errorTypeTooLong
  | errorTypeTooMany
  | errorTypeInternal
  | errorTypeTypeInvalid
deriving DecidableEq, Repr

/-- The value a field error reports, by the Go type it has. -/
inductive BadValue where
  | int (value : Int)
  /-- A `*int32`, `none` when nil. -/
  | optionalInt (value : Option Int)
  | intOrString (value : IntOrString)
  | text (value : String)
  | subdomainPolicy (value : Option SubdomainPolicy)
deriving DecidableEq, Repr

/-- `field.Error`; the field is the path as `field.Path.String` prints it. -/
structure FieldError where
  type : ErrorType
  field : String
  badValue : BadValue
  detail : String
deriving DecidableEq, Repr

/-- `field.NewPath(names[0]).Child(names[1:]...).String()`. -/
def fieldPath (names : List String) : String := ".".intercalate names

/-- `field.Invalid`. -/
def invalid (names : List String) (value : BadValue) (detail : String) : FieldError :=
  ⟨.errorTypeInvalid, fieldPath names, value, detail⟩

/-- `apivalidation.ValidateImmutableField` for the values compared here. -/
def validateImmutableField (newVal oldVal : Int) (names : List String) : List FieldError :=
  if oldVal = newVal then [] else [invalid names (.int newVal) "field is immutable"]

/-- `LeaderWorkerSetWebhook.Default`: the deprecated `Default` restart policy
becomes `None`, a missing rolling update configuration becomes one
unavailable and no surge group, and a missing network configuration or
subdomain policy becomes `Shared`. The rollout type, whose one value the CRD
schema fills, is left out. -/
def leaderWorkerSetWebhookDefault (lws : LeaderWorkerSet) : LeaderWorkerSet :=
  let restartPolicy : RestartPolicyType :=
    if lws.spec.leaderWorkerTemplate.restartPolicy = .deprecatedDefaultRestartPolicy then .noneRestartPolicy
    else lws.spec.leaderWorkerTemplate.restartPolicy
  let rolloutStrategy : RolloutStrategy :=
    match lws.spec.rolloutStrategy.rollingUpdateConfiguration with
    | none => ⟨some ⟨.int 1, .int 0⟩⟩
    | some _ => lws.spec.rolloutStrategy
  let networkConfig : NetworkConfig :=
    match lws.spec.networkConfig with
    | none => ⟨some .subdomainShared⟩
    | some config => if config.subdomainPolicy = none then ⟨some .subdomainShared⟩ else config
  { lws with
    spec := { lws.spec with
      leaderWorkerTemplate := { lws.spec.leaderWorkerTemplate with restartPolicy }
      rolloutStrategy := rolloutStrategy
      networkConfig := some networkConfig } }

/-- `validateNonnegativeField`. -/
def validateNonnegativeField (value : Int) (names : List String) : List FieldError :=
  if value < 0 then [invalid names (.int value) "must be grater than or equal to 0"] else []

/-- `validatePositiveIntOrPercent`: each complaint of `IsValidPercent` about a
string, or a negative integer. -/
def validatePositiveIntOrPercent (isValidPercent : String → List String) (intOrPercent : IntOrString)
    (names : List String) : List FieldError :=
  match intOrPercent with
  | .string strVal => (isValidPercent strVal).map fun msg => invalid names (.intOrString intOrPercent) msg
  | .int intVal => validateNonnegativeField intVal names

/-- `getPercentValue`: the number before the `%` of a valid percentage, read
by `Atoi` with its error dropped. Cutting the last byte of an empty string
panics. -/
def getPercentValue (isValidPercent : String → List String) (intOrStringValue : IntOrString) :
    Option (Int × Bool) :=
  match intOrStringValue with
  | .int _ => some (0, false)
  | .string strVal =>
    if (isValidPercent strVal).length ≠ 0 then some (0, false)
    else if strVal.toList = [] then none
    else some (Strconv.atoiValue (String.ofList strVal.toList.dropLast), true)

/-- `isNotMoreThan100Percent`. -/
def isNotMoreThan100Percent (isValidPercent : String → List String) (intOrStringValue : IntOrString)
    (names : List String) : Option (List FieldError) := do
  let (value, isPercent) ← getPercentValue isValidPercent intOrStringValue
  if !isPercent || value ≤ 100 then return []
  return [invalid names (.intOrString intOrStringValue) "must not be greater than 100%"]

/-- The path of the subgroup size in this webhook's errors. -/
def subGroupSizePath : List String := ["spec", "leaderWorkerTemplate", "SubGroupPolicy", "subGroupSize"]

/-- `validateUpdateSubGroupPolicy`. Each check appends its error after the
others have run; the remainders divide by the subgroup size, which may be
zero, and the size is read through a pointer, which may be nil. Go's `&&`
computes `(size-1) % subGroupSize` only when `size % subGroupSize != 0`. -/
def validateUpdateSubGroupPolicy (lws : LeaderWorkerSet) : Option (List FieldError) := do
  let size := lws.spec.leaderWorkerTemplate.size
  let some subGroupPolicy := lws.spec.leaderWorkerTemplate.subGroupPolicy | none
  let some subGroupSize := subGroupPolicy.subGroupSize | none
  let badValue := BadValue.optionalInt subGroupPolicy.subGroupSize
  let tooSmall :=
    if subGroupSize < 1 then [invalid subGroupSizePath badValue "subGroupSize must be equal or greater than 1"]
    else []
  let indivisible ←
    if (← remainder? size subGroupSize) ≠ 0 then do
      if (← remainder? (int32 (size - 1)) subGroupSize) ≠ 0 then
        pure [invalid subGroupSizePath badValue "size or size - 1 must be divisible by subGroupSize"]
      else pure []
    else pure []
  let tooLarge :=
    if size < subGroupSize then [invalid subGroupSizePath badValue "subGroupSize cannot be larger than size"]
    else []
  let leaderExcluded ←
    if subGroupPolicy.type = .subGroupPolicyTypeLeaderExcluded then do
      if (← remainder? (int32 (size - 1)) subGroupSize) ≠ 0 then
        pure [invalid subGroupSizePath badValue
          "size-1 must be divisible by subGroupSize when using LeaderExcluded"]
      else pure []
    else pure []
  return tooSmall ++ indivisible ++ tooLarge ++ leaderExcluded

/-- `LeaderWorkerSetWebhook.generalValidate`: the errors of every check, in
the order Go appends them. `validateObjectMeta` checks the object's metadata
with the DNS-1035 name rule. A failed scaling reports its error and leaves
the value `0`. -/
def generalValidate (validateObjectMeta : LeaderWorkerSet → List FieldError)
    (isValidPercent : String → List String) (scaledValue : ScaledValue) (lws : LeaderWorkerSet) :
    Option (List FieldError) := do
  let replicas := lws.spec.replicas
  let size := lws.spec.leaderWorkerTemplate.size
  let replicasErrs :=
    if replicas < 0 then
      [invalid ["spec", "replicas"] (.optionalInt (some replicas)) "replicas must be equal or greater than 0"]
    else []
  let sizeErrs :=
    if size < 1 then
      [invalid ["spec", "leaderWorkerTemplate", "size"] (.optionalInt (some size))
        "size must be equal or greater than 1"]
    else []
  -- both factors are `int32`, so their 64-bit product is exact
  let productErrs :=
    if replicas * size > 2147483647 then
      [invalid ["spec", "replicas"] (.optionalInt (some replicas))
        ("the product of replicas and worker replicas must not exceed " ++ Strconv.itoa 2147483647)]
    else []
  -- the configuration is dereferenced before its nil check
  let some configuration := lws.spec.rolloutStrategy.rollingUpdateConfiguration | none
  let maxUnavailable := configuration.maxUnavailable
  let maxUnavailablePath := ["spec", "rolloutStrategy", "rollingUpdateConfiguration", "maxUnavailable"]
  let maxUnavailableErrs := validatePositiveIntOrPercent isValidPercent maxUnavailable maxUnavailablePath ++
    (← isNotMoreThan100Percent isValidPercent maxUnavailable maxUnavailablePath)
  let maxSurge := configuration.maxSurge
  let maxSurgePath := ["spec", "rolloutStrategy", "rollingUpdateConfiguration", "maxSurge"]
  let maxSurgeErrs := validatePositiveIntOrPercent isValidPercent maxSurge maxSurgePath ++
    (← isNotMoreThan100Percent isValidPercent maxSurge maxSurgePath)
  let maxUnavailableScaled := scaledValue maxUnavailable replicas false
  let maxUnavailableValue := maxUnavailableScaled.toOption.getD 0
  let maxUnavailableValueErrs :=
    if maxUnavailableScaled.isOk then [] else [invalid maxUnavailablePath (.intOrString maxUnavailable) "invalid value"]
  let maxSurgeScaled := scaledValue maxSurge replicas true
  let maxSurgeValue := maxSurgeScaled.toOption.getD 0
  let maxSurgeValueErrs :=
    if maxSurgeScaled.isOk then [] else [invalid maxSurgePath (.intOrString maxSurge) "invalid value"]
  let bothZeroErrs :=
    if maxUnavailableValue = 0 ∧ maxSurgeValue = 0 ∧ replicas ≠ 0 then
      [invalid maxUnavailablePath (.intOrString maxUnavailable) "must not be 0 when \x60maxSurge\x60 is 0"]
    else []
  let subGroupErrs ←
    match lws.spec.leaderWorkerTemplate.subGroupPolicy with
    | some _ => validateUpdateSubGroupPolicy lws
    | none =>
      if lws.annotations.found subGroupExclusiveKeyAnnotationKey then
        pure [invalid ["metadata", "annotations", subGroupExclusiveKeyAnnotationKey]
          (.text (lws.annotations.get subGroupExclusiveKeyAnnotationKey))
          "cannot have subgroup-exclusive-topology without subGroupSize set"]
      else pure []
  return validateObjectMeta lws ++ replicasErrs ++ sizeErrs ++ productErrs ++ maxUnavailableErrs ++
    maxSurgeErrs ++ maxUnavailableValueErrs ++ maxSurgeValueErrs ++ bothZeroErrs ++ subGroupErrs

/-- `LeaderWorkerSetWebhook.ValidateUpdate`: the errors of the new object,
then those of its immutable fields. -/
def validateUpdate (validateObjectMeta : LeaderWorkerSet → List FieldError)
    (isValidPercent : String → List String) (scaledValue : ScaledValue) (oldLws newLws : LeaderWorkerSet) :
    Option (List FieldError) := do
  let generalErrs ← generalValidate validateObjectMeta isValidPercent scaledValue newLws
  let sizeErrs := validateImmutableField newLws.spec.leaderWorkerTemplate.size
    oldLws.spec.leaderWorkerTemplate.size ["spec", "leaderWorkerTemplate", "size"]
  let subGroupErrs ←
    match newLws.spec.leaderWorkerTemplate.subGroupPolicy, oldLws.spec.leaderWorkerTemplate.subGroupPolicy with
    | some newPolicy, some oldPolicy => do
      let some newSize := newPolicy.subGroupSize | none
      let some oldSize := oldPolicy.subGroupSize | none
      pure (validateImmutableField newSize oldSize subGroupSizePath)
    | some newPolicy, none =>
      pure [invalid subGroupSizePath (.optionalInt newPolicy.subGroupSize)
        "cannot enable subGroupSize after the lws is already created"]
    | none, some oldPolicy =>
      pure [invalid subGroupSizePath (.optionalInt oldPolicy.subGroupSize) "cannot remove subGroupSize after enabled"]
    | none, none => pure []
  let networkErrs ←
    match newLws.spec.networkConfig with
    | some networkConfig =>
      if networkConfig.subdomainPolicy = none then do
        let some oldNetworkConfig := oldLws.spec.networkConfig | none
        pure [invalid ["spec", "networkConfig", "subdomainPolicy"]
          (.subdomainPolicy oldNetworkConfig.subdomainPolicy) "cannot set subdomainPolicy as null"]
      else pure []
    | none => pure []
  return generalErrs ++ sizeErrs ++ subGroupErrs ++ networkErrs

/-! ## When validation panics, and what it admits -/

/-- **The subgroup check panics exactly on a missing or zero subgroup size.**
A nil size is dereferenced and a zero size divides. -/
theorem validateUpdateSubGroupPolicy_eq_none_iff (lws : LeaderWorkerSet) :
    validateUpdateSubGroupPolicy lws = none ↔
      ∀ policy ∈ lws.spec.leaderWorkerTemplate.subGroupPolicy,
        policy.subGroupSize = none ∨ policy.subGroupSize = some 0 := by
  unfold validateUpdateSubGroupPolicy
  cases configured : lws.spec.leaderWorkerTemplate.subGroupPolicy with
  | none => simp
  | some policy =>
    simp only [Option.mem_def, Option.some.injEq, forall_eq']
    cases sized : policy.subGroupSize with
    | none => simp
    | some subGroupSize =>
      by_cases zero : subGroupSize = 0
      · subst zero
        simp
      · simp only [remainder?_of_ne _ zero]
        simp [zero]
        split_ifs <;> simp

/-- A panicking subgroup check makes the whole validation panic, whatever
the checks before it found. The percentage checks may panic too; either way
the result is a panic. -/
theorem generalValidate_eq_none_of_subGroupPolicy (validateObjectMeta : LeaderWorkerSet → List FieldError)
    (isValidPercent : String → List String) (scaledValue : ScaledValue) (lws : LeaderWorkerSet)
    {policy : SubGroupPolicy} (configured : lws.spec.leaderWorkerTemplate.subGroupPolicy = some policy)
    (panics : validateUpdateSubGroupPolicy lws = none) :
    generalValidate validateObjectMeta isValidPercent scaledValue lws = none := by
  unfold generalValidate
  simp only [configured, panics]
  cases lws.spec.rolloutStrategy.rollingUpdateConfiguration with
  | none => rfl
  | some configuration =>
    simp only [Option.bind_eq_bind]
    cases isNotMoreThan100Percent isValidPercent configuration.maxUnavailable
      ["spec", "rolloutStrategy", "rollingUpdateConfiguration", "maxUnavailable"] <;>
    cases isNotMoreThan100Percent isValidPercent configuration.maxSurge
      ["spec", "rolloutStrategy", "rollingUpdateConfiguration", "maxSurge"] <;> rfl

/-- A LeaderWorkerSet of one group of four pods in subgroups of the given
size, as a user writes it: without rollout or network configuration, which
`Default` fills. -/
def subGroupLeaderWorkerSet (subGroupSize : Option Int) : LeaderWorkerSet where
  name := "lws"
  namespaceName := "default"
  annotations := ∅
  spec :=
    { replicas := 1
      leaderWorkerTemplate :=
        { leaderTemplate := none
          workerTemplate := ⟨∅, ∅, ⟨"", none, [], []⟩⟩
          size := 4
          restartPolicy := .recreateGroupOnPodRestart
          subGroupPolicy := some ⟨.subGroupPolicyTypeLeaderWorker, subGroupSize⟩ }
      rolloutStrategy := ⟨none⟩
      networkConfig := none }
  status := ⟨[]⟩

/-- A subgroup size of zero, or none at all, reaches the validating webhook
after defaulting and makes both validations panic, whatever the library
functions return. -/
theorem leaderWorkerSetValidation_panics_on_subGroupSize :
    ∀ (validateObjectMeta : LeaderWorkerSet → List FieldError) (isValidPercent : String → List String)
      (scaledValue : ScaledValue) (oldLws : LeaderWorkerSet),
      generalValidate validateObjectMeta isValidPercent scaledValue
          (leaderWorkerSetWebhookDefault (subGroupLeaderWorkerSet (some 0))) = none ∧
        generalValidate validateObjectMeta isValidPercent scaledValue
          (leaderWorkerSetWebhookDefault (subGroupLeaderWorkerSet none)) = none ∧
        validateUpdate validateObjectMeta isValidPercent scaledValue oldLws
          (leaderWorkerSetWebhookDefault (subGroupLeaderWorkerSet (some 0))) = none := by
  intro validateObjectMeta isValidPercent scaledValue oldLws
  have zeroPanics : generalValidate validateObjectMeta isValidPercent scaledValue
      (leaderWorkerSetWebhookDefault (subGroupLeaderWorkerSet (some 0))) = none :=
    generalValidate_eq_none_of_subGroupPolicy _ _ _ _ rfl
      ((validateUpdateSubGroupPolicy_eq_none_iff _).mpr (by simp [leaderWorkerSetWebhookDefault,
        subGroupLeaderWorkerSet]))
  have missingPanics : generalValidate validateObjectMeta isValidPercent scaledValue
      (leaderWorkerSetWebhookDefault (subGroupLeaderWorkerSet none)) = none :=
    generalValidate_eq_none_of_subGroupPolicy _ _ _ _ rfl
      ((validateUpdateSubGroupPolicy_eq_none_iff _).mpr (by simp [leaderWorkerSetWebhookDefault,
        subGroupLeaderWorkerSet]))
  refine ⟨zeroPanics, missingPanics, ?_⟩
  unfold validateUpdate
  rw [zeroPanics]
  rfl

end Lws
