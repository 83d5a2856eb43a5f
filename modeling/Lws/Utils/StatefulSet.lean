import Lws.Api.Cluster
import Lws.Go.Strconv
import Lws.Library.LastField

/-!
# StatefulSet pod names and readiness

A StatefulSet names its pods `name-ordinal`. The LeaderWorkerSet names its
leader StatefulSet after itself and each worker StatefulSet after its leader
pod, so a pod's name tells its group and its place in the group.
`GetParentNameAndOrdinal` reads the two back with the regular expression
`(.*)-([0-9]+)$`.

Go's regular expressions do not let `.` match a newline and anchor `$` at the
end of the text, so a match lies in the last line of the name. The greedy
`(.*)` takes everything up to the last `-` that is followed by digits only,
which is the last `-` of that line. The ordinal is parsed as a 32-bit
integer; a parse error leaves the ordinal `-1` but keeps the parent.

`StatefulsetReady` compares the replicas of the spec with those of the status,
and the current revision with the update revision; it does not read how many
replicas are ready.
-/

namespace Lws

/-- The last line of a text: what follows its last newline. -/
def lastLine (chars : List Char) : List Char :=
  match LastField.splitLast '\n' chars with
  | some (_, line) => line
  | none => chars

/-- `statefulsetutils.GetParentNameAndOrdinal`: the parent StatefulSet's name
and the pod's ordinal, or `("", -1)` when the name does not end in `-digits`. -/
def getParentNameAndOrdinal (name : String) : String × Int :=
  match LastField.splitLast '-' (lastLine name.toList) with
  | some (parent, digits) =>
    if digits ≠ [] ∧ digits.all Char.isDigit = true then
      (String.ofList parent,
        match Strconv.parseInt (String.ofList digits) 32 with
        | .ok ordinal => ordinal
        | .error _ => -1)
    else ("", -1)
  | none => ("", -1)

/-- The name the StatefulSet controller gives its pod of ordinal `ordinal`. -/
def statefulSetPodName (setName : String) (ordinal : Int) : String :=
  setName ++ "-" ++ Strconv.itoa ordinal

/-- `statefulsetutils.StatefulsetReady`: the StatefulSet has created the
replicas of its spec and has no revision left to roll out. -/
def statefulsetReady (sts : ObservedStatefulSet) : Bool :=
  sts.statefulSet.replicas == sts.status.replicas &&
    sts.status.currentRevision == sts.status.updateRevision

theorem statefulSetPodName_ne_empty (setName : String) (ordinal : Int) :
    statefulSetPodName setName ordinal ≠ "" := by
  intro empty
  have length := congrArg String.length empty
  simp [statefulSetPodName] at length

/-- A text that ends in `-` followed by one or more digits. -/
def EndsInDashDigits (chars : List Char) : Prop :=
  ∃ before digits, digits ≠ [] ∧ digits.all Char.isDigit = true ∧ chars = before ++ '-' :: digits

/-- The last line is a suffix of the text. -/
theorem exists_append_lastLine (chars : List Char) : ∃ earlier, chars = earlier ++ lastLine chars := by
  unfold lastLine
  cases split : LastField.splitLast '\n' chars with
  | none => exact ⟨[], rfl⟩
  | some parts =>
    obtain ⟨before, line⟩ := parts
    obtain ⟨joined, -⟩ := LastField.eq_append_of_splitLast split
    exact ⟨before ++ ['\n'], by simp [joined]⟩

/-- A text without newlines is its own last line. -/
theorem lastLine_of_not_mem (chars : List Char) (oneLine : '\n' ∉ chars) : lastLine chars = chars := by
  rw [lastLine, LastField.splitLast_of_not_mem oneLine]

/-- The digits of a natural number hold neither a sign nor a newline. -/
theorem toDigits_all_isDigit (magnitude : Nat) : ∀ c ∈ Nat.toDigits 10 magnitude, c.isDigit = true :=
  fun _ member => Nat.isDigit_of_mem_toDigits (by decide) (by decide) member

/-- **Pod names read back.** The name of a pod of a StatefulSet whose name has
no newline gives back the StatefulSet's name and the ordinal, for every
ordinal a 32-bit StatefulSet has. -/
theorem getParentNameAndOrdinal_statefulSetPodName (setName : String) (ordinal : Int)
    (oneLine : '\n' ∉ setName.toList) (nonnegative : 0 ≤ ordinal) (fits : ordinal < 2147483648) :
    getParentNameAndOrdinal (statefulSetPodName setName ordinal) = (setName, ordinal) := by
  obtain ⟨magnitude, rfl⟩ := Int.eq_ofNat_of_zero_le nonnegative
  have allDigits := toDigits_all_isDigit magnitude
  have noSign : '-' ∉ Nat.toDigits 10 magnitude := fun member => absurd (allDigits '-' member) (by decide)
  have noNewline : '\n' ∉ Nat.toDigits 10 magnitude :=
    fun member => absurd (allDigits '\n' member) (by decide)
  have joined : (statefulSetPodName setName magnitude).toList =
      setName.toList ++ '-' :: Nat.toDigits 10 magnitude := by
    simp [statefulSetPodName, String.toList_append, Strconv.itoa_natCast_toList]
  have oneLineName : lastLine (statefulSetPodName setName magnitude).toList =
      (statefulSetPodName setName magnitude).toList := by
    apply lastLine_of_not_mem
    rw [joined]
    simp [oneLine, noNewline]
  have parsed : Strconv.parseInt (String.ofList (Nat.toDigits 10 magnitude)) 32 = .ok (magnitude : Int) := by
    rw [← Strconv.itoa_natCast_toList, String.ofList_toList]
    exact Strconv.parseInt_itoa _ 32 ⟨by omega, by simpa using fits⟩
  rw [getParentNameAndOrdinal, oneLineName, joined, LastField.splitLast_append '-' _ _ noSign]
  simp [Nat.toDigits_ne_nil, List.all_eq_true.mpr allDigits, parsed]

/-- The characters of the name of a pod of nonnegative ordinal. -/
theorem statefulSetPodName_toList (setName : String) (magnitude : Nat) :
    (statefulSetPodName setName magnitude).toList = setName.toList ++ '-' :: Nat.toDigits 10 magnitude := by
  simp [statefulSetPodName, String.toList_append, Strconv.itoa_natCast_toList]

theorem dash_not_mem_toDigits (magnitude : Nat) : '-' ∉ Nat.toDigits 10 magnitude :=
  fun member => absurd (toDigits_all_isDigit magnitude '-' member) (by decide)

/-- **Pod names of nonnegative ordinals are unique.** The ordinal's digits
hold no `-`, so the last `-` of the name parts the StatefulSet's name from
the ordinal. -/
theorem statefulSetPodName_inj {setName other : String} {ordinal index : Int} (nonnegative : 0 ≤ ordinal)
    (indexNonnegative : 0 ≤ index) (same : statefulSetPodName setName ordinal = statefulSetPodName other index) :
    setName = other ∧ ordinal = index := by
  obtain ⟨magnitude, rfl⟩ := Int.eq_ofNat_of_zero_le nonnegative
  obtain ⟨indexMagnitude, rfl⟩ := Int.eq_ofNat_of_zero_le indexNonnegative
  have split := congrArg (fun name : String => LastField.splitLast '-' name.toList) same
  simp only [statefulSetPodName_toList, LastField.splitLast_append '-' _ _ (dash_not_mem_toDigits _),
    Option.some.injEq, Prod.mk.injEq] at split
  obtain ⟨names, digits⟩ := split
  rw [← Strconv.itoa_natCast_toList, ← Strconv.itoa_natCast_toList] at digits
  exact ⟨String.toList_inj.mp names, Strconv.itoa_inj.mp (String.toList_inj.mp digits)⟩

/-- A text followed by a line ends in that line. -/
theorem lastLine_append (chars suffix : List Char) (oneLine : '\n' ∉ suffix) :
    lastLine (chars ++ suffix) = lastLine chars ++ suffix := by
  unfold lastLine
  rw [LastField.splitLast_append_of_not_mem '\n' chars suffix oneLine]
  cases LastField.splitLast '\n' chars <;> rfl

/-- The ordinal part of a pod name holds no newline. -/
theorem newline_not_mem_ordinal (magnitude : Nat) : '\n' ∉ '-' :: Nat.toDigits 10 magnitude := by
  rw [List.mem_cons, not_or]
  exact ⟨by decide, fun member => absurd (toDigits_all_isDigit magnitude '\n' member) (by decide)⟩

/-- **Every pod name reads back.** Whatever the StatefulSet's name holds, the
digits of the ordinal end the last line of its pod's name, and the parent is
the last line of the StatefulSet's name. -/
theorem getParentNameAndOrdinal_statefulSetPodName_lastLine (setName : String) (ordinal : Int)
    (nonnegative : 0 ≤ ordinal) (fits : ordinal < 2147483648) :
    getParentNameAndOrdinal (statefulSetPodName setName ordinal) =
      (String.ofList (lastLine setName.toList), ordinal) := by
  obtain ⟨magnitude, rfl⟩ := Int.eq_ofNat_of_zero_le nonnegative
  have allDigits := toDigits_all_isDigit magnitude
  have parsed : Strconv.parseInt (String.ofList (Nat.toDigits 10 magnitude)) 32 = .ok (magnitude : Int) := by
    rw [← Strconv.itoa_natCast_toList, String.ofList_toList]
    exact Strconv.parseInt_itoa _ 32 ⟨by omega, by simpa using fits⟩
  rw [getParentNameAndOrdinal, statefulSetPodName_toList, lastLine_append _ _ (newline_not_mem_ordinal magnitude),
    LastField.splitLast_append '-' _ _ (dash_not_mem_toDigits magnitude)]
  simp [Nat.toDigits_ne_nil, List.all_eq_true.mpr allDigits, parsed]

/-- **Other names have no parent.** A name that does not end in `-` and
digits gives `("", -1)`: a match would make its last line, and so the name,
end in `-` and digits. -/
theorem getParentNameAndOrdinal_of_not_endsInDashDigits (name : String)
    (unmatched : ¬EndsInDashDigits name.toList) : getParentNameAndOrdinal name = ("", -1) := by
  unfold getParentNameAndOrdinal
  cases split : LastField.splitLast '-' (lastLine name.toList) with
  | none => rfl
  | some parts =>
    obtain ⟨parent, digits⟩ := parts
    by_cases wellFormed : digits ≠ [] ∧ digits.all Char.isDigit = true
    · obtain ⟨joined, -⟩ := LastField.eq_append_of_splitLast split
      obtain ⟨earlier, suffix⟩ := exists_append_lastLine name.toList
      refine absurd ⟨earlier ++ parent, digits, wellFormed.1, wellFormed.2, ?_⟩ unmatched
      rw [suffix, joined]
      simp
    · simp only [wellFormed, if_false]

/-- A character of a DNS subdomain name: a lowercase letter, a digit, `-` or
`.`. -/
def isDnsNameChar (c : Char) : Bool :=
  c.isLower || c.isDigit || c == '-' || c == '.'

/-- **Pod-name parsing undoes StatefulSet naming.** A nonempty name over the
DNS alphabet joined by `-` to the decimal text of a 32-bit ordinal parses back
into the two, and a name that does not end in `-` and digits has no parent
and ordinal `-1`. -/
theorem getParentNameAndOrdinal_inverts_naming :
    (∀ (parent : String) (ordinal : Int), parent ≠ "" → parent.toList.all isDnsNameChar = true →
      0 ≤ ordinal → ordinal ≤ 2147483647 →
      getParentNameAndOrdinal (parent ++ "-" ++ Strconv.itoa ordinal) = (parent, ordinal)) ∧
    (∀ name : String, ¬EndsInDashDigits name.toList → getParentNameAndOrdinal name = ("", -1)) := by
  refine ⟨?_, getParentNameAndOrdinal_of_not_endsInDashDigits⟩
  intro parent ordinal _ dnsName nonnegative fits
  have oneLine : '\n' ∉ parent.toList := by
    intro member
    have newlineAllowed := List.all_eq_true.mp dnsName '\n' member
    exact absurd newlineAllowed (by decide)
  exact getParentNameAndOrdinal_statefulSetPodName parent ordinal oneLine nonnegative (by omega)

/-- A worker of group 0 read back from its name, and a name without an
ordinal. -/
theorem getParentNameAndOrdinal_inverts_naming_on_worker_name :
    getParentNameAndOrdinal ("lws-0" ++ "-" ++ Strconv.itoa 3) = ("lws-0", 3) ∧
      getParentNameAndOrdinal "lws" = ("", -1) := by
  have unmatched : ¬EndsInDashDigits "lws".toList := by
    rintro ⟨before, digits, -, -, joined⟩
    have dash : '-' ∈ "lws".toList := by
      rw [joined]
      simp
    exact absurd dash (by decide)
  exact ⟨getParentNameAndOrdinal_inverts_naming.1 "lws-0" 3 (by decide) (by decide) (by decide) (by decide),
    getParentNameAndOrdinal_inverts_naming.2 "lws" unmatched⟩

end Lws
