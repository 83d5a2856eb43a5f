import Lws.Api.LeaderWorkerSet
import Lws.Go.Runtime
import Lws.Library.LastField

/-!
# Controller revisions

A LeaderWorkerSet records each template it has rolled out as a
ControllerRevision. The revision's data is a strategic merge patch that
replaces the leader-worker template and the network configuration whole
(`$patch: replace`); applying it to the current object restores those two
fields and keeps the rest. The patch bytes are modelled by the two values they
encode, and the FNV hash of them, `hashRevision`, is a parameter.

A revision carries the set's name and a revision key label, the hash unless a
key is given; its name is `prefix-hash-number`, where the number is one more
than the highest number of the set's revisions. Listing revisions by label,
ownership and namespace is modelled by the list of the set's revisions.
-/

namespace Lws

/-- The state a revision records: the two fields its patch replaces. -/
structure RevisionPatch where
  leaderWorkerTemplate : LeaderWorkerTemplate
  networkConfig : NetworkConfig
deriving DecidableEq

/-- `appsv1.ControllerRevision`, with its data as the patch it encodes. -/
structure ControllerRevision where
  name : String
  labels : StringMap
  data : RevisionPatch
  revision : Int
deriving DecidableEq

/-- `getPatch`. A missing network configuration is recorded as `Shared`, the
value the webhook would give it. -/
def getPatch (lws : LeaderWorkerSet) : RevisionPatch :=
  { leaderWorkerTemplate := lws.spec.leaderWorkerTemplate
    networkConfig := lws.spec.networkConfig.getD ⟨some .subdomainShared⟩ }

/-- `ApplyRevision`: the object with the revision's template and network
configuration. -/
def applyRevision (lws : LeaderWorkerSet) (revision : ControllerRevision) : LeaderWorkerSet :=
  { lws with
    spec := { lws.spec with
      leaderWorkerTemplate := revision.data.leaderWorkerTemplate
      networkConfig := some revision.data.networkConfig } }

/-- `GetRevisionKey`: the revision key label, empty when absent. -/
def getRevisionKey (labels : StringMap) : String := labels.get revisionKey

/-- `getHighestRevision`: the last revision of the highest number, starting
the search from number `0`. -/
def getHighestRevision (revisions : List ControllerRevision) : Option ControllerRevision :=
  (revisions.foldl (fun (highest : Int × Option ControllerRevision) revision =>
    if highest.1 ≤ revision.revision then (revision.revision, some revision) else highest) (0, none)).2

/-- `revisionName`: the prefix cut to 220 characters, the hash and the
number. -/
def revisionName (namePrefix hash : String) (revisionNumber : Int) : String :=
  let namePrefix := if namePrefix.length > 220 then String.ofList (namePrefix.toList.take 220) else namePrefix
  namePrefix ++ "-" ++ hash ++ "-" ++ Strconv.itoa revisionNumber

/-- `NewRevision`, given the set's revisions: numbered after the highest one,
keyed by the given key or else by the hash. -/
def newRevision (hashRevision : RevisionPatch → String) (revisions : List ControllerRevision)
    (lws : LeaderWorkerSet) (revisionKeyValue : String) : ControllerRevision :=
  let revision := match getHighestRevision revisions with
    | some highestRevision => int64 (highestRevision.revision + 1)
    | none => 1
  let patch := getPatch lws
  let hash := hashRevision patch
  let revisionKeyValue := if revisionKeyValue = "" then hash else revisionKeyValue
  { name := revisionName lws.name hash revision
    labels := StringMap.ofList [(setNameLabelKey, lws.name), (revisionKey, revisionKeyValue)]
    data := patch
    revision }

/-- The revisions `GetRevision` lists: those of the set that carry the key. -/
def revisionsWithKey (revisions : List ControllerRevision) (setName revisionKeyValue : String) :
    List ControllerRevision :=
  revisions.filter fun revision =>
    revision.labels.lookup setNameLabelKey == some setName && revision.labels.lookup revisionKey == some revisionKeyValue

/-- `GetRevision`: no revision for the empty key; the one revision with the
key, or the highest of several. -/
def getRevision (revisions : List ControllerRevision) (lws : LeaderWorkerSet) (revisionKeyValue : String) :
    Option ControllerRevision :=
  if revisionKeyValue = "" then none
  else
    match revisionsWithKey revisions lws.name revisionKeyValue with
    | [] => none
    | [revision] => some revision
    | matching => getHighestRevision matching

/-- `EqualRevision` of two revisions: the same patch. -/
def equalRevision (lhs rhs : ControllerRevision) : Bool := lhs.data == rhs.data

/-- `TruncateRevisions`: the set's revisions with another key are deleted. -/
def truncateRevisions (revisions : List ControllerRevision) (lws : LeaderWorkerSet) (revisionKeyValue : String) :
    List ControllerRevision :=
  revisions.filter fun revision =>
    !(revision.labels.lookup setNameLabelKey == some lws.name) || getRevisionKey revision.labels == revisionKeyValue

@[simp] theorem applyRevision_leaderWorkerTemplate (lws : LeaderWorkerSet) (revision : ControllerRevision) :
    (applyRevision lws revision).spec.leaderWorkerTemplate = revision.data.leaderWorkerTemplate := rfl

@[simp] theorem applyRevision_networkConfig (lws : LeaderWorkerSet) (revision : ControllerRevision) :
    (applyRevision lws revision).spec.networkConfig = some revision.data.networkConfig := rfl

/-- **Applying a revision restores its patch.** The patch of the object a
revision is applied to is the revision's own. -/
theorem getPatch_applyRevision (lws : LeaderWorkerSet) (revision : ControllerRevision) :
    getPatch (applyRevision lws revision) = revision.data := by
  simp [getPatch]

/-- A revision's name ends in its number: two names with different
nonnegative numbers differ, whatever their prefixes and hashes. -/
theorem revisionName_number {namePrefix hash otherPrefix otherHash : String} {revisionNumber other : Int}
    (nonnegative : 0 ≤ revisionNumber) (otherNonnegative : 0 ≤ other)
    (same : revisionName namePrefix hash revisionNumber = revisionName otherPrefix otherHash other) :
    revisionNumber = other := by
  obtain ⟨magnitude, rfl⟩ := Int.eq_ofNat_of_zero_le nonnegative
  obtain ⟨otherMagnitude, rfl⟩ := Int.eq_ofNat_of_zero_le otherNonnegative
  have lastField : ∀ (start : String) (value : Nat),
      LastField.splitLast '-' (start ++ "-" ++ Strconv.itoa value).toList =
        some (start.toList, Nat.toDigits 10 value) := by
    intro start value
    have noDash : '-' ∉ Nat.toDigits 10 value :=
      fun member => absurd (Nat.isDigit_of_mem_toDigits (by decide) (by decide) member) (by decide)
    rw [String.toList_append, String.toList_append, Strconv.itoa_natCast_toList]
    simpa using LastField.splitLast_append '-' start.toList _ noDash
  have split := congrArg (fun name => LastField.splitLast '-' name.toList) same
  simp only [revisionName, lastField, Option.some.injEq, Prod.mk.injEq] at split
  have digits : Nat.toDigits 10 magnitude = Nat.toDigits 10 otherMagnitude := split.2
  rw [← Strconv.itoa_natCast_toList, ← Strconv.itoa_natCast_toList, String.toList_inj,
    Strconv.itoa_inj] at digits
  exact digits

end Lws
