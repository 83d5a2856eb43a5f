import Lws.Controllers.StatefulSets

/-!
# The revision history over reconciles

`Reconcile` keeps a history of ControllerRevisions for each LeaderWorkerSet.
`getOrCreateRevisionIfNonExist` finds the revision that the leader
StatefulSet's key names, or creates one; `getUpdatedRevision` makes a further
revision when the set's current patch differs from it. The server-side apply
then writes that revision's key into the leader StatefulSet, and once the
update is done `TruncateRevisions` deletes the revisions with any other key.

The API server is modelled by what these calls read and write: the revisions
the set owns, in the order they were created, and the revision key label of the
leader StatefulSet, `none` while the StatefulSet does not exist.
`CreateRevision` fails when the name is taken, as the API server answers. The
calls that follow it (the rolling update parameters, the apply, the headless
services, the status update) are summed up by whether they succeeded, a
`ReconcileOutcome`. A failed call ends the reconcile, and what was written
before it stays written.

Over any run, revision names stay unique and the revision that the leader
StatefulSet names is never deleted. A rollout in which every apply succeeds
keeps the old and the new revision until the update is done, and the new one
alone after it. Revision keys do not stay unique: when the apply fails after
the revision of a new template was created, the leader keeps the old key, and
the retry creates that revision again under the next number.
-/

namespace Lws

/-- What the API server holds for one LeaderWorkerSet and its revision logic
reads: the revisions the set owns, oldest first, and the revision key label of
the leader StatefulSet, `none` before it exists. -/
structure RevisionStore where
  revisions : List ControllerRevision
  leaderRevisionKey : Option String
deriving DecidableEq

/-- The store of a set that was just created. -/
def RevisionStore.empty : RevisionStore := ⟨[], none⟩

/-- How the calls after the revision logic end: `applied` when the rolling
update parameters and the server-side apply of the leader StatefulSet succeed,
`updateDone` when the headless services and the status update succeed too and
the status reports the update done. -/
structure ReconcileOutcome where
  applied : Bool
  updateDone : Bool
deriving DecidableEq

/-- `CreateRevision`: the API server refuses a name it already holds. -/
def createRevision (revisions : List ControllerRevision) (revision : ControllerRevision) :
    Except String (List ControllerRevision) :=
  if revisions.any (·.name == revision.name) then
    .error ("controllerrevisions.apps \"" ++ revision.name ++ "\" already exists")
  else .ok (revisions ++ [revision])

/-- `getOrCreateRevisionIfNonExist`: the revision that the leader StatefulSet's
key names or, when there is none, a new revision with that key, created. It
returns the revisions after the call and the revision. -/
def getOrCreateRevisionIfNonExist (hashRevision : RevisionPatch → String) (store : RevisionStore)
    (lws : LeaderWorkerSet) : Except String (List ControllerRevision × ControllerRevision) := do
  let revisionKeyValue := store.leaderRevisionKey.getD ""
  match getRevision store.revisions lws revisionKeyValue with
  | some stsRevision => pure (store.revisions, stsRevision)
  | none =>
    let revision := newRevision hashRevision store.revisions lws revisionKeyValue
    let revisions ← createRevision store.revisions revision
    pure (revisions, revision)

/-- `getUpdatedRevision`: once the leader StatefulSet exists, a new revision of
the set as it is now, when its patch differs from the given revision's. -/
def getUpdatedRevision (hashRevision : RevisionPatch → String) (store : RevisionStore)
    (lws : LeaderWorkerSet) (revision : ControllerRevision) : Option ControllerRevision :=
  if store.leaderRevisionKey.isNone then none
  else
    let currentRevision := newRevision hashRevision store.revisions lws ""
    if !equalRevision currentRevision revision then some currentRevision else none

/-- The calls of `Reconcile` after the revision is chosen: the server-side
apply writes the revision's key into the leader StatefulSet and, when the
update is done, `TruncateRevisions` keeps only the revisions with that key. -/
def applyAndTruncate (lws : LeaderWorkerSet) (outcome : ReconcileOutcome) (revision : ControllerRevision)
    (store : RevisionStore) : RevisionStore :=
  if !outcome.applied then store
  else
    let revisionKeyValue := getRevisionKey revision.labels
    let store := { store with leaderRevisionKey := some revisionKeyValue }
    if outcome.updateDone then { store with revisions := truncateRevisions store.revisions lws revisionKeyValue }
    else store

/-- The revision logic of `Reconcile`, from reading the leader StatefulSet to
truncating the history. -/
def reconcileRevisions (hashRevision : RevisionPatch → String) (lws : LeaderWorkerSet)
    (outcome : ReconcileOutcome) (store : RevisionStore) : RevisionStore :=
  match getOrCreateRevisionIfNonExist hashRevision store lws with
  | .error _ => store
  | .ok (revisions, revision) =>
    let store := { store with revisions }
    match getUpdatedRevision hashRevision store lws revision with
    | none => applyAndTruncate lws outcome revision store
    | some updatedRevision =>
      match createRevision store.revisions updatedRevision with
      | .error _ => store
      | .ok revisions => applyAndTruncate lws outcome updatedRevision { store with revisions }

/-- Reconciles one after another, each of the set as it then is, with the
outcome of its later calls. -/
def reconcileRun (hashRevision : RevisionPatch → String) (store : RevisionStore) :
    List (LeaderWorkerSet × ReconcileOutcome) → RevisionStore
  | [] => store
  | (lws, outcome) :: reconciles =>
    reconcileRun hashRevision (reconcileRevisions hashRevision lws outcome store) reconciles

/-! ## Revisions -/

section NewRevision

variable (hashRevision : RevisionPatch → String) (revisions : List ControllerRevision)
  (lws : LeaderWorkerSet) (revisionKeyValue : String)

@[simp] theorem newRevision_data :
    (newRevision hashRevision revisions lws revisionKeyValue).data = getPatch lws := rfl

@[simp] theorem newRevision_name :
    (newRevision hashRevision revisions lws revisionKeyValue).name =
      revisionName lws.name (hashRevision (getPatch lws))
        (newRevision hashRevision revisions lws revisionKeyValue).revision := rfl

theorem newRevision_revision_of_none (noHighest : getHighestRevision revisions = none) :
    (newRevision hashRevision revisions lws revisionKeyValue).revision = 1 := by
  simp [newRevision, noHighest]

theorem newRevision_revision_of_highest {highestRevision : ControllerRevision}
    (highest : getHighestRevision revisions = some highestRevision) :
    (newRevision hashRevision revisions lws revisionKeyValue).revision =
      int64 (highestRevision.revision + 1) := by
  simp [newRevision, highest]

@[simp] theorem newRevision_lookup_setName :
    (newRevision hashRevision revisions lws revisionKeyValue).labels.lookup setNameLabelKey =
      some lws.name := by
  have different : setNameLabelKey ≠ revisionKey := by decide
  simp [newRevision, StringMap.ofList, different]

@[simp] theorem getRevisionKey_newRevision :
    getRevisionKey (newRevision hashRevision revisions lws revisionKeyValue).labels =
      if revisionKeyValue = "" then hashRevision (getPatch lws) else revisionKeyValue := by
  simp [newRevision, StringMap.ofList, getRevisionKey, StringMap.get_eq]

@[simp] theorem newRevision_lookup_revisionKey :
    (newRevision hashRevision revisions lws revisionKeyValue).labels.lookup revisionKey =
      some (getRevisionKey (newRevision hashRevision revisions lws revisionKeyValue).labels) := by
  simp [newRevision, StringMap.ofList, getRevisionKey, StringMap.get_eq]

end NewRevision

/-- Two new revisions with different nonnegative numbers have different names,
whatever their sets and hashes. -/
theorem newRevision_name_ne {hashRevision : RevisionPatch → String} {revisions others : List ControllerRevision}
    {lws other : LeaderWorkerSet} {revisionKeyValue otherKey : String} {number otherNumber : Int}
    (numbered : (newRevision hashRevision revisions lws revisionKeyValue).revision = number)
    (otherNumbered : (newRevision hashRevision others other otherKey).revision = otherNumber)
    (nonnegative : 0 ≤ number) (otherNonnegative : 0 ≤ otherNumber) (renumbered : number ≠ otherNumber) :
    (newRevision hashRevision revisions lws revisionKeyValue).name ≠
      (newRevision hashRevision others other otherKey).name := by
  intro same
  rw [newRevision_name, newRevision_name, numbered, otherNumbered] at same
  exact renumbered (revisionName_number nonnegative otherNonnegative same)

/-- The revision `getHighestRevision` picks is one of the revisions: the
search keeps either its start or a revision it has seen. -/
theorem getHighestRevision_mem {revisions : List ControllerRevision} {highestRevision : ControllerRevision}
    (highest : getHighestRevision revisions = some highestRevision) : highestRevision ∈ revisions := by
  revert highest
  unfold getHighestRevision
  apply List.foldlRecOn (motive := fun highest : Int × Option ControllerRevision =>
    highest.2 = some highestRevision → highestRevision ∈ revisions)
  · intro start
    cases start
  · intro highest kept revision member
    split
    · rintro ⟨⟩
      exact member
    · exact kept

/-- `GetRevision` returns a revision of the set's. -/
theorem getRevision_mem {revisions : List ControllerRevision} {lws : LeaderWorkerSet}
    {revisionKeyValue : String} {revision : ControllerRevision}
    (found : getRevision revisions lws revisionKeyValue = some revision) : revision ∈ revisions := by
  have kept : ∀ revision ∈ revisionsWithKey revisions lws.name revisionKeyValue, revision ∈ revisions :=
    fun _ member => List.mem_of_mem_filter member
  unfold getRevision at found
  split at found
  · cases found
  · split at found
    · cases found
    · rename_i only
      cases found
      exact kept _ (by simp [only])
    · exact kept _ (getHighestRevision_mem found)

/-- `TruncateRevisions` keeps every revision with the key. -/
theorem mem_truncateRevisions {revisions : List ControllerRevision} {lws : LeaderWorkerSet}
    {revision : ControllerRevision} (member : revision ∈ revisions) :
    revision ∈ truncateRevisions revisions lws (getRevisionKey revision.labels) := by
  simp [truncateRevisions, member]

theorem truncateRevisions_sublist (revisions : List ControllerRevision) (lws : LeaderWorkerSet)
    (revisionKeyValue : String) : (truncateRevisions revisions lws revisionKeyValue).Sublist revisions :=
  List.filter_sublist

/-- `CreateRevision` succeeds exactly when the name is free, and appends the
revision. -/
theorem createRevision_eq_ok {revisions updated : List ControllerRevision} {revision : ControllerRevision} :
    createRevision revisions revision = .ok updated ↔
      revision.name ∉ revisions.map (·.name) ∧ updated = revisions ++ [revision] := by
  unfold createRevision
  split
  · rename_i taken
    simp only [List.any_eq_true, beq_iff_eq] at taken
    obtain ⟨other, member, same⟩ := taken
    simp only [reduceCtorEq, false_iff, not_and, List.mem_map, not_exists]
    intro free
    exact absurd same (free other member)
  · rename_i free
    simp only [List.any_eq_true, beq_iff_eq, not_exists, not_and] at free
    have fresh : revision.name ∉ revisions.map (·.name) := by
      simp only [List.mem_map, not_exists, not_and]
      exact fun other member same => free other member same
    constructor
    · rintro ⟨⟩
      exact ⟨fresh, rfl⟩
    · rintro ⟨-, rfl⟩
      rfl

/-! ## One reconcile -/

section Reconcile

variable {hashRevision : RevisionPatch → String} {lws : LeaderWorkerSet} {outcome : ReconcileOutcome}
  {store : RevisionStore}

/-- What `getOrCreateRevisionIfNonExist` can return: a stored revision with the
revisions as they were, or a revision under a free name, appended. -/
theorem getOrCreateRevisionIfNonExist_eq_ok {revisions : List ControllerRevision} {revision : ControllerRevision}
    (succeeded : getOrCreateRevisionIfNonExist hashRevision store lws = .ok (revisions, revision)) :
    (revision ∈ store.revisions ∧ revisions = store.revisions) ∨
      (revision.name ∉ store.revisions.map (·.name) ∧ revisions = store.revisions ++ [revision]) := by
  dsimp only [getOrCreateRevisionIfNonExist] at succeeded
  split at succeeded
  · rename_i found
    simp only [pure_eq_ok, Prod.mk.injEq] at succeeded
    obtain ⟨rfl, rfl⟩ := succeeded
    exact .inl ⟨getRevision_mem found, rfl⟩
  · obtain ⟨created, creating, returned⟩ := bind_eq_ok.mp succeeded
    simp only [pure_eq_ok, Prod.mk.injEq] at returned
    obtain ⟨rfl, rfl⟩ := returned
    exact .inr (createRevision_eq_ok.mp creating)

theorem applyAndTruncate_of_failed (revision : ControllerRevision) (failed : outcome.applied = false) :
    applyAndTruncate lws outcome revision store = store := by
  simp [applyAndTruncate, failed]

theorem applyAndTruncate_of_applied (revision : ControllerRevision) (applied : outcome.applied = true) :
    applyAndTruncate lws outcome revision store =
      { revisions := if outcome.updateDone then
          truncateRevisions store.revisions lws (getRevisionKey revision.labels) else store.revisions
        leaderRevisionKey := some (getRevisionKey revision.labels) } := by
  unfold applyAndTruncate
  cases outcome.updateDone <;> simp [applied]

/-- **A new set's first reconcile** creates the revision of its template,
keyed by the template's hash, and points the leader StatefulSet at it. -/
theorem reconcileRevisions_empty (applied : outcome.applied = true) :
    reconcileRevisions hashRevision lws outcome RevisionStore.empty =
      ⟨[newRevision hashRevision [] lws ""], some (hashRevision (getPatch lws))⟩ := by
  have created : createRevision [] (newRevision hashRevision [] lws "") =
      .ok [newRevision hashRevision [] lws ""] := createRevision_eq_ok.mpr ⟨by simp, rfl⟩
  simp only [reconcileRevisions, getOrCreateRevisionIfNonExist, RevisionStore.empty, Option.getD_none,
    getRevision, if_pos, created]
  simp [getUpdatedRevision, applyAndTruncate_of_applied _ applied, truncateRevisions]

/-- The reconcile finds the revision that the leader StatefulSet's key names
and creates nothing at that point. -/
theorem getOrCreateRevisionIfNonExist_of_found {revisionKeyValue : String} {revision : ControllerRevision}
    (leader : store.leaderRevisionKey = some revisionKeyValue)
    (found : getRevision store.revisions lws revisionKeyValue = some revision) :
    getOrCreateRevisionIfNonExist hashRevision store lws = .ok (store.revisions, revision) := by
  simp only [getOrCreateRevisionIfNonExist, leader, Option.getD_some, found]
  rfl

/-- **A template change found by a reconcile** creates the revision of the set
as it is now, numbered after the highest, before any later call can fail. -/
theorem reconcileRevisions_of_changed {revisionKeyValue : String} {revision : ControllerRevision}
    (leader : store.leaderRevisionKey = some revisionKeyValue)
    (found : getRevision store.revisions lws revisionKeyValue = some revision)
    (changed : getPatch lws ≠ revision.data)
    (fresh : (newRevision hashRevision store.revisions lws "").name ∉ store.revisions.map (·.name)) :
    reconcileRevisions hashRevision lws outcome store =
      applyAndTruncate lws outcome (newRevision hashRevision store.revisions lws "")
        { store with revisions := store.revisions ++ [newRevision hashRevision store.revisions lws ""] } := by
  have created := createRevision_eq_ok.mpr (And.intro fresh rfl)
  have updated : getUpdatedRevision hashRevision store lws revision =
      some (newRevision hashRevision store.revisions lws "") := by
    simp [getUpdatedRevision, leader, equalRevision, changed]
  simp only [reconcileRevisions, getOrCreateRevisionIfNonExist_of_found leader found, updated, created]

/-- **A reconcile of an unchanged set creates nothing.** When the leader's key
names a revision of the set's current patch, the reconcile only writes that
key again and, once the update is done, truncates the history to it. -/
theorem reconcileRevisions_of_current {revisionKeyValue : String} {revision : ControllerRevision}
    (leader : store.leaderRevisionKey = some revisionKeyValue)
    (found : getRevision store.revisions lws revisionKeyValue = some revision)
    (current : getPatch lws = revision.data) :
    reconcileRevisions hashRevision lws outcome store = applyAndTruncate lws outcome revision store := by
  have unchanged : getUpdatedRevision hashRevision store lws revision = none := by
    simp [getUpdatedRevision, leader, equalRevision, current]
  simp only [reconcileRevisions, getOrCreateRevisionIfNonExist_of_found leader found, unchanged]

end Reconcile

/-! ## Whole runs -/

/-- What every run keeps: revision names are unique, as the API server
enforces, and the revision that the leader StatefulSet's key names is stored. -/
structure RevisionStore.Valid (store : RevisionStore) : Prop where
  namesUnique : (store.revisions.map (·.name)).Nodup
  leaderStored : ∀ revisionKeyValue, store.leaderRevisionKey = some revisionKeyValue →
    ∃ revision ∈ store.revisions, getRevisionKey revision.labels = revisionKeyValue

section Valid

variable {hashRevision : RevisionPatch → String} {lws : LeaderWorkerSet} {outcome : ReconcileOutcome}
  {store : RevisionStore}

theorem RevisionStore.empty_valid : RevisionStore.empty.Valid :=
  ⟨List.nodup_nil, fun _ none => by cases none⟩

/-- Creating a revision under a free name keeps the store valid. -/
theorem RevisionStore.Valid.append (valid : store.Valid) {revision : ControllerRevision}
    (fresh : revision.name ∉ store.revisions.map (·.name)) :
    { store with revisions := store.revisions ++ [revision] }.Valid := by
  constructor
  · rw [List.map_append, List.map_singleton, List.nodup_append]
    refine ⟨valid.namesUnique, List.nodup_singleton _, ?_⟩
    intro name named other single same
    rw [List.mem_singleton.mp single] at same
    exact fresh (same ▸ named)
  · intro revisionKeyValue leader
    obtain ⟨stored, member, keyed⟩ := valid.leaderStored revisionKeyValue leader
    exact ⟨stored, List.mem_append_left _ member, keyed⟩

/-- The apply and the truncation keep the store valid when the revision whose
key they write is stored: the truncation keeps every revision with that key. -/
theorem RevisionStore.Valid.applyAndTruncate (valid : store.Valid) {revision : ControllerRevision}
    (member : revision ∈ store.revisions) : (applyAndTruncate lws outcome revision store).Valid := by
  cases applied : outcome.applied
  · rwa [applyAndTruncate_of_failed revision applied]
  · rw [applyAndTruncate_of_applied revision applied]
    constructor
    · split
      · exact valid.namesUnique.sublist ((truncateRevisions_sublist _ _ _).map _)
      · exact valid.namesUnique
    · rintro _ ⟨⟩
      split
      · exact ⟨revision, mem_truncateRevisions member, rfl⟩
      · exact ⟨revision, member, rfl⟩

/-- One reconcile keeps the store valid, wherever it stops. After
`getOrCreateRevisionIfNonExist` the store is valid and holds the revision the
later steps read. -/
theorem reconcileRevisions_valid (valid : store.Valid) :
    (reconcileRevisions hashRevision lws outcome store).Valid := by
  unfold reconcileRevisions
  split
  · exact valid
  · rename_i revisions revision fetched
    have gotten : { store with revisions }.Valid ∧ revision ∈ revisions := by
      rcases getOrCreateRevisionIfNonExist_eq_ok fetched with ⟨member, rfl⟩ | ⟨fresh, rfl⟩
      · exact ⟨valid, member⟩
      · exact ⟨valid.append fresh, List.mem_concat_self⟩
    dsimp only
    split
    · exact gotten.1.applyAndTruncate gotten.2
    · split
      · exact gotten.1
      · rename_i created
        obtain ⟨fresh, rfl⟩ := createRevision_eq_ok.mp created
        exact (gotten.1.append fresh).applyAndTruncate List.mem_concat_self

/-- Every run keeps the store valid. -/
theorem reconcileRun_valid (valid : store.Valid) (reconciles : List (LeaderWorkerSet × ReconcileOutcome)) :
    (reconcileRun hashRevision store reconciles).Valid := by
  induction reconciles generalizing store with
  | nil => exact valid
  | cons reconcile reconciles ih => exact ih (reconcileRevisions_valid valid)

/-- **The leader's revision is never deleted.** Over any run of reconciles of
a new set, whatever fails, revision names stay unique and the key of the leader
StatefulSet names a stored revision. -/
theorem reconcileRun_empty_valid (hashRevision : RevisionPatch → String)
    (reconciles : List (LeaderWorkerSet × ReconcileOutcome)) :
    (reconcileRun hashRevision RevisionStore.empty reconciles).Valid :=
  reconcileRun_valid RevisionStore.empty_valid reconciles

end Valid

/-- What can happen to the revisions of the set named `setName` and its
leader's key: a reconcile of the set, with any outcome of its later calls, or
the removal of the leader StatefulSet. -/
inductive RevisionStep (hashRevision : RevisionPatch → String) (setName : String) :
    RevisionStore → RevisionStore → Prop where
  | reconcile (lws : LeaderWorkerSet) (named : lws.name = setName) (outcome : ReconcileOutcome)
    (store : RevisionStore) : RevisionStep hashRevision setName store (reconcileRevisions hashRevision lws outcome store)
  | leaderRemoved (store : RevisionStore) :
    RevisionStep hashRevision setName store { store with leaderRevisionKey := none }

/-- Every move of a set's revisions keeps them valid. -/
theorem RevisionStore.Valid.revisionStep {hashRevision : RevisionPatch → String} {setName : String}
    {store next : RevisionStore} (valid : store.Valid)
    (step : RevisionStep hashRevision setName store next) : next.Valid := by
  cases step with
  | reconcile lws named outcome => exact reconcileRevisions_valid valid
  | leaderRemoved => exact ⟨valid.namesUnique, fun _ removed => by cases removed⟩

theorem reconcileRun_append (hashRevision : RevisionPatch → String) (store : RevisionStore)
    (reconciles later : List (LeaderWorkerSet × ReconcileOutcome)) :
    reconcileRun hashRevision store (reconciles ++ later) =
      reconcileRun hashRevision (reconcileRun hashRevision store reconciles) later := by
  induction reconciles generalizing store with
  | nil => rfl
  | cons reconcile reconciles ih => exact ih _

/-- A reconcile that leaves the store as it is can repeat any number of times. -/
theorem reconcileRun_replicate_of_fixed {hashRevision : RevisionPatch → String} {lws : LeaderWorkerSet}
    {outcome : ReconcileOutcome} {store : RevisionStore}
    (fixed : reconcileRevisions hashRevision lws outcome store = store) (count : Nat) :
    reconcileRun hashRevision store (List.replicate count (lws, outcome)) = store := by
  induction count with
  | zero => rfl
  | succ count ih => rw [List.replicate_succ, reconcileRun, fixed, ih]

/-! ## The first template change -/

section TemplateChange

variable (hashRevision : RevisionPatch → String) (lws updated : LeaderWorkerSet)

theorem firstRevision_number : (newRevision hashRevision [] lws "").revision = 1 :=
  newRevision_revision_of_none _ _ _ _ rfl

theorem secondRevision_number (revisionKeyValue : String) :
    (newRevision hashRevision [newRevision hashRevision [] lws ""] updated revisionKeyValue).revision = 2 := by
  have highest : getHighestRevision [newRevision hashRevision [] lws ""] =
      some (newRevision hashRevision [] lws "") := by
    simp [getHighestRevision, firstRevision_number]
  rw [newRevision_revision_of_highest _ _ _ _ highest, firstRevision_number]
  decide

/-- **The reconcile that meets the first template change.** The leader
StatefulSet names the first revision, so the reconcile creates the revision of
the new template, number 2, before the apply, whatever the apply does. -/
theorem reconcileRevisions_of_template_change (outcome : ReconcileOutcome)
    (keyed : hashRevision (getPatch lws) ≠ "") (sameName : updated.name = lws.name)
    (changed : hashRevision (getPatch updated) ≠ hashRevision (getPatch lws)) :
    reconcileRevisions hashRevision updated outcome
        ⟨[newRevision hashRevision [] lws ""], some (hashRevision (getPatch lws))⟩ =
      applyAndTruncate updated outcome (newRevision hashRevision [newRevision hashRevision [] lws ""] updated "")
        ⟨[newRevision hashRevision [] lws "", newRevision hashRevision [newRevision hashRevision [] lws ""] updated ""],
          some (hashRevision (getPatch lws))⟩ := by
  have found : getRevision [newRevision hashRevision [] lws ""] updated (hashRevision (getPatch lws)) =
      some (newRevision hashRevision [] lws "") := by
    simp [getRevision, revisionsWithKey, keyed, sameName]
  have fresh : (newRevision hashRevision [newRevision hashRevision [] lws ""] updated "").name ∉
      [newRevision hashRevision [] lws ""].map (·.name) := by
    simp only [List.map_cons, List.map_nil, List.mem_singleton]
    exact newRevision_name_ne (secondRevision_number _ _ _ _) (firstRevision_number _ _)
      (by decide) (by decide) (by decide)
  exact reconcileRevisions_of_changed rfl found (fun same => changed (congrArg hashRevision same)) fresh

end TemplateChange

/-! ## A rollout without failures -/

/-- **A rollout without failures.** A set is created and reconciled, its
template changes once, and every later reconcile applies. The history holds the
old and the new revision for as long as the update is not done, and the new one
alone once it is. The reconcile that meets the change points the leader at the
new revision, and every later reconcile finds it, since it records the set's
patch. -/
theorem reconcileRun_rollout (hashRevision : RevisionPatch → String) (lws updated : LeaderWorkerSet)
    (createdDone : Bool) (waiting : Nat)
    (keyed : hashRevision (getPatch lws) ≠ "") (updatedKeyed : hashRevision (getPatch updated) ≠ "")
    (sameName : updated.name = lws.name)
    (changed : hashRevision (getPatch updated) ≠ hashRevision (getPatch lws)) :
    (reconcileRun hashRevision RevisionStore.empty
      ((lws, ⟨true, createdDone⟩) :: (updated, ⟨true, false⟩) ::
        List.replicate waiting (updated, ⟨true, false⟩))).revisions =
        [newRevision hashRevision [] lws "", newRevision hashRevision [newRevision hashRevision [] lws ""] updated ""] ∧
    (reconcileRun hashRevision RevisionStore.empty
      ((lws, ⟨true, createdDone⟩) :: (updated, ⟨true, false⟩) ::
        List.replicate waiting (updated, ⟨true, false⟩) ++ [(updated, ⟨true, true⟩)])).revisions =
        [newRevision hashRevision [newRevision hashRevision [] lws ""] updated ""] := by
  let created := newRevision hashRevision [] lws ""
  let current := newRevision hashRevision [created] updated ""
  have currentKey : getRevisionKey current.labels = hashRevision (getPatch updated) := by
    simp [current]
  have afterCreate : reconcileRevisions hashRevision lws ⟨true, createdDone⟩ RevisionStore.empty =
      ⟨[created], some (hashRevision (getPatch lws))⟩ := reconcileRevisions_empty rfl
  have afterUpdate : reconcileRevisions hashRevision updated ⟨true, false⟩
      ⟨[created], some (hashRevision (getPatch lws))⟩ =
        ⟨[created, current], some (hashRevision (getPatch updated))⟩ := by
    rw [reconcileRevisions_of_template_change hashRevision lws updated _ keyed sameName changed,
      applyAndTruncate_of_applied current rfl, currentKey]
    rfl
  have found : getRevision [created, current] updated (hashRevision (getPatch updated)) = some current := by
    simp [getRevision, revisionsWithKey, updatedKeyed, sameName, changed.symm, created, current]
  have waits : reconcileRevisions hashRevision updated ⟨true, false⟩
      ⟨[created, current], some (hashRevision (getPatch updated))⟩ =
        ⟨[created, current], some (hashRevision (getPatch updated))⟩ := by
    rw [reconcileRevisions_of_current rfl found rfl, applyAndTruncate_of_applied current rfl, currentKey]
    rfl
  have completes : reconcileRevisions hashRevision updated ⟨true, true⟩
      ⟨[created, current], some (hashRevision (getPatch updated))⟩ =
        ⟨[current], some (hashRevision (getPatch updated))⟩ := by
    rw [reconcileRevisions_of_current rfl found rfl, applyAndTruncate_of_applied current rfl, currentKey]
    simp [truncateRevisions, sameName, changed.symm, created, current]
  constructor
  · rw [reconcileRun, reconcileRun, afterCreate, afterUpdate, reconcileRun_replicate_of_fixed waits]
  · rw [List.cons_append, List.cons_append, reconcileRun, reconcileRun, afterCreate, afterUpdate,
      reconcileRun_append, reconcileRun_replicate_of_fixed waits, reconcileRun, completes]
    rfl

/-! ## Revision keys after a failed apply -/

/-- Two stored revisions with one key and different numbers make the keys
repeat. -/
theorem not_nodup_keys_of_same_key {revisions : List ControllerRevision} {revision other : ControllerRevision}
    (member : revision ∈ revisions) (otherMember : other ∈ revisions)
    (sameKey : getRevisionKey revision.labels = getRevisionKey other.labels)
    (renumbered : revision.revision ≠ other.revision) :
    ¬ (revisions.map fun revision => getRevisionKey revision.labels).Nodup :=
  fun unique => renumbered (congrArg ControllerRevision.revision
    (List.inj_on_of_nodup_map unique member otherMember sameKey))

/-- **A failed apply repeats a revision key.** A set is created and
reconciled; its template then changes, the reconcile that creates the new
template's revision fails at the apply, and its retry succeeds. At the retry the
leader StatefulSet still names the old key, so the retry creates the new
template's revision a second time, under the next number, and both copies carry
its key, also after the update is done and the history truncated. The apply
and the truncation keep every revision with the retried key. -/
theorem reconcileRun_repeats_revisionKey (hashRevision : RevisionPatch → String)
    (lws updated : LeaderWorkerSet) (firstDone retryDone : Bool)
    (keyed : hashRevision (getPatch lws) ≠ "") (sameName : updated.name = lws.name)
    (changed : hashRevision (getPatch updated) ≠ hashRevision (getPatch lws)) :
    ¬ ((reconcileRun hashRevision RevisionStore.empty
      [(lws, ⟨true, firstDone⟩), (updated, ⟨false, false⟩), (updated, ⟨true, retryDone⟩)]).revisions.map
        fun revision => getRevisionKey revision.labels).Nodup := by
  let created := newRevision hashRevision [] lws ""
  let first := newRevision hashRevision [created] updated ""
  let retried := newRevision hashRevision [created, first] updated ""
  have createdNumber : created.revision = 1 := firstRevision_number _ _
  have firstNumber : first.revision = 2 := secondRevision_number _ _ _ _
  have retriedNumber : retried.revision = 3 := by
    have highest : getHighestRevision [created, first] = some first := by
      simp [getHighestRevision, createdNumber, firstNumber]
    rw [newRevision_revision_of_highest _ _ _ _ highest, firstNumber]
    decide
  have retriedFresh : retried.name ∉ [created, first].map (·.name) := by
    simp only [List.map_cons, List.map_nil, List.mem_cons, List.not_mem_nil, or_false, not_or]
    exact ⟨newRevision_name_ne retriedNumber createdNumber (by decide) (by decide) (by decide),
      newRevision_name_ne retriedNumber firstNumber (by decide) (by decide) (by decide)⟩
  have foundAgain : getRevision [created, first] updated (hashRevision (getPatch lws)) = some created := by
    simp [getRevision, revisionsWithKey, keyed, sameName, changed, created, first]
  have afterCreate : reconcileRevisions hashRevision lws ⟨true, firstDone⟩ RevisionStore.empty =
      ⟨[created], some (hashRevision (getPatch lws))⟩ := reconcileRevisions_empty rfl
  have afterFailed : reconcileRevisions hashRevision updated ⟨false, false⟩
      ⟨[created], some (hashRevision (getPatch lws))⟩ =
        ⟨[created, first], some (hashRevision (getPatch lws))⟩ :=
    (reconcileRevisions_of_template_change hashRevision lws updated _ keyed sameName changed).trans
      (applyAndTruncate_of_failed _ rfl)
  have afterRetry : reconcileRevisions hashRevision updated ⟨true, retryDone⟩
      ⟨[created, first], some (hashRevision (getPatch lws))⟩ =
        applyAndTruncate updated ⟨true, retryDone⟩ retried
          ⟨[created, first, retried], some (hashRevision (getPatch lws))⟩ :=
    reconcileRevisions_of_changed rfl foundAgain (fun same => changed (congrArg hashRevision same)) retriedFresh
  simp only [reconcileRun, afterCreate, afterFailed, afterRetry]
  have kept : ∀ revision ∈ [created, first, retried], getRevisionKey revision.labels =
      getRevisionKey retried.labels → revision ∈ (applyAndTruncate updated ⟨true, retryDone⟩ retried
        ⟨[created, first, retried], some (hashRevision (getPatch lws))⟩).revisions := by
    intro revision member sameKey
    rw [applyAndTruncate_of_applied retried rfl]
    split
    · rw [← sameKey]
      exact mem_truncateRevisions member
    · exact member
  have sameKey : getRevisionKey first.labels = getRevisionKey retried.labels := by
    simp [first, retried]
  exact not_nodup_keys_of_same_key (kept first (by simp) sameKey) (kept retried (by simp) rfl) sameKey
    (by rw [firstNumber, retriedNumber]; decide)

/-- A hash that tells patches apart by their subdomain policy. -/
def subdomainPolicyHash (patch : RevisionPatch) : String :=
  (patch.networkConfig.subdomainPolicy.map SubdomainPolicy.value).getD ""

/-- The rollout set moved to a subdomain per replica. -/
def uniquePerReplicaUpdate : LeaderWorkerSet :=
  { rolloutLeaderWorkerSet with
    spec := { rolloutLeaderWorkerSet.spec with networkConfig := some ⟨some .subdomainUniquePerReplica⟩ } }

/-- Moving the rollout set to `UniquePerReplica` through a failed apply leaves
two revisions keyed `UniquePerReplica`. -/
theorem reconcileRun_repeats_revisionKey_on_policy_change :
    subdomainPolicyHash (getPatch rolloutLeaderWorkerSet) ≠ "" ∧
      uniquePerReplicaUpdate.name = rolloutLeaderWorkerSet.name ∧
      subdomainPolicyHash (getPatch uniquePerReplicaUpdate) ≠ subdomainPolicyHash (getPatch rolloutLeaderWorkerSet) ∧
      ¬ ((reconcileRun subdomainPolicyHash RevisionStore.empty
        [(rolloutLeaderWorkerSet, ⟨true, true⟩), (uniquePerReplicaUpdate, ⟨false, false⟩),
          (uniquePerReplicaUpdate, ⟨true, true⟩)]).revisions.map
            fun revision => getRevisionKey revision.labels).Nodup :=
  ⟨by decide, rfl, by decide,
    reconcileRun_repeats_revisionKey subdomainPolicyHash rolloutLeaderWorkerSet uniquePerReplicaUpdate true true
      (by decide) rfl (by decide)⟩

end Lws
