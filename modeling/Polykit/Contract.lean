/- Module: Polykit/Contract
   generality: I
   source: crates/polybase/src/contract.rs
   digest: Version rules, queue timestamps, rejection markers, reconcile decision, finalize rule. -/

import Polykit.Lib.Keyed
import Polykit.Lib.Text

set_option autoImplicit false
set_option relaxedAutoImplicit false

namespace Polykit.Contract

open Lib.Keyed Lib.Text

def standardMutationVersionStep : Int64 := 1

/-- The only allowed large jump: an intentional undelete. -/
def undeleteVersionDelta : Int64 := 1000

def monotonicQueueTimestampBumpMicros : Int64 := 1

def reconnectDebounceSecs : Nat := 2

def enqueueCoalesceMs : Nat := 250

def forwardProgressRetryMs : Nat := 100

def reconnectBackoffLadderSecs : List Nat := [2, 5, 10, 30, 60, 120]

def stringEncryptionPrefix : String := "enc:"

/-- Sums are those of the release build: they wrap at 64 bits. -/
def undeleteMinimumVersion (remoteVersion : Int64) : Int64 :=
  remoteVersion + undeleteVersionDelta

def localWinnerMergedVersion (localVersion remoteVersion : Int64) : Int64 :=
  if localVersion ≥ remoteVersion then localVersion + standardMutationVersionStep
  else remoteVersion + standardMutationVersionStep

def nextQueuedAtMicros (lastQueuedAtMicros : Option Int64) (candidateMicros : Int64) : Int64 :=
  match lastQueuedAtMicros with
  | some last =>
      if candidateMicros ≤ last then last + monotonicQueueTimestampBumpMicros
      else candidateMicros
  | none => candidateMicros

/-- The step of the ladder for a count of failures, its last step from there on. -/
def reconnectBackoffSeconds (consecutiveFailures : UInt32) : Nat :=
  let index := consecutiveFailures.toNat - 1
  let last := reconnectBackoffLadderSecs.length - 1
  reconnectBackoffLadderSecs.getD (min index last) 0

def echoTrackerKey (table entityId : String) : String := table ++ ":" ++ entityId

/-! The classifiers below read the text of a rejection, in any ASCII case. -/

def sameVersionMutationMarker : String := "same-version mutation"

def versionRegressionMarker : String := "version regression"

def isSameVersionMutationMessage (message : String) : Bool :=
  contains (toAsciiLowercase message) sameVersionMutationMarker

def isVersionRegressionMessage (message : String) : Bool :=
  contains (toAsciiLowercase message) versionRegressionMarker

inductive ReconcileAction
  | adoptTombstone | pull | push | skip
  deriving DecidableEq

def determineReconcileAction (localVersion : Int64) (localDeleted : Bool)
    (remoteVersion : Int64) (remoteDeleted : Bool) : ReconcileAction :=
  if remoteDeleted && !localDeleted then
    if localVersion ≥ undeleteMinimumVersion remoteVersion then .push else .adoptTombstone
  else if localDeleted && !remoteDeleted then .push
  else if remoteVersion > localVersion then .pull
  else if localVersion > remoteVersion then .push
  else .skip

structure ContractOperation where
  table : String
  entityId : String
  queuedAtMicros : Int64
  deriving DecidableEq

def ContractOperation.key (operation : ContractOperation) : String × String :=
  (operation.table, operation.entityId)

/-- The map from keys to snapshot timestamps: a later entry of a key replaces an earlier one. -/
def snapshotQueuedAtByKey (snapshot : List ContractOperation) (key : String × String) :
    Option Int64 :=
  (snapshot.reverse.find? (fun operation => operation.key == key)).map
    ContractOperation.queuedAtMicros

/-- Current operations that the snapshot does not hold at the same timestamp. -/
def retainedFromCurrent (current snapshot : List ContractOperation) : List ContractOperation :=
  current.filter (fun operation =>
    decide (snapshotQueuedAtByKey snapshot operation.key ≠ some operation.queuedAtMicros))

/-- One round of the re-insertion loop; the set of retained keys is that of `retained`. -/
def retainFailed (retained : List ContractOperation) (operation : ContractOperation) :
    List ContractOperation :=
  if operation.key ∈ retained.map ContractOperation.key then retained
  else retained ++ [operation]

def finalizeQueueAfterProcessing (current snapshot failed : List ContractOperation) :
    List ContractOperation :=
  failed.foldl retainFailed (retainedFromCurrent current snapshot)

/-! What the finalize rule keeps of the current queue. Both lists hold a key at most once, and
the failed operations are operations of the snapshot. -/

theorem snapshotQueuedAtByKey_eq_iff {snapshot : List ContractOperation}
    (distinct : (snapshot.map ContractOperation.key).Nodup) (operation : ContractOperation) :
    snapshotQueuedAtByKey snapshot operation.key = some operation.queuedAtMicros ↔
      operation ∈ snapshot := by
  have recover : ∀ found : ContractOperation, found.key = operation.key →
      found.queuedAtMicros = operation.queuedAtMicros → found = operation := by
    rintro ⟨table, entityId, stamp⟩ hkey hstamp
    cases operation
    simp_all [ContractOperation.key]
  unfold snapshotQueuedAtByKey
  constructor
  · intro h
    obtain ⟨found, hfound, hstamp⟩ := Option.map_eq_some_iff.mp h
    obtain ⟨member, same⟩ := (find_reverse_eq_some_iff distinct).mp hfound
    rw [← recover found same hstamp]
    exact member
  · intro member
    rw [(find_reverse_eq_some_iff distinct).mpr ⟨member, rfl⟩]
    rfl

theorem mem_retainedFromCurrent {current snapshot : List ContractOperation}
    (distinct : (snapshot.map ContractOperation.key).Nodup) (operation : ContractOperation) :
    operation ∈ retainedFromCurrent current snapshot ↔
      operation ∈ current ∧ operation ∉ snapshot := by
  simp [retainedFromCurrent, snapshotQueuedAtByKey_eq_iff distinct]

private theorem mem_retainFailed (retained : List ContractOperation)
    (head operation : ContractOperation) :
    operation ∈ retainFailed retained head ↔
      operation ∈ retained ∨
        operation = head ∧ head.key ∉ retained.map ContractOperation.key := by
  unfold retainFailed
  split
  · rename_i present
    simp [present]
  · rename_i absent
    simp [absent]

theorem mem_foldl_retainFailed {failed : List ContractOperation}
    (oneEach : ∀ a ∈ failed, ∀ b ∈ failed, a.key = b.key → a = b)
    (retained : List ContractOperation) (operation : ContractOperation) :
    operation ∈ failed.foldl retainFailed retained ↔
      operation ∈ retained ∨
        operation ∈ failed ∧ operation.key ∉ retained.map ContractOperation.key := by
  induction failed generalizing retained with
  | nil => simp
  | cons head tail ih =>
    have tailOnce : ∀ a ∈ tail, ∀ b ∈ tail, a.key = b.key → a = b := fun a ha b hb =>
      oneEach a (List.mem_cons_of_mem _ ha) b (List.mem_cons_of_mem _ hb)
    have keys : operation.key ∈ (retainFailed retained head).map ContractOperation.key ↔
        operation.key ∈ retained.map ContractOperation.key ∨ operation.key = head.key := by
      unfold retainFailed
      split
      · rename_i present
        constructor
        · exact Or.inl
        · rintro (old | same)
          · exact old
          · exact same ▸ present
      · simp
    rw [List.foldl_cons, ih tailOnce, mem_retainFailed, keys, List.mem_cons]
    by_cases same : operation.key = head.key
    · constructor
      · rintro ((old | ⟨rfl, fresh⟩) | ⟨_, taken⟩)
        · exact .inl old
        · exact .inr ⟨.inl rfl, fresh⟩
        · exact (taken (.inr same)).elim
      · rintro (old | ⟨rfl | later, fresh⟩)
        · exact .inl (.inl old)
        · exact .inl (.inr ⟨rfl, fresh⟩)
        · have again : operation = head :=
            oneEach _ (List.mem_cons_of_mem _ later) _ List.mem_cons_self same
          exact .inl (.inr ⟨again, again ▸ fresh⟩)
    · have other : operation ≠ head := fun h => same (h ▸ rfl)
      simp [same, other]

theorem mem_finalizeQueueAfterProcessing {current snapshot failed : List ContractOperation}
    (distinctCurrent : (current.map ContractOperation.key).Nodup)
    (distinctSnapshot : (snapshot.map ContractOperation.key).Nodup)
    (drawn : ∀ operation ∈ failed, operation ∈ snapshot)
    {operation : ContractOperation} (member : operation ∈ current) :
    operation ∈ finalizeQueueAfterProcessing current snapshot failed ↔
      operation ∉ snapshot ∨ operation ∈ failed := by
  have oneEach : ∀ a ∈ failed, ∀ b ∈ failed, a.key = b.key → a = b := fun a ha b hb =>
    List.inj_on_of_nodup_map distinctSnapshot (drawn a ha) (drawn b hb)
  unfold finalizeQueueAfterProcessing
  rw [mem_foldl_retainFailed oneEach, mem_retainedFromCurrent distinctSnapshot]
  constructor
  · rintro (⟨_, absent⟩ | ⟨again, _⟩)
    · exact .inl absent
    · exact .inr again
  · rintro (absent | again)
    · exact .inl ⟨member, absent⟩
    · refine .inr ⟨again, ?_⟩
      intro taken
      obtain ⟨kept, hkept, hkey⟩ := List.mem_map.mp taken
      rw [mem_retainedFromCurrent distinctSnapshot] at hkept
      have same := List.inj_on_of_nodup_map distinctCurrent hkept.1 member hkey
      exact hkept.2 (same ▸ drawn operation again)

end Polykit.Contract
