/- Module: Polykit/Reconcile/Range
   generality: I
   source: crates/polybase/src/contract.rs, crates/polybase/src/sync/coordinator.rs
   digest: When the arithmetic on versions stays within 64 bits, and what it decides then. -/

import Polykit.Kvs.Store
import Polykit.Reconcile.Planner
import Polykit.Sync.Ingest

set_option autoImplicit false
set_option relaxedAutoImplicit false

namespace Polykit.Reconcile.Range

open Contract Errors Json Kvs.Schema Kvs.Store Reconcile.Planner Sync Sync.Ingest

/-! Sums of versions over the integers. -/

def InRange (n : Int) : Prop := -2 ^ 63 ≤ n ∧ n < 2 ^ 63

instance (n : Int) : Decidable (InRange n) := inferInstanceAs (Decidable (_ ∧ _))

variable {version localVersion remoteVersion : Int64}

theorem toInt_add_of_inRange {a b : Int64} (h : InRange (a.toInt + b.toInt)) :
    (a + b).toInt = a.toInt + b.toInt := by
  rw [Int64.toInt_add]
  refine Int.bmod_eq_of_le ?_ ?_
  · exact h.1
  · exact h.2

theorem delta_toInt : undeleteVersionDelta.toInt = 1000 := by decide

theorem succ_iff : (InRange (version.toInt + 1) ∧ (version + 1).toInt = version.toInt + 1 ∧
    version < version + 1) ↔ version.toInt < 2 ^ 63 - 1 := by
  have one : (1 : Int64).toInt = 1 := by decide
  have low := version.le_toInt
  constructor
  · rintro ⟨⟨_, high⟩, _, _⟩
    omega
  · intro below
    have inRange : InRange (version.toInt + 1) := ⟨by omega, by omega⟩
    have sum : (version + 1).toInt = version.toInt + 1 := by
      rw [toInt_add_of_inRange (by rw [one]; exact inRange), one]
    refine ⟨inRange, sum, ?_⟩
    rw [Int64.lt_iff_toInt_lt, sum]
    omega

/-! The decision of the reconcile. -/

def unboundedAction (localVersion : Int) (localDeleted : Bool) (remoteVersion : Int)
    (remoteDeleted : Bool) : ReconcileAction :=
  if remoteDeleted && !localDeleted then
    if localVersion ≥ remoteVersion + undeleteVersionDelta.toInt then .push else .adoptTombstone
  else if localDeleted && !remoteDeleted then .push
  else if remoteVersion > localVersion then .pull
  else if localVersion > remoteVersion then .push
  else .skip

/-- The threshold of an undelete, where it is computed, is the sum over the integers. -/
def ThresholdFits (localDeleted : Bool) (remoteVersion : Int64) (remoteDeleted : Bool) : Prop :=
  remoteDeleted = true → localDeleted = false →
    InRange (remoteVersion.toInt + undeleteVersionDelta.toInt) ∧
      (undeleteMinimumVersion remoteVersion).toInt =
        remoteVersion.toInt + undeleteVersionDelta.toInt

/-- A remote tombstone of a live local row leaves room for the threshold. -/
def LeavesRoom (localDeleted : Bool) (remoteVersion : Int64) (remoteDeleted : Bool) : Prop :=
  remoteDeleted = true → localDeleted = false → remoteVersion.toInt ≤ 2 ^ 63 - 1 - 1000

theorem thresholdFits_iff {localDeleted remoteDeleted : Bool} :
    ThresholdFits localDeleted remoteVersion remoteDeleted ↔
      LeavesRoom localDeleted remoteVersion remoteDeleted := by
  unfold ThresholdFits LeavesRoom
  refine imp_congr_right (fun _ => imp_congr_right (fun _ => ?_))
  have low := remoteVersion.le_toInt
  rw [delta_toInt]
  constructor
  · rintro ⟨⟨_, high⟩, _⟩
    omega
  · intro room
    have inRange : InRange (remoteVersion.toInt + 1000) := ⟨by omega, by omega⟩
    refine ⟨inRange, ?_⟩
    unfold undeleteMinimumVersion
    rw [toInt_add_of_inRange (by rw [delta_toInt]; exact inRange), delta_toInt]

theorem action_eq_of_fits {localDeleted remoteDeleted : Bool}
    (fits : ThresholdFits localDeleted remoteVersion remoteDeleted) :
    determineReconcileAction localVersion localDeleted remoteVersion remoteDeleted =
      unboundedAction localVersion.toInt localDeleted remoteVersion.toInt remoteDeleted := by
  unfold determineReconcileAction unboundedAction
  split
  · rename_i deleted
    simp only [Bool.and_eq_true, Bool.not_eq_true'] at deleted
    obtain ⟨_, threshold⟩ := fits deleted.1 deleted.2
    simp only [ge_iff_le, Int64.le_iff_toInt_le, threshold]
  · simp only [gt_iff_lt, Int64.lt_iff_toInt_lt]

/-! The version of a local winner. -/

theorem localWinner_iff : (InRange (max localVersion.toInt remoteVersion.toInt + 1) ∧
    (localWinnerMergedVersion localVersion remoteVersion).toInt =
      max localVersion.toInt remoteVersion.toInt + 1 ∧
    localVersion < localWinnerMergedVersion localVersion remoteVersion ∧
    remoteVersion < localWinnerMergedVersion localVersion remoteVersion) ↔
    localVersion.toInt < 2 ^ 63 - 1 ∧ remoteVersion.toInt < 2 ^ 63 - 1 := by
  have low := localVersion.le_toInt
  have also := remoteVersion.le_toInt
  constructor
  · rintro ⟨⟨_, high⟩, _⟩
    omega
  · rintro ⟨room, other⟩
    have merged : (localWinnerMergedVersion localVersion remoteVersion).toInt =
        max localVersion.toInt remoteVersion.toInt + 1 := by
      unfold localWinnerMergedVersion
      split
      · rename_i wins
        obtain ⟨_, sum, _⟩ := succ_iff.mpr room
        have order := Int64.le_iff_toInt_le.mp wins
        exact sum.trans (by omega)
      · rename_i loses
        obtain ⟨_, sum, _⟩ := succ_iff.mpr other
        have order := mt Int64.le_iff_toInt_le.mpr loses
        exact sum.trans (by omega)
    simp only [Int64.lt_iff_toInt_lt, merged]
    exact ⟨⟨by omega, by omega⟩, trivial, by omega, by omega⟩

/-! The version of the next write of a key. -/

section

variable {p : Crypto.Primitives} {Mirror Queue : Type}

theorem nextVersionFor_iff {c : Coordinator p Mirror Queue} {w : World Mirror Queue}
    {id : String} {row : Map} (stored : c.readRecord w kvsTable id = .ok (some row)) :
    (InRange ((rowVersion row).toInt + 1) ∧ ∃ next, nextVersionFor c w id = .ok next ∧
      next.toInt = (rowVersion row).toInt + 1 ∧ rowVersion row < next) ↔
      (rowVersion row).toInt < 2 ^ 63 - 1 := by
  unfold nextVersionFor
  rw [stored, ← succ_iff]
  simp

/-- A row of the server as a reconcile reads it. A row without an id is passed over. -/
def remoteTriple (row : Value) : Option VersionTriple :=
  match row with
  | .object _ =>
      ((row.get "id").bind Value.asStr).map (fun id =>
        { id := id
          version := ((row.get "version").bind Value.asI64).getD 0
          deleted := ((row.get "deleted").bind Value.asBool).getD false })
  | _ => none

/-- `remoteRows` is what the server answers a read of the table's versions. -/
def reconcilePlanFor (c : Coordinator p Mirror Queue) (w : World Mirror Queue)
    (remoteRows : Except PolyError (List Value)) (table : String)
    (localVersions : List VersionTriple) : Except PolyError ReconcilePlan :=
  match c.registry.configForTable table with
  | none => .error (.registry (.tableNotRegistered table))
  | some _ =>
      match w.session with
      | none => .error .noSession
      | some _ => remoteRows.map (fun rows => makePlan localVersions (rows.filterMap remoteTriple))

/-- The threshold, the merged version and the next version of a key are the sums they are over the
integers, and the decision is the one over the integers, exactly while these sums have 64 bits. -/
theorem versionArithmetic_iff (c : Coordinator p Mirror Queue) (w : World Mirror Queue)
    (localVersion remoteVersion : Int64) (localDeleted remoteDeleted : Bool) (id : String) :
    ((ThresholdFits localDeleted remoteVersion remoteDeleted ∧
        determineReconcileAction localVersion localDeleted remoteVersion remoteDeleted =
          unboundedAction localVersion.toInt localDeleted remoteVersion.toInt remoteDeleted) ↔
      LeavesRoom localDeleted remoteVersion remoteDeleted) ∧
    ((InRange (max localVersion.toInt remoteVersion.toInt + 1) ∧
        (localWinnerMergedVersion localVersion remoteVersion).toInt =
          max localVersion.toInt remoteVersion.toInt + 1 ∧
        localVersion < localWinnerMergedVersion localVersion remoteVersion ∧
        remoteVersion < localWinnerMergedVersion localVersion remoteVersion) ↔
      localVersion.toInt < 2 ^ 63 - 1 ∧ remoteVersion.toInt < 2 ^ 63 - 1) ∧
    (∀ row, c.readRecord w kvsTable id = .ok (some row) →
      ((InRange ((rowVersion row).toInt + 1) ∧ ∃ next, nextVersionFor c w id = .ok next ∧
          next.toInt = (rowVersion row).toInt + 1 ∧ rowVersion row < next) ↔
        (rowVersion row).toInt < 2 ^ 63 - 1)) ∧
    (c.readRecord w kvsTable id = .ok none → nextVersionFor c w id = .ok 1) := by
  refine ⟨⟨fun exact_ => ?_, fun room => ?_⟩, localWinner_iff, fun _ => nextVersionFor_iff, ?_⟩
  · exact thresholdFits_iff.mp exact_.1
  · have fits := thresholdFits_iff.mpr room
    exact ⟨fits, action_eq_of_fits fits⟩
  · intro absent
    unfold nextVersionFor
    rw [absent]

end

def lastTombstone : Value :=
  .object [("deleted", .bool true), ("id", .string "m1"),
    ("version", .number (.posInt 9223372036854775807))]

/-- The plan pushes a row of version 5 over the last tombstone, which the integers would have it
adopt, and after the last version a merge and the next write of a key start from the lowest. -/
theorem lastVersion_wraps :
    (∃ plan, reconcilePlanFor messagesCoordinator messagesWorld (.ok [lastTombstone]) "messages"
        [⟨"m1", 5, false⟩] = .ok plan ∧ "m1" ∈ plan.push) ∧
      unboundedAction 5 false (2 ^ 63 - 1) true = .adoptTombstone ∧
      localWinnerMergedVersion 5 9223372036854775807 = Int64.minValue ∧
      nextVersionFor messagesCoordinator { messagesWorld with
        mirror := (∅ : Map).insert "version" (.number (.posInt 9223372036854775807)) } "k" =
          .ok Int64.minValue := by
  refine ⟨⟨_, rfl, ?_⟩, by decide, by decide, rfl⟩
  exact (mem_bucket _ _ .push "m1").mpr ⟨⟨"m1", 5, false⟩, ⟨"m1", 9223372036854775807, true⟩,
    rfl, rfl, by decide⟩

end Polykit.Reconcile.Range
