/- Module: Polykit/Kvs/Undelete
   generality: I
   source: crates/polybase/src/kvs.rs, crates/polybase/src/contract.rs
   digest: What reconcile does with a key that was deleted and set again. -/

import Polykit.Kvs.Versions

set_option autoImplicit false
set_option relaxedAutoImplicit false

namespace Polykit.Kvs.Undelete

open Auth Contract Crypto Entity Errors Json Kvs.Schema Kvs.Store Kvs.Survival Kvs.Versions
open Sqlite.Manager Sqlite.Storage Sqlite.Store Sync Sync.Calls Wire.Http

/-- One version above a tombstone clears the undelete threshold only where the threshold
wraps around 64 bits and the version itself does not. -/
theorem undeleteMinimumVersion_le_succ_iff (v : Int64) :
    undeleteMinimumVersion v ≤ v + 1 ↔ 9223372036854774808 ≤ v ∧ v < 9223372036854775807 := by
  have low := v.le_toInt
  have high := v.toInt_lt
  have delta : undeleteVersionDelta.toInt = 1000 := by decide
  have one : (1 : Int64).toInt = 1 := by decide
  have first : (9223372036854774808 : Int64).toInt = 9223372036854774808 := by decide
  have last : (9223372036854775807 : Int64).toInt = 9223372036854775807 := by decide
  rw [undeleteMinimumVersion, Int64.le_iff_toInt_le, Int64.toInt_add, Int64.toInt_add, delta, one,
    Int64.le_iff_toInt_le, Int64.lt_iff_toInt_lt, first, last]
  rw [Int.bmod_def, Int.bmod_def]
  omega

variable {p : Primitives} {Queue : Type} {codec : Codec} {c : Coordinator p DbManager Queue}
  {namespace_ key : String}

theorem set_mirror {T : Type} (toValue : T → Except String Value)
    (store : c.localStore = sqliteLocalStore codec)
    (registered : c.registry.configForTable kvsTable = some kvsEntityConfig) (env : CallEnv)
    {w : World DbManager Queue} (shape : MirrorHasSchema w.mirror kvsTable kvsSchema)
    (namespace_ key : String) (value : T) :
    (Store.set toValue c env w namespace_ key value).1.mirror = w.mirror ∨
      ∃ version row, nextVersionOn w.mirror namespace_ key = .ok version ∧
        readRecord (Store.set toValue c env w namespace_ key value).1.mirror kvsTable
          (encodeId namespace_ key) = .ok (some row) ∧
        rowDeleted row = false ∧ rowVersion row = version := by
  have staged : Store.set toValue c env w namespace_ key value =
      runWrite c namespace_ key env w (.set (toValue value)) := rfl
  rw [staged, runWrite_eq, nextVersionFor_sqlite store]
  cases next : nextVersionOn w.mirror namespace_ key with
  | error error => exact .inl rfl
  | ok version =>
    dsimp only
    cases written : localWrite c namespace_ key env w version (.set (toValue value)) with
    | mk mirror result =>
      cases result with
      | error error => exact .inl (localWrite_error store written)
      | ok stored =>
        right
        obtain ⟨_, row, found, live, versioned⟩ := localWrite_set_ok store registered shape written
        refine ⟨version, row, rfl, ?_, live, versioned⟩
        rw [settle_mirror, dispatch_mirror]
        exact found

/-- A key deleted at version `v` and set again outranks its tombstone only for the versions
whose undelete threshold wraps. -/
theorem set_outranks_tombstone_iff {T : Type} {toValue : T → Except String Value} {value : T}
    (store : c.localStore = sqliteLocalStore codec)
    (registered : c.registry.configForTable kvsTable = some kvsEntityConfig) {env : CallEnv}
    {w after : World DbManager Queue} {result : Except PolyError Unit} {deleted written : Map}
    (shape : MirrorHasSchema w.mirror kvsTable kvsSchema)
    (tombstone : c.readRecord w kvsTable (encodeId namespace_ key) = .ok (some deleted))
    (gone : rowDeleted deleted = true)
    (ran : Store.set toValue c env w namespace_ key value = (after, result))
    (present : c.readRecord after kvsTable (encodeId namespace_ key) = .ok (some written))
    (live : rowDeleted written = false) :
    determineReconcileAction (rowVersion written) (rowDeleted written) (rowVersion deleted)
        true = .push ↔
      9223372036854774808 ≤ rowVersion deleted ∧ rowVersion deleted < 9223372036854775807 := by
  have reads : ∀ w : World DbManager Queue,
      c.readRecord w kvsTable (encodeId namespace_ key) =
        readRecord w.mirror kvsTable (encodeId namespace_ key) := by
    intro w
    rw [Coordinator.readRecord, store]
    rfl
  rw [reads] at tombstone present
  have mirrored := set_mirror toValue store registered env shape namespace_ key value
  rw [ran] at mirrored
  rcases mirrored with same | ⟨version, row, next, found, _, versioned⟩
  · rw [same, tombstone] at present
    cases present
    rw [gone] at live
    cases live
  · rw [present] at found
    cases found
    have succ : version = rowVersion deleted + 1 := by
      simp only [nextVersionOn, tombstone] at next
      exact (Except.ok.inj next).symm
    rw [live, versioned, succ, ← undeleteMinimumVersion_le_succ_iff]
    simp [determineReconcileAction]

/-! The theme is set, deleted and set again. -/

def deletedTheme : World DbManager OfflineQueue.Memory.MemoryQueue :=
  (Store.delete sampleCoordinator (callAt 1 created) (setSample (.string "dark")).1 "prefs"
    "theme").1

def resetTheme : World DbManager OfflineQueue.Memory.MemoryQueue × Except PolyError Unit :=
  Store.set .ok sampleCoordinator (callAt 2 created) deletedTheme "prefs" "theme" (.string "light")

def rowState (w : World DbManager OfflineQueue.Memory.MemoryQueue) : Option (Int64 × Bool) :=
  (sampleCoordinator.readRecord w kvsTable (encodeId "prefs" "theme")).toOption.join.map
    (fun row => (rowVersion row, rowDeleted row))

/-- The tombstone at version 2 takes the new value with it. -/
theorem reset_theme_adopts_tombstone :
    rowState deletedTheme = some (2, true) ∧ rowState resetTheme.1 = some (3, false) ∧
      determineReconcileAction 3 false 2 true = .adoptTombstone := by
  decide

def tombstoneAt (version : Int64) : World DbManager OfflineQueue.Memory.MemoryQueue where
  session := sampleWorld.session
  mirror := (upsertRecord sampleCodec sampleMirror kvsTable
    ((kvsRecord "prefs" "theme" (.string "dark") version (callAt 0 created).utcNow).insert "deleted"
      (.bool true))).1
  queue := .new

def setAfterTombstone (version : Int64) :
    World DbManager OfflineQueue.Memory.MemoryQueue × Except PolyError Unit :=
  Store.set .ok sampleCoordinator (callAt 2 created) (tombstoneAt version) "prefs" "theme"
    (.string "light")

/-- Near the end of the range the threshold wraps, and the set wins. -/
theorem set_outranks_tombstone_wrapped :
    ∃ deleted written,
      sampleCoordinator.readRecord (tombstoneAt 9223372036854775000) kvsTable
        (encodeId "prefs" "theme") = .ok (some deleted) ∧
      sampleCoordinator.readRecord (setAfterTombstone 9223372036854775000).1 kvsTable
        (encodeId "prefs" "theme") = .ok (some written) ∧
      determineReconcileAction (rowVersion written) (rowDeleted written) (rowVersion deleted)
        true = .push := by
  have before : rowState (tombstoneAt 9223372036854775000) = some (9223372036854775000, true) := by
    decide
  have after : rowState (setAfterTombstone 9223372036854775000).1 =
      some (9223372036854775001, false) := by decide
  have located : ∀ {w state}, rowState w = some state → ∃ row,
      sampleCoordinator.readRecord w kvsTable (encodeId "prefs" "theme") = .ok (some row) ∧
        (rowVersion row, rowDeleted row) = state := by
    intro w state h
    obtain ⟨row, found, same⟩ := Option.map_eq_some_iff.mp h
    refine ⟨row, ?_, same⟩
    cases read : sampleCoordinator.readRecord w kvsTable (encodeId "prefs" "theme") with
    | error error => simp [read, Except.toOption] at found
    | ok result =>
      have present : result = some row := by simpa [read, Except.toOption] using found
      rw [present]
  obtain ⟨deleted, tombstone, old⟩ := located before
  obtain ⟨written, present, new⟩ := located after
  refine ⟨deleted, written, tombstone, present, ?_⟩
  have gone : rowDeleted deleted = true := congrArg Prod.snd old
  have live : rowDeleted written = false := congrArg Prod.snd new
  have version : rowVersion deleted = 9223372036854775000 := congrArg Prod.fst old
  have ran : Store.set .ok sampleCoordinator (callAt 2 created)
      (tombstoneAt 9223372036854775000) "prefs" "theme" (.string "light") =
        ((setAfterTombstone 9223372036854775000).1, (setAfterTombstone 9223372036854775000).2) :=
    rfl
  refine (set_outranks_tombstone_iff rfl (by decide)
    (mirrorHasSchema_upsertRecord sampleMirror_shape _ _) tombstone gone ran present live).mpr ?_
  rw [version]
  decide

end Polykit.Kvs.Undelete
