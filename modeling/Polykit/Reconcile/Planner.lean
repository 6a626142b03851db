/- Module: Polykit/Reconcile/Planner
   generality: I
   source: crates/polybase/src/sync/reconcile.rs
   digest: The planner's buckets, read back id by id from the two version lists. -/

import Mathlib.Data.Finset.Sort
import Mathlib.Data.String.Basic
import Polykit.Contract

set_option autoImplicit false
set_option relaxedAutoImplicit false

namespace Polykit.Reconcile.Planner

open Contract

structure VersionTriple where
  id : String
  version : Int64
  deleted : Bool
  deriving DecidableEq

structure ReconcilePlan where
  adoptTombstone : List String := []
  pull : List String := []
  push : List String := []
  skip : List String := []
  createLocal : List String := []
  createRemote : List String := []
  deriving DecidableEq

/-- The index map of one side: a later triple of an id replaces an earlier one. -/
def index (rows : List VersionTriple) (id : String) : Option VersionTriple :=
  rows.reverse.find? (fun row => row.id == id)

def ids (rows : List VersionTriple) : Finset String := (rows.map VersionTriple.id).toFinset

def ReconcilePlan.bucket (plan : ReconcilePlan) : ReconcileAction → List String
  | .adoptTombstone => plan.adoptTombstone
  | .pull => plan.pull
  | .push => plan.push
  | .skip => plan.skip

def ReconcilePlan.record (plan : ReconcilePlan) (id : String) : ReconcileAction → ReconcilePlan
  | .adoptTombstone => { plan with adoptTombstone := plan.adoptTombstone ++ [id] }
  | .pull => { plan with pull := plan.pull ++ [id] }
  | .push => { plan with push := plan.push ++ [id] }
  | .skip => { plan with skip := plan.skip ++ [id] }

def rowAction (localRow remoteRow : VersionTriple) : ReconcileAction :=
  determineReconcileAction localRow.version localRow.deleted remoteRow.version remoteRow.deleted

def planCommon (localRows remoteRows : List VersionTriple) (plan : ReconcilePlan)
    (id : String) : ReconcilePlan :=
  match index localRows id, index remoteRows id with
  | some localRow, some remoteRow => plan.record id (rowAction localRow remoteRow)
  | _, _ => plan

def makePlan (localRows remoteRows : List VersionTriple) : ReconcilePlan :=
  let localIds := ids localRows
  let remoteIds := ids remoteRows
  let plan := ((localIds ∩ remoteIds).sort (· ≤ ·)).foldl (planCommon localRows remoteRows) {}
  { plan with
    createRemote := (localIds \ remoteIds).sort (· ≤ ·)
    createLocal := (remoteIds \ localIds).sort (· ≤ ·) }

theorem index_id {rows : List VersionTriple} {id : String} {row : VersionTriple}
    (h : index rows id = some row) : row.id = id := by
  simpa using List.find?_some h

theorem mem_ids {rows : List VersionTriple} {id : String} :
    id ∈ ids rows ↔ (index rows id).isSome := by
  simp [ids, index, List.find?_isSome]

theorem bucket_record (plan : ReconcilePlan) (id : String) (a b : ReconcileAction) :
    (plan.record id a).bucket b = if a = b then plan.bucket b ++ [id] else plan.bucket b := by
  cases a <;> cases b <;> rfl

private theorem mem_bucket_fold (localRows remoteRows : List VersionTriple) (a : ReconcileAction)
    (common : List String) (plan : ReconcilePlan) (id : String) :
    id ∈ (common.foldl (planCommon localRows remoteRows) plan).bucket a ↔
      id ∈ plan.bucket a ∨ id ∈ common ∧ ∃ l r, index localRows id = some l ∧
        index remoteRows id = some r ∧ rowAction l r = a := by
  induction common generalizing plan with
  | nil => simp
  | cons head tail ih =>
    rw [List.foldl_cons, ih]
    have step : id ∈ (planCommon localRows remoteRows plan head).bucket a ↔
        id ∈ plan.bucket a ∨ id = head ∧ ∃ l r, index localRows id = some l ∧
          index remoteRows id = some r ∧ rowAction l r = a := by
      unfold planCommon
      split
      · rename_i l r hl hr
        rw [bucket_record]
        by_cases same : id = head
        · subst same
          split <;> simp_all
        · split <;> simp [same]
      · rename_i absent
        constructor
        · exact Or.inl
        · rintro (old | ⟨rfl, l, r, hl, hr, _⟩)
          · exact old
          · exact (absent l r hl hr).elim
    rw [step, List.mem_cons, or_assoc, ← or_and_right]

theorem mem_bucket (localRows remoteRows : List VersionTriple) (a : ReconcileAction)
    (id : String) :
    id ∈ (makePlan localRows remoteRows).bucket a ↔
      ∃ l r, index localRows id = some l ∧ index remoteRows id = some r ∧
        rowAction l r = a := by
  have fold := mem_bucket_fold localRows remoteRows a
    ((ids localRows ∩ ids remoteRows).sort (· ≤ ·)) {} id
  have same : (makePlan localRows remoteRows).bucket a =
      (((ids localRows ∩ ids remoteRows).sort (· ≤ ·)).foldl
        (planCommon localRows remoteRows) {}).bucket a := by
    cases a <;> rfl
  have empty : id ∉ ({} : ReconcilePlan).bucket a := by cases a <;> simp [ReconcilePlan.bucket]
  rw [same, fold]
  constructor
  · rintro (old | ⟨_, found⟩)
    · exact (empty old).elim
    · exact found
  · rintro ⟨l, r, hl, hr, ha⟩
    refine Or.inr ⟨?_, l, r, hl, hr, ha⟩
    simp [mem_ids, hl, hr]

theorem mem_createRemote (localRows remoteRows : List VersionTriple) (id : String) :
    id ∈ (makePlan localRows remoteRows).createRemote ↔
      (index localRows id).isSome ∧ index remoteRows id = none := by
  simp [makePlan, mem_ids, Option.isSome_eq_false_iff]

theorem mem_createLocal (localRows remoteRows : List VersionTriple) (id : String) :
    id ∈ (makePlan localRows remoteRows).createLocal ↔
      (index remoteRows id).isSome ∧ index localRows id = none := by
  simp [makePlan, mem_ids, Option.isSome_eq_false_iff]

end Polykit.Reconcile.Planner
