/- Module: Polykit/Reconcile/Partition
   generality: I
   source: crates/polybase/src/sync/reconcile.rs
   digest: A plan parts the ids of both sides into its six buckets, whatever their order. -/

import Polykit.Reconcile.Planner

set_option autoImplicit false
set_option relaxedAutoImplicit false

namespace Polykit.Reconcile.Partition

open Contract Lib.Keyed Reconcile.Planner

/-! The triple that counts for an id is the last one. -/

def IsLast (rows : List VersionTriple) (row : VersionTriple) : Prop :=
  ∃ older newer, rows = older ++ row :: newer ∧ ∀ later ∈ newer, later.id ≠ row.id

variable {rows other : List VersionTriple} {row : VersionTriple} {id : String}

theorem index_eq_some_iff : index rows id = some row ↔ row.id = id ∧ IsLast rows row := by
  unfold index IsLast
  rw [List.find?_eq_some_iff_append, beq_iff_eq]
  refine and_congr_right (fun here => ?_)
  constructor
  · rintro ⟨newer, older, reversed, others⟩
    refine ⟨older.reverse, newer.reverse, ?_, fun later member => ?_⟩
    · rw [← List.reverse_reverse rows, reversed]
      simp
    · have differs := others later (List.mem_reverse.mp member)
      rw [here]
      simpa using differs
  · rintro ⟨older, newer, rfl, others⟩
    refine ⟨newer.reverse, older.reverse, by simp, fun later member => ?_⟩
    have differs := others later (List.mem_reverse.mp member)
    rw [here] at differs
    simpa using differs

theorem index_eq_some_of_nodup (nodup : (rows.map VersionTriple.id).Nodup) :
    index rows id = some row ↔ row ∈ rows ∧ row.id = id :=
  find_reverse_eq_some_iff nodup

theorem index_eq_of_perm (nodup : (rows.map VersionTriple.id).Nodup) (perm : rows.Perm other) :
    index rows = index other := by
  have also : (other.map VersionTriple.id).Nodup := (perm.map VersionTriple.id).nodup nodup
  funext id
  refine Option.ext (fun row => ?_)
  rw [index_eq_some_of_nodup nodup, index_eq_some_of_nodup also, perm.mem_iff]

theorem ids_eq_of_perm (perm : rows.Perm other) : ids rows = ids other :=
  List.toFinset_eq_of_perm _ _ (perm.map VersionTriple.id)

theorem index_isSome_iff : (index rows id).isSome = true ↔ id ∈ rows.map VersionTriple.id := by
  rw [← mem_ids, ids, List.mem_toFinset]

/-! The buckets. -/

inductive Bucket
  | decided (action : ReconcileAction)
  | createLocal
  | createRemote
  deriving DecidableEq

def idsIn (plan : ReconcilePlan) : Bucket → List String
  | .decided action => plan.bucket action
  | .createLocal => plan.createLocal
  | .createRemote => plan.createRemote

variable (localRows remoteRows : List VersionTriple)

def bucketOf (id : String) : Option Bucket :=
  match index localRows id, index remoteRows id with
  | some localRow, some remoteRow => some (.decided (rowAction localRow remoteRow))
  | some _, none => some .createRemote
  | none, some _ => some .createLocal
  | none, none => none

theorem mem_idsIn (bucket : Bucket) (id : String) :
    id ∈ idsIn (makePlan localRows remoteRows) bucket ↔
      bucketOf localRows remoteRows id = some bucket := by
  cases bucket with
  | decided action =>
    simp only [idsIn, mem_bucket, bucketOf]
    cases index localRows id <;> cases index remoteRows id <;> simp
  | createLocal =>
    simp only [idsIn, mem_createLocal, bucketOf]
    cases index localRows id <;> cases index remoteRows id <;> simp
  | createRemote =>
    simp only [idsIn, mem_createRemote, bucketOf]
    cases index localRows id <;> cases index remoteRows id <;> simp

theorem bucketOf_isSome_iff : (∃ bucket, bucketOf localRows remoteRows id = some bucket) ↔
    id ∈ localRows.map VersionTriple.id ∨ id ∈ remoteRows.map VersionTriple.id := by
  rw [← index_isSome_iff, ← index_isSome_iff]
  unfold bucketOf
  cases index localRows id <;> cases index remoteRows id <;> simp

theorem bucket_planCommon (plan : ReconcilePlan) (action : ReconcileAction) (id : String) :
    ∃ added, (planCommon localRows remoteRows plan id).bucket action =
      plan.bucket action ++ added ∧ added.Sublist [id] := by
  unfold planCommon
  split
  · rw [bucket_record]
    split
    · exact ⟨[id], rfl, .refl [id]⟩
    · exact ⟨[], (List.append_nil _).symm, List.nil_sublist [id]⟩
  · exact ⟨[], (List.append_nil _).symm, List.nil_sublist [id]⟩

theorem bucket_fold (plan : ReconcilePlan) (action : ReconcileAction) (common : List String) :
    ∃ added, (common.foldl (planCommon localRows remoteRows) plan).bucket action =
      plan.bucket action ++ added ∧ added.Sublist common := by
  induction common generalizing plan with
  | nil => exact ⟨[], (List.append_nil _).symm, .refl []⟩
  | cons id rest ih =>
    obtain ⟨first, step, here⟩ := bucket_planCommon localRows remoteRows plan action id
    obtain ⟨later, run, there⟩ := ih (planCommon localRows remoteRows plan id)
    refine ⟨first ++ later, ?_, here.append there⟩
    rw [List.foldl_cons, run, step, List.append_assoc]

theorem idsIn_sorted (bucket : Bucket) :
    (idsIn (makePlan localRows remoteRows) bucket).Pairwise (· < ·) := by
  have sorted : ∀ s : Finset String, (s.sort (· ≤ ·)).Pairwise (· < ·) :=
    fun s => (Finset.sortedLT_sort s).pairwise
  cases bucket with
  | decided action =>
    obtain ⟨added, all, part⟩ := bucket_fold localRows remoteRows {} action
      ((ids localRows ∩ ids remoteRows).sort (· ≤ ·))
    have same : idsIn (makePlan localRows remoteRows) (.decided action) = added := by
      cases action <;> exact all
    rw [same]
    exact (sorted _).sublist part
  | createLocal => exact sorted (ids remoteRows \ ids localRows)
  | createRemote => exact sorted (ids localRows \ ids remoteRows)

theorem makePlan_eq_of_perm {localRows remoteRows otherLocal otherRemote : List VersionTriple}
    (localNodup : (localRows.map VersionTriple.id).Nodup)
    (remoteNodup : (remoteRows.map VersionTriple.id).Nodup)
    (localPerm : localRows.Perm otherLocal) (remotePerm : remoteRows.Perm otherRemote) :
    makePlan localRows remoteRows = makePlan otherLocal otherRemote := by
  have common : planCommon localRows remoteRows = planCommon otherLocal otherRemote := by
    funext plan id
    unfold planCommon
    rw [index_eq_of_perm localNodup localPerm, index_eq_of_perm remoteNodup remotePerm]
  unfold makePlan
  rw [common, ids_eq_of_perm localPerm, ids_eq_of_perm remotePerm]

/-- The six buckets hold every id of either side once, in increasing order and by the decision for
its last triples, and do not depend on the order of rows without repeated ids. -/
theorem makePlan_partition (localRows remoteRows : List VersionTriple) :
    (∀ bucket, (idsIn (makePlan localRows remoteRows) bucket).Pairwise (· < ·)) ∧
    (∀ first second, first ≠ second → (idsIn (makePlan localRows remoteRows) first).Disjoint
      (idsIn (makePlan localRows remoteRows) second)) ∧
    (∀ id, (∃ bucket, id ∈ idsIn (makePlan localRows remoteRows) bucket) ↔
      id ∈ localRows.map VersionTriple.id ∨ id ∈ remoteRows.map VersionTriple.id) ∧
    (∀ localRow remoteRow, IsLast localRows localRow → IsLast remoteRows remoteRow →
      remoteRow.id = localRow.id → localRow.id ∈ (makePlan localRows remoteRows).bucket
        (determineReconcileAction localRow.version localRow.deleted remoteRow.version
          remoteRow.deleted)) ∧
    (∀ id, id ∈ localRows.map VersionTriple.id → id ∉ remoteRows.map VersionTriple.id →
      id ∈ (makePlan localRows remoteRows).createRemote) ∧
    (∀ id, id ∉ localRows.map VersionTriple.id → id ∈ remoteRows.map VersionTriple.id →
      id ∈ (makePlan localRows remoteRows).createLocal) ∧
    ∀ otherLocal otherRemote, (localRows.map VersionTriple.id).Nodup →
      (remoteRows.map VersionTriple.id).Nodup → localRows.Perm otherLocal →
      remoteRows.Perm otherRemote →
      makePlan otherLocal otherRemote = makePlan localRows remoteRows := by
  have absent : ∀ {rows : List VersionTriple} {id : String}, id ∉ rows.map VersionTriple.id →
      index rows id = none := by
    intro rows id missing
    rw [← index_isSome_iff] at missing
    simpa using missing
  refine ⟨idsIn_sorted localRows remoteRows, ?_, ?_, ?_, ?_, ?_, ?_⟩
  · intro first second differ id one two
    rw [mem_idsIn] at one two
    exact differ (Option.some.inj (one.symm.trans two))
  · intro id
    simp only [mem_idsIn, bucketOf_isSome_iff]
  · intro localRow remoteRow localLast remoteLast same
    exact (mem_bucket _ _ _ _).mpr ⟨localRow, remoteRow, index_eq_some_iff.mpr ⟨rfl, localLast⟩,
      index_eq_some_iff.mpr ⟨same, remoteLast⟩, rfl⟩
  · intro id here missing
    exact (mem_createRemote _ _ _).mpr ⟨index_isSome_iff.mpr here, absent missing⟩
  · intro id missing here
    exact (mem_createLocal _ _ _).mpr ⟨index_isSome_iff.mpr here, absent missing⟩
  · intro otherLocal otherRemote localNodup remoteNodup localPerm remotePerm
    exact (makePlan_eq_of_perm localNodup remoteNodup localPerm remotePerm).symm

end Polykit.Reconcile.Partition
