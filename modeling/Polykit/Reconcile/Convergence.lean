/- Module: Polykit/Reconcile/Convergence
   generality: I
   source: crates/polybase/src/sync/reconcile.rs, crates/polybase/src/contract.rs
   digest: One executed reconcile round settles every id but a stale local tombstone. -/

import Polykit.Reconcile.Planner

set_option autoImplicit false
set_option relaxedAutoImplicit false

namespace Polykit.Reconcile.Convergence

open Contract Lib.Keyed Planner

/-! The planner leaves the execution of a plan to its caller. This module fixes that
execution and the server guard the contract documents, and plans a second time. -/

def putRow (rows : List VersionTriple) (row : VersionTriple) : List VersionTriple :=
  rows.filter (fun old => old.id ≠ row.id) ++ [row]

/-- The documented guard, over unbounded integers. A live write over a tombstone needs the
undelete jump, every other write over a row a greater version. -/
def serverAccepts : Option VersionTriple → VersionTriple → Bool
  | none, _ => true
  | some stored, row =>
      if stored.deleted && !row.deleted then
        decide (row.version.toInt ≥ stored.version.toInt + undeleteVersionDelta.toInt)
      else decide (row.version > stored.version)

def serverWrite (rows : List VersionTriple) (row : VersionTriple) : List VersionTriple :=
  if serverAccepts (index rows row.id) row then putRow rows row else rows

def pullRows (source rows : List VersionTriple) (pulled : List String) : List VersionTriple :=
  pulled.foldl (fun rows id => ((index source id).map (putRow rows)).getD rows) rows

def pushRows (source rows : List VersionTriple) (pushed : List String) : List VersionTriple :=
  pushed.foldl (fun rows id => ((index source id).map (serverWrite rows)).getD rows) rows

/-- Both version lists after every action of the plan was carried out once. -/
def executePlan (plan : ReconcilePlan) (localRows remoteRows : List VersionTriple) :
    List VersionTriple × List VersionTriple :=
  (pullRows remoteRows localRows (plan.pull ++ plan.adoptTombstone ++ plan.createLocal),
    pushRows localRows remoteRows (plan.push ++ plan.createRemote))

def reconcileRound (localRows remoteRows : List VersionTriple) :
    List VersionTriple × List VersionTriple :=
  executePlan (makePlan localRows remoteRows) localRows remoteRows

/-- No version's undelete threshold leaves 64 bits. -/
def SmallVersions (rows : List VersionTriple) : Prop :=
  ∀ row ∈ rows, row.version ≤ 9223372036854774807

instance (rows : List VersionTriple) : Decidable (SmallVersions rows) :=
  inferInstanceAs (Decidable (∀ row ∈ rows, row.version ≤ 9223372036854774807))

/-- The local row is a tombstone and the live remote row is at least as new. -/
def StaleTombstone (localRows remoteRows : List VersionTriple) (id : String) : Prop :=
  ∃ l r, index localRows id = some l ∧ index remoteRows id = some r ∧
    l.deleted = true ∧ r.deleted = false ∧ l.version ≤ r.version

/-- What the server holds for an id after one write to it. -/
def written (stored : Option VersionTriple) (row : VersionTriple) : Option VersionTriple :=
  if serverAccepts stored row then some row else stored

@[simp] theorem index_putRow (rows : List VersionTriple) (row : VersionTriple) (id : String) :
    index (putRow rows row) id = if row.id = id then some row else index rows id := by
  unfold index putRow
  rw [find_reverse_append]
  by_cases same : row.id = id
  · simp [same]
  · rw [← List.filter_reverse, List.find?_filter]
    simp only [same, if_false, beq_eq_false_iff_ne.mpr same, Bool.false_eq_true]
    congr 1
    funext old
    by_cases h : old.id = id <;> simp [h, Ne.symm same]

theorem index_serverWrite (rows : List VersionTriple) (row : VersionTriple) (id : String) :
    index (serverWrite rows row) id =
      if row.id = id then written (index rows id) row else index rows id := by
  unfold serverWrite written
  by_cases same : row.id = id
  · subst same
    split <;> simp
  · split <;> simp [same]

theorem written_twice (stored : Option VersionTriple) (row : VersionTriple) :
    written (written stored row) row = written stored row := by
  unfold written
  by_cases taken : serverAccepts stored row = true
  · simp only [taken, if_true, ite_self]
  · simp [taken]

private theorem index_pullRows (source rows : List VersionTriple) (pulled : List String)
    (id : String) :
    index (pullRows source rows pulled) id =
      if id ∈ pulled then (index source id).or (index rows id) else index rows id := by
  induction pulled generalizing rows with
  | nil => simp [pullRows]
  | cons head tail ih =>
    have unfoldHead : pullRows source rows (head :: tail) =
        pullRows source (((index source head).map (putRow rows)).getD rows) tail := rfl
    rw [unfoldHead, ih]
    cases found : index source head with
    | none => by_cases same : id = head <;> simp_all
    | some row =>
      have named := index_id found
      by_cases same : id = head
      · subst same
        simp [found, named]
      · have other : ¬ row.id = id := fun h => same (h.symm.trans named)
        simp [same, other]

private theorem index_pushRows (source rows : List VersionTriple) (pushed : List String)
    (id : String) :
    index (pushRows source rows pushed) id =
      match index source id with
      | some row => if id ∈ pushed then written (index rows id) row else index rows id
      | none => index rows id := by
  induction pushed generalizing rows with
  | nil => cases index source id <;> simp [pushRows]
  | cons head tail ih =>
    have unfoldHead : pushRows source rows (head :: tail) =
        pushRows source (((index source head).map (serverWrite rows)).getD rows) tail := rfl
    rw [unfoldHead, ih]
    cases found : index source head with
    | none =>
      by_cases same : id = head
      · subst same
        simp [found]
      · cases index source id <;> simp [same]
    | some row =>
      have named := index_id found
      by_cases same : id = head
      · subst same
        simp [found, named, index_serverWrite, written_twice]
      · have other : ¬ row.id = id := fun h => same (h.symm.trans named)
        simp [same, other, index_serverWrite]

theorem index_mem {rows : List VersionTriple} {id : String} {row : VersionTriple}
    (h : index rows id = some row) : row ∈ rows := by
  simpa using List.mem_of_find?_eq_some h

theorem undeleteMinimumVersion_le_iff {stored version : Int64}
    (small : stored ≤ 9223372036854774807) :
    undeleteMinimumVersion stored ≤ version ↔
      stored.toInt + undeleteVersionDelta.toInt ≤ version.toInt := by
  have low := stored.le_toInt
  have bound : (9223372036854774807 : Int64).toInt = 9223372036854774807 := by decide
  have delta : undeleteVersionDelta.toInt = 1000 := by decide
  rw [Int64.le_iff_toInt_le, bound] at small
  rw [undeleteMinimumVersion, Int64.le_iff_toInt_le, Int64.toInt_add, delta,
    Int.bmod_eq_of_le (by omega) (by omega)]

@[simp] theorem rowAction_self (row : VersionTriple) : rowAction row row = .skip := by
  unfold rowAction determineReconcileAction
  cases row.deleted <;> simp

theorem refused_push {l r : VersionTriple} (small : r.version ≤ 9223372036854774807)
    (pushed : rowAction l r = .push) :
    serverAccepts (some r) l = false ↔
      l.deleted = true ∧ r.deleted = false ∧ l.version ≤ r.version := by
  have threshold : undeleteMinimumVersion r.version ≤ l.version ↔
      r.version.toInt + undeleteVersionDelta.toInt ≤ l.version.toInt :=
    undeleteMinimumVersion_le_iff small
  unfold rowAction determineReconcileAction at pushed
  unfold serverAccepts
  cases hl : l.deleted <;> cases hr : r.deleted <;>
    simp only [hl, hr, Bool.not_true, Bool.not_false, Bool.and_true, Bool.and_false,
      Bool.and_self, Bool.false_eq_true, if_true, if_false] at pushed ⊢ <;>
    grind

theorem rowAction_stale {l r : VersionTriple} (hl : l.deleted = true)
    (hr : r.deleted = false) : rowAction l r = .push := by
  simp [rowAction, determineReconcileAction, hl, hr]

theorem index_round_local (localRows remoteRows : List VersionTriple) (id : String) :
    index (reconcileRound localRows remoteRows).1 id =
      match index localRows id, index remoteRows id with
      | some l, some r =>
          if rowAction l r = .pull ∨ rowAction l r = .adoptTombstone then some r else some l
      | some l, none => some l
      | none, remoteRow => remoteRow := by
  have pulled := mem_bucket localRows remoteRows .pull id
  have adopted := mem_bucket localRows remoteRows .adoptTombstone id
  have created := mem_createLocal localRows remoteRows id
  simp only [ReconcilePlan.bucket] at pulled adopted
  simp only [reconcileRound, executePlan, index_pullRows, List.mem_append]
  cases hl : index localRows id <;> cases hr : index remoteRows id <;>
    simp [hl, hr] at pulled adopted created <;> simp [pulled, adopted, created]

theorem index_round_remote (localRows remoteRows : List VersionTriple) (id : String) :
    index (reconcileRound localRows remoteRows).2 id =
      match index localRows id, index remoteRows id with
      | some l, some r => if rowAction l r = .push then written (some r) l else some r
      | some l, none => some l
      | none, remoteRow => remoteRow := by
  have pushed := mem_bucket localRows remoteRows .push id
  have created := mem_createRemote localRows remoteRows id
  simp only [ReconcilePlan.bucket] at pushed
  simp only [reconcileRound, executePlan, index_pushRows, List.mem_append]
  cases hl : index localRows id <;> cases hr : index remoteRows id <;>
    simp [hl, hr] at pushed created <;> simp [pushed, created, written, serverAccepts]

/-- After the round an id is on both sides or on neither, and where it is on both the two
rows agree or are a stale tombstone and the live row that outranks it. -/
theorem round_rows (localRows : List VersionTriple) {remoteRows : List VersionTriple}
    (small : SmallVersions remoteRows) (id : String) :
    (index (reconcileRound localRows remoteRows).1 id = none ∧
        index (reconcileRound localRows remoteRows).2 id = none ∧
        id ∉ ids localRows ∪ ids remoteRows) ∨
      ∃ l r, index (reconcileRound localRows remoteRows).1 id = some l ∧
        index (reconcileRound localRows remoteRows).2 id = some r ∧
        id ∈ ids localRows ∪ ids remoteRows ∧
        (¬ StaleTombstone localRows remoteRows id ∧ rowAction l r = .skip ∨
          StaleTombstone localRows remoteRows id ∧ rowAction l r = .push) := by
  rw [index_round_local, index_round_remote, Finset.mem_union, mem_ids, mem_ids]
  cases hl : index localRows id with
  | none =>
    cases hr : index remoteRows id with
    | none => simp
    | some r => exact .inr ⟨r, r, by simp [StaleTombstone, hl]⟩
  | some l =>
    cases hr : index remoteRows id with
    | none => exact .inr ⟨l, l, by simp [StaleTombstone, hr]⟩
    | some r =>
      have stale : StaleTombstone localRows remoteRows id ↔
          l.deleted = true ∧ r.deleted = false ∧ l.version ≤ r.version := by
        simp [StaleTombstone, hl, hr]
      right
      simp only [stale]
      by_cases pushed : rowAction l r = .push
      · have refused := refused_push (small r (index_mem hr)) pushed
        cases accepted : serverAccepts (some r) l with
        | true =>
          have fresh : ¬ (l.deleted = true ∧ r.deleted = false ∧ l.version ≤ r.version) := by
            rw [← refused, accepted]
            simp
          exact ⟨l, l, by simp [pushed], by simp [pushed, written, accepted], by simp,
            .inl ⟨fresh, rowAction_self l⟩⟩
        | false =>
          exact ⟨l, r, by simp [pushed], by simp [written, accepted], by simp,
            .inr ⟨refused.mp accepted, pushed⟩⟩
      · have fresh : ¬ (l.deleted = true ∧ r.deleted = false ∧ l.version ≤ r.version) :=
          fun h => pushed (rowAction_stale h.1 h.2.1)
        by_cases copied : rowAction l r = .pull ∨ rowAction l r = .adoptTombstone
        · exact ⟨r, r, by simp [copied], by simp [pushed], by simp,
            .inl ⟨fresh, rowAction_self r⟩⟩
        · have skipped : rowAction l r = .skip := by
            cases h : rowAction l r <;> simp_all
          exact ⟨l, r, by simp [skipped], by simp [skipped], by simp, .inl ⟨fresh, skipped⟩⟩

/-- A second plan finds nothing left to copy. It pushes again exactly the tombstones the
guard refused, and skips every other id of the two lists. -/
theorem reconcileRound_converges (localRows remoteRows : List VersionTriple)
    (small : SmallVersions remoteRows) (id : String) :
    let after := reconcileRound localRows remoteRows
    let next := makePlan after.1 after.2
    id ∉ next.pull ∧ id ∉ next.adoptTombstone ∧ id ∉ next.createLocal ∧
      id ∉ next.createRemote ∧
      (id ∈ next.push ↔ StaleTombstone localRows remoteRows id) ∧
      (id ∈ next.skip ↔ id ∈ ids localRows ∪ ids remoteRows ∧
        ¬ StaleTombstone localRows remoteRows id) := by
  intro after next
  have bucket := fun action => mem_bucket after.1 after.2 action id
  have pulled := bucket .pull
  have adopted := bucket .adoptTombstone
  have pushed := bucket .push
  have skipped := bucket .skip
  simp only [ReconcilePlan.bucket] at pulled adopted pushed skipped
  rw [pulled, adopted, pushed, skipped, mem_createLocal, mem_createRemote]
  rcases round_rows localRows small id with ⟨hl, hr, absent⟩ | ⟨l, r, hl, hr, present, settled⟩
  · have never : ¬ StaleTombstone localRows remoteRows id := by
      rintro ⟨l, _, found, _⟩
      exact absent (Finset.mem_union_left _ (mem_ids.mpr (by simp [found])))
    simp [after, hl, hr, absent, never]
  · rcases settled with ⟨fresh, action⟩ | ⟨stale, action⟩
    · simp [after, hl, hr, action, present, fresh]
    · simp [after, hl, hr, action, stale]

/-- A newer local row is pushed in the round and skipped by the next plan. -/
theorem reconcileRound_converges_newer_local :
    let after := reconcileRound [⟨"a", 6, false⟩] [⟨"a", 5, false⟩]
    SmallVersions [⟨"a", 5, false⟩] ∧ "a" ∈ (makePlan after.1 after.2).skip := by
  have small : SmallVersions [⟨"a", 5, false⟩] := by decide
  have settled := reconcileRound_converges [⟨"a", 6, false⟩] [⟨"a", 5, false⟩] small "a"
  refine ⟨small, settled.2.2.2.2.2.mpr ⟨by decide, ?_⟩⟩
  rintro ⟨l, r, hl, _, tombstone, _⟩
  cases hl
  exact Bool.noConfusion tombstone

/-- A tombstone at the live row's own version is refused, and the second plan pushes it
again. -/
theorem reconcileRound_keeps_stale_tombstone :
    let localRows : List VersionTriple := [⟨"a", 5, true⟩]
    let remoteRows : List VersionTriple := [⟨"a", 5, false⟩]
    let after := reconcileRound localRows remoteRows
    (localRows.map VersionTriple.id).Nodup ∧ (remoteRows.map VersionTriple.id).Nodup ∧
      SmallVersions localRows ∧ SmallVersions remoteRows ∧ "a" ∈ ids localRows ∧
      "a" ∉ (makePlan after.1 after.2).skip := by
  refine ⟨by decide, by decide, by decide, by decide, by decide, ?_⟩
  intro skipped
  obtain ⟨l, r, hl, hr, action⟩ := (mem_bucket _ _ .skip "a").mp skipped
  have keptLocal : index (reconcileRound [⟨"a", 5, true⟩] [⟨"a", 5, false⟩]).1 "a" =
      some ⟨"a", 5, true⟩ := by rw [index_round_local]; decide
  have keptRemote : index (reconcileRound [⟨"a", 5, true⟩] [⟨"a", 5, false⟩]).2 "a" =
      some ⟨"a", 5, false⟩ := by rw [index_round_remote]; decide
  rw [keptLocal] at hl
  rw [keptRemote] at hr
  cases hl
  cases hr
  exact absurd action (by decide)

end Polykit.Reconcile.Convergence
