/- Module: Polykit/OfflineQueue/Exact
   generality: I
   source: crates/polybase/src/offline_queue/mod.rs
   digest: What a finalize leaves of the in-memory queue, entry by entry and in its order. -/

import Polykit.OfflineQueue.Memory

set_option autoImplicit false
set_option relaxedAutoImplicit false

namespace Polykit.OfflineQueue.Exact

open Contract Lib.Keyed OfflineQueue.Memory

/-- The operation was queued after the snapshot was taken, or its replay failed. -/
def Outlives (snapshot failed : List QueuedOperation) (op : QueuedOperation) : Prop :=
  op.toContract ∉ snapshot.map QueuedOperation.toContract ∨
    op.toContract ∈ failed.map QueuedOperation.toContract

instance (snapshot failed : List QueuedOperation) (op : QueuedOperation) :
    Decidable (Outlives snapshot failed op) :=
  inferInstanceAs (Decidable (_ ∨ _))

/-- A retry is counted for what failed, with the error of its failed entry. -/
def retried (failed : List QueuedOperation) (op : QueuedOperation) : QueuedOperation :=
  match failed.find? (fun entry => entry.toContract == op.toContract) with
  | some entry =>
      { op with retryCount := saturatingSucc op.retryCount, lastError := entry.lastError }
  | none => op

variable {queue : MemoryQueue} {snapshot failed : List QueuedOperation} {op entry : QueuedOperation}

theorem retried_of_mem (distinct : (failed.map QueuedOperation.toContract).Nodup)
    (member : entry ∈ failed) (same : entry.toContract = op.toContract) :
    retried failed op =
      { op with retryCount := saturatingSucc op.retryCount, lastError := entry.lastError } := by
  unfold retried
  rw [(find_eq_some_iff distinct).mpr ⟨member, same⟩]

theorem retried_of_not_mem (absent : op.toContract ∉ failed.map QueuedOperation.toContract) :
    retried failed op = op := by
  unfold retried
  rw [find_eq_none_iff.mpr absent]

theorem toContract_retried (failed : List QueuedOperation) (op : QueuedOperation) :
    (retried failed op).toContract = op.toContract := by
  unfold retried
  split <;> rfl

theorem finalizeEntry_eq (distinct : (failed.map QueuedOperation.toContract).Nodup)
    (retained : List ContractOperation) (op : QueuedOperation) :
    finalizeEntry retained failed op =
      if op.toContract ∈ retained then some (retried failed op) else none := by
  unfold finalizeEntry failedByFullKey
  refine if_congr Iff.rfl ?_ rfl
  by_cases member : op.toContract ∈ failed.map QueuedOperation.toContract
  · obtain ⟨entry, found, same⟩ := List.mem_map.mp member
    rw [(find_reverse_eq_some_iff distinct).mpr ⟨found, same⟩,
      retried_of_mem distinct found same, Option.map_some]
  · have absent : op.toContract ∉ failed.reverse.map QueuedOperation.toContract := by
      rwa [List.map_reverse, List.mem_reverse]
    rw [find_eq_none_iff.mpr absent, retried_of_not_mem member, Option.map_none]

theorem finalize_eq (distinctSnapshot : (snapshot.map QueuedOperation.key).Nodup)
    (distinctFailed : (failed.map QueuedOperation.toContract).Nodup)
    (drawn : ∀ entry ∈ failed, entry.toContract ∈ snapshot.map QueuedOperation.toContract) :
    (queue.finalizeAfterProcessing snapshot failed).inner =
      (queue.inner.filter (fun op => decide (Outlives snapshot failed op))).map
        (retried failed) := by
  rw [← List.filterMap_eq_map, List.filterMap_filter]
  refine List.filterMap_congr (fun op member => ?_)
  rw [finalizeEntry_eq distinctFailed]
  refine if_congr ?_ rfl rfl
  rw [decide_eq_true_iff]
  exact mem_retainedKeys distinctSnapshot drawn member

theorem current_of_finalize {current snapshot failed : List ContractOperation}
    (distinct : (snapshot.map ContractOperation.key).Nodup)
    (drawn : ∀ operation ∈ failed, operation ∈ snapshot)
    (queued : ∀ operation ∈ failed, operation.key ∈ current.map ContractOperation.key)
    {operation : ContractOperation}
    (member : operation ∈ finalizeQueueAfterProcessing current snapshot failed) :
    operation ∈ current := by
  have oneEach : ∀ a ∈ failed, ∀ b ∈ failed, a.key = b.key → a = b := fun a ha b hb =>
    List.inj_on_of_nodup_map distinct (drawn a ha) (drawn b hb)
  unfold finalizeQueueAfterProcessing at member
  rw [mem_foldl_retainFailed oneEach, mem_retainedFromCurrent distinct] at member
  rcases member with ⟨here, _⟩ | ⟨failure, untaken⟩
  · exact here
  · obtain ⟨holder, found, same⟩ := List.mem_map.mp (queued operation failure)
    by_cases settled : holder ∈ snapshot
    · -- the snapshot holds one operation of the key, so the holder is the failed one
      have equal := List.inj_on_of_nodup_map distinct settled (drawn operation failure) same
      exact equal ▸ found
    · have retained : holder ∈ retainedFromCurrent current snapshot :=
        (mem_retainedFromCurrent distinct holder).mpr ⟨found, settled⟩
      exact (untaken (List.mem_map.mpr ⟨holder, retained, same⟩)).elim

theorem mem_retainedKeys_iff (distinct : (snapshot.map QueuedOperation.key).Nodup)
    (drawn : ∀ entry ∈ failed, entry.toContract ∈ snapshot.map QueuedOperation.toContract)
    (queued : ∀ entry ∈ failed, entry.key ∈ queue.inner.map QueuedOperation.key)
    (operation : ContractOperation) :
    operation ∈ retainedKeys queue.inner snapshot failed ↔
      ∃ op ∈ queue.inner, Outlives snapshot failed op ∧ op.toContract = operation := by
  constructor
  · intro retained
    have current : operation ∈ queue.inner.map QueuedOperation.toContract := by
      refine current_of_finalize ?_ ?_ ?_ retained
      · rw [List.map_map]
        exact distinct
      · intro failure member
        obtain ⟨entry, found, rfl⟩ := List.mem_map.mp member
        exact drawn entry found
      · intro failure member
        obtain ⟨entry, found, rfl⟩ := List.mem_map.mp member
        rw [List.map_map]
        exact queued entry found
    obtain ⟨op, member, rfl⟩ := List.mem_map.mp current
    exact ⟨op, member, (mem_retainedKeys distinct drawn member).mp retained, rfl⟩
  · rintro ⟨op, member, outlives, rfl⟩
    exact (mem_retainedKeys distinct drawn member).mpr outlives

/-- A finalize leaves, in their order, the operations that its snapshot does not hold or that
failed, with a retry counted for the latter, and these are the ones its contract rule retains. -/
theorem finalizeAfterProcessing_exact
    (distinctSnapshot : (snapshot.map QueuedOperation.key).Nodup)
    (distinctFailed : (failed.map QueuedOperation.toContract).Nodup)
    (drawn : ∀ entry ∈ failed, entry.toContract ∈ snapshot.map QueuedOperation.toContract) :
    (queue.finalizeAfterProcessing snapshot failed).inner =
        (queue.inner.filter (fun op => decide (Outlives snapshot failed op))).map
          (retried failed) ∧
      (∀ op, ∀ entry ∈ failed, entry.toContract = op.toContract → retried failed op =
        { op with retryCount := saturatingSucc op.retryCount, lastError := entry.lastError }) ∧
      (∀ op : QueuedOperation, op.toContract ∉ failed.map QueuedOperation.toContract →
        retried failed op = op) ∧
      ((∀ entry ∈ failed, entry.key ∈ queue.inner.map QueuedOperation.key) → ∀ operation,
        operation ∈ (queue.finalizeAfterProcessing snapshot failed).inner.map
            QueuedOperation.toContract ↔
          operation ∈ finalizeQueueAfterProcessing (queue.inner.map QueuedOperation.toContract)
            (snapshot.map QueuedOperation.toContract)
            (failed.map QueuedOperation.toContract)) := by
  have left : (queue.finalizeAfterProcessing snapshot failed).inner = _ :=
    finalize_eq distinctSnapshot distinctFailed drawn
  refine ⟨left, fun op entry member same => retried_of_mem distinctFailed member same,
    fun op absent => retried_of_not_mem absent, fun queued operation => ?_⟩
  have rule := mem_retainedKeys_iff distinctSnapshot drawn queued operation
  rw [left, List.map_map]
  refine Iff.trans ?_ rule.symm
  simp only [List.mem_map, List.mem_filter, decide_eq_true_iff, Function.comp_apply,
    toContract_retried, and_assoc]

/-- An operation was replayed, one failed, and one came while the two were on their way. -/
theorem finalizeAfterProcessing_exact_three :
    let done : QueuedOperation := ⟨"notes", "1", .hardDelete, 1, 0, none⟩
    let failure : QueuedOperation := ⟨"notes", "2", .hardDelete, 2, 4, some "offline"⟩
    let newer : QueuedOperation := ⟨"notes", "3", .hardDelete, 3, 0, none⟩
    ∃ queue : MemoryQueue, queue.inner = [done, failure, newer] ∧
      (queue.finalizeAfterProcessing [done, failure]
        [{ failure with lastError := some "rejected" }]).inner =
          [{ failure with retryCount := 5, lastError := some "rejected" }, newer] := by
  intro done failure newer
  refine ⟨⟨[done, failure, newer], by decide⟩, rfl, ?_⟩
  rw [(finalizeAfterProcessing_exact (by decide) (by decide) (by decide)).1]
  rfl

end Polykit.OfflineQueue.Exact
