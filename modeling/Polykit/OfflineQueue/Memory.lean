/- Module: Polykit/OfflineQueue/Memory
   generality: I
   source: crates/polybase/src/offline_queue/mod.rs
   digest: The in-memory queue, and the queue trait as operations with answers. -/

import Polykit.Contract
import Polykit.Errors
import Polykit.Json
import Polykit.Lib.Lockstep
import Polykit.Lib.Runs
import Polykit.Lib.Worklist

set_option autoImplicit false
set_option relaxedAutoImplicit false

namespace Polykit.OfflineQueue.Memory

open Contract Json Lib.Runs Lib.Worklist

inductive QueuedOperationKind
  | write (payload : Value)
  | tombstone (version : Int64)
  | hardDelete

structure QueuedOperation where
  table : String
  entityId : String
  kind : QueuedOperationKind
  queuedAtMicros : Int64
  retryCount : UInt32 := 0
  lastError : Option String := none

def QueuedOperation.toContract (op : QueuedOperation) : ContractOperation :=
  ⟨op.table, op.entityId, op.queuedAtMicros⟩

def QueuedOperation.key (op : QueuedOperation) : String × String := op.toContract.key

/-- What a replay may not change of an operation: all but the retry diagnostics. -/
def QueuedOperation.identity (op : QueuedOperation) : ContractOperation × QueuedOperationKind :=
  (op.toContract, op.kind)

/-- The queue in its order, at most one entry a key. -/
structure MemoryQueue where
  inner : List QueuedOperation
  distinct : (inner.map QueuedOperation.key).Nodup

def MemoryQueue.new : MemoryQueue := ⟨[], List.nodup_nil⟩

def MemoryQueue.enqueue (queue : MemoryQueue) (op : QueuedOperation) : MemoryQueue where
  inner := queue.inner.filter (fun existing =>
    !(existing.table == op.table && existing.entityId == op.entityId)) ++ [op]
  distinct := by
    rw [List.map_append, List.nodup_append]
    refine ⟨(List.filter_sublist.map _).nodup queue.distinct, by simp, ?_⟩
    rintro key member _ last rfl
    obtain ⟨existing, kept, hkey⟩ := List.mem_map.mp member
    have same : existing.key = op.key := hkey.trans (by simpa using last)
    have other := (List.mem_filter.mp kept).2
    simp_all [QueuedOperation.key, ContractOperation.key, QueuedOperation.toContract]

def MemoryQueue.snapshot (queue : MemoryQueue) : List QueuedOperation := queue.inner

def MemoryQueue.depth (queue : MemoryQueue) : Nat := queue.inner.length

def saturatingSucc (n : UInt32) : UInt32 := if n = 0xFFFFFFFF then n else n + 1

theorem toNat_saturatingSucc (n : UInt32) :
    (saturatingSucc n).toNat = min (n.toNat + 1) (2 ^ 32 - 1) := by
  have top : (0xFFFFFFFF : UInt32).toNat = 2 ^ 32 - 1 := rfl
  have fits := n.toNat_lt
  unfold saturatingSucc
  split
  · rename_i full
    rw [full, top]
    rfl
  · rename_i room
    have below : n.toNat ≠ 2 ^ 32 - 1 :=
      fun same => room (UInt32.toNat_inj.mp (same.trans top.symm))
    rw [UInt32.toNat_add, UInt32.toNat_one, Nat.mod_eq_of_lt] <;> omega

theorem saturatingSucc_toNat {count : UInt32} {n : Nat}
    (counted : count.toNat = min n (2 ^ 32 - 1)) :
    (saturatingSucc count).toNat = min (n + 1) (2 ^ 32 - 1) := by
  rw [toNat_saturatingSucc, counted]
  omega

/-- The error recorded for a failed operation, looked up by its full key. -/
def failedByFullKey (failed : List QueuedOperation) (fullKey : ContractOperation) :
    Option (Option String) :=
  (failed.reverse.find? (fun op => op.toContract == fullKey)).map QueuedOperation.lastError

/-- The retain loop on one entry: drop it, count a retry, or leave it as it is. -/
def finalizeEntry (retained : List ContractOperation) (failed : List QueuedOperation)
    (op : QueuedOperation) : Option QueuedOperation :=
  if op.toContract ∈ retained then
    match failedByFullKey failed op.toContract with
    | some lastError =>
        some { op with retryCount := saturatingSucc op.retryCount, lastError := lastError }
    | none => some op
  else none

def retainedKeys (inner snapshot failed : List QueuedOperation) : List ContractOperation :=
  finalizeQueueAfterProcessing (inner.map QueuedOperation.toContract)
    (snapshot.map QueuedOperation.toContract) (failed.map QueuedOperation.toContract)

theorem finalizeEntry_identity {retained : List ContractOperation}
    {failed : List QueuedOperation} {op entry : QueuedOperation}
    (h : finalizeEntry retained failed op = some entry) : entry.identity = op.identity := by
  unfold finalizeEntry at h
  split at h
  · split at h <;> cases h <;> rfl
  · cases h

theorem finalizeEntry_isSome (retained : List ContractOperation)
    (failed : List QueuedOperation) (op : QueuedOperation) :
    (finalizeEntry retained failed op).isSome ↔ op.toContract ∈ retained := by
  unfold finalizeEntry
  split
  · rename_i member
    split <;> simp [member]
  · rename_i absent
    simp [absent]

theorem key_of_identity {a b : QueuedOperation} (h : a.identity = b.identity) :
    a.key = b.key := congrArg (fun i => i.1.key) h

theorem map_toContract_finalize (retained : List ContractOperation)
    (failed inner : List QueuedOperation) :
    (inner.filterMap (finalizeEntry retained failed)).map QueuedOperation.toContract =
      (inner.filter (fun op => decide (op.toContract ∈ retained))).map
        QueuedOperation.toContract := by
  induction inner with
  | nil => rfl
  | cons op rest ih =>
    have isSome := finalizeEntry_isSome retained failed op
    cases result : finalizeEntry retained failed op with
    | none =>
      have dropped : op.toContract ∉ retained := by simpa [result] using isSome
      rw [List.filterMap_cons_none result, ih]
      simp [dropped]
    | some entry =>
      have kept : op.toContract ∈ retained := by simpa [result] using isSome
      have same : entry.toContract = op.toContract :=
        congrArg Prod.fst (finalizeEntry_identity result)
      rw [List.filterMap_cons_some result, List.map_cons, ih, same]
      simp [kept]

private theorem map_key_finalize_sublist (retained : List ContractOperation)
    (failed inner : List QueuedOperation) :
    ((inner.filterMap (finalizeEntry retained failed)).map QueuedOperation.key).Sublist
      (inner.map QueuedOperation.key) := by
  have keys : ∀ ops : List QueuedOperation, ops.map QueuedOperation.key =
      (ops.map QueuedOperation.toContract).map ContractOperation.key :=
    fun ops => List.map_map.symm
  rw [keys, map_toContract_finalize, ← keys]
  exact List.filter_sublist.map _

def MemoryQueue.finalizeAfterProcessing (queue : MemoryQueue)
    (snapshot failed : List QueuedOperation) : MemoryQueue where
  inner := queue.inner.filterMap
    (finalizeEntry (retainedKeys queue.inner snapshot failed) failed)
  distinct := (map_key_finalize_sublist _ _ _).nodup queue.distinct

/-! One spec lemma for each operation that changes the queue, on the identities it holds. -/

theorem mem_enqueue (queue : MemoryQueue) (op entry : QueuedOperation) :
    entry ∈ (queue.enqueue op).inner ↔
      entry = op ∨ entry ∈ queue.inner ∧ entry.key ≠ op.key := by
  simp only [MemoryQueue.enqueue, List.mem_append, List.mem_filter, List.mem_singleton,
    QueuedOperation.key, ContractOperation.key, QueuedOperation.toContract, Bool.not_eq_true',
    Bool.and_eq_false_iff, beq_eq_false_iff_ne, Prod.mk.injEq, not_and_or, ne_eq]
  exact or_comm

theorem identity_mem_enqueue (queue : MemoryQueue) (op : QueuedOperation)
    (i : ContractOperation × QueuedOperationKind) :
    i ∈ (queue.enqueue op).inner.map QueuedOperation.identity ↔
      i = op.identity ∨ i ∈ queue.inner.map QueuedOperation.identity ∧ i.1.key ≠ op.key := by
  simp only [List.mem_map, mem_enqueue]
  constructor
  · rintro ⟨entry, rfl | ⟨member, other⟩, rfl⟩
    · exact .inl rfl
    · exact .inr ⟨⟨entry, member, rfl⟩, other⟩
  · rintro (rfl | ⟨⟨entry, member, rfl⟩, other⟩)
    · exact ⟨op, .inl rfl, rfl⟩
    · exact ⟨entry, .inr ⟨member, other⟩, rfl⟩

theorem mem_retainedKeys {queue : MemoryQueue} {snapshot failed : List QueuedOperation}
    (distinct : (snapshot.map QueuedOperation.key).Nodup)
    (drawn : ∀ op ∈ failed, op.toContract ∈ snapshot.map QueuedOperation.toContract)
    {op : QueuedOperation} (member : op ∈ queue.inner) :
    op.toContract ∈ retainedKeys queue.inner snapshot failed ↔
      op.toContract ∉ snapshot.map QueuedOperation.toContract ∨
        op.toContract ∈ failed.map QueuedOperation.toContract := by
  have keysOf : ∀ ops : List QueuedOperation,
      (ops.map QueuedOperation.toContract).map ContractOperation.key =
        ops.map QueuedOperation.key := fun ops => by rw [List.map_map]; rfl
  refine mem_finalizeQueueAfterProcessing ?_ ?_ ?_ (List.mem_map_of_mem member)
  · rw [keysOf]
    exact queue.distinct
  · rw [keysOf]
    exact distinct
  · intro operation failure
    obtain ⟨f, hf, rfl⟩ := List.mem_map.mp failure
    exact drawn f hf

theorem identity_mem_finalize {queue : MemoryQueue} {snapshot failed : List QueuedOperation}
    (distinct : (snapshot.map QueuedOperation.key).Nodup)
    (drawn : ∀ op ∈ failed, op.toContract ∈ snapshot.map QueuedOperation.toContract)
    (i : ContractOperation × QueuedOperationKind) :
    i ∈ (queue.finalizeAfterProcessing snapshot failed).inner.map QueuedOperation.identity ↔
      i ∈ queue.inner.map QueuedOperation.identity ∧
        (i.1 ∉ snapshot.map QueuedOperation.toContract ∨
          i.1 ∈ failed.map QueuedOperation.toContract) := by
  have kept : ∀ op ∈ queue.inner, op.toContract ∈ retainedKeys queue.inner snapshot failed ↔ _ :=
    fun op member => mem_retainedKeys distinct drawn member
  simp only [MemoryQueue.finalizeAfterProcessing, List.mem_map, List.mem_filterMap]
  constructor
  · rintro ⟨entry, ⟨op, member, result⟩, rfl⟩
    have same := finalizeEntry_identity result
    have retained := (finalizeEntry_isSome _ _ op).mp (by rw [result]; rfl)
    rw [same]
    refine ⟨⟨op, member, rfl⟩, ?_⟩
    simpa [QueuedOperation.identity] using (kept op member).mp retained
  · rintro ⟨⟨op, member, rfl⟩, survives⟩
    have retained := (kept op member).mpr (by simpa [QueuedOperation.identity] using survives)
    obtain ⟨entry, result⟩ :=
      Option.isSome_iff_exists.mp ((finalizeEntry_isSome _ failed op).mpr retained)
    exact ⟨entry, ⟨op, member, result⟩, finalizeEntry_identity result⟩

end Polykit.OfflineQueue.Memory

namespace Polykit.OfflineQueue.Interface

open Contract Errors Lib.Lockstep Memory

inductive QueueCall
  | enqueue (op : QueuedOperation)
  | snapshot
  | depth
  | finalize (snapshot failed : List QueuedOperation)

inductive QueueAnswer
  | done (result : Except OfflineQueueError Unit)
  | entries (result : Except OfflineQueueError (List QueuedOperation))
  | count (result : Except OfflineQueueError Nat)

def memoryComponent : Component MemoryQueue QueueCall QueueAnswer
  | queue, .enqueue op => (queue.enqueue op, .done (.ok ()))
  | queue, .snapshot => (queue, .entries (.ok queue.snapshot))
  | queue, .depth => (queue, .count (.ok queue.depth))
  | queue, .finalize snapshot failed =>
      (queue.finalizeAfterProcessing snapshot failed, .done (.ok ()))

def enqueuedBy (calls : List QueueCall) : List QueuedOperation :=
  calls.filterMap (fun call => match call with
    | .enqueue op => some op
    | _ => none)

def retainedAsFailed (queue : MemoryQueue) : QueueCall → List QueuedOperation
  | .finalize snapshot failed => queue.inner.filter (fun op =>
      decide (op.toContract ∈ retainedKeys queue.inner snapshot failed) &&
        (failedByFullKey failed op.toContract).isSome)
  | _ => []

/-- Every time a sequence of calls keeps an operation as failed, with its full key. -/
def failureLog : MemoryQueue → List QueueCall → List ContractOperation
  | _, [] => []
  | queue, call :: later =>
      (retainedAsFailed queue call).map QueuedOperation.toContract ++
        failureLog (memoryComponent queue call).1 later

end Polykit.OfflineQueue.Interface
