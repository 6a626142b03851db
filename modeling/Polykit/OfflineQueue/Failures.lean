/- Module: Polykit/OfflineQueue/Failures
   generality: I
   source: crates/tauri-plugin-polybase/src/queue_store.rs
   digest: What a queue in a file makes of an operation whose flush failed. -/

import Polykit.OfflineQueue.Crash

set_option autoImplicit false
set_option relaxedAutoImplicit false

namespace Polykit.OfflineQueue.Failures

open Contract Crash Errors FileBacked Interface Lib.Lockstep Memory

/-- The directory is not created, or the write fails before it touches the file. -/
def FlushFails (io : FileIo) : Prop :=
  (∃ e, io.createDir = .error e) ∨ (io.createDir = .ok () ∧ ∃ e, io.write = .error (e, .before))

/-- The queue over a file system that answers each call in its own way. -/
def serving (json : QueueJson) : Component FileBackedQueue (FileIo × QueueCall) QueueAnswer :=
  fun q op => runCall json op.1 q op.2

/-- Whatever is asked later, and whatever becomes of its reads and writes among those allowed,
the two queues answer alike. -/
def Alike (json : QueueJson) (allowed : FileIo → Prop) (q q' : FileBackedQueue) : Prop :=
  ∀ later : List (FileIo × QueueCall), (∀ op ∈ later, allowed op.1) →
    (serving json).answers q later = (serving json).answers q' later

/-- The file can be read. -/
def Reads (io : FileIo) : Prop := io.read = .ok ()

/-- The call changes nothing in the list: the entry is the last one already, or every entry is
retained. -/
def LeavesList (list : List QueuedOperation) : QueueCall → Prop
  | .enqueue op => ∃ rest, list = rest ++ [op] ∧ ∀ entry ∈ rest, entry.key ≠ op.key
  | .finalize snapshot failed =>
      ∀ op ∈ list, op.toContract ∈ retainedKeys list snapshot failed
  | .snapshot | .depth => True

def EmptiesList (list : List QueuedOperation) : QueueCall → Prop
  | .enqueue _ => False
  | .finalize snapshot failed =>
      ∀ op ∈ list, op.toContract ∉ retainedKeys list snapshot failed
  | .snapshot | .depth => list = []

theorem otherKey_iff (entry op : QueuedOperation) :
    (!(entry.table == op.table && entry.entityId == op.entityId)) = true ↔
      entry.key ≠ op.key := by
  simp only [QueuedOperation.key, ContractOperation.key, QueuedOperation.toContract,
    Bool.not_eq_true', Bool.and_eq_false_iff, beq_eq_false_iff_ne, Prod.mk.injEq, not_and_or, ne_eq]

theorem leavesList_iff {list : List QueuedOperation} {call : QueueCall} :
    cacheAfter list call = list ↔ LeavesList list call := by
  cases call with
  | enqueue op =>
    simp only [cacheAfter, enqueueCache, LeavesList]
    constructor
    · intro same
      refine ⟨_, same.symm, fun entry member => ?_⟩
      exact (otherKey_iff entry op).mp (List.mem_filter.mp member).2
    · rintro ⟨rest, rfl, others⟩
      have kept : rest.filter (fun entry =>
          !(entry.table == op.table && entry.entityId == op.entityId)) = rest :=
        List.filter_eq_self.mpr (fun entry member =>
          (otherKey_iff entry op).mpr (others entry member))
      rw [List.filter_append, kept]
      simp
  | finalize snapshot failed =>
    simp [cacheAfter, finalizeCache, LeavesList, List.filter_eq_self]
  | snapshot => simp [cacheAfter, LeavesList]
  | depth => simp [cacheAfter, LeavesList]

theorem emptiesList_iff {list : List QueuedOperation} {call : QueueCall} :
    cacheAfter list call = [] ↔ EmptiesList list call := by
  cases call with
  | enqueue op => simp [cacheAfter, enqueueCache, EmptiesList]
  | finalize snapshot failed =>
    simp [cacheAfter, finalizeCache, EmptiesList, List.filter_eq_nil_iff]
  | snapshot => simp [cacheAfter, EmptiesList]
  | depth => simp [cacheAfter, EmptiesList]

/-! Two queues that load to the same are the same from the next call on. -/

variable {json : QueueJson} {io : FileIo} {q q' loaded : FileBackedQueue}

theorem runCall_congr (same : q.loadIntoCache json io = .ok loaded)
    (also : q'.loadIntoCache json io = .ok loaded) (call : QueueCall) :
    runCall json io q call = runCall json io q' call := by
  cases call with
  | enqueue op => simp only [runCall, FileBackedQueue.enqueue, same, also]
  | snapshot => simp only [runCall, FileBackedQueue.snapshot, same, also]
  | depth => simp only [runCall, FileBackedQueue.depth, same, also]
  | finalize snapshot failed =>
    simp only [runCall, FileBackedQueue.finalizeAfterProcessing, same, also]

theorem alike_of_loaded (first : ∀ io : FileIo, io.read = .ok () →
    q.loadIntoCache json io = .ok loaded ∧ q'.loadIntoCache json io = .ok loaded) :
    Alike json Reads q q' := by
  intro later reads
  cases later with
  | nil => rfl
  | cons op later =>
    obtain ⟨mine, yours⟩ := first op.1 (reads op List.mem_cons_self)
    have same : serving json q op = serving json q' op := runCall_congr mine yours op.2
    simp only [Component.answers, same]

theorem runCall_failed {call : QueueCall} (enabled : q.disabled = false)
    (worked : q.loadIntoCache json io = .ok loaded) (writes : QueueCall.writes call = true)
    (fails : FlushFails io) :
    ∃ e, runCall json io q call =
      ({ loaded with cache := cacheAfter loaded.cache call }, .done (.error (.io e))) := by
  have flush : ∀ changed : FileBackedQueue, changed.disabled = false →
      ∃ e, changed.flushLocked json io = (changed, .error (.io e)) := by
    rintro ⟨file, cache, _⟩ rfl
    unfold FileBackedQueue.flushLocked
    rcases fails with ⟨e, refused⟩ | ⟨made, e, failed⟩
    · exact ⟨e, by simp [refused]⟩
    · exact ⟨e, by simp [made, failed, fileAt]⟩
  have on : loaded.disabled = false := by
    rw [(loadIntoCache_cases worked).1]
    exact enabled
  cases call with
  | enqueue op =>
    obtain ⟨e, result⟩ := flush { loaded with cache := enqueueCache loaded.cache op } on
    exact ⟨e, by simp only [runCall, FileBackedQueue.enqueue, worked, result, cacheAfter]⟩
  | finalize snapshot failed =>
    obtain ⟨e, result⟩ :=
      flush { loaded with cache := finalizeCache loaded.cache snapshot failed } on
    exact ⟨e, by
      simp only [runCall, FileBackedQueue.finalizeAfterProcessing, worked, result, cacheAfter]⟩
  | snapshot => cases writes
  | depth => cases writes

/-- The next snapshot that can read the file is the list from before the call, and later calls go
as if it had not been made. -/
def Unnoticed (json : QueueJson) (allowed : FileIo → Prop) (q : FileBackedQueue)
    (list : List QueuedOperation) (failed : FileBackedQueue) : Prop :=
  (∀ io : FileIo, io.read = .ok () → (failed.snapshot json io).2 = .ok list) ∧
    Alike json allowed q failed

theorem snapshot_unread (enabled : q.disabled = false) (e : String) :
    (q.snapshot json { read := .error e }).2 =
      if q.cache = [] then .error (.io e) else .ok q.cache := by
  obtain ⟨file, cache, _⟩ := q
  cases enabled
  cases cache <;> rfl

theorem cache_eq_of_alike {allowed : FileIo → Prop} (alike : Alike json allowed q q')
    (all : ∀ io, allowed io) (enabled : q.disabled = false) (also : q'.disabled = false) :
    q.cache = q'.cache := by
  have answers := alike [({ read := .error "gone" }, .snapshot)] (fun op _ => all op.1)
  simp only [Component.answers, serving, runCall, List.cons.injEq, QueueAnswer.entries.injEq,
    snapshot_unread enabled, snapshot_unread also, and_true] at answers
  by_cases mine : q.cache = [] <;> by_cases yours : q'.cache = [] <;>
    simp_all

/-- While the file can be read, a failed flush goes unnoticed if the list stays as it was, or is
emptied while the file still gives it back. -/
theorem unnoticed_reads_iff {changed : List QueuedOperation} (enabled : q.disabled = false)
    (worked : q.loadIntoCache json io = .ok loaded) :
    Unnoticed json Reads q loaded.cache { loaded with cache := changed } ↔
      changed = loaded.cache ∨ changed = [] ∧ reopened json q.file = .ok loaded.cache := by
  have fields := (loadIntoCache_cases worked).1
  have file : loaded.file = q.file := by rw [fields]
  have on : loaded.disabled = false := by
    rw [fields]
    exact enabled
  constructor
  · rintro ⟨next, _⟩
    have seen := next {} rfl
    by_cases emptied : changed = []
    · refine .inr ⟨emptied, ?_⟩
      have fresh : { loaded with cache := [] } = FileBackedQueue.new q.file := by
        rw [← file, FileBackedQueue.new, on]
      rw [emptied, fresh] at seen
      exact seen
    · have here : FileBackedQueue.loadIntoCache json {} { loaded with cache := changed } =
          .ok { loaded with cache := changed } := by
        simp [FileBackedQueue.loadIntoCache, emptied]
      simp only [FileBackedQueue.snapshot, here, Except.ok.injEq] at seen
      exact .inl seen
  · intro kept
    have again : ∀ other : FileIo, other.read = .ok () →
        FileBackedQueue.loadIntoCache json other { loaded with cache := changed } =
          .ok loaded := by
      intro other read
      rcases kept with same | ⟨emptied, given⟩
      · rw [same]
        exact loadIntoCache_again worked read
      · rw [emptied]
        rw [← file] at given
        exact loadIntoCache_reopened on given read
    refine ⟨fun other read => ?_, alike_of_loaded (fun other read =>
      ⟨loadIntoCache_of_read worked read, again other read⟩)⟩
    simp only [FileBackedQueue.snapshot, again other read]

theorem unnoticed_iff {changed : List QueuedOperation} (enabled : q.disabled = false)
    (worked : q.loadIntoCache json io = .ok loaded) :
    Unnoticed json (fun _ => True) q loaded.cache { loaded with cache := changed } ↔
      changed = q.cache := by
  have fields := (loadIntoCache_cases worked).1
  have on : loaded.disabled = false := by
    rw [fields]
    exact enabled
  constructor
  · rintro ⟨_, alike⟩
    exact (cache_eq_of_alike alike (fun _ => trivial) enabled on).symm
  · rintro rfl
    have same : { loaded with cache := q.cache } = q := by rw [fields]
    rw [same]
    refine ⟨fun other read => ?_, fun _ _ => rfl⟩
    simp only [FileBackedQueue.snapshot, loadIntoCache_of_read worked read]

/-- A call whose flush fails, with the old file in place, goes unnoticed exactly if it leaves a
list in memory as it was, or if none was in memory and it empties the list of the file. As long
as the file can be read later on, it is enough that the list stays as it was, or is emptied while
the file still gives it back. -/
theorem failed_flush_unnoticed_iff {call : QueueCall} (enabled : q.disabled = false)
    (worked : q.loadIntoCache json io = .ok loaded) (writes : QueueCall.writes call = true)
    (fails : FlushFails io) :
    (∃ e, (runCall json io q call).2 = .done (.error (.io e))) ∧
      (Unnoticed json (fun _ => True) q loaded.cache (runCall json io q call).1 ↔
        q.cache ≠ [] ∧ LeavesList loaded.cache call ∨
          q.cache = [] ∧ EmptiesList loaded.cache call) ∧
      (Unnoticed json Reads q loaded.cache (runCall json io q call).1 ↔
        LeavesList loaded.cache call ∨
          EmptiesList loaded.cache call ∧ reopened json q.file = .ok loaded.cache) := by
  obtain ⟨e, result⟩ := runCall_failed enabled worked writes fails
  rw [result, ← leavesList_iff, ← emptiesList_iff]
  refine ⟨⟨e, rfl⟩, (unnoticed_iff enabled worked).trans ?_, unnoticed_reads_iff enabled worked⟩
  by_cases empty : q.cache = []
  · simp [empty]
  · have same := (loadIntoCache_cases worked).2 empty
    simp [empty, same]

/-- The entry of an enqueue that could not be written is in the next snapshot, and a later write
puts it on disk. -/
theorem failed_enqueue_stays :
    let readOnly : FileIo := { createDir := .error "read-only file system" }
    let failed := runCall sampleJson readOnly (.new none) (.enqueue sampleOp)
    failed.2 = .done (.error (.io "read-only file system")) ∧ failed.1.file = none ∧
      ((FileBackedQueue.new none).snapshot sampleJson {}).2 = .ok [] ∧
      (failed.1.snapshot sampleJson {}).2 = .ok [sampleOp] :=
  ⟨rfl, rfl, rfl, rfl⟩

/-- A replay that settles everything and cannot be written is made up for by the next load, if
the list was not in memory before it. -/
theorem failed_flush_unnoticed_iff_drained :
    let closed : FileBackedQueue := ⟨some (sampleJson.toVec [sampleOp]), [], false⟩
    let refused : FileIo := { write := .error ("disk quota exceeded", .before) }
    Unnoticed sampleJson (fun _ => True) closed [sampleOp]
      (runCall sampleJson refused closed (.finalize [sampleOp] [])).1 := by
  intro closed refused
  have given := reopened_toVec sampleJson_faithful_single
  have worked : closed.loadIntoCache sampleJson refused =
      .ok { closed with cache := [sampleOp] } :=
    loadIntoCache_of_read (holds_new given).loads rfl
  have fails : FlushFails refused := .inr ⟨rfl, _, rfl⟩
  exact (failed_flush_unnoticed_iff rfl worked rfl fails).2.1.mpr
    (.inr ⟨rfl, emptiesList_iff.mp rfl⟩)

end Polykit.OfflineQueue.Failures
