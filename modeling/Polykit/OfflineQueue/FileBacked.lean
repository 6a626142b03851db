/- Module: Polykit/OfflineQueue/FileBacked
   generality: I
   source: crates/tauri-plugin-polybase/src/queue_store.rs
   digest: The queue kept in a JSON file, and how far it behaves as the queue in memory. -/

import Polykit.OfflineQueue.Memory

set_option autoImplicit false
set_option relaxedAutoImplicit false

namespace Polykit.OfflineQueue.FileBacked

open Contract Errors Interface Lib.Lockstep Memory

abbrev Bytes := List UInt8

structure QueueJson where
  toVec : List QueuedOperation → Bytes
  fromSlice : Bytes → Except String (List QueuedOperation)

/-- The file at the queue's path, if there is one, and the list in memory. -/
structure FileBackedQueue where
  file : Option Bytes
  cache : List QueuedOperation := []
  disabled : Bool := false

/-- A write truncates the file and then fills it in order. This is how far one got. -/
inductive WritePoint
  | before
  | written (count : Nat)
  deriving DecidableEq

def fileAt (file : Option Bytes) (bytes : Bytes) : WritePoint → Option Bytes
  | .before => file
  | .written count => some (bytes.take count)

structure FileIo where
  read : Except String Unit := .ok ()
  createDir : Except String Unit := .ok ()
  write : Except (String × WritePoint) Unit := .ok ()

def FileBackedQueue.new (file : Option Bytes) : FileBackedQueue := { file := file }

/-- The file is read whenever the list in memory is empty. -/
def FileBackedQueue.loadIntoCache (json : QueueJson) (io : FileIo) (q : FileBackedQueue) :
    Except OfflineQueueError FileBackedQueue :=
  if q.disabled then .ok q
  else if !q.cache.isEmpty then .ok q
  else
    match io.read with
    | .error e => .error (.io e)
    | .ok () =>
        match q.file with
        | none => .ok q
        | some bytes =>
            if bytes.isEmpty then .ok q
            else
              match json.fromSlice bytes with
              | .error e => .error (.decode e)
              | .ok parsed => .ok { q with cache := parsed }

def FileBackedQueue.flushLocked (json : QueueJson) (io : FileIo) (q : FileBackedQueue) :
    FileBackedQueue × Except OfflineQueueError Unit :=
  if q.disabled then (q, .ok ())
  else
    match io.createDir with
    | .error e => (q, .error (.io e))
    | .ok () =>
        match io.write with
        | .error (e, point) =>
            ({ q with file := fileAt q.file (json.toVec q.cache) point }, .error (.io e))
        | .ok () => ({ q with file := some (json.toVec q.cache) }, .ok ())

/-- The list as `enqueue` leaves it. -/
def enqueueCache (cache : List QueuedOperation) (op : QueuedOperation) : List QueuedOperation :=
  cache.filter (fun existing =>
    !(existing.table == op.table && existing.entityId == op.entityId)) ++ [op]

/-- The list as `finalize_after_processing` leaves it: retained entries stay as they are. -/
def finalizeCache (cache snapshot failed : List QueuedOperation) : List QueuedOperation :=
  cache.filter (fun op => decide (op.toContract ∈ retainedKeys cache snapshot failed))

def FileBackedQueue.enqueue (json : QueueJson) (io : FileIo) (q : FileBackedQueue)
    (op : QueuedOperation) : FileBackedQueue × Except OfflineQueueError Unit :=
  match q.loadIntoCache json io with
  | .error e => (q, .error e)
  | .ok q => { q with cache := enqueueCache q.cache op }.flushLocked json io

def FileBackedQueue.snapshot (json : QueueJson) (io : FileIo) (q : FileBackedQueue) :
    FileBackedQueue × Except OfflineQueueError (List QueuedOperation) :=
  match q.loadIntoCache json io with
  | .error e => (q, .error e)
  | .ok q => (q, .ok q.cache)

def FileBackedQueue.finalizeAfterProcessing (json : QueueJson) (io : FileIo)
    (q : FileBackedQueue) (snapshot failed : List QueuedOperation) :
    FileBackedQueue × Except OfflineQueueError Unit :=
  match q.loadIntoCache json io with
  | .error e => (q, .error e)
  | .ok q => { q with cache := finalizeCache q.cache snapshot failed }.flushLocked json io

def FileBackedQueue.depth (json : QueueJson) (io : FileIo) (q : FileBackedQueue) :
    FileBackedQueue × Except OfflineQueueError Nat :=
  match q.loadIntoCache json io with
  | .error e => (q, .error e)
  | .ok q => (q, .ok q.cache.length)

def runCall (json : QueueJson) (io : FileIo) : Component FileBackedQueue QueueCall QueueAnswer
  | q, .enqueue op =>
      let next := q.enqueue json io op
      (next.1, .done next.2)
  | q, .snapshot =>
      let next := q.snapshot json io
      (next.1, .entries next.2)
  | q, .depth =>
      let next := q.depth json io
      (next.1, .count next.2)
  | q, .finalize snapshot failed =>
      let next := q.finalizeAfterProcessing json io snapshot failed
      (next.1, .done next.2)

def fileComponent (json : QueueJson) : Component FileBackedQueue QueueCall QueueAnswer :=
  runCall json {}

def RoundTrips (json : QueueJson) (ops : List QueuedOperation) : Prop :=
  json.fromSlice (json.toVec ops) = .ok ops

/-- The file of an enabled queue holds what its memory holds, or was never written. -/
def Flushed (json : QueueJson) (q : FileBackedQueue) : Prop :=
  q.disabled = false ∧ (q.file = none ∧ q.cache = [] ∨ q.file = some (json.toVec q.cache))

theorem flushed_new (json : QueueJson) : Flushed json (.new none) := ⟨rfl, .inl ⟨rfl, rfl⟩⟩

theorem loadIntoCache_flushed {json : QueueJson} {q : FileBackedQueue} (h : Flushed json q)
    (lawful : RoundTrips json q.cache) : q.loadIntoCache json {} = .ok q := by
  obtain ⟨file, cache, disabled⟩ := q
  obtain ⟨rfl, holds⟩ := h
  cases cache with
  | cons head tail => rfl
  | nil =>
    rcases holds with ⟨missing, _⟩ | written
    · cases missing
      rfl
    · change file = some (json.toVec []) at written
      subst written
      have parsed : json.fromSlice (json.toVec []) = .ok [] := lawful
      by_cases empty : (json.toVec []).isEmpty = true
      · simp [FileBackedQueue.loadIntoCache, empty]
      · simp [FileBackedQueue.loadIntoCache, empty, parsed]

theorem flushLocked_ok {json : QueueJson} {q : FileBackedQueue} (enabled : q.disabled = false) :
    q.flushLocked json {} = ({ q with file := some (json.toVec q.cache) }, .ok ()) := by
  simp [FileBackedQueue.flushLocked, enabled]

def cacheAfter (cache : List QueuedOperation) : QueueCall → List QueuedOperation
  | .enqueue op => enqueueCache cache op
  | .finalize snapshot failed => finalizeCache cache snapshot failed
  | .snapshot | .depth => cache

def answerOf (cache : List QueuedOperation) : QueueCall → QueueAnswer
  | .enqueue _ | .finalize _ _ => .done (.ok ())
  | .snapshot => .entries (.ok cache)
  | .depth => .count (.ok cache.length)

theorem fileComponent_flushed {json : QueueJson} {q : FileBackedQueue} (h : Flushed json q)
    (lawful : RoundTrips json q.cache) (call : QueueCall) :
    (fileComponent json q call).2 = answerOf q.cache call ∧
      (fileComponent json q call).1.cache = cacheAfter q.cache call ∧
      Flushed json (fileComponent json q call).1 := by
  have loaded := loadIntoCache_flushed h lawful
  have enabled := h.1
  cases call with
  | enqueue op =>
    have flushed : ({ q with cache := enqueueCache q.cache op } : FileBackedQueue).flushLocked
        json {} = ({ q with
          cache := enqueueCache q.cache op
          file := some (json.toVec (enqueueCache q.cache op)) }, .ok ()) := flushLocked_ok enabled
    simp only [fileComponent, runCall, FileBackedQueue.enqueue, loaded, flushed]
    exact ⟨rfl, rfl, enabled, .inr rfl⟩
  | finalize snapshot failed =>
    have flushed : ({ q with cache := finalizeCache q.cache snapshot failed } :
        FileBackedQueue).flushLocked json {} = ({ q with
          cache := finalizeCache q.cache snapshot failed
          file := some (json.toVec (finalizeCache q.cache snapshot failed)) }, .ok ()) :=
      flushLocked_ok enabled
    simp only [fileComponent, runCall, FileBackedQueue.finalizeAfterProcessing, loaded, flushed]
    exact ⟨rfl, rfl, enabled, .inr rfl⟩
  | snapshot =>
    simp only [fileComponent, runCall, FileBackedQueue.snapshot, loaded]
    exact ⟨rfl, rfl, h⟩
  | depth =>
    simp only [fileComponent, runCall, FileBackedQueue.depth, loaded]
    exact ⟨rfl, rfl, h⟩

/-- A finalize has no retry to count: what it retains did not fail, or has a full counter and
the same error already. -/
def NothingToCount (queue : MemoryQueue) : QueueCall → Prop
  | .finalize snapshot failed => ∀ op ∈ queue.inner,
      op.toContract ∈ retainedKeys queue.inner snapshot failed →
      ∀ lastError, failedByFullKey failed op.toContract = some lastError →
        op.retryCount = 0xFFFFFFFF ∧ op.lastError = lastError
  | _ => True

theorem finalizeEntry_eq_self_iff {retained : List ContractOperation}
    {failed : List QueuedOperation} {op : QueuedOperation} (kept : op.toContract ∈ retained) :
    finalizeEntry retained failed op = some op ↔
      ∀ lastError, failedByFullKey failed op.toContract = some lastError →
        op.retryCount = 0xFFFFFFFF ∧ op.lastError = lastError := by
  unfold finalizeEntry
  rw [if_pos kept]
  cases found : failedByFullKey failed op.toContract with
  | none => simp
  | some lastError =>
    have counter : saturatingSucc op.retryCount = op.retryCount ↔
        op.retryCount = 0xFFFFFFFF := by
      unfold saturatingSucc
      split
      · rename_i full
        simp [full]
      · rename_i room
        simp [room]
    have fields : { op with retryCount := saturatingSucc op.retryCount, lastError := lastError } =
        op ↔ saturatingSucc op.retryCount = op.retryCount ∧ lastError = op.lastError := by
      cases op
      simp
    simp only [Option.some.injEq, fields, counter, forall_eq']
    exact and_congr_right (fun _ => eq_comm)

theorem finalize_agree_iff (queue : MemoryQueue) (snapshot failed : List QueuedOperation) :
    finalizeCache queue.inner snapshot failed =
        (queue.finalizeAfterProcessing snapshot failed).inner ↔
      NothingToCount queue (.finalize snapshot failed) := by
  have entries : ∀ ops : List QueuedOperation, ∀ retained : List ContractOperation,
      ops.filter (fun op => decide (op.toContract ∈ retained)) =
          ops.filterMap (finalizeEntry retained failed) ↔
        ∀ op ∈ ops, op.toContract ∈ retained → finalizeEntry retained failed op = some op := by
    intro ops retained
    induction ops with
    | nil => simp
    | cons head tail ih =>
      by_cases kept : head.toContract ∈ retained
      · obtain ⟨entry, found⟩ :=
          Option.isSome_iff_exists.mp ((finalizeEntry_isSome retained failed head).mpr kept)
        have rest : (∀ op ∈ head :: tail, op.toContract ∈ retained →
            finalizeEntry retained failed op = some op) ↔ entry = head ∧ ∀ op ∈ tail,
              op.toContract ∈ retained → finalizeEntry retained failed op = some op := by
          simp [kept, found]
        rw [rest, ← ih]
        simp [kept, found, eq_comm]
      · have dropped : finalizeEntry retained failed head = none := by simp [finalizeEntry, kept]
        simp [kept, dropped, ih]
  unfold finalizeCache MemoryQueue.finalizeAfterProcessing NothingToCount
  rw [entries]
  refine forall₂_congr (fun op _ => forall_congr' (fun kept => ?_))
  exact finalizeEntry_eq_self_iff kept

theorem cacheAfter_eq {queue : MemoryQueue} {call : QueueCall}
    (settled : NothingToCount queue call) :
    cacheAfter queue.inner call = (memoryComponent queue call).1.inner := by
  cases call with
  | enqueue op => rfl
  | snapshot => rfl
  | depth => rfl
  | finalize snapshot failed => exact (finalize_agree_iff queue snapshot failed).mpr settled

theorem answerOf_eq (queue : MemoryQueue) (call : QueueCall) :
    answerOf queue.inner call = (memoryComponent queue call).2 := by
  cases call <;> rfl

/-- While no finalize has a retry to count, the queue in the file answers every call as the
queue in memory does. -/
theorem fileBacked_answers {json : QueueJson} {calls : List QueueCall}
    (lawful : ∀ queue ∈ memoryComponent.states MemoryQueue.new calls, RoundTrips json queue.inner)
    (settled : memoryComponent.Admits NothingToCount MemoryQueue.new calls) :
    (fileComponent json).answers (.new none) calls =
      memoryComponent.answers MemoryQueue.new calls := by
  let Agree (later : List QueueCall) (q : FileBackedQueue) (queue : MemoryQueue) : Prop :=
    Flushed json q ∧ q.cache = queue.inner ∧
      (∀ next ∈ memoryComponent.states queue later, RoundTrips json next.inner) ∧
      memoryComponent.Admits NothingToCount queue later
  have step : ∀ call later q queue, Agree (call :: later) q queue →
      (fileComponent json q call).2 = (memoryComponent queue call).2 ∧
        Agree later (fileComponent json q call).1 (memoryComponent queue call).1 := by
    rintro call later q queue ⟨flushed, same, trips, quiet, rest⟩
    have here : RoundTrips json q.cache := same ▸ trips queue List.mem_cons_self
    obtain ⟨answer, cache, again⟩ := fileComponent_flushed flushed here call
    rw [same] at answer cache
    refine ⟨answer.trans (answerOf_eq queue call), again, cache.trans (cacheAfter_eq quiet), ?_,
      rest⟩
    exact fun next member => trips next (List.mem_cons_of_mem _ member)
  exact answers_eq step calls _ _ ⟨flushed_new json, rfl, lawful, settled⟩

/-! One queued hard delete and the serializer's text of the list that holds it. -/

def sampleOp : QueuedOperation := ⟨"kvs", "a", .hardDelete, 1, 0, none⟩

def asciiBytes (text : String) : Bytes := text.toList.map (fun c => UInt8.ofNat c.toNat)

def sampleText : String :=
  "[\x7b\"table\":\"kvs\",\"entity_id\":\"a\",\"kind\":\x7b\"type\":\"hard_delete\"\x7d," ++
    "\"queued_at_micros\":1,\"retry_count\":0,\"last_error\":null\x7d]"

def sampleJson : QueueJson where
  toVec ops := asciiBytes (if ops.isEmpty then "[]" else sampleText)
  fromSlice bytes :=
    if bytes = asciiBytes "[]" then .ok []
    else if bytes = asciiBytes sampleText then .ok [sampleOp]
    else .error "EOF while parsing a list"

theorem sampleJson_roundTrips :
    RoundTrips sampleJson [] ∧ RoundTrips sampleJson [sampleOp] := by
  have other : asciiBytes sampleText ≠ asciiBytes "[]" := by decide +kernel
  constructor
  · rfl
  · simp [RoundTrips, sampleJson, other]

/-- A failed replay is counted in memory and not in the file. -/
theorem fileBacked_forgets_retries :
    let calls : List QueueCall := [.enqueue sampleOp, .snapshot,
      .finalize [sampleOp] [{ sampleOp with lastError := some "offline" }], .snapshot]
    RoundTrips sampleJson [] ∧ RoundTrips sampleJson [sampleOp] ∧
      (fileComponent sampleJson).answers (.new none) calls ≠
        memoryComponent.answers MemoryQueue.new calls := by
  intro calls
  let retries : QueueAnswer → List UInt32
    | .entries (.ok ops) => ops.map QueuedOperation.retryCount
    | _ => []
  refine ⟨sampleJson_roundTrips.1, sampleJson_roundTrips.2, fun same => ?_⟩
  have counts : ((fileComponent sampleJson).answers (.new none) calls).map retries =
      (memoryComponent.answers MemoryQueue.new calls).map retries := congrArg _ same
  exact absurd counts (by decide)

/-- A replay that succeeds empties both queues. -/
theorem fileBacked_answers_drained :
    let calls : List QueueCall :=
      [.enqueue sampleOp, .snapshot, .finalize [sampleOp] [], .snapshot, .depth]
    (fileComponent sampleJson).answers (.new none) calls =
      memoryComponent.answers MemoryQueue.new calls := by
  intro calls
  refine fileBacked_answers ?_ ?_
  · intro queue member
    have lists : (memoryComponent.states MemoryQueue.new calls).map MemoryQueue.inner =
        [[], [sampleOp], [sampleOp], [], [], []] := rfl
    obtain ⟨empty, filled⟩ := sampleJson_roundTrips
    have trips : ∀ ops ∈ (memoryComponent.states MemoryQueue.new calls).map MemoryQueue.inner,
        RoundTrips sampleJson ops := by
      rw [lists]
      simp only [List.forall_mem_cons]
      exact ⟨empty, filled, filled, empty, empty, empty, List.forall_mem_nil _⟩
    exact trips _ (List.mem_map_of_mem member)
  · refine ⟨trivial, trivial, ?_, trivial, trivial, trivial⟩
    intro op _ _ lastError failed
    cases failed

end Polykit.OfflineQueue.FileBacked
