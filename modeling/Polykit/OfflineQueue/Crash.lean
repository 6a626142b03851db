/- Module: Polykit/OfflineQueue/Crash
   generality: I
   source: crates/tauri-plugin-polybase/src/queue_store.rs
   digest: What a queue file holds after a crash, and which crashes the queue survives. -/

import Polykit.OfflineQueue.FileBacked

set_option autoImplicit false
set_option relaxedAutoImplicit false

namespace Polykit.OfflineQueue.Crash

open Errors FileBacked Interface Lib.Lockstep Memory

def QueueCall.writes : QueueCall → Bool
  | .enqueue _ | .finalize _ _ => true
  | .snapshot | .depth => false

/-- The file a call leaves when the process ends with its write at `point`. -/
def crashFile (json : QueueJson) (q : FileBackedQueue) (call : QueueCall) (point : WritePoint) :
    Option Bytes :=
  (runCall json { write := .error ("crash", point) } q call).1.file

def reopened (json : QueueJson) (file : Option Bytes) :
    Except OfflineQueueError (List QueuedOperation) :=
  ((FileBackedQueue.new file).snapshot json {}).2

/-- The queue of the next process, on the file that the crash left and under the same setting. -/
def FileBackedQueue.reopen (json : QueueJson) (q : FileBackedQueue) (call : QueueCall)
    (point : WritePoint) : FileBackedQueue :=
  { file := crashFile json q call point, disabled := q.disabled }

/-- The new queue loads, and it is the queue before the call or the one after it. -/
def Survives (json : QueueJson) (q : FileBackedQueue) (call : QueueCall) (point : WritePoint) :
    Prop :=
  ∃ ops, ((FileBackedQueue.reopen json q call point).snapshot json {}).2 = .ok ops ∧
    ((q.snapshot json {}).2 = .ok ops ∨
      ((fileComponent json q call).1.snapshot json {}).2 = .ok ops)

/-- How the serializer treats a list: decoding undoes encoding, and of the text no proper
beginning is empty or decodes. -/
structure Faithful (json : QueueJson) (ops : List QueuedOperation) : Prop where
  roundTrips : RoundTrips json ops
  nonempty : json.toVec ops ≠ []
  cut : ∀ count, 0 < count → count < (json.toVec ops).length →
    ∃ e, json.fromSlice ((json.toVec ops).take count) = .error e

/-- The crash falls before the file is touched, after its last byte, or with the file empty
where an empty queue was due. -/
def Spared (json : QueueJson) (before after : List QueuedOperation) : WritePoint → Prop
  | .before => True
  | .written count =>
      (json.toVec after).length ≤ count ∨ count = 0 ∧ (before = [] ∨ after = [])

/-- What the queue needs to survive a crash in this call: it loads, and the crash spares the file.
Nothing is kept of a queue that is disabled. -/
def Recoverable (json : QueueJson) (q : FileBackedQueue) (call : QueueCall) (point : WritePoint) :
    Prop :=
  ∃ before, (q.snapshot json {}).2 = .ok before ∧
    if q.disabled then before = [] ∨ cacheAfter before call = []
    else Spared json before (cacheAfter before call) point

/-! What a queue loads. -/

variable {json : QueueJson} {io : FileIo} {q loaded : FileBackedQueue}
  {list : List QueuedOperation}

theorem loadIntoCache_of_read (worked : q.loadIntoCache json io = .ok loaded) {other : FileIo}
    (read : other.read = .ok ()) : q.loadIntoCache json other = .ok loaded := by
  unfold FileBackedQueue.loadIntoCache at worked ⊢
  split
  · rename_i off
    rwa [if_pos off] at worked
  · rename_i on
    rw [if_neg on] at worked
    split
    · rename_i filled
      rwa [if_pos filled] at worked
    · rename_i empty
      rw [if_neg empty] at worked
      rw [read]
      split at worked
      · cases worked
      · exact worked

theorem loadIntoCache_cases (worked : q.loadIntoCache json io = .ok loaded) :
    loaded = { q with cache := loaded.cache } ∧ (q.cache ≠ [] → loaded = q) := by
  unfold FileBackedQueue.loadIntoCache at worked
  split at worked
  · cases worked
    exact ⟨rfl, fun _ => rfl⟩
  · split at worked
    · cases worked
      exact ⟨rfl, fun _ => rfl⟩
    · rename_i empty
      have none : q.cache = [] := by simpa using empty
      repeat' split at worked
      all_goals
        cases worked
        try exact ⟨rfl, fun filled => absurd none filled⟩

theorem loadIntoCache_again (worked : q.loadIntoCache json io = .ok loaded)
    {other : FileIo} (read : other.read = .ok ()) :
    loaded.loadIntoCache json other = .ok loaded := by
  obtain ⟨fields, kept⟩ := loadIntoCache_cases worked
  cases filled : loaded.cache with
  | cons head tail => simp [FileBackedQueue.loadIntoCache, filled]
  | nil =>
    have same : loaded = q := by
      by_cases empty : q.cache = []
      · rw [fields, filled, ← empty]
      · exact kept empty
    rw [same] at worked ⊢
    exact loadIntoCache_of_read worked read

theorem loadIntoCache_reopened {list : List QueuedOperation} (enabled : q.disabled = false)
    (given : reopened json q.file = .ok list) {other : FileIo} (read : other.read = .ok ()) :
    { q with cache := [] }.loadIntoCache json other = .ok { q with cache := list } := by
  obtain ⟨file, cache, _⟩ := q
  cases enabled
  unfold reopened FileBackedQueue.snapshot at given
  split at given
  · cases given
  · rename_i opened first
    cases given
    have loads := loadIntoCache_of_read first read
    rw [(loadIntoCache_cases first).1] at loads
    exact loads

theorem reopened_none (json : QueueJson) : reopened json none = .ok [] := rfl

theorem reopened_empty (json : QueueJson) : reopened json (some []) = .ok [] := rfl

theorem reopened_bytes {json : QueueJson} {bytes : Bytes} (filled : bytes ≠ []) :
    reopened json (some bytes) = (json.fromSlice bytes).mapError OfflineQueueError.decode := by
  have nonempty : bytes.isEmpty = false := by simpa using filled
  unfold reopened FileBackedQueue.snapshot FileBackedQueue.loadIntoCache
  simp only [FileBackedQueue.new, nonempty]
  cases parsed : json.fromSlice bytes <;> simp [Except.mapError]

/-- An enabled queue whose list is this one, in memory or not, and the file gives it too. -/
structure Holds (json : QueueJson) (q : FileBackedQueue) (list : List QueuedOperation) : Prop where
  enabled : q.disabled = false
  loads : q.loadIntoCache json {} = .ok { q with cache := list }
  kept : reopened json q.file = .ok list

theorem Holds.snapshot (h : Holds json q list) : (q.snapshot json {}).2 = .ok list := by
  simp only [FileBackedQueue.snapshot, h.loads]

theorem holds_new {file : Option Bytes} (given : reopened json file = .ok list) :
    Holds json (.new file) list :=
  ⟨rfl, loadIntoCache_reopened (q := .new file) rfl given rfl, given⟩

theorem reopened_toVec (faithful : Faithful json list) :
    reopened json (some (json.toVec list)) = .ok list := by
  have trips : json.fromSlice (json.toVec list) = .ok list := faithful.roundTrips
  rw [reopened_bytes faithful.nonempty, trips]
  rfl

theorem holds_written (enabled : q.disabled = false) (faithful : Faithful json list) :
    Holds json { q with cache := list, file := some (json.toVec list) } list := by
  have given := reopened_toVec faithful
  refine ⟨enabled, ?_, given⟩
  cases list with
  | cons head tail => simp [FileBackedQueue.loadIntoCache, enabled]
  | nil =>
    exact loadIntoCache_reopened (q := { q with file := some (json.toVec []) }) enabled given rfl

theorem Holds.cache (h : Holds json q list) (call : QueueCall) :
    (fileComponent json q call).1.cache = cacheAfter list call := by
  have loaded := h.loads
  have written : ∀ changed : FileBackedQueue, changed.disabled = false →
      (changed.flushLocked json {}).1.cache = changed.cache :=
    fun changed enabled => by rw [flushLocked_ok enabled]
  cases call with
  | enqueue op =>
    simp only [fileComponent, runCall, FileBackedQueue.enqueue, loaded]
    exact written _ h.enabled
  | finalize snapshot failed =>
    simp only [fileComponent, runCall, FileBackedQueue.finalizeAfterProcessing, loaded]
    exact written _ h.enabled
  | snapshot => simp only [fileComponent, runCall, FileBackedQueue.snapshot, loaded, cacheAfter]
  | depth => simp only [fileComponent, runCall, FileBackedQueue.depth, loaded, cacheAfter]

theorem Holds.call (h : Holds json q list) {call : QueueCall}
    (faithful : Faithful json (cacheAfter list call)) :
    Holds json (fileComponent json q call).1 (cacheAfter list call) := by
  have loaded := h.loads
  have enabled := h.enabled
  have stays : Holds json { q with cache := list } list :=
    ⟨enabled, loadIntoCache_again loaded rfl, h.kept⟩
  cases call with
  | enqueue op =>
    simp only [fileComponent, runCall, FileBackedQueue.enqueue, loaded]
    rw [flushLocked_ok (by exact enabled)]
    exact holds_written enabled faithful
  | finalize snapshot failed =>
    simp only [fileComponent, runCall, FileBackedQueue.finalizeAfterProcessing, loaded]
    rw [flushLocked_ok (by exact enabled)]
    exact holds_written enabled faithful
  | snapshot =>
    simp only [fileComponent, runCall, FileBackedQueue.snapshot, loaded]
    exact stays
  | depth =>
    simp only [fileComponent, runCall, FileBackedQueue.depth, loaded]
    exact stays

theorem Holds.crashFile (h : Holds json q list) {call : QueueCall}
    (writes : QueueCall.writes call = true) (point : WritePoint) :
    crashFile json q call point = fileAt q.file (json.toVec (cacheAfter list call)) point := by
  have loaded : q.loadIntoCache json { write := .error ("crash", point) } =
      .ok { q with cache := list } := loadIntoCache_of_read h.loads rfl
  have enabled := h.enabled
  cases call with
  | enqueue op =>
    simp only [Crash.crashFile, runCall, FileBackedQueue.enqueue, loaded]
    simp [FileBackedQueue.flushLocked, enabled, cacheAfter]
  | finalize snapshot failed =>
    simp only [Crash.crashFile, runCall, FileBackedQueue.finalizeAfterProcessing, loaded]
    simp [FileBackedQueue.flushLocked, enabled, cacheAfter]
  | snapshot => cases writes
  | depth => cases writes

theorem reopened_fileAt_iff {file : Option Bytes} {before after : List QueuedOperation}
    (kept : reopened json file = .ok before) (new : Faithful json after) (point : WritePoint) :
    (∃ ops, reopened json (fileAt file (json.toVec after) point) = .ok ops ∧
      (before = ops ∨ after = ops)) ↔ Spared json before after point := by
  cases point with
  | before => simp [fileAt, Spared, kept]
  | written count =>
    simp only [fileAt, Spared]
    rcases Nat.eq_zero_or_pos count with rfl | some_written
    · have some_bytes : ¬ (json.toVec after).length ≤ 0 := by simpa using new.nonempty
      simp [reopened_empty, some_bytes]
    · by_cases whole : (json.toVec after).length ≤ count
      · have loads : reopened json (some ((json.toVec after).take count)) = .ok after := by
          rw [List.take_of_length_le whole, reopened_toVec new]
        simp [loads, whole]
      · obtain ⟨e, fails⟩ := new.cut count some_written (by omega)
        have filled : (json.toVec after).take count ≠ [] := by
          simp [List.take_eq_nil_iff, new.nonempty, Nat.pos_iff_ne_zero.mp some_written]
        have loads : reopened json (some ((json.toVec after).take count)) =
            .error (.decode e) := by
          rw [reopened_bytes filled, fails]
          rfl
        simp [loads, whole, Nat.pos_iff_ne_zero.mp some_written]

theorem Holds.survives_iff (h : Holds json q list) {call : QueueCall} {point : WritePoint}
    (writes : QueueCall.writes call = true) (new : Faithful json (cacheAfter list call)) :
    Survives json q call point ↔ Recoverable json q call point := by
  have after := (h.call new).snapshot
  have left : (FileBackedQueue.reopen json q call point) =
      .new (fileAt q.file (json.toVec (cacheAfter list call)) point) := by
    simp only [FileBackedQueue.reopen, h.crashFile writes, h.enabled, FileBackedQueue.new]
  simp only [Survives, Recoverable, left, h.snapshot, after, h.enabled, Except.ok.injEq,
    exists_eq_left', Bool.false_eq_true, if_false]
  exact reopened_fileAt_iff h.kept new point

/-- A queue whose file does not load has nothing in memory and answers nothing. -/
structure Stuck (json : QueueJson) (q : FileBackedQueue) (e : OfflineQueueError) : Prop where
  fresh : q = .new q.file
  fails : ∀ io : FileIo, io.read = .ok () → q.loadIntoCache json io = .error e

theorem stuck_new {file : Option Bytes} {e : OfflineQueueError}
    (given : reopened json file = .error e) : Stuck json (.new file) e := by
  refine ⟨rfl, fun io read => ?_⟩
  unfold reopened FileBackedQueue.snapshot at given
  unfold FileBackedQueue.loadIntoCache at given ⊢
  simp only [read]
  cases file with
  | none => simp [FileBackedQueue.new] at given
  | some bytes =>
    simp only [FileBackedQueue.new] at given ⊢
    cases empty : bytes.isEmpty with
    | true => simp [empty] at given
    | false =>
      cases parsed : json.fromSlice bytes with
      | ok ops => simp [empty, parsed] at given
      | error reason => simpa [empty, parsed] using given

theorem Stuck.call {e : OfflineQueueError} (h : Stuck json q e) (read : io.read = .ok ())
    (call : QueueCall) : (runCall json io q call).1 = q := by
  have fails := h.fails io read
  cases call with
  | enqueue op => simp only [runCall, FileBackedQueue.enqueue, fails]
  | finalize snapshot failed =>
    simp only [runCall, FileBackedQueue.finalizeAfterProcessing, fails]
  | snapshot => simp only [runCall, FileBackedQueue.snapshot, fails]
  | depth => simp only [runCall, FileBackedQueue.depth, fails]

theorem Stuck.snapshot {e : OfflineQueueError} (h : Stuck json q e) :
    (q.snapshot json {}).2 = .error e := by
  simp only [FileBackedQueue.snapshot, h.fails {} rfl]

theorem Stuck.survives_iff {e : OfflineQueueError} (h : Stuck json q e) {call : QueueCall}
    {point : WritePoint} : Survives json q call point ↔ Recoverable json q call point := by
  have left : FileBackedQueue.reopen json q call point = q := by
    have kept : crashFile json q call point = q.file := by
      rw [crashFile, h.call rfl]
    have enabled : q.disabled = false := by rw [h.fresh]; rfl
    rw [FileBackedQueue.reopen, kept, enabled]
    exact h.fresh.symm
  simp [Survives, Recoverable, left, h.snapshot]

theorem loadIntoCache_disabled (off : q.disabled = true) : q.loadIntoCache json io = .ok q := by
  rw [FileBackedQueue.loadIntoCache, if_pos off]

theorem runCall_disabled (off : q.disabled = true) (call : QueueCall) :
    (runCall json io q call).1 = { q with cache := cacheAfter q.cache call } := by
  have loads : q.loadIntoCache json io = .ok q := loadIntoCache_disabled off
  cases call with
  | enqueue op =>
    simp [runCall, FileBackedQueue.enqueue, loads, FileBackedQueue.flushLocked, off, cacheAfter]
  | finalize snapshot failed =>
    simp [runCall, FileBackedQueue.finalizeAfterProcessing, loads, FileBackedQueue.flushLocked,
      off, cacheAfter]
  | snapshot => simp only [runCall, FileBackedQueue.snapshot, loads, cacheAfter]
  | depth => simp only [runCall, FileBackedQueue.depth, loads, cacheAfter]

theorem snapshot_disabled (off : q.disabled = true) : (q.snapshot json {}).2 = .ok q.cache := by
  simp only [FileBackedQueue.snapshot, loadIntoCache_disabled off]

theorem survives_disabled_iff (off : q.disabled = true) {call : QueueCall} {point : WritePoint} :
    Survives json q call point ↔ Recoverable json q call point := by
  have forgotten : ((FileBackedQueue.reopen json q call point).snapshot json {}).2 = .ok [] :=
    snapshot_disabled off
  have after : ((fileComponent json q call).1.snapshot json {}).2 =
      .ok (cacheAfter q.cache call) := by
    rw [fileComponent, runCall_disabled off call]
    exact snapshot_disabled off
  simp only [Survives, Recoverable, forgotten, after, snapshot_disabled off, off, Except.ok.injEq,
    exists_eq_left', if_true]

/-- What the queue is at any point of a run that began with a new queue on some file. -/
inductive Standing (json : QueueJson) (q : FileBackedQueue) : Prop
  | holds (list : List QueuedOperation) (queue : Holds json q list)
  | stuck (e : OfflineQueueError) (queue : Stuck json q e)
  | off (disabled : q.disabled = true)

theorem standing_new (json : QueueJson) (file : Option Bytes) (disabled : Bool) :
    Standing json { file := file, disabled := disabled } := by
  cases disabled with
  | true => exact .off rfl
  | false =>
    cases given : reopened json file with
    | ok list => exact .holds list (holds_new given)
    | error e => exact .stuck e (stuck_new given)

theorem standing_final {start : FileBackedQueue} (standing : Standing json start)
    {calls : List QueueCall}
    (lawful : ∀ q ∈ (fileComponent json).states start calls, Faithful json q.cache) :
    Standing json ((fileComponent json).final start calls) := by
  let Stands (later : List QueueCall) (q : FileBackedQueue) : Prop :=
    Standing json q ∧ ∀ next ∈ (fileComponent json).states q later, Faithful json next.cache
  have step : ∀ call later q, Stands (call :: later) q →
      Stands later (fileComponent json q call).1 := by
    rintro call later q ⟨standing, trips⟩
    have rest : ∀ next ∈ (fileComponent json).states (fileComponent json q call).1 later,
        Faithful json next.cache := fun next member => trips next (List.mem_cons_of_mem _ member)
    refine ⟨?_, rest⟩
    cases standing with
    | holds list queue =>
      have faithful := rest _ (Component.mem_states _ _ _)
      rw [queue.cache call] at faithful
      exact .holds _ (queue.call faithful)
    | stuck e queue =>
      have same : (fileComponent json q call).1 = q := queue.call rfl call
      exact .stuck e (same.symm ▸ queue)
    | off disabled =>
      refine .off ?_
      rw [fileComponent, runCall_disabled disabled call]
      exact disabled
  exact (Component.final_invariant step calls _ ⟨standing, lawful⟩).1

/-- After any sequence of calls on a queue that was opened on any file, the queue survives a crash
in the middle of an enqueue or a finalize exactly if it is recoverable. -/
theorem run_survives_iff {json : QueueJson} {file : Option Bytes} {disabled : Bool}
    {calls : List QueueCall} {call : QueueCall} (writes : QueueCall.writes call = true)
    (point : WritePoint)
    (lawful : ∀ q ∈ (fileComponent json).states { file := file, disabled := disabled }
      (calls ++ [call]), Faithful json q.cache) :
    let q := (fileComponent json).final { file := file, disabled := disabled } calls
    Survives json q call point ↔ Recoverable json q call point := by
  intro q
  have last : (fileComponent json q call).1 ∈
      (fileComponent json).states { file := file, disabled := disabled } (calls ++ [call]) := by
    rw [Component.states_append]
    exact List.mem_append_right _ (List.mem_cons_self)
  have earlier : ∀ next ∈ (fileComponent json).states { file := file, disabled := disabled } calls,
      Faithful json next.cache := by
    intro next member
    refine lawful next ?_
    rw [Component.states_append]
    exact List.mem_append_left _ member
  have standing : Standing json q := standing_final (standing_new json file disabled) earlier
  cases standing with
  | holds list queue =>
    have new := lawful _ last
    rw [queue.cache call] at new
    exact queue.survives_iff writes new
  | stuck e queue => exact queue.survives_iff
  | off disabled => exact survives_disabled_iff disabled

/-! The sample serializer is faithful to the two lists it knows. -/

theorem sampleJson_fromSlice_other {bytes : Bytes} (empty : bytes ≠ asciiBytes "[]")
    (single : bytes ≠ asciiBytes sampleText) :
    sampleJson.fromSlice bytes = .error "EOF while parsing a list" := by
  simp only [sampleJson, if_neg empty, if_neg single]

theorem sampleBytes_length : (asciiBytes sampleText).length = 118 := by decide +kernel

theorem sampleJson_faithful_nil : Faithful sampleJson [] := by
  refine ⟨sampleJson_roundTrips.1, by decide, ?_⟩
  intro count some_written torn
  have two : (sampleJson.toVec []).length = 2 := rfl
  have one : count = 1 := by omega
  subst one
  refine ⟨_, sampleJson_fromSlice_other (by decide) (fun same => ?_)⟩
  have lengths := congrArg List.length same
  rw [sampleBytes_length] at lengths
  exact absurd lengths (by decide)

theorem sampleJson_faithful_single : Faithful sampleJson [sampleOp] := by
  have whole : sampleJson.toVec [sampleOp] = asciiBytes sampleText := by
    simp [sampleJson]
  refine ⟨sampleJson_roundTrips.2, ?_, ?_⟩
  · rw [whole, ne_eq, ← List.length_eq_zero_iff, sampleBytes_length]
    decide
  intro count some_written torn
  rw [whole] at torn ⊢
  have shorter : (asciiBytes sampleText).take count ≠ asciiBytes sampleText := by
    intro same
    have lengths := congrArg List.length same
    rw [List.length_take] at lengths
    omega
  have opened : (asciiBytes sampleText).take count ≠ asciiBytes "[]" := by
    intro same
    have lengths := congrArg List.length same
    have two : (asciiBytes "[]").length = 2 := rfl
    rw [List.length_take, two] at lengths
    have count_two : count = 2 := by omega
    rw [count_two] at same
    exact absurd same (by decide +kernel)
  exact ⟨_, sampleJson_fromSlice_other opened shorter⟩

/-- A torn write leaves a file that no longer loads, a truncated one loses the queue. -/
theorem crash_loses_the_queue :
    let q := (fileComponent sampleJson).final (.new none) [.enqueue sampleOp]
    ¬ Survives sampleJson q (.enqueue sampleOp) (.written 1) ∧
      ¬ Survives sampleJson q (.enqueue sampleOp) (.written 0) := by
  intro q
  have opened : Holds sampleJson (.new none) [] := holds_new (reopened_none sampleJson)
  have stored : cacheAfter [] (.enqueue sampleOp) = [sampleOp] := rfl
  have holds : Holds sampleJson q [sampleOp] :=
    stored ▸ opened.call (stored ▸ sampleJson_faithful_single)
  have after : cacheAfter [sampleOp] (.enqueue sampleOp) = [sampleOp] := rfl
  have new : Faithful sampleJson (cacheAfter [sampleOp] (.enqueue sampleOp)) :=
    after ▸ sampleJson_faithful_single
  have long : ¬ (asciiBytes sampleText).length ≤ 1 := by
    rw [sampleBytes_length]
    decide
  have text : sampleJson.toVec [sampleOp] = asciiBytes sampleText := by simp [sampleJson]
  rw [holds.survives_iff rfl new, holds.survives_iff rfl new]
  simp only [Recoverable, holds.snapshot, holds.enabled, after, Spared, text, Except.ok.injEq,
    exists_eq_left', Bool.false_eq_true, if_false]
  constructor
  · simp [long]
  · have longer : ¬ (asciiBytes sampleText).length ≤ 0 := by omega
    simp [longer]

/-- A queue that was opened on a file of one operation and drains it survives the crash that
leaves the file empty. -/
theorem run_survives_completed :
    Survives sampleJson { file := some (sampleJson.toVec [sampleOp]) } (.finalize [sampleOp] [])
      (.written 0) := by
  have holds : Holds sampleJson { file := some (sampleJson.toVec [sampleOp]) } [sampleOp] :=
    holds_new (reopened_toVec sampleJson_faithful_single)
  have drained : (fileComponent sampleJson { file := some (sampleJson.toVec [sampleOp]) }
      (.finalize [sampleOp] [])).1.cache = [] := holds.cache _
  have lists : ∀ q ∈ (fileComponent sampleJson).states
      { file := some (sampleJson.toVec [sampleOp]) } ([] ++ [.finalize [sampleOp] []]),
      Faithful sampleJson q.cache := by
    simp only [List.nil_append, Component.states, List.forall_mem_cons, drained]
    exact ⟨sampleJson_faithful_nil, sampleJson_faithful_nil, List.forall_mem_nil _⟩
  exact (run_survives_iff rfl (.written 0) lists).mpr
    ⟨[sampleOp], holds.snapshot, .inr ⟨rfl, .inr rfl⟩⟩

end Polykit.OfflineQueue.Crash
