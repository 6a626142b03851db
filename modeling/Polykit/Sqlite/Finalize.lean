/- Module: Polykit/Sqlite/Finalize
   generality: I
   source: crates/polybase-sqlite/src/queue.rs
   digest: Enqueues between the statements of a finalize act as if they came after it. -/

import Polykit.Lib.Interleaving
import Polykit.Sqlite.Queue

set_option autoImplicit false
set_option relaxedAutoImplicit false

namespace Polykit.Sqlite.Finalize

open Contract Errors Lib.Interleaving Manager OfflineQueue.Memory Queue Store

/-- The statements that take effect: all of the transaction's or none. -/
def committed (fromStr : KindFromStr) (tx : Except String Unit) (m : DbManager)
    (snapshotOps failed : List QueuedOperation) : List Statement :=
  match snapshot fromStr m, tx with
  | .ok current, .ok () => finalizeStatements current snapshotOps failed
  | _, _ => []

def runStatement (m : DbManager) (statement : Statement) : DbManager :=
  match m.pool with
  | none => m
  | some handle => (m.execute handle (runStatements [statement])).1

def runEnqueue (codec : Codec) (m : DbManager) (op : QueuedOperation) : DbManager :=
  (enqueue codec m op).1

def enqueueRows (codec : Codec) (rows : List QueueRow) (op : QueuedOperation) : List QueueRow :=
  replacedBy rows (queueRow codec.json op)

variable {codec : Codec} {fromStr : KindFromStr} {m : DbManager} {rows : List QueueRow}

theorem runStatement_holdsRows (h : HoldsRows m rows) (statement : Statement) :
    HoldsRows (runStatement m statement) (Statement.run rows statement) := by
  have acts : ∀ db, db.queue = some rows → runStatements [statement] db =
      .ok ({ db with queue := some (Statement.run rows statement) }, ()) := by
    intro db table
    simp only [runStatements, table, List.foldl_cons, List.foldl_nil]
  obtain ⟨handle, active, _, held⟩ := execute_holdsRows h _ _ acts
  unfold runStatement
  rw [active]
  exact held

theorem runAll_holdsRows (events : List (Statement ⊕ QueuedOperation)) (h : HoldsRows m rows) :
    HoldsRows (runAll runStatement (runEnqueue codec) m events)
      (runAll Statement.run (enqueueRows codec) rows events) := by
  induction events generalizing m rows with
  | nil => exact h
  | cons event rest ih =>
    cases event with
    | inl statement => exact ih (runStatement_holdsRows h statement)
    | inr op => exact ih (enqueue_holdsRows h op).2

theorem foldl_enqueue_holdsRows (ops : List QueuedOperation) (h : HoldsRows m rows) :
    HoldsRows (ops.foldl (runEnqueue codec) m) (ops.foldl (enqueueRows codec) rows) := by
  induction ops generalizing m rows with
  | nil => exact h
  | cons op rest ih => exact ih (enqueue_holdsRows h op).2

theorem finalize_committed (h : HoldsRows m rows) (tx : Except String Unit)
    (snapshotOps failed : List QueuedOperation) :
    HoldsRows (finalizeAfterProcessing fromStr tx m snapshotOps failed).1
      ((committed fromStr tx m snapshotOps failed).foldl Statement.run rows) := by
  obtain ⟨handle, _, _, active, _⟩ := id h
  cases read : snapshot fromStr m with
  | error e =>
    have untouched : finalizeAfterProcessing fromStr tx m snapshotOps failed = (m, .error e) := by
      simp only [finalizeAfterProcessing, active, read]
    have nothing : committed fromStr tx m snapshotOps failed = [] := by
      simp only [committed, read]
    rw [untouched, nothing]
    exact h
  | ok current =>
    cases tx with
    | error e =>
      have untouched : finalizeAfterProcessing fromStr (.error e) m snapshotOps failed =
          (m, .error (.io e)) := by
        simp only [finalizeAfterProcessing, active, read]
      have nothing : committed fromStr (.error e) m snapshotOps failed = [] := by
        simp only [committed, read]
      rw [untouched, nothing]
      exact h
    | ok done =>
      have all : committed fromStr (.ok done) m snapshotOps failed =
          finalizeStatements current snapshotOps failed := by
        simp only [committed, read]
      rw [all]
      exact (finalize_holdsRows h read snapshotOps failed).2

/-- A statement for another full key does not see an enqueue. -/
theorem run_enqueueRows {statement : Statement} {op : QueuedOperation}
    (other : op.toContract ≠ statement.fullKey) (rows : List QueueRow) :
    Statement.run (enqueueRows codec rows op) statement =
      enqueueRows codec (Statement.run rows statement) op := by
  have added : statement.apply (queueRow codec.json op) = some (queueRow codec.json op) :=
    apply_other other
  have replaced : ∀ old : List QueueRow,
      (old.filter (fun row => !(row.tableName == op.table && row.entityId == op.entityId))).filterMap
          statement.apply =
        (old.filterMap statement.apply).filter (fun row =>
          !(row.tableName == op.table && row.entityId == op.entityId)) := by
    intro old
    rw [List.filter_filterMap, List.filterMap_filter]
    refine List.filterMap_congr (fun row _ => ?_)
    cases applied : statement.apply row with
    | none => simp
    | some after =>
      have same := apply_fullKey applied
      have table : after.tableName = row.tableName := congrArg ContractOperation.table same
      have entity : after.entityId = row.entityId := congrArg ContractOperation.entityId same
      simp [Option.filter, table, entity]
  unfold enqueueRows replacedBy Statement.run
  rw [List.filterMap_append, List.filterMap_cons_some added, List.filterMap_nil]
  exact congrArg (· ++ [queueRow codec.json op]) (replaced rows)

theorem committed_fullKey {tx : Except String Unit} {snapshotOps failed : List QueuedOperation}
    {statement : Statement} (h : statement ∈ committed fromStr tx m snapshotOps failed) :
    ∃ current, snapshot fromStr m = .ok current ∧
      ∃ op ∈ current, statement.fullKey = op.toContract := by
  unfold committed at h
  split at h
  · rename_i current read
    obtain ⟨op, member, made⟩ := List.mem_filterMap.mp h
    exact ⟨current, read, op, member, finalizeStatement_fullKey made⟩
  · cases h

/-- However enqueues fall between the read of a finalize, its statements and its commit, the
table is that of the whole finalize followed by the enqueues. -/
theorem finalize_interleaved {tx : Except String Unit} {snapshotOps failed : List QueuedOperation}
    {events : List (Statement ⊕ QueuedOperation)} (h : HoldsRows m rows)
    (planned : lefts events = committed fromStr tx m snapshotOps failed)
    (fresh : ∀ op ∈ rights events, ∀ current, snapshot fromStr m = .ok current →
      ∀ read ∈ current, read.key = op.key → read.queuedAtMicros ≠ op.queuedAtMicros) :
    ∃ final, HoldsRows (runAll runStatement (runEnqueue codec) m events) final ∧
      HoldsRows ((rights events).foldl (runEnqueue codec)
        (finalizeAfterProcessing fromStr tx m snapshotOps failed).1) final := by
  have commutes : ∀ statement ∈ lefts events, ∀ op ∈ rights events, ∀ rows,
      Statement.run (enqueueRows codec rows op) statement =
        enqueueRows codec (Statement.run rows statement) op := by
    intro statement planned_statement op enqueued
    rw [planned] at planned_statement
    obtain ⟨current, read, origin, member, key⟩ := committed_fullKey planned_statement
    refine run_enqueueRows (fun same => ?_)
    have equal : origin.toContract = op.toContract := (same.trans key).symm
    exact fresh op enqueued current read origin member
      (congrArg ContractOperation.key equal) (congrArg ContractOperation.queuedAtMicros equal)
  have serial := runAll_eq events rows commutes
  rw [planned] at serial
  refine ⟨_, runAll_holdsRows events h, ?_⟩
  rw [serial]
  exact foldl_enqueue_holdsRows _ (finalize_committed h tx snapshotOps failed)

/-- The key of the only row is enqueued again before the row is deleted. -/
theorem finalize_interleaved_replaced :
    let op (stamp : Int64) : QueuedOperation := ⟨"kvs", "a", .hardDelete, stamp, 0, none⟩
    let m := (enqueue sampleCodec sampleManager (op 1)).1
    ∃ final, HoldsRows (runAll runStatement (runEnqueue sampleCodec) m
        [.inr (op 2), .inl (.delete (op 1).toContract)]) final ∧
      HoldsRows ([op 2].foldl (runEnqueue sampleCodec)
        (finalizeAfterProcessing sampleFromStr (.ok ()) m [op 1] []).1) final := by
  intro op m
  have held : HoldsRows m [queueRow sampleCodec.json (op 1)] :=
    (enqueue_holdsRows sampleManager_holdsRows (op 1)).2
  have readable : tryFromRow sampleFromStr (queueRow sampleCodec.json (op 1)) = .ok (op 1) := by
    simp only [tryFromRow, queueRow, op, sampleFromStr_hardDelete, u32OrZero_ofNat]
  have read : snapshot sampleFromStr m = .ok [op 1] := by
    rw [snapshot_holdsRows held, List.mergeSort_singleton, List.mapM_cons, readable]
    rfl
  have planned : lefts [.inr (op 2), .inl (.delete (op 1).toContract)] =
      committed sampleFromStr (.ok ()) m [op 1] [] := by
    simp only [committed, read]
    rfl
  refine finalize_interleaved held planned ?_
  intro enqueued member current found old hold _
  rw [read] at found
  cases found
  have first : old = op 1 := by simpa using hold
  have second : enqueued = op 2 := by simpa [rights] using member
  rw [first, second]
  decide

end Polykit.Sqlite.Finalize
