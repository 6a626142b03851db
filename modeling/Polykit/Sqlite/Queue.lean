/- Module: Polykit/Sqlite/Queue
   generality: I
   source: crates/polybase-sqlite/src/queue.rs
   digest: The queue kept in a SQLite table answers as the queue in memory. -/

import Polykit.OfflineQueue.Memory
import Polykit.Sqlite.Store

set_option autoImplicit false
set_option relaxedAutoImplicit false

namespace Polykit.Sqlite.Queue

open Contract Errors Json Lib.Lockstep Manager OfflineQueue.Interface OfflineQueue.Memory Storage
open Store

abbrev KindFromStr := String → Except String QueuedOperationKind

/-- `u32::try_from(..).unwrap_or(0)`. -/
def u32OrZero (n : Int64) : UInt32 :=
  if 0 ≤ n ∧ n ≤ 0xFFFFFFFF then UInt32.ofNat n.toNatClampNeg else 0

def tryFromRow (fromStr : KindFromStr) (row : QueueRow) :
    Except OfflineQueueError QueuedOperation :=
  match fromStr row.kind with
  | .error e => .error (.decode e)
  | .ok kind => .ok {
      table := row.tableName
      entityId := row.entityId
      kind := kind
      queuedAtMicros := row.queuedAtMicros
      retryCount := u32OrZero row.retryCount
      lastError := row.lastError }

/-- `ORDER BY queued_at_micros ASC, table_name ASC, entity_id ASC`. -/
def upTo (a b : QueueRow) : Bool :=
  a.queuedAtMicros < b.queuedAtMicros ||
    a.queuedAtMicros == b.queuedAtMicros &&
      (a.tableName < b.tableName || a.tableName == b.tableName && a.entityId ≤ b.entityId)

def selectRows (db : Database) : Except String (Database × List QueueRow) :=
  match db.queue with
  | none => .error "no such table: polybase_queue"
  | some rows => .ok (db, rows.mergeSort upTo)

def noActivePool : OfflineQueueError := .io "no active user pool"

def snapshot (fromStr : KindFromStr) (m : DbManager) :
    Except OfflineQueueError (List QueuedOperation) :=
  match m.pool with
  | none => .error noActivePool
  | some handle =>
      match (m.execute handle selectRows).2 with
      | .error e => .error (.io e)
      | .ok rows => rows.mapM (tryFromRow fromStr)

def fullKeyOf (row : QueueRow) : ContractOperation :=
  ⟨row.tableName, row.entityId, row.queuedAtMicros⟩

/-- The two statements of a finalize, each for the row of one full key. -/
inductive Statement
  | delete (fullKey : ContractOperation)
  | retry (fullKey : ContractOperation) (lastError : Option String)

def Statement.fullKey : Statement → ContractOperation
  | .delete fullKey | .retry fullKey _ => fullKey

/-- What a statement makes of a row. The counter is SQLite's 64-bit integer. -/
def Statement.apply (statement : Statement) (row : QueueRow) : Option QueueRow :=
  if fullKeyOf row = statement.fullKey then
    match statement with
    | .delete _ => none
    | .retry _ lastError =>
        some { row with retryCount := row.retryCount + 1, lastError := lastError }
  else some row

def Statement.run (rows : List QueueRow) (statement : Statement) : List QueueRow :=
  rows.filterMap statement.apply

def finalizeStatement (retained : List ContractOperation) (failed : List QueuedOperation)
    (op : QueuedOperation) : Option Statement :=
  if op.toContract ∈ retained then
    (failedByFullKey failed op.toContract).map (Statement.retry op.toContract)
  else some (.delete op.toContract)

def finalizeStatements (current snapshot failed : List QueuedOperation) : List Statement :=
  current.filterMap (finalizeStatement (retainedKeys current snapshot failed) failed)

def runStatements (statements : List Statement) (db : Database) :
    Except String (Database × Unit) :=
  match db.queue with
  | none => .error "no such table: polybase_queue"
  | some rows => .ok ({ db with queue := some (statements.foldl Statement.run rows) }, ())

/-- The read, then one transaction. `tx` is what the transaction itself comes to: it commits
all its statements or none. -/
def finalizeAfterProcessing (fromStr : KindFromStr) (tx : Except String Unit) (m : DbManager)
    (snapshotOps failed : List QueuedOperation) : DbManager × Except OfflineQueueError Unit :=
  match m.pool with
  | none => (m, .error noActivePool)
  | some handle =>
      match snapshot fromStr m with
      | .error e => (m, .error e)
      | .ok current =>
          match tx with
          | .error e => (m, .error (.io e))
          | .ok () =>
              let result := m.execute handle
                (runStatements (finalizeStatements current snapshotOps failed))
              (result.1, result.2.mapError OfflineQueueError.io)

/-- The queue behind the trait, its transactions committing. -/
def sqliteComponent (codec : Codec) (fromStr : KindFromStr) :
    Component DbManager QueueCall QueueAnswer
  | m, .enqueue op =>
      let next := enqueue codec m op
      (next.1, .done next.2)
  | m, .snapshot => (m, .entries (snapshot fromStr m))
  | m, .depth => (m, .count (depth m))
  | m, .finalize snapshotOps failed =>
      let next := finalizeAfterProcessing fromStr (.ok ()) m snapshotOps failed
      (next.1, .done next.2)

/-- The active pool is open on a database whose queue table holds these rows. -/
def HoldsRows (m : DbManager) (rows : List QueueRow) : Prop :=
  ∃ handle pool db, m.pool = some handle ∧ m.pools[handle]? = some pool ∧ pool.closed = false ∧
    m.disk[pool.user]? = some db ∧ db.queue = some rows

theorem execute_holdsRows {α : Type} {m : DbManager} {rows : List QueueRow}
    {statement : Database → Except String (Database × α)} (h : HoldsRows m rows)
    (after : List QueueRow) (result : α)
    (acts : ∀ db, db.queue = some rows →
      statement db = .ok ({ db with queue := some after }, result)) :
    ∃ handle, m.pool = some handle ∧ (m.execute handle statement).2 = .ok result ∧
      HoldsRows (m.execute handle statement).1 after := by
  obtain ⟨handle, pool, db, active, opened, serving, found, table⟩ := h
  have ran := execute_open opened serving found (acts db table)
  refine ⟨handle, active, by rw [ran], ?_⟩
  rw [ran]
  exact ⟨handle, pool, { db with queue := some after }, active, opened, serving,
    Std.ExtTreeMap.getElem?_insert_self, rfl⟩

theorem query_holdsRows {α : Type} {m : DbManager} {rows : List QueueRow}
    {query : Database → Except String (Database × α)} (h : HoldsRows m rows) (result : α)
    (reads : ∀ db, db.queue = some rows → query db = .ok (db, result)) :
    ∃ handle, m.pool = some handle ∧ (m.execute handle query).2 = .ok result := by
  have acts : ∀ db, db.queue = some rows →
      query db = .ok ({ db with queue := some rows }, result) := by
    rintro ⟨tables, queue⟩ table
    cases table
    exact reads _ rfl
  obtain ⟨handle, active, answer, _⟩ := execute_holdsRows h rows result acts
  exact ⟨handle, active, answer⟩

/-- The rows after an `INSERT OR REPLACE`. -/
def replacedBy (rows : List QueueRow) (row : QueueRow) : List QueueRow :=
  rows.filter (fun old => !(old.tableName == row.tableName && old.entityId == row.entityId)) ++
    [row]

theorem enqueue_holdsRows {codec : Codec} {m : DbManager} {rows : List QueueRow}
    (h : HoldsRows m rows) (op : QueuedOperation) :
    (enqueue codec m op).2 = .ok () ∧
      HoldsRows (enqueue codec m op).1 (replacedBy rows (queueRow codec.json op)) := by
  have acts : ∀ db, db.queue = some rows → replaceRow (queueRow codec.json op) db =
      .ok ({ db with queue := some (replacedBy rows (queueRow codec.json op)) }, ()) := by
    intro db table
    simp only [replaceRow, table, replacedBy]
  obtain ⟨handle, active, result, held⟩ := execute_holdsRows h _ _ acts
  unfold enqueue enqueueOn
  rw [active]
  exact ⟨by simp [result, Except.mapError], held⟩

theorem snapshot_holdsRows {fromStr : KindFromStr} {m : DbManager} {rows : List QueueRow}
    (h : HoldsRows m rows) :
    snapshot fromStr m = (rows.mergeSort upTo).mapM (tryFromRow fromStr) := by
  have reads : ∀ db, db.queue = some rows →
      selectRows db = .ok (db, rows.mergeSort upTo) := by
    intro db table
    simp only [selectRows, table]
  obtain ⟨handle, active, result⟩ := query_holdsRows h _ reads
  unfold snapshot
  rw [active]
  simp only [result]

theorem depth_holdsRows {m : DbManager} {rows : List QueueRow} (h : HoldsRows m rows) :
    depth m = .ok rows.length := by
  let count : Database → Except String (Database × Nat) := fun db => match db.queue with
    | none => .error "no such table: polybase_queue"
    | some rows => .ok (db, rows.length)
  have reads : ∀ db, db.queue = some rows → count db = .ok (db, rows.length) := by
    intro db table
    simp only [count, table]
  obtain ⟨handle, active, result⟩ := query_holdsRows h _ reads
  unfold depth
  rw [active]
  exact congrArg (fun answer => answer.mapError OfflineQueueError.io) result

theorem finalize_holdsRows {fromStr : KindFromStr} {m : DbManager} {rows : List QueueRow}
    (h : HoldsRows m rows) {current : List QueuedOperation}
    (read : snapshot fromStr m = .ok current) (snapshotOps failed : List QueuedOperation) :
    (finalizeAfterProcessing fromStr (.ok ()) m snapshotOps failed).2 = .ok () ∧
      HoldsRows (finalizeAfterProcessing fromStr (.ok ()) m snapshotOps failed).1
        ((finalizeStatements current snapshotOps failed).foldl Statement.run rows) := by
  have acts : ∀ db, db.queue = some rows →
      runStatements (finalizeStatements current snapshotOps failed) db = .ok ({ db with
        queue := some ((finalizeStatements current snapshotOps failed).foldl Statement.run
          rows) }, ()) := by
    intro db table
    simp only [runStatements, table]
  obtain ⟨handle, active, result, held⟩ := execute_holdsRows h _ _ acts
  unfold finalizeAfterProcessing
  rw [active]
  simp only [read]
  exact ⟨by simp [result, Except.mapError], held⟩

/-! What a transaction's statements make of each row. -/

theorem apply_fullKey {statement : Statement} {row after : QueueRow}
    (h : statement.apply row = some after) : fullKeyOf after = fullKeyOf row := by
  unfold Statement.apply at h
  split at h
  · cases statement <;> cases h
    rfl
  · cases h
    rfl

theorem apply_other {statement : Statement} {row : QueueRow}
    (other : fullKeyOf row ≠ statement.fullKey) : statement.apply row = some row := by
  simp [Statement.apply, other]

theorem foldl_run (statements : List Statement) (rows : List QueueRow) :
    statements.foldl Statement.run rows =
      rows.filterMap (fun row => statements.foldlM (fun row s => s.apply row) row) := by
  induction statements generalizing rows with
  | nil => simp
  | cons statement later ih =>
    have here : (statement :: later).foldl Statement.run rows =
        later.foldl Statement.run (rows.filterMap statement.apply) := rfl
    rw [here, ih, List.filterMap_filterMap]
    rfl

theorem foldlM_apply_other {statements : List Statement} {row : QueueRow}
    (other : ∀ s ∈ statements, fullKeyOf row ≠ s.fullKey) :
    statements.foldlM (fun row s => s.apply row) row = some row := by
  induction statements with
  | nil => rfl
  | cons statement later ih =>
    have first : statement.apply row = some row :=
      apply_other (other statement List.mem_cons_self)
    have rest := ih (fun s member => other s (List.mem_cons_of_mem _ member))
    rw [List.foldlM_cons, first]
    exact rest

theorem finalizeStatement_fullKey {retained : List ContractOperation}
    {failed : List QueuedOperation} {op : QueuedOperation} {statement : Statement}
    (h : finalizeStatement retained failed op = some statement) :
    statement.fullKey = op.toContract := by
  unfold finalizeStatement at h
  split at h
  · obtain ⟨lastError, _, rfl⟩ := Option.map_eq_some_iff.mp h
    rfl
  · cases h
    rfl

theorem foldlM_finalizeStatements {retained : List ContractOperation}
    {failed current : List QueuedOperation} {op : QueuedOperation} {row : QueueRow}
    (distinct : (current.map QueuedOperation.toContract).Nodup) (member : op ∈ current)
    (own : fullKeyOf row = op.toContract) :
    (current.filterMap (finalizeStatement retained failed)).foldlM (fun row s => s.apply row)
        row =
      (finalizeStatement retained failed op).elim (some row) (fun s => s.apply row) := by
  induction current with
  | nil => cases member
  | cons head tail ih =>
    obtain ⟨fresh, tailDistinct⟩ := List.nodup_cons.mp distinct
    have elsewhere : op.toContract ∉ tail.map QueuedOperation.toContract →
        ∀ after, fullKeyOf after = op.toContract →
          (tail.filterMap (finalizeStatement retained failed)).foldlM
            (fun row s => s.apply row) after = some after := by
      intro absent after key
      refine foldlM_apply_other (fun s hs => ?_)
      obtain ⟨source, hsource, made⟩ := List.mem_filterMap.mp hs
      rw [key, finalizeStatement_fullKey made]
      exact fun same => absent (List.mem_map.mpr ⟨source, hsource, same.symm⟩)
    rcases List.mem_cons.mp member with rfl | later
    · cases made : finalizeStatement retained failed op with
      | none =>
        rw [List.filterMap_cons_none made]
        exact elsewhere fresh row own
      | some statement =>
        rw [List.filterMap_cons_some made, List.foldlM_cons, Option.elim_some]
        cases applied : statement.apply row with
        | none => rfl
        | some after => exact elsewhere fresh after ((apply_fullKey applied).trans own)
    · have different : head.toContract ≠ op.toContract := fun same =>
        fresh (same ▸ List.mem_map_of_mem later)
      cases made : finalizeStatement retained failed head with
      | none =>
        rw [List.filterMap_cons_none made]
        exact ih tailDistinct later
      | some statement =>
        have untouched : statement.apply row = some row := by
          refine apply_other ?_
          rw [own, finalizeStatement_fullKey made]
          exact different.symm
        rw [List.filterMap_cons_some made, List.foldlM_cons, untouched]
        exact ih tailDistinct later

/-! A counter below `2 ^ 32` is the same number in memory and in its column. -/

theorem u32OrZero_ofNat (n : UInt32) : u32OrZero (Int64.ofNat n.toNat) = n := by
  have bound := n.toNat_lt
  have value : (Int64.ofNat n.toNat).toInt = n.toNat :=
    Int64.toInt_ofNat_of_lt (by omega)
  have inside : 0 ≤ Int64.ofNat n.toNat ∧ Int64.ofNat n.toNat ≤ 0xFFFFFFFF := by
    have top : (0xFFFFFFFF : Int64).toInt = 4294967295 := by decide
    rw [Int64.le_iff_toInt_le, Int64.le_iff_toInt_le, value, top]
    exact ⟨Int.natCast_nonneg _, by omega⟩
  unfold u32OrZero
  rw [if_pos inside]
  have back : (Int64.ofNat n.toNat).toNatClampNeg = n.toNat := by
    rw [Int64.toNatClampNeg, value, Int.toNat_natCast]
  rw [back, UInt32.ofNat_toNat]

theorem ofNat_saturatingSucc {n : UInt32} (room : n.toNat + 1 < 2 ^ 32) :
    Int64.ofNat (saturatingSucc n).toNat = Int64.ofNat n.toNat + 1 := by
  rw [toNat_saturatingSucc, Nat.min_eq_left (by omega), Int64.ofNat_add]
  rfl

/-! Memory and table under one finalize. -/

theorem apply_finalizeStatement {json : JsonText} {retained : List ContractOperation}
    {failed : List QueuedOperation} {op : QueuedOperation}
    (room : op.toContract ∈ retained → (failedByFullKey failed op.toContract).isSome →
      op.retryCount.toNat + 1 < 2 ^ 32) :
    (finalizeStatement retained failed op).elim (some (queueRow json op))
        (fun s => s.apply (queueRow json op)) =
      (finalizeEntry retained failed op).map (queueRow json) := by
  have own : fullKeyOf (queueRow json op) = op.toContract := rfl
  unfold finalizeStatement finalizeEntry
  by_cases kept : op.toContract ∈ retained
  · rw [if_pos kept, if_pos kept]
    cases found : failedByFullKey failed op.toContract with
    | none => rfl
    | some lastError =>
      have counter : Int64.ofNat (saturatingSucc op.retryCount).toNat =
          Int64.ofNat op.retryCount.toNat + 1 :=
        ofNat_saturatingSucc (room kept (by rw [found]; rfl))
      have bumped : (Statement.retry op.toContract lastError).apply (queueRow json op) =
          some { queueRow json op with
            retryCount := Int64.ofNat op.retryCount.toNat + 1
            lastError := lastError } := if_pos own
      simp only [Option.map_some, Option.elim_some, bumped, ← counter]
      rfl
  · rw [if_neg kept, if_neg kept]
    exact if_pos own

theorem foldl_finalizeStatements {json : JsonText} {queue : MemoryQueue}
    {snapshotOps failed : List QueuedOperation}
    (room : ∀ op ∈ retainedAsFailed queue (.finalize snapshotOps failed),
      op.retryCount.toNat + 1 < 2 ^ 32) :
    (finalizeStatements queue.inner snapshotOps failed).foldl Statement.run
        (queue.inner.map (queueRow json)) =
      (queue.finalizeAfterProcessing snapshotOps failed).inner.map (queueRow json) := by
  have distinct : (queue.inner.map QueuedOperation.toContract).Nodup := by
    refine List.Nodup.of_map ContractOperation.key ?_
    rw [List.map_map]
    exact queue.distinct
  unfold finalizeStatements MemoryQueue.finalizeAfterProcessing
  rw [foldl_run, List.filterMap_map, List.map_filterMap]
  refine List.filterMap_congr (fun op member => ?_)
  have own : fullKeyOf (queueRow json op) = op.toContract := rfl
  rw [Function.comp_apply, foldlM_finalizeStatements distinct member own]
  refine apply_finalizeStatement (fun kept counted => room op ?_)
  simp [retainedAsFailed, member, kept, counted]

/-- Table and memory hold the same queue. What is said of the calls still to come is what the
run relies on: increasing stamps, readable kinds, fresh counters that never overflow. -/
structure Simulates (codec : Codec) (fromStr : KindFromStr) (later : List QueueCall)
    (m : DbManager) (queue : MemoryQueue) : Prop where
  rows : HoldsRows m (queue.inner.map (queueRow codec.json))
  stamps : ((queue.inner ++ enqueuedBy later).map QueuedOperation.toContract).Pairwise
    (fun a b => a.queuedAtMicros < b.queuedAtMicros)
  decodes : ∀ op ∈ queue.inner ++ enqueuedBy later,
    fromStr (codec.json.toString (kindToValue op.kind)) = .ok op.kind
  fresh : ∀ op ∈ enqueuedBy later, op.retryCount = 0
  counted : ∀ op ∈ queue.inner,
    op.retryCount.toNat + (failureLog queue later).count op.toContract < 2 ^ 32
  bounded : ∀ key, (failureLog queue later).count key < 2 ^ 32

section

variable {codec : Codec} {fromStr : KindFromStr} {later : List QueueCall} {m : DbManager}
  {queue : MemoryQueue}

theorem snapshot_simulates (h : Simulates codec fromStr later m queue) :
    snapshot fromStr m = .ok queue.inner := by
  have stamps : queue.inner.Pairwise (fun a b => a.queuedAtMicros < b.queuedAtMicros) := by
    have all := List.pairwise_map.mp h.stamps
    exact (List.pairwise_append.mp all).1
  have sorted : (queue.inner.map (queueRow codec.json)).Pairwise (fun a b => upTo a b) := by
    rw [List.pairwise_map]
    refine stamps.imp (fun {a b} earlier => ?_)
    have columns : (queueRow codec.json a).queuedAtMicros <
        (queueRow codec.json b).queuedAtMicros := earlier
    simp [upTo, columns]
  rw [snapshot_holdsRows h.rows, List.mergeSort_of_pairwise sorted]
  have readable : ∀ ops : List QueuedOperation, (∀ op ∈ ops,
      fromStr (codec.json.toString (kindToValue op.kind)) = .ok op.kind) →
      (ops.map (queueRow codec.json)).mapM (tryFromRow fromStr) = .ok ops := by
    intro ops
    induction ops with
    | nil => exact fun _ => rfl
    | cons op rest ih =>
      intro decodes
      obtain ⟨kind, others⟩ := List.forall_mem_cons.mp decodes
      have entry : tryFromRow fromStr (queueRow codec.json op) = .ok op := by
        unfold tryFromRow queueRow
        simp only [kind, u32OrZero_ofNat]
      rw [List.map_cons, List.mapM_cons, entry, ih others]
      rfl
  exact readable queue.inner (fun op member => h.decodes op (List.mem_append_left _ member))

theorem enqueue_simulates {op : QueuedOperation}
    (h : Simulates codec fromStr (.enqueue op :: later) m queue) :
    (enqueue codec m op).2 = .ok () ∧
      Simulates codec fromStr later (enqueue codec m op).1 (queue.enqueue op) := by
  obtain ⟨answer, held⟩ := enqueue_holdsRows h.rows op
  have upcoming : enqueuedBy (.enqueue op :: later) = op :: enqueuedBy later := rfl
  have stamps := h.stamps
  have decodes := h.decodes
  have fresh := h.fresh
  rw [upcoming] at stamps decodes fresh
  have kept : ((queue.enqueue op).inner ++ enqueuedBy later).Sublist
      (queue.inner ++ op :: enqueuedBy later) := by
    have older := @List.filter_sublist _ (fun existing : QueuedOperation =>
      !(existing.table == op.table && existing.entityId == op.entityId)) queue.inner
    have appended := older.append_right (op :: enqueuedBy later)
    rw [MemoryQueue.enqueue, List.append_assoc]
    exact appended
  refine ⟨answer, ?_, ?_, ?_, ?_, ?_, h.bounded⟩
  · have table : replacedBy (queue.inner.map (queueRow codec.json)) (queueRow codec.json op) =
        (queue.enqueue op).inner.map (queueRow codec.json) := by
      simp only [replacedBy, MemoryQueue.enqueue, List.filter_map, List.map_append,
        List.map_singleton]
      rfl
    exact table ▸ held
  · exact stamps.sublist (kept.map _)
  · exact fun entry member => decodes entry (kept.subset member)
  · exact fun entry member => fresh entry (List.mem_cons_of_mem _ member)
  · intro entry member
    rcases (mem_enqueue queue op entry).mp member with rfl | ⟨old, _⟩
    · have zero : entry.retryCount = 0 := fresh entry List.mem_cons_self
      have few : (failureLog (queue.enqueue entry) later).count entry.toContract < 2 ^ 32 :=
        h.bounded entry.toContract
      rw [zero]
      simpa using few
    · exact h.counted entry old

theorem retryCount_finalizeEntry_le {snapshotOps failed : List QueuedOperation}
    {op entry : QueuedOperation} (old : op ∈ queue.inner)
    (made : finalizeEntry (retainedKeys queue.inner snapshotOps failed) failed op = some entry) :
    entry.retryCount.toNat ≤ op.retryCount.toNat +
      ((retainedAsFailed queue (.finalize snapshotOps failed)).map
        QueuedOperation.toContract).count op.toContract := by
  unfold finalizeEntry at made
  split at made
  · rename_i kept
    split at made
    · rename_i lastError found
      have failedToo : op ∈ retainedAsFailed queue (.finalize snapshotOps failed) := by
        simp [retainedAsFailed, old, kept, found]
      have one := List.count_pos_iff.mpr
        (List.mem_map_of_mem (f := QueuedOperation.toContract) failedToo)
      cases made
      have next := toNat_saturatingSucc op.retryCount
      simp only
      omega
    · cases made
      omega
  · cases made

theorem finalize_simulates {snapshotOps failed : List QueuedOperation}
    (h : Simulates codec fromStr (.finalize snapshotOps failed :: later) m queue) :
    (finalizeAfterProcessing fromStr (.ok ()) m snapshotOps failed).2 = .ok () ∧
      Simulates codec fromStr later (finalizeAfterProcessing fromStr (.ok ()) m snapshotOps failed).1
        (queue.finalizeAfterProcessing snapshotOps failed) := by
  obtain ⟨answer, held⟩ :=
    finalize_holdsRows h.rows (snapshot_simulates h) snapshotOps failed
  have logged : ∀ key, (failureLog queue (.finalize snapshotOps failed :: later)).count key =
      ((retainedAsFailed queue (.finalize snapshotOps failed)).map
        QueuedOperation.toContract).count key +
      (failureLog (queue.finalizeAfterProcessing snapshotOps failed) later).count key :=
    fun key => List.count_append
  have room : ∀ op ∈ retainedAsFailed queue (.finalize snapshotOps failed),
      op.retryCount.toNat + 1 < 2 ^ 32 := by
    intro op member
    have old : op ∈ queue.inner := List.mem_of_mem_filter member
    have total := h.counted op old
    have here := List.count_pos_iff.mpr
      (List.mem_map_of_mem (f := QueuedOperation.toContract) member)
    rw [logged] at total
    omega
  have dropped : ((queue.finalizeAfterProcessing snapshotOps failed).inner.map
      QueuedOperation.toContract).Sublist (queue.inner.map QueuedOperation.toContract) := by
    unfold MemoryQueue.finalizeAfterProcessing
    rw [map_toContract_finalize]
    exact List.filter_sublist.map _
  have origin : ∀ entry ∈ (queue.finalizeAfterProcessing snapshotOps failed).inner,
      ∃ op ∈ queue.inner, finalizeEntry (retainedKeys queue.inner snapshotOps failed) failed op =
        some entry := fun entry member => List.mem_filterMap.mp member
  refine ⟨answer, ?_, ?_, ?_, h.fresh, ?_, ?_⟩
  · exact foldl_finalizeStatements room ▸ held
  · have stamps := h.stamps
    rw [List.map_append] at stamps ⊢
    exact stamps.sublist (dropped.append_right _)
  · intro entry member
    rcases List.mem_append.mp member with old | new
    · obtain ⟨op, hop, made⟩ := origin entry old
      have same : entry.kind = op.kind := congrArg Prod.snd (finalizeEntry_identity made)
      rw [same]
      exact h.decodes op (List.mem_append_left _ hop)
    · exact h.decodes entry (List.mem_append_right _ new)
  · intro entry member
    obtain ⟨op, hop, made⟩ := origin entry member
    have same : entry.toContract = op.toContract :=
      congrArg Prod.fst (finalizeEntry_identity made)
    have total := h.counted op hop
    rw [logged] at total
    have grown := retryCount_finalizeEntry_le hop made
    rw [same]
    omega
  · intro key
    have total := h.bounded key
    rw [logged] at total
    omega

theorem sqlite_step {call : QueueCall} (h : Simulates codec fromStr (call :: later) m queue) :
    (sqliteComponent codec fromStr m call).2 = (memoryComponent queue call).2 ∧
      Simulates codec fromStr later (sqliteComponent codec fromStr m call).1
        (memoryComponent queue call).1 := by
  cases call with
  | enqueue op =>
    obtain ⟨answer, next⟩ := enqueue_simulates h
    exact ⟨congrArg QueueAnswer.done answer, next⟩
  | finalize snapshotOps failed =>
    obtain ⟨answer, next⟩ := finalize_simulates h
    exact ⟨congrArg QueueAnswer.done answer, next⟩
  | snapshot =>
    have read := snapshot_simulates h
    exact ⟨congrArg QueueAnswer.entries read,
      h.rows, h.stamps, h.decodes, h.fresh, h.counted, h.bounded⟩
  | depth =>
    have counted := depth_holdsRows h.rows
    rw [List.length_map] at counted
    exact ⟨congrArg QueueAnswer.count counted,
      h.rows, h.stamps, h.decodes, h.fresh, h.counted, h.bounded⟩

/-- Every sequential run gives the same answers from the table as from memory. -/
theorem sqlite_answers {calls : List QueueCall} (empty : HoldsRows m [])
    (fresh : ∀ op ∈ enqueuedBy calls, op.retryCount = 0)
    (increasing : (enqueuedBy calls).Pairwise (fun a b => a.queuedAtMicros < b.queuedAtMicros))
    (few : ∀ key, (failureLog MemoryQueue.new calls).count key < 2 ^ 32)
    (decodes : ∀ op ∈ enqueuedBy calls,
      fromStr (codec.json.toString (kindToValue op.kind)) = .ok op.kind) :
    (sqliteComponent codec fromStr).answers m calls =
      memoryComponent.answers MemoryQueue.new calls := by
  have start : Simulates codec fromStr calls m MemoryQueue.new := by
    refine ⟨empty, ?_, decodes, fresh, by simp [MemoryQueue.new], few⟩
    exact List.pairwise_map.mpr increasing
  have step : ∀ call rest m queue, Simulates codec fromStr (call :: rest) m queue →
      (sqliteComponent codec fromStr m call).2 = (memoryComponent queue call).2 ∧
        Simulates codec fromStr rest (sqliteComponent codec fromStr m call).1
          (memoryComponent queue call).1 := fun _ _ _ _ h => sqlite_step h
  exact answers_eq step calls m MemoryQueue.new start

end

/-! A signed-in user's table, and the serializer's text of a hard delete. -/

def sampleManager : DbManager :=
  (DbManager.switchUser { polybaseMigrator := true, appMigrator := none }
    ⟨.ok (), .ok (), .ok (), .ok (), .ok ()⟩ "user-1").1

def sampleCodec : Codec where
  sql := ⟨fun n => n.toInt.repr, fun _ => "0.0", .text, .real⟩
  json :=
    { toString := fun value => match value with
        | .object [("type", .string tag)] => "\x7b\"type\":\"" ++ tag ++ "\"\x7d"
        | _ => "null"
      fromStr := fun _ => .error "expected value"
      u64AsF64 := id
      i64AsF64 := Int64.toUInt64 }

def sampleFromStr : KindFromStr := fun text =>
  if text = "\x7b\"type\":\"hard_delete\"\x7d" then .ok .hardDelete
  else .error "expected value"

theorem sampleFromStr_hardDelete :
    sampleFromStr (sampleCodec.json.toString (kindToValue .hardDelete)) = .ok .hardDelete := by
  have text : sampleCodec.json.toString (kindToValue .hardDelete) =
      "\x7b\"type\":\"hard_delete\"\x7d" := by decide
  simp only [sampleFromStr, if_pos text]

theorem sampleManager_holdsRows : HoldsRows sampleManager [] :=
  ⟨0, ⟨"user-1", false⟩, _, by decide, by decide, rfl, rfl, rfl⟩

/-- Two deletes of one key, the first replaced, the second failing once. -/
theorem sqlite_answers_replaced :
    let op (stamp : Int64) : QueuedOperation := ⟨"kvs", "a", .hardDelete, stamp, 0, none⟩
    let calls : List QueueCall := [.enqueue (op 1), .enqueue (op 2), .snapshot,
      .finalize [op 2] [{ op 2 with lastError := some "offline" }], .snapshot, .depth]
    (sqliteComponent sampleCodec sampleFromStr).answers sampleManager calls =
      memoryComponent.answers MemoryQueue.new calls := by
  intro op calls
  have queued : enqueuedBy calls = [op 1, op 2] := rfl
  refine sqlite_answers sampleManager_holdsRows ?_ ?_ ?_ ?_
  · simp [queued, op]
  · simp [queued, op]
  · intro key
    have log : failureLog MemoryQueue.new calls = [(op 2).toContract] := by decide
    have short := List.count_le_length (a := key) (l := failureLog MemoryQueue.new calls)
    rw [log] at short ⊢
    exact Nat.lt_of_le_of_lt short (by decide)
  · simp [queued, op, sampleFromStr_hardDelete]

end Polykit.Sqlite.Queue
