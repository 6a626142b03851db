/- Module: Polykit/Sqlite/Store
   generality: I
   source: crates/polybase-sqlite/src/store.rs, crates/polybase-sqlite/src/queue.rs
   digest: The local store and the offline queue over the active user's database. -/

import Polykit.Sqlite.Manager
import Polykit.Sync.Coordinator

set_option autoImplicit false
set_option relaxedAutoImplicit false

namespace Polykit.Sqlite.Store

open Errors Json Lib.Fallible Manager OfflineQueue.Memory Storage Sync

/-- The text functions a store crosses: SQLite's and the serializer's. -/
structure Codec where
  sql : SqlText
  json : JsonText

/-- Booleans and integers bind as integers, other numbers as doubles, arrays and objects as
their JSON text. -/
def bindJsonValue (json : JsonText) : Value → SqlValue
  | .null => .null
  | .bool b => .integer (if b then 1 else 0)
  | .number n =>
      match n.asI64 with
      | some i => .integer i
      | none => .real (n.asF64 json)
  | .string s => .text s
  | other => .text (json.toString other)

def columnToJson : SqlValue → Value
  | .null => .null
  | .integer n => .number (Number.ofInt64 n)
  | .real bits => ((Number.fromF64 bits).map Value.number).getD .null
  | .blob _ => .null
  | .text s => .string s

def rowToRecord (schema : TableSchema) (row : Row) : Map :=
  schema.columns.foldl
    (fun record column => record.insert column.name (columnToJson (row column.name))) ∅

def poolRequired : PolyError := .localStore "no active user pool"

/-- A statement on a table, whose name stands in it without quotation marks. -/
def withTable {α : Type} (table : String) (statement : Table → Except String (Table × α))
    (db : Database) : Except String (Database × α) :=
  if !Lib.Sql.isName table then .error "syntax error"
  else
    match db.tables[table]? with
    | none => .error ("no such table: " ++ table)
    | some t => (statement t).map (fun result =>
        ({ db with tables := db.tables.insert table result.1 }, result.2))

/-- The statement of `upsert_record` on a pool taken out earlier. -/
def upsertRecordOn (codec : Codec) (m : DbManager) (handle : Nat) (table : String)
    (record : Map) : DbManager × Except PolyError Unit :=
  if record.isEmpty then (m, .ok ())
  else
    let result := m.execute handle (withTable table (fun t =>
      (t.upsert codec.sql m.sqlNow record.keys
        (fun name => record[name]?.map (bindJsonValue codec.json))).map (fun t => (t, ()))))
    (result.1, result.2.mapError PolyError.localStore)

def upsertRecord (codec : Codec) (m : DbManager) (table : String) (record : Map) :
    DbManager × Except PolyError Unit :=
  match m.pool with
  | none => (m, .error poolRequired)
  | some handle => upsertRecordOn codec m handle table record

def markDeleted (codec : Codec) (m : DbManager) (table id : String) (version : Int64) :
    DbManager × Except PolyError Unit :=
  match m.pool with
  | none => (m, .error poolRequired)
  | some handle =>
      let result := m.execute handle (withTable table (fun t =>
        (t.updateDeleted codec.sql id version).map (fun t => (t, ()))))
      (result.1, result.2.mapError PolyError.localStore)

def readRecord (m : DbManager) (table id : String) : Except PolyError (Option Map) :=
  match m.pool with
  | none => .error poolRequired
  | some handle =>
      (m.execute handle (withTable table (fun t =>
        .ok (t, (t.selectById id).map (rowToRecord t.schema))))).2.mapError PolyError.localStore

def sqliteLocalStore (codec : Codec) : LocalStore DbManager where
  upsertRecord := upsertRecord codec
  markDeleted := markDeleted codec
  readRecord := readRecord

def kindToValue : QueuedOperationKind → Value
  | .write payload => .object [("type", .string "write"), ("payload", payload)]
  | .tombstone version =>
      .object [("type", .string "tombstone"), ("version", .number (Number.ofInt64 version))]
  | .hardDelete => .object [("type", .string "hard_delete")]

def queueRow (json : JsonText) (op : QueuedOperation) : QueueRow where
  tableName := op.table
  entityId := op.entityId
  kind := json.toString (kindToValue op.kind)
  queuedAtMicros := op.queuedAtMicros
  retryCount := Int64.ofNat op.retryCount.toNat
  lastError := op.lastError

/-- `INSERT OR REPLACE` under the composite primary key. -/
def replaceRow (row : QueueRow) (db : Database) : Except String (Database × Unit) :=
  match db.queue with
  | none => .error "no such table: polybase_queue"
  | some rows =>
      .ok ({ db with
        queue := some (rows.filter (fun old =>
          !(old.tableName == row.tableName && old.entityId == row.entityId)) ++ [row]) }, ())

/-- The statement of `enqueue` on a pool taken out earlier. -/
def enqueueOn (codec : Codec) (m : DbManager) (handle : Nat) (op : QueuedOperation) :
    DbManager × Except OfflineQueueError Unit :=
  let result := m.execute handle (replaceRow (queueRow codec.json op))
  (result.1, result.2.mapError OfflineQueueError.io)

def enqueue (codec : Codec) (m : DbManager) (op : QueuedOperation) :
    DbManager × Except OfflineQueueError Unit :=
  match m.pool with
  | none => (m, .error (.io "no active user pool"))
  | some handle => enqueueOn codec m handle op

def depth (m : DbManager) : Except OfflineQueueError Nat :=
  match m.pool with
  | none => .error (.io "no active user pool")
  | some handle =>
      (m.execute handle (fun db => match db.queue with
        | none => .error "no such table: polybase_queue"
        | some rows => .ok (db, rows.length))).2.mapError OfflineQueueError.io

def sqliteOfflineQueue (codec : Codec) : OfflineQueue DbManager where
  enqueue := enqueue codec
  depth := depth

theorem getElem?_rowToRecord {schema : TableSchema} {row : Row} {name : String}
    (member : name ∈ schema.columns.map SqlColumn.name) :
    (rowToRecord schema row)[name]? = some (columnToJson (row name)) := by
  have loop : ∀ (columns : List SqlColumn) (record : Map),
      (columns.foldl (fun record column =>
        record.insert column.name (columnToJson (row column.name))) record)[name]? =
          if name ∈ columns.map SqlColumn.name then some (columnToJson (row name))
          else record[name]? := by
    intro columns
    induction columns with
    | nil => simp
    | cons head tail ih =>
      intro record
      rw [List.foldl_cons, ih]
      by_cases later : name ∈ tail.map SqlColumn.name
      · have inside : name ∈ (head :: tail).map SqlColumn.name := List.mem_cons_of_mem _ later
        simp only [if_pos later, if_pos inside]
      · by_cases same : head.name = name
        · subst same
          simp [later]
        · have outside : name ∉ (head :: tail).map SqlColumn.name := by
            simpa [Ne.symm same] using later
          simp only [if_neg later, if_neg outside]
          simp [Std.ExtTreeMap.getElem?_insert, same]
  rw [rowToRecord, loop, if_pos member]

theorem withTable_eq_ok {α : Type} {table : String} {db final : Database} {result : α}
    {statement : Table → Except String (Table × α)}
    (h : withTable table statement db = .ok (final, result)) :
    ∃ t changed, db.tables[table]? = some t ∧ statement t = .ok (changed, result) ∧
      final = { db with tables := db.tables.insert table changed } := by
  unfold withTable at h
  split at h
  · cases h
  split at h
  · cases h
  · rename_i t found
    obtain ⟨⟨changed, value⟩, run, pair⟩ := map_eq_ok.mp h
    cases pair
    exact ⟨t, changed, found, run, rfl⟩

theorem isName_of_withTable {α : Type} {table : String} {db : Database} {result : Database × α}
    {statement : Table → Except String (Table × α)}
    (h : withTable table statement db = .ok result) : Lib.Sql.isName table = true := by
  unfold withTable at h
  split at h
  · cases h
  · rename_i plain
    simpa using plain

/-- The table the active pool reaches, when it reaches one, has the given schema. -/
def MirrorHasSchema (m : DbManager) (table : String) (schema : TableSchema) : Prop :=
  ∀ handle pool db t, m.pool = some handle → m.pools[handle]? = some pool →
    m.disk[pool.user]? = some db → db.tables[table]? = some t → t.schema = schema

theorem mirrorHasSchema_of_shipped {m : DbManager} (h : Shipped m) :
    MirrorHasSchema m "kvs" kvsSchema :=
  fun _ pool db t _ _ hdb ht => h.disk pool.user db hdb t ht

/-- What a column of the schema holds after a value was bound to it. -/
def storedAs (codec : Codec) (schema : TableSchema) (name : String) (value : Value) : SqlValue :=
  (schema.affinity name).apply codec.sql (bindJsonValue codec.json value)

/-- A successful upsert is read back: under the record's id there is a row with every field
of the record as its column stored it, and no required column was given a null. -/
theorem readRecord_upsertRecord {codec : Codec} {m after : DbManager} {table id : String}
    {record : Map} {schema : TableSchema} (shape : MirrorHasSchema m table schema)
    (textId : schema.affinity "id" = .text) (named : record["id"]? = some (.string id))
    (h : upsertRecord codec m table record = (after, .ok ())) :
    ∃ row : Map, readRecord after table id = .ok (some row) ∧
      ∀ column ∈ schema.columns, ∀ value, record[column.name]? = some value →
        row[column.name]? = some (columnToJson (storedAs codec schema column.name value)) ∧
        (column.notNull = true → storedAs codec schema column.name value ≠ .null) := by
  have filled : record.isEmpty = false := by
    by_contra empty
    rw [Bool.not_eq_false, Std.ExtTreeMap.isEmpty_iff] at empty
    rw [empty] at named
    simp at named
  unfold upsertRecord at h
  split at h
  · cases h
  · rename_i handle active
    simp only [upsertRecordOn, filled, Bool.false_eq_true, if_false, Prod.mk.injEq,
      mapError_eq_ok] at h
    obtain ⟨pool, db, final, hpool, opened, hdb, run, changedManager⟩ :=
      execute_eq_ok (Prod.ext h.1 h.2)
    have plain := isName_of_withTable run
    obtain ⟨t, changed, found, upserted, rfl⟩ := withTable_eq_ok run
    obtain ⟨_, upserted, pair⟩ := map_eq_ok.mp upserted
    cases pair
    have same : t.schema = schema := shape handle pool db t active hpool hdb found
    subst same
    have assigned : ∀ name value, record[name]? = some value →
        t.assigned codec.sql (fun name => record[name]?.map (bindJsonValue codec.json)) name =
          some (storedAs codec t.schema name value) := by
      intro name value field
      simp [Table.assigned, field, storedAs]
    have ownId : storedAs codec t.schema "id" (.string id) = .text id := by
      simp [storedAs, textId, bindJsonValue, Affinity.apply]
    obtain ⟨row, selected, holds⟩ := selectById_upsert upserted (ownId ▸ assigned _ _ named)
    refine ⟨rowToRecord t.schema row, ?_, ?_⟩
    · have schemaKept := upsert_schema upserted
      let written : Database := { db with tables := db.tables.insert table changed }
      have present : after.disk[pool.user]? = some written := by
        rw [changedManager]
        simp [written]
      have selection : withTable table
          (fun t => .ok (t, (t.selectById id).map (rowToRecord t.schema))) written =
            .ok ({ written with tables := written.tables.insert table changed },
              some (rowToRecord t.schema row)) := by
        simp [withTable, plain, written, selected, schemaKept, Except.map]
      have kept : after.pool = some handle ∧ after.pools[handle]? = some pool := by
        rw [changedManager]
        exact ⟨active, hpool⟩
      simp only [readRecord, kept.1, execute_open kept.2 opened present selection, mapError_ok]
    · intro column member value field
      have stored := assigned column.name value field
      constructor
      · rw [getElem?_rowToRecord (List.mem_map_of_mem member), holds _ _ stored]
      · intro required null
        refine upsert_notNull upserted member required ?_
        simp only [Table.insertedRow, stored, null]

/-! What a statement on the mirror leaves of its schema, and of its rows when it fails. -/

theorem mirrorHasSchema_execute {α : Type} {m : DbManager} {handle : Nat} {table : String}
    {schema : TableSchema} {statement : Table → Except String (Table × α)}
    (shape : MirrorHasSchema m table schema) (active : m.pool = some handle)
    (keeps : ∀ t changed result, statement t = .ok (changed, result) →
      changed.schema = t.schema) :
    MirrorHasSchema (m.execute handle (withTable table statement)).1 table schema := by
  cases ran : m.execute handle (withTable table statement) with
  | mk after result =>
    cases result with
    | error e => exact execute_eq_error ran ▸ shape
    | ok result =>
      obtain ⟨pool, db, final, opened, _, found, run, rfl⟩ := execute_eq_ok ran
      obtain ⟨t, changed, present, written, rfl⟩ := withTable_eq_ok run
      intro other otherPool otherDb otherTable hother hpool hdb htable
      have same : other = handle := Option.some.inj (hother.symm.trans active)
      subst same
      have samePool : otherPool = pool := Option.some.inj (hpool.symm.trans opened)
      subst samePool
      have sameDb : { db with tables := db.tables.insert table changed } = otherDb := by
        simpa using hdb
      subst sameDb
      have sameTable : changed = otherTable := by simpa using htable
      subst sameTable
      rw [keeps t changed result written]
      exact shape other otherPool db t active opened found present

theorem mirrorHasSchema_upsertRecord {m : DbManager} {table : String} {schema : TableSchema}
    (shape : MirrorHasSchema m table schema) (codec : Codec) (record : Map) :
    MirrorHasSchema (upsertRecord codec m table record).1 table schema := by
  unfold upsertRecord
  split
  · exact shape
  · rename_i handle active
    unfold upsertRecordOn
    split
    · exact shape
    · refine mirrorHasSchema_execute shape active (fun t changed result written => ?_)
      obtain ⟨_, upserted, pair⟩ := map_eq_ok.mp written
      cases pair
      exact upsert_schema upserted

theorem mirrorHasSchema_markDeleted {m : DbManager} {table : String} {schema : TableSchema}
    (shape : MirrorHasSchema m table schema) (codec : Codec) (id : String) (version : Int64) :
    MirrorHasSchema (markDeleted codec m table id version).1 table schema := by
  unfold markDeleted
  split
  · exact shape
  · rename_i handle active
    refine mirrorHasSchema_execute shape active (fun t changed result written => ?_)
    obtain ⟨_, updated, pair⟩ := map_eq_ok.mp written
    cases pair
    unfold Table.updateDeleted at updated
    split at updated
    · cases updated
    · cases updated
      rfl

theorem upsertRecord_error {codec : Codec} {m after : DbManager} {table : String} {record : Map}
    {error : PolyError} (h : upsertRecord codec m table record = (after, .error error)) :
    after = m := by
  unfold upsertRecord at h
  split at h
  · cases h
    rfl
  · unfold upsertRecordOn at h
    split at h
    · cases h
    · simp only [Prod.mk.injEq] at h
      obtain ⟨e, failed⟩ := mapError_eq_error h.2
      exact execute_eq_error (Prod.ext h.1 failed)

theorem markDeleted_error {codec : Codec} {m after : DbManager} {table id : String}
    {version : Int64} {error : PolyError}
    (h : markDeleted codec m table id version = (after, .error error)) : after = m := by
  unfold markDeleted at h
  split at h
  · cases h
    rfl
  · simp only [Prod.mk.injEq] at h
    obtain ⟨e, failed⟩ := mapError_eq_error h.2
    exact execute_eq_error (Prod.ext h.1 failed)

/-- A tombstone changes the row of its id, where there is one, and only adds to it the
version and the deleted flag. -/
theorem readRecord_markDeleted {codec : Codec} {m after : DbManager} {table id : String}
    {version : Int64} {schema : TableSchema} (shape : MirrorHasSchema m table schema)
    (versionColumn : schema.affinity "version" = .integer)
    (deletedColumn : schema.affinity "deleted" = .integer)
    (h : markDeleted codec m table id version = (after, .ok ())) :
    readRecord m table id = .ok none ∧ readRecord after table id = .ok none ∨
      ∃ before row : Map, readRecord m table id = .ok (some before) ∧
        readRecord after table id = .ok (some row) ∧
        row["version"]? = some (.number (Number.ofInt64 version)) ∧
        row["deleted"]? = some (.number (Number.ofInt64 1)) := by
  unfold markDeleted at h
  split at h
  · cases h
  · rename_i handle active
    simp only [Prod.mk.injEq, mapError_eq_ok] at h
    obtain ⟨pool, db, final, hpool, opened, hdb, run, changedManager⟩ :=
      execute_eq_ok (Prod.ext h.1 h.2)
    have plain := isName_of_withTable run
    obtain ⟨t, changed, found, updated, rfl⟩ := withTable_eq_ok run
    obtain ⟨_, updated, pair⟩ := map_eq_ok.mp updated
    cases pair
    have same : t.schema = schema := shape handle pool db t active hpool hdb found
    subst same
    let select : Table → Except String (Table × Option Map) :=
      fun t => .ok (t, (t.selectById id).map (rowToRecord t.schema))
    have read : ∀ (m' : DbManager) (db' : Database) (t' : Table), m'.pool = some handle →
        m'.pools[handle]? = some pool → m'.disk[pool.user]? = some db' →
        db'.tables[table]? = some t' →
        readRecord m' table id = .ok ((t'.selectById id).map (rowToRecord t'.schema)) := by
      intro m' db' t' active' hpool' hdb' found'
      have ran : withTable table select db' = .ok
          ({ db' with tables := db'.tables.insert table t' },
            (t'.selectById id).map (rowToRecord t'.schema)) := by
        simp [withTable, plain, found', select, Except.map]
      simp only [readRecord, active', execute_open hpool' opened hdb' ran, mapError_ok, select]
    have before := read m db t active hpool hdb found
    have afterwards : readRecord after table id =
        .ok ((changed.selectById id).map (rowToRecord changed.schema)) := by
      refine read after { db with tables := db.tables.insert table changed } changed ?_ ?_ ?_ ?_
      · rw [changedManager]
        exact active
      · rw [changedManager]
        exact hpool
      · rw [changedManager]
        exact Std.ExtTreeMap.getElem?_insert_self
      · exact Std.ExtTreeMap.getElem?_insert_self
    obtain ⟨named, shapeKept, selected⟩ := selectById_updateDeleted updated
    rw [selected, shapeKept] at afterwards
    cases row : t.selectById id with
    | none =>
      rw [row] at before afterwards
      exact .inl ⟨before, afterwards⟩
    | some stored =>
      rw [row] at before afterwards
      refine .inr ⟨_, _, before, afterwards, ?_, ?_⟩
      · rw [getElem?_rowToRecord named.2]
        simp [tombstoned, versionColumn, Affinity.apply, columnToJson]
      · rw [getElem?_rowToRecord named.1]
        simp [tombstoned, deletedColumn, Affinity.apply, columnToJson]

/-! A statement on one id leaves what is read under every other. -/

theorem readRecord_execute {α : Type} {m : DbManager} {handle : Nat} {table other : String}
    {schema : TableSchema} {statement : Table → Except String (Table × α)}
    (shape : MirrorHasSchema m table schema) (active : m.pool = some handle)
    (keeps : ∀ t changed result, t.schema = schema → statement t = .ok (changed, result) →
      changed.schema = t.schema ∧ changed.selectById other = t.selectById other) :
    readRecord (m.execute handle (withTable table statement)).1 table other =
      readRecord m table other := by
  cases ran : m.execute handle (withTable table statement) with
  | mk after result =>
    cases result with
    | error e => rw [execute_eq_error ran]
    | ok result =>
      obtain ⟨pool, db, final, opened, running, found, run, rfl⟩ := execute_eq_ok ran
      have plain := isName_of_withTable run
      obtain ⟨t, changed, present, written, rfl⟩ := withTable_eq_ok run
      obtain ⟨schemaKept, rowKept⟩ :=
        keeps t changed result (shape handle pool db t active opened found present) written
      simp [readRecord, active, DbManager.execute, opened, running, found, withTable, plain, present,
        schemaKept, rowKept, Except.map]

theorem readRecord_upsertRecord_ne {m : DbManager} {table id other : String} {record : Map}
    {schema : TableSchema} (codec : Codec) (shape : MirrorHasSchema m table schema)
    (textId : schema.affinity "id" = .text) (named : record["id"]? = some (.string id))
    (different : other ≠ id) :
    readRecord (upsertRecord codec m table record).1 table other = readRecord m table other := by
  unfold upsertRecord
  split
  · rfl
  · rename_i handle active
    unfold upsertRecordOn
    split
    · rfl
    · refine readRecord_execute shape active (fun t changed result same written => ?_)
      obtain ⟨_, upserted, pair⟩ := map_eq_ok.mp written
      cases pair
      have ownId : t.assigned codec.sql
          (fun name => record[name]?.map (bindJsonValue codec.json)) "id" = some (.text id) := by
        simp [Table.assigned, named, same, textId, bindJsonValue, Affinity.apply]
      exact ⟨upsert_schema upserted, selectById_upsert_ne upserted ownId different⟩

theorem readRecord_markDeleted_ne {m : DbManager} {table id other : String}
    {schema : TableSchema} (codec : Codec) (shape : MirrorHasSchema m table schema)
    (version : Int64) (different : other ≠ id) :
    readRecord (markDeleted codec m table id version).1 table other =
      readRecord m table other := by
  unfold markDeleted
  split
  · rfl
  · rename_i handle active
    refine readRecord_execute shape active (fun t changed result _ written => ?_)
    obtain ⟨_, updated, pair⟩ := map_eq_ok.mp written
    cases pair
    exact ⟨(selectById_updateDeleted updated).2.1, selectById_updateDeleted_ne updated different⟩

end Polykit.Sqlite.Store
