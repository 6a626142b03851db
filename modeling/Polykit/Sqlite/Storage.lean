/- Module: Polykit/Sqlite/Storage
   generality: G
   source: crates/polybase-sqlite/migrations/0001_kvs.sql
   digest: SQLite tables with column affinities, and the upsert the local store issues. -/

import Polykit.Json
import Polykit.Lib.Sql

set_option autoImplicit false
set_option relaxedAutoImplicit false

namespace Polykit.Sqlite.Storage

/-- The storage classes. A real is given by the bits of its double. -/
inductive SqlValue
  | null
  | integer (n : Int64)
  | real (bits : UInt64)
  | text (s : String)
  | blob (bytes : List UInt8)
  deriving DecidableEq

/-- SQLite's own conversions between numbers and their texts. -/
structure SqlText where
  ofInteger : Int64 → String
  ofReal : UInt64 → String
  toInteger : String → SqlValue
  realToInteger : UInt64 → SqlValue

inductive Affinity
  | text | integer
  deriving DecidableEq

/-- Numbers stored in a text column become their texts, texts that look like numbers become
integers in an integer column. -/
def Affinity.apply (sql : SqlText) : Affinity → SqlValue → SqlValue
  | .text, .integer n => .text (sql.ofInteger n)
  | .text, .real bits => .text (sql.ofReal bits)
  | .integer, .text s => sql.toInteger s
  | .integer, .real bits => sql.realToInteger bits
  | _, value => value

inductive SqlDefault
  | none | value (v : SqlValue) | now
  deriving DecidableEq

structure SqlColumn where
  name : String
  affinity : Affinity
  notNull : Bool
  default : SqlDefault
  deriving DecidableEq

/-- Columns, and the unique constraints beside the primary key `id`. -/
structure TableSchema where
  columns : List SqlColumn
  unique : List (List String)
  deriving DecidableEq

def TableSchema.affinity (schema : TableSchema) (name : String) : Affinity :=
  ((schema.columns.find? (fun column => column.name == name)).map SqlColumn.affinity).getD .text

abbrev Row := String → SqlValue

structure Table where
  schema : TableSchema
  rows : List Row

def hasId (id : SqlValue) (row : Row) : Bool := row "id" == id && id != .null

def Table.assigned (t : Table) (sql : SqlText) (values : String → Option SqlValue)
    (name : String) : Option SqlValue :=
  (values name).map ((t.schema.affinity name).apply sql)

def Table.insertedRow (t : Table) (sql : SqlText) (now : String)
    (values : String → Option SqlValue) : Row := fun name =>
  match t.assigned sql values name with
  | some value => value
  | none =>
      match t.schema.columns.find? (fun column => column.name == name) with
      | some ⟨_, _, _, .value v⟩ => v
      | some ⟨_, _, _, .now⟩ => .text now
      | _ => .null

/-- `DO UPDATE SET` assigns every supplied column but the primary key. -/
def Table.updatedRow (t : Table) (sql : SqlText) (values : String → Option SqlValue)
    (existing : Row) : Row := fun name =>
  if name = "id" then existing name else (t.assigned sql values name).getD (existing name)

def TableSchema.notNullHolds (schema : TableSchema) (row : Row) : Bool :=
  schema.columns.all (fun column => !column.notNull || row column.name != .null)

/-- Nulls are distinct from each other under a unique constraint. -/
def TableSchema.uniqueHolds (schema : TableSchema) (row : Row) (others : List Row) : Bool :=
  schema.unique.all (fun names => others.all (fun other =>
    !names.all (fun name => row name == other name && row name != .null)))

/-- `INSERT INTO .. ON CONFLICT(id) DO UPDATE SET ..`. Checks come in SQLite's order: the
statement must parse and name existing columns, then NOT NULL, then the conflict on the
primary key, then the other unique constraints. A name is found as it is spelled in the schema;
SQLite finds it in another case as well. -/
def Table.upsert (t : Table) (sql : SqlText) (now : String) (names : List String)
    (values : String → Option SqlValue) : Except String Table :=
  if !names.all Lib.Sql.isName then .error "syntax error"
  else if names.all (· == "id") then .error "incomplete input"
  else if !names.all (fun name => (t.schema.columns.map SqlColumn.name).contains name) then
    .error "table has no such column"
  else
    let inserted := t.insertedRow sql now values
    if !t.schema.notNullHolds inserted then .error "NOT NULL constraint failed"
    else
      match t.rows.find? (hasId (inserted "id")) with
      | some existing =>
          let updated := t.updatedRow sql values existing
          if t.schema.uniqueHolds updated (t.rows.filter (fun row => !hasId (inserted "id") row))
          then .ok { t with
            rows := t.rows.map (fun row => if hasId (inserted "id") row then updated else row) }
          else .error "UNIQUE constraint failed"
      | none =>
          if t.schema.uniqueHolds inserted t.rows then
            .ok { t with rows := t.rows ++ [inserted] }
          else .error "UNIQUE constraint failed"

/-- `SELECT * FROM .. WHERE id = ?`. -/
def Table.selectById (t : Table) (id : String) : Option Row := t.rows.find? (hasId (.text id))

/-- `UPDATE .. SET deleted = 1, version = ? WHERE id = ?`. -/
def Table.updateDeleted (t : Table) (sql : SqlText) (id : String) (version : Int64) :
    Except String Table :=
  if ["deleted", "version"].any (fun name =>
      !(t.schema.columns.map SqlColumn.name).contains name) then .error "no such column"
  else
    .ok { t with rows := t.rows.map (fun row =>
      if hasId (.text id) row then fun name =>
        if name = "deleted" then (t.schema.affinity name).apply sql (.integer 1)
        else if name = "version" then (t.schema.affinity name).apply sql (.integer version)
        else row name
      else row) }

private theorem find?_replace {matched : Row → Bool} {rows : List Row} {existing updated : Row}
    (found : rows.find? matched = some existing) (own : matched updated = true) :
    (rows.map (fun row => if matched row then updated else row)).find? matched =
      some updated := by
  have predicate : (matched ∘ fun row => if matched row then updated else row) = matched := by
    funext row
    by_cases same : matched row = true <;> simp [same, own]
  rw [List.find?_map, predicate, found]
  simp [List.find?_some found]

/-- After a successful upsert the row of the id holds every supplied value under its column's
affinity. -/
theorem selectById_upsert {t after : Table} {sql : SqlText} {now id : String}
    {names : List String} {values : String → Option SqlValue}
    (h : t.upsert sql now names values = .ok after)
    (hid : t.assigned sql values "id" = some (.text id)) :
    ∃ row, after.selectById id = some row ∧
      ∀ name value, t.assigned sql values name = some value → row name = value := by
  have insertedId : t.insertedRow sql now values "id" = .text id := by
    simp [Table.insertedRow, hid]
  simp only [Table.upsert, insertedId] at h
  split at h
  · cases h
  split at h
  · cases h
  split at h
  · cases h
  split at h
  · cases h
  split at h
  · rename_i existing found
    have own : existing "id" = .text id := by simpa [hasId] using List.find?_some found
    split at h
    · cases h
      refine ⟨t.updatedRow sql values existing, find?_replace found ?_, ?_⟩
      · simp [hasId, Table.updatedRow, own]
      · intro name value supplied
        by_cases primary : name = "id"
        · subst primary
          rw [hid] at supplied
          cases supplied
          simp [Table.updatedRow, own]
        · simp [Table.updatedRow, primary, supplied]
    · cases h
  · rename_i absent
    split at h
    · cases h
      refine ⟨t.insertedRow sql now values, ?_, ?_⟩
      · unfold Table.selectById
        rw [List.find?_append, absent]
        simp [hasId, insertedId]
      · intro name value supplied
        simp [Table.insertedRow, supplied]
    · cases h

def tombstoned (schema : TableSchema) (sql : SqlText) (version : Int64) (row : Row) : Row :=
  fun name =>
    if name = "deleted" then (schema.affinity name).apply sql (.integer 1)
    else if name = "version" then (schema.affinity name).apply sql (.integer version)
    else row name

theorem selectById_updateDeleted {t after : Table} {sql : SqlText} {id : String}
    {version : Int64} (h : t.updateDeleted sql id version = .ok after) :
    ("deleted" ∈ t.schema.columns.map SqlColumn.name ∧
      "version" ∈ t.schema.columns.map SqlColumn.name) ∧ after.schema = t.schema ∧
      after.selectById id = (t.selectById id).map (tombstoned t.schema sql version) := by
  unfold Table.updateDeleted at h
  split at h
  · cases h
  · rename_i named
    cases h
    refine ⟨by simpa using named, rfl, ?_⟩
    have kept : (hasId (.text id) ∘ fun row : Row =>
        if hasId (.text id) row then tombstoned t.schema sql version row else row) =
          hasId (.text id) := by
      funext row
      have sameId : tombstoned t.schema sql version row "id" = row "id" := rfl
      by_cases own : hasId (.text id) row = true
      · rw [Function.comp_apply, if_pos own]
        simp only [hasId, sameId]
      · rw [Function.comp_apply, if_neg own]
    change (t.rows.map (fun row => if hasId (.text id) row then
      tombstoned t.schema sql version row else row)).find? (hasId (.text id)) = _
    rw [List.find?_map, kept]
    unfold Table.selectById
    cases found : t.rows.find? (hasId (.text id)) with
    | none => rfl
    | some row => simp [List.find?_some found]

theorem upsert_schema {t after : Table} {sql : SqlText} {now : String} {names : List String}
    {values : String → Option SqlValue} (h : t.upsert sql now names values = .ok after) :
    after.schema = t.schema := by
  simp only [Table.upsert] at h
  repeat' split at h
  all_goals first | rfl | cases h <;> rfl

/-! Statements on one id leave the rows of all others. -/

private theorem find?_rewrite {matched other : Row → Bool} {f : Row → Row} {rows : List Row}
    (apart : ∀ row, matched row = true → other row = false)
    (stays : ∀ row ∈ rows, matched row = true → other (f row) = false) :
    (rows.map (fun row => if matched row then f row else row)).find? other = rows.find? other := by
  induction rows with
  | nil => rfl
  | cons row rest ih =>
    have tail := ih (fun row member => stays row (List.mem_cons_of_mem _ member))
    cases here : matched row with
    | true =>
      have moved := stays row List.mem_cons_self here
      simp [here, apart row here, moved, tail]
    | false => simp [List.find?_cons, here, tail]

private theorem hasId_apart {id other : String} (different : other ≠ id) (row : Row)
    (own : hasId (.text id) row = true) : hasId (.text other) row = false := by
  have same : row "id" = .text id := by simpa [hasId] using own
  simp [hasId, same, Ne.symm different]

theorem selectById_upsert_ne {t after : Table} {sql : SqlText} {now id other : String}
    {names : List String} {values : String → Option SqlValue}
    (h : t.upsert sql now names values = .ok after)
    (hid : t.assigned sql values "id" = some (.text id)) (different : other ≠ id) :
    after.selectById other = t.selectById other := by
  have insertedId : t.insertedRow sql now values "id" = .text id := by
    simp [Table.insertedRow, hid]
  simp only [Table.upsert, insertedId] at h
  split at h
  · cases h
  split at h
  · cases h
  split at h
  · cases h
  split at h
  · cases h
  split at h
  · rename_i existing found
    have own : hasId (.text id) existing = true := List.find?_some found
    have updatedOwn : hasId (.text id) (t.updatedRow sql values existing) = true := own
    split at h
    · cases h
      exact find?_rewrite (hasId_apart different)
        (fun _ _ _ => hasId_apart different _ updatedOwn)
    · cases h
  · split at h
    · cases h
      have insertedOwn : hasId (.text id) (t.insertedRow sql now values) = true := by
        simp [hasId, insertedId]
      unfold Table.selectById
      rw [List.find?_append]
      simp [hasId_apart different _ insertedOwn]
    · cases h

theorem selectById_updateDeleted_ne {t after : Table} {sql : SqlText} {id other : String}
    {version : Int64} (h : t.updateDeleted sql id version = .ok after) (different : other ≠ id) :
    after.selectById other = t.selectById other := by
  unfold Table.updateDeleted at h
  split at h
  · cases h
  · cases h
    exact find?_rewrite (hasId_apart different) (fun row _ own => hasId_apart different _ own)

theorem upsert_notNull {t after : Table} {sql : SqlText} {now : String} {names : List String}
    {values : String → Option SqlValue} (h : t.upsert sql now names values = .ok after)
    {column : SqlColumn} (member : column ∈ t.schema.columns) (required : column.notNull = true) :
    t.insertedRow sql now values column.name ≠ .null := by
  simp only [Table.upsert] at h
  split at h
  · cases h
  split at h
  · cases h
  split at h
  · cases h
  split at h
  · cases h
  rename_i holds
  simp only [TableSchema.notNullHolds, Bool.not_eq_true', Bool.not_eq_false, List.all_eq_true]
    at holds
  simpa [required] using holds column member

end Polykit.Sqlite.Storage
