/- Module: Polykit/Sqlite/UpsertStorage
   generality: I
   source: crates/polybase-sqlite/src/store.rs
   digest: The two views of the mirror's upsert leave the same rows. -/

import Polykit.Sqlite.Upsert

set_option autoImplicit false
set_option relaxedAutoImplicit false

namespace Polykit.Sqlite.Upsert

open Errors Json Lib.Fallible Lib.Sql Storage

/-! `Storage` takes an upsert as a change to typed columns, `Upsert` reads the text of the
statement. A table that both can describe comes out of both the same. -/

def defaultOf (now : String) : SqlDefault → SqlValue
  | .none => .null
  | .value v => v
  | .now => .text now

/-- A table with no constraint beside its primary key, and with lowercase names. -/
structure Unconstrained (sql : SqlText) (t : Table) : Prop where
  nullable : ∀ column ∈ t.schema.columns, column.notNull = false
  free : t.schema.unique = []
  lower : ∀ column ∈ t.schema.columns, folded column.name = column.name
  distinct : (t.schema.columns.map SqlColumn.name).Nodup
  ids : UniqueIds t.rows
  filled : ∀ (affinity : Affinity) value, affinity.apply sql value = .null → value = .null

section Shared

variable {sql : SqlText} {t : Table} (h : Unconstrained sql t) (now : String)

def Unconstrained.column (column : SqlColumn) : MirrorColumn where
  name := column.name
  store value := some (column.affinity.apply sql value)
  default := defaultOf now column.default
  filled value same := h.filled column.affinity value (Option.some.inj same)

def Unconstrained.mirror : MirrorTable where
  columns := t.schema.columns.map (h.column now)
  rows := t.rows
  distinct := by
    have names : (t.schema.columns.map (h.column now)).map (fun column => folded column.name) =
        t.schema.columns.map SqlColumn.name := by
      rw [List.map_map]
      exact List.map_congr_left h.lower
    rw [names]
    exact h.distinct
  unique := h.ids

theorem Unconstrained.column_mirror (key : String) : (h.mirror now).column key =
    (t.schema.columns.find? (fun column => column.name == key)).map (h.column now) := by
  unfold MirrorTable.column Unconstrained.mirror
  rw [List.find?_map]
  congr 1
  have same : ∀ columns : List SqlColumn, (∀ column ∈ columns, folded column.name = column.name) →
      columns.find? ((fun column => folded column.name == key) ∘ h.column now) =
        columns.find? (fun column => column.name == key) := by
    intro columns lower
    induction columns with
    | nil => rfl
    | cons column rest ih =>
      have here : folded (h.column now column).name = column.name := lower column List.mem_cons_self
      rw [List.find?_cons, List.find?_cons, Function.comp_apply, here,
        ih (fun other member => lower other (List.mem_cons_of_mem _ member))]
  exact same _ h.lower

variable {names : List String} {values : String → Option SqlValue}

/-- The values of a statement on such a table: one for each name, and all in lowercase. -/
structure Supplies (names : List String) (values : String → Option SqlValue) : Prop where
  plain : ∀ name ∈ names, isName name = true
  lower : ∀ name ∈ names, folded name = name
  given : ∀ name, name ∈ names ↔ (values name).isSome = true

def suppliedValue (values : String → Option SqlValue) (name : String) : SqlValue :=
  (values name).getD .null

def storedValue (t : Table) (sql : SqlText) (values : String → Option SqlValue) (name : String) :
    SqlValue :=
  (t.schema.affinity name).apply sql (suppliedValue values name)

variable (supplies : Supplies names values)

include supplies in
theorem assigned_of_mem {name : String} (member : name ∈ names) :
    t.assigned sql values name = some (storedValue t sql values name) := by
  obtain ⟨value, found⟩ := Option.isSome_iff_exists.mp ((supplies.given name).mp member)
  simp [Table.assigned, storedValue, suppliedValue, found]

include supplies in
theorem assigned_of_not_mem {name : String} (absent : name ∉ names) :
    t.assigned sql values name = none := by
  have none : values name = none := by
    by_contra present
    exact absent ((supplies.given name).mpr (Option.isSome_iff_ne_none.mpr present))
  simp [Table.assigned, none]

include supplies in
theorem Unconstrained.stores
    (known : ∀ name ∈ names, name ∈ t.schema.columns.map SqlColumn.name) :
    Stores (h.mirror now) names (suppliedValue values) (storedValue t sql values) := by
  refine ⟨fun name member => ?_, fun a first b second same => ?_⟩
  · obtain ⟨listed, among, rfl⟩ := List.mem_map.mp (known name member)
    obtain ⟨column, found⟩ := Lib.Keyed.exists_find SqlColumn.name among
    refine ⟨h.column now column, ?_, ?_⟩
    · rw [h.column_mirror, supplies.lower listed.name member, found]
      rfl
    · simp [Unconstrained.column, storedValue, TableSchema.affinity, found]
  · rw [supplies.lower a first, supplies.lower b second] at same
    rw [same]

include supplies in
theorem Unconstrained.inserted_eq {inserted : Row}
    (fresh : Fresh (h.mirror now) names (storedValue t sql values) inserted) :
    inserted = t.insertedRow sql now values := by
  funext key
  by_cases member : key ∈ names
  · have given := fresh.given key member
    rw [supplies.lower key member] at given
    rw [given, Table.insertedRow, assigned_of_mem supplies member]
  · rw [fresh.left key (fun name among same => member (by
      rw [supplies.lower name among] at same
      exact same ▸ among)), h.column_mirror, Table.insertedRow, assigned_of_not_mem supplies member]
    cases t.schema.columns.find? (fun column => column.name == key) with
    | none => rfl
    | some column =>
      obtain ⟨_, _, _, preset⟩ := column
      cases preset <;> rfl

include supplies in
theorem Unconstrained.updated_eq {table : TableName} {inserted existing : Row}
    (fresh : Fresh (h.mirror now) names (storedValue t sql values) inserted)
    (same : inserted "id" = existing "id") :
    updatedRow (upsertOf table names).assignments inserted existing =
      t.updatedRow sql values existing := by
  funext key
  by_cases primary : key = "id"
  · subst primary
    rw [updatedRow_id same, Table.updatedRow, if_pos rfl]
  · rw [Table.updatedRow, if_neg primary]
    by_cases member : key ∈ names
    · have copied : updatedRow (upsertOf table names).assignments inserted existing (folded key) =
          inserted (folded key) := updatedRow_assigned inserted existing member primary
      rw [fresh.given key member, supplies.lower key member] at copied
      rw [copied, assigned_of_mem supplies member, Option.getD_some]
    · rw [assigned_of_not_mem supplies member, Option.getD_none]
      refine updatedRow_kept inserted existing (fun name among _ spelled => member ?_)
      rw [supplies.lower name among] at spelled
      exact spelled ▸ among

theorem known_of_run {t after : MirrorTable} {table : TableName} {bound : String → SqlValue}
    (ran : t.run (upsertOf table names) (names.map bound) = .ok after) :
    ∀ name ∈ names, (t.column (folded name)).isSome = true := by
  unfold MirrorTable.run at ran
  split at ran
  · cases ran
  split at ran
  · cases ran
  split at ran
  · cases ran
  obtain ⟨supplied, stored, _⟩ := bind_eq_ok.mp ran
  intro name member
  have entry : (name, bound name) ∈ (upsertOf table names).columns.zip (names.map bound) := by
    rw [show (upsertOf table names).columns = names from rfl, zip_map_self]
    exact List.mem_map_of_mem (f := fun a => (a, bound a)) member
  obtain ⟨result, one⟩ := exists_of_mapM_eq_ok stored _ entry
  unfold MirrorTable.storeOne at one
  split at one
  · cases one
  · rename_i column found
    simp [found]

/-- The rows that both leave, where they find all their columns. -/
def upsertedRows (t : Table) (sql : SqlText) (now : String) (values : String → Option SqlValue) :
    List Row :=
  match t.rows.find? (hasId (storedValue t sql values "id")) with
  | some existing => t.rows.map (fun row =>
      if hasId (storedValue t sql values "id") row then t.updatedRow sql values existing else row)
  | none => t.rows ++ [t.insertedRow sql now values]

section Known

variable (keyed : "id" ∈ names)
  (known : ∀ name ∈ names, name ∈ t.schema.columns.map SqlColumn.name)

include h supplies keyed known

theorem Unconstrained.upsert_rows (wide : ¬ names.filter (fun c => c != "id") = []) :
    (t.upsert sql now names values).toOption.map Table.rows =
      some (upsertedRows t sql now values) := by
  have read : (!names.all isName) = false := by
    rw [Bool.not_eq_false', List.all_eq_true]
    exact supplies.plain
  have others : ¬ names.all (· == "id") = true := fun all =>
    wide (by simpa [List.filter_eq_nil_iff] using all)
  have found : (!names.all fun name =>
      (t.schema.columns.map SqlColumn.name).contains name) = false := by
    rw [Bool.not_eq_false', List.all_eq_true]
    exact fun name among => List.contains_iff_mem.mpr (known name among)
  have required : (!t.schema.notNullHolds (t.insertedRow sql now values)) = false := by
    rw [Bool.not_eq_false', TableSchema.notNullHolds, List.all_eq_true]
    intro column member
    simp [h.nullable column member]
  have unconstrained : ∀ (row : Row) (others : List Row),
      t.schema.uniqueHolds row others = true := by
    intro row others
    simp [TableSchema.uniqueHolds, h.free]
  have own : t.insertedRow sql now values "id" = storedValue t sql values "id" := by
    rw [Table.insertedRow, assigned_of_mem supplies keyed]
  unfold Table.upsert
  rw [read, if_neg Bool.false_ne_true, if_neg others, found, if_neg Bool.false_ne_true]
  dsimp only
  rw [required, if_neg Bool.false_ne_true, own, upsertedRows]
  cases t.rows.find? (hasId (storedValue t sql values "id")) with
  | none =>
    simp only [unconstrained, if_true]
    rfl
  | some existing =>
    simp only [unconstrained, if_true]
    rfl

theorem Unconstrained.run_rows {table : TableName} (called : table.isExcluded = false)
    (filled : storedValue t sql values "id" ≠ .null) :
    ((h.mirror now).run (upsertOf table names) (names.map (suppliedValue values))).toOption.map
      MirrorTable.rows = some (upsertedRows t sql now values) := by
  obtain ⟨inserted, fresh, ran⟩ := run_upsertOf table (h.stores now supplies known)
  have own : inserted "id" = storedValue t sql values "id" :=
    folded_id ▸ fresh.given "id" keyed
  rw [ran, upsertedRows]
  cases before : t.rows.find? (hasId (storedValue t sql values "id")) with
  | none =>
    obtain ⟨after, ok, -, rows⟩ := place_absent table names filled own
      (show (h.mirror now).rows.find? _ = none from before)
    rw [ok, ← h.inserted_eq now supplies fresh]
    exact congrArg some rows
  | some existing =>
    obtain ⟨after, ok, -, rows, -⟩ := place_found table names filled own
      (show (h.mirror now).rows.find? _ = some existing from before)
    rw [ok]
    refine congrArg some (rows.trans (List.map_congr_left (fun other member => ?_)))
    by_cases matched : hasId (storedValue t sql values "id") other = true
    · have only : other ∈ [existing] := by
        have among : other ∈ t.rows.filter (hasId (storedValue t sql values "id")) :=
          List.mem_filter.mpr ⟨member, matched⟩
        rwa [filter_hasId h.ids filled, before] at among
      have existingId := (hasId_iff filled existing).mp (List.find?_some before)
      rw [List.mem_singleton.mp only] at matched ⊢
      rw [if_pos matched, if_pos matched, called, if_neg Bool.false_ne_true]
      exact h.updated_eq now supplies fresh (own.trans existingId.symm)
    · rw [if_neg matched, if_neg matched]

end Known

include supplies in
/-- Without one of its columns neither goes through. -/
theorem Unconstrained.refused {table : TableName}
    (unknown : ¬ ∀ name ∈ names, name ∈ t.schema.columns.map SqlColumn.name) :
    (t.upsert sql now names values).toOption = none ∧
      ((h.mirror now).run (upsertOf table names) (names.map (suppliedValue values))).toOption =
        none := by
  constructor
  · have missing : (!names.all fun name =>
        (t.schema.columns.map SqlColumn.name).contains name) = true := by
      rw [Bool.not_eq_true', ← Bool.not_eq_true, List.all_eq_true]
      exact fun all => unknown (fun name among => List.contains_iff_mem.mp (all name among))
    unfold Table.upsert
    rw [if_pos missing]
    split
    · rfl
    · split <;> rfl
  · cases ran : (h.mirror now).run (upsertOf table names) (names.map (suppliedValue values)) with
    | error e => rfl
    | ok after =>
      refine absurd (fun name among => ?_) unknown
      have column := known_of_run ran name among
      rw [h.column_mirror, supplies.lower name among, Option.isSome_map] at column
      obtain ⟨found, there⟩ := Option.isSome_iff_exists.mp column
      have named : found.name = name := by simpa using List.find?_some there
      exact List.mem_map.mpr ⟨found, List.mem_of_find?_eq_some there, named⟩

include supplies in
/-- On such a table the upsert of `Storage` leaves the rows that the statement's text leaves, and
is refused where that is. -/
theorem Unconstrained.upsert_eq {table : TableName} (plain : table.isPlain = true)
    (called : table.isExcluded = false) (keyed : "id" ∈ names)
    (filled : storedValue t sql values "id" ≠ .null) :
    (t.upsert sql now names values).toOption.map Table.rows =
      ((parse (upsertSql table.text names)).bind (fun s =>
        ((h.mirror now).run s (names.map (suppliedValue values))).toOption)).map
          MirrorTable.rows := by
  rw [parse_upsertSql plain supplies.plain (List.ne_nil_of_mem keyed)]
  by_cases narrow : names.filter (fun c => c != "id") = []
  · have all : names.all (· == "id") = true := by simpa [List.filter_eq_nil_iff] using narrow
    rw [if_pos narrow, Table.upsert, if_pos all]
    split <;> rfl
  rw [if_neg narrow, Option.bind_some]
  by_cases known : ∀ name ∈ names, name ∈ t.schema.columns.map SqlColumn.name
  · rw [h.upsert_rows now supplies keyed known narrow,
      h.run_rows now supplies keyed known called filled]
  · obtain ⟨left, right⟩ := @Unconstrained.refused sql t h now names values supplies table known
    rw [left, right]
    rfl

end Shared

end Polykit.Sqlite.Upsert
