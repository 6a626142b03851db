/- Module: Polykit/Registry/Snapshot
   generality: I
   source: crates/polybase/src/registry/schema.rs, crates/polybase/src/registry/mod.rs
   digest: Schema snapshots, their validation, and when a registry passes its own snapshot. -/

import Polykit.Registry.Indexes

set_option autoImplicit false
set_option relaxedAutoImplicit false

namespace Polykit.Registry.Snapshot

open Entity Lib.Keyed Lib.Text Registry.Indexes

structure ColumnShape where
  name : String
  dataType : String
  deriving DecidableEq

structure TableShape where
  columns : List ColumnShape
  deriving DecidableEq

/-- The map of the columns by name: a later column of a name replaces an earlier one. -/
def TableShape.columnMap (shape : TableShape) (name : String) : Option String :=
  (shape.columns.reverse.find? (fun column => column.name == name)).map ColumnShape.dataType

structure SchemaSnapshot where
  tables : Std.ExtTreeMap String TableShape compare

/-- The aliases of a type under one name, any other type trimmed and in lower case. -/
def normalizeType (value : String) : String :=
  let lower := toAsciiLowercase (trim value)
  if lower ∈ ["int", "integer", "int8", "bigint"] then "integer"
  else if lower ∈ ["real", "float", "double", "double precision"] then "real"
  else if lower ∈ ["bool", "boolean"] then "boolean"
  else if lower ∈ ["text", "varchar", "character varying", "string"] then "string"
  else lower

inductive SchemaLocation
  | local | remote
  deriving DecidableEq

def userIdShape (config : EntityConfig) : Option String :=
  if config.includeUserId then config.userIdColumn else none

def remoteShape (config : EntityConfig) : TableShape where
  columns := config.columns.filterMap (fun column => column.remoteName.map (fun name =>
      ⟨name, column.remoteType.getD "unknown"⟩)) ++
    (userIdShape config).toList.map (fun column => ⟨column, "string"⟩)

/-- The values of the table index. The source's order of them is that of a hash map. -/
def configs (registry : Registry) : List EntityConfig := registry.byTable.toList.map Prod.snd

def buildRemoteSnapshotFromRegistry (registry : Registry) : SchemaSnapshot where
  tables := .ofList (((configs registry).filter EntityConfig.isSynced).map (fun config =>
    (config.tableName, remoteShape config)))

def isChecked (location : SchemaLocation) (config : EntityConfig) : Bool :=
  match location with
  | .local => true
  | .remote => config.isSynced

def expectedColumns (location : SchemaLocation) (config : EntityConfig) : List (String × String) :=
  match location with
  | .local => config.columns.map (fun column => (column.localName, column.sqlType))
  | .remote => config.columns.filterMap (fun column => column.remoteName.map (fun name =>
        (name, column.remoteType.getD "unknown"))) ++
      (userIdShape config).toList.map (fun column => (column, "string"))

def columnIssue (config : EntityConfig) (actual : TableShape) (expected : String × String) :
    Option String :=
  match actual.columnMap expected.1 with
  | none => some ("table '" ++ config.tableName ++ "' missing column: " ++ expected.1)
  | some actualType =>
      if normalizeType expected.2 ≠ normalizeType actualType then
        some ("table '" ++ config.tableName ++ "' column '" ++ expected.1 ++
          "' type mismatch: expected " ++ expected.2 ++ ", found " ++ actualType)
      else none

def tableIssues (snapshot : SchemaSnapshot) (location : SchemaLocation) (config : EntityConfig) :
    List String :=
  match snapshot.tables[config.tableName]? with
  | none => ["missing table: " ++ config.tableName]
  | some actual => (expectedColumns location config).filterMap (columnIssue config actual)

def validateSchema (registry : Registry) (snapshot : SchemaSnapshot)
    (location : SchemaLocation) : List String :=
  ((configs registry).filter (isChecked location)).flatMap (tableIssues snapshot location)

def validateLocalSchemaSnapshot (registry : Registry) (snapshot : SchemaSnapshot) : List String :=
  validateSchema registry snapshot .local

def validateRemoteSchemaSnapshot (registry : Registry) (snapshot : SchemaSnapshot) : List String :=
  validateSchema registry snapshot .remote

/-! What a clean validation says, against any snapshot. -/

def Matches (actual : TableShape) (expected : List (String × String)) : Prop :=
  ∀ column ∈ expected, ∃ found, actual.columnMap column.1 = some found ∧
    normalizeType column.2 = normalizeType found

theorem columnIssue_eq_none_iff {config : EntityConfig} {actual : TableShape}
    {expected : String × String} : columnIssue config actual expected = none ↔
      ∃ found, actual.columnMap expected.1 = some found ∧
        normalizeType expected.2 = normalizeType found := by
  unfold columnIssue
  cases actual.columnMap expected.1 <;> simp

theorem tableIssues_eq_nil_iff {snapshot : SchemaSnapshot} {location : SchemaLocation}
    {config : EntityConfig} : tableIssues snapshot location config = [] ↔
      ∃ actual, snapshot.tables[config.tableName]? = some actual ∧
        Matches actual (expectedColumns location config) := by
  unfold tableIssues
  cases snapshot.tables[config.tableName]? with
  | none => simp
  | some actual => simp [Matches, List.filterMap_eq_nil_iff, columnIssue_eq_none_iff]

theorem mem_configs {registry : Registry} {config : EntityConfig} :
    config ∈ configs registry ↔ ∃ table, registry.configForTable table = some config := by
  simp [configs, Registry.configForTable]

theorem validateSchema_eq_nil_iff {registry : Registry} {snapshot : SchemaSnapshot}
    {location : SchemaLocation} : validateSchema registry snapshot location = [] ↔
      ∀ config ∈ configs registry, isChecked location config = true →
        ∃ actual, snapshot.tables[config.tableName]? = some actual ∧
          Matches actual (expectedColumns location config) := by
  simp only [validateSchema, List.flatMap_eq_nil_iff, List.mem_filter, and_imp,
    tableIssues_eq_nil_iff]

/-! A registry against its own snapshot. -/

section

variable {registrations : List EntityConfig} {config : EntityConfig}

theorem configs_distinct (registrations : List EntityConfig) :
    (configs (registerAll registrations)).Pairwise (fun a b => a.tableName ≠ b.tableName) := by
  have named : ∀ entry ∈ (registerAll registrations).byTable.toList,
      entry.2.tableName = entry.1 := by
    rintro ⟨table, config⟩ member
    have left : (registerAll registrations).configForTable table = some config :=
      Std.ExtTreeMap.mem_toList_iff_getElem?_eq_some.mp member
    exact (mem_of_configForTable left).2.2
  unfold configs
  rw [List.pairwise_map]
  refine Std.ExtTreeMap.distinct_keys_toList.imp_of_mem (fun {a b} first second keys same => ?_)
  rw [named a first, named b second] at same
  exact keys (by simp [same])

theorem getElem?_buildRemoteSnapshot (member : config ∈ configs (registerAll registrations))
    (synced : config.isSynced = true) :
    (buildRemoteSnapshotFromRegistry (registerAll registrations)).tables[config.tableName]? =
      some (remoteShape config) := by
  refine Std.ExtTreeMap.getElem?_ofList_of_mem (k := config.tableName) (by simp) ?_ ?_
  · rw [List.pairwise_map]
    refine ((configs_distinct registrations).filter _).imp (fun {a b} differ same => ?_)
    exact differ (by simpa using same)
  · exact List.mem_map.mpr ⟨config, List.mem_filter.mpr ⟨member, synced⟩, rfl⟩

theorem remoteShape_columns (config : EntityConfig) :
    (remoteShape config).columns.map (fun column => (column.name, column.dataType)) =
      expectedColumns .remote config := by
  simp only [remoteShape, expectedColumns, List.map_append, List.map_map, List.map_filterMap,
    Option.map_map]
  rfl

end

theorem matches_self_iff (shape : TableShape) :
    Matches shape (shape.columns.map (fun column => (column.name, column.dataType))) ↔
      ∀ a ∈ shape.columns, ∀ b ∈ shape.columns, a.name = b.name →
        normalizeType a.dataType = normalizeType b.dataType := by
  have last : ∀ a ∈ shape.columns, ∃ b ∈ shape.columns, b.name = a.name ∧
      shape.columnMap a.name = some b.dataType := by
    intro a member
    obtain ⟨b, found⟩ := exists_find ColumnShape.name (List.mem_reverse.mpr member)
    obtain ⟨among, same⟩ := mem_of_find found
    refine ⟨b, List.mem_reverse.mp among, same, ?_⟩
    rw [TableShape.columnMap, found, Option.map_some]
  constructor
  · intro matched a first b second same
    have typeOf : ∀ column ∈ shape.columns, ∃ found,
        shape.columnMap column.name = some found ∧
          normalizeType column.dataType = normalizeType found :=
      fun column member => matched _ (List.mem_map.mpr ⟨column, member, rfl⟩)
    obtain ⟨foundA, mapA, typeA⟩ := typeOf a first
    obtain ⟨foundB, mapB, typeB⟩ := typeOf b second
    rw [same, mapB] at mapA
    rw [typeA, typeB, Option.some.inj mapA]
  · intro alike expected member
    obtain ⟨a, first, rfl⟩ := List.mem_map.mp member
    obtain ⟨b, second, same, found⟩ := last a first
    exact ⟨b.dataType, found, alike a first b second same.symm⟩

def remoteTypeOf (column : ColumnDef) : String := column.remoteType.getD "unknown"

/-- Columns of one remote name have one type, a text for the name of the user id's column. -/
structure OneType (config : EntityConfig) : Prop where
  columns : ∀ a ∈ config.columns, ∀ b ∈ config.columns, ∀ name, a.remoteName = some name →
    b.remoteName = some name → normalizeType (remoteTypeOf a) = normalizeType (remoteTypeOf b)
  userId : ∀ a ∈ config.columns, ∀ name, a.remoteName = some name → config.includeUserId = true →
    config.userIdColumn = some name → normalizeType (remoteTypeOf a) = "string"

theorem mem_remoteShape {config : EntityConfig} {shape : ColumnShape} :
    shape ∈ (remoteShape config).columns ↔
      (∃ column ∈ config.columns, column.remoteName = some shape.name ∧
        remoteTypeOf column = shape.dataType) ∨
      (config.includeUserId = true ∧ config.userIdColumn = some shape.name ∧
        shape.dataType = "string") := by
  obtain ⟨name, dataType⟩ := shape
  simp only [remoteShape, List.mem_append, List.mem_filterMap, List.mem_map, Option.mem_toList,
    Option.map_eq_some_iff, ColumnShape.mk.injEq]
  refine or_congr ⟨?_, ?_⟩ ⟨?_, ?_⟩
  · rintro ⟨column, member, _, named, rfl, same⟩
    exact ⟨column, member, named, same⟩
  · rintro ⟨column, member, named, same⟩
    exact ⟨column, member, name, named, rfl, same⟩
  · rintro ⟨column, holds, rfl, same⟩
    obtain ⟨included, named⟩ : config.includeUserId = true ∧ config.userIdColumn = some column := by
      simpa [userIdShape] using holds
    exact ⟨included, named, same.symm⟩
  · rintro ⟨included, named, same⟩
    exact ⟨name, by simp [userIdShape, included, named], rfl, same.symm⟩

theorem normalizeType_string : normalizeType "string" = "string" := by decide

theorem oneType_iff (config : EntityConfig) : OneType config ↔
    ∀ a ∈ (remoteShape config).columns, ∀ b ∈ (remoteShape config).columns, a.name = b.name →
      normalizeType a.dataType = normalizeType b.dataType := by
  simp only [mem_remoteShape]
  constructor
  · rintro ⟨columns, userId⟩ ⟨name, typeA⟩ first ⟨_, typeB⟩ second rfl
    rcases first with ⟨a, memberA, namedA, rfl⟩ | ⟨included, named, rfl⟩ <;>
      rcases second with ⟨b, memberB, namedB, rfl⟩ | ⟨_, other, rfl⟩
    · exact columns a memberA b memberB name namedA namedB
    · exact (userId a memberA name namedA ‹_› other).trans normalizeType_string.symm
    · exact normalizeType_string.trans (userId b memberB name namedB included named).symm
    · rfl
  · intro alike
    refine ⟨fun a memberA b memberB name namedA namedB => ?_,
      fun a memberA name named included userId => ?_⟩
    · exact alike ⟨name, remoteTypeOf a⟩ (.inl ⟨a, memberA, namedA, rfl⟩)
        ⟨name, remoteTypeOf b⟩ (.inl ⟨b, memberB, namedB, rfl⟩) rfl
    · exact (alike ⟨name, remoteTypeOf a⟩ (.inl ⟨a, memberA, named, rfl⟩)
        ⟨name, "string"⟩ (.inr ⟨included, userId, rfl⟩) rfl).trans normalizeType_string

/-- A registry passes its own snapshot exactly when the config that each synced table is left with
has one type for each remote name. -/
theorem validateRemoteSchemaSnapshot_self_iff (registrations : List EntityConfig) :
    validateRemoteSchemaSnapshot (registerAll registrations)
        (buildRemoteSnapshotFromRegistry (registerAll registrations)) = [] ↔
      ∀ table config, registrations.reverse.find? (isFor table) = some config →
        config.isSynced = true → OneType config := by
  have own : ∀ config ∈ configs (registerAll registrations), config.isSynced = true →
      ((∃ actual, (buildRemoteSnapshotFromRegistry (registerAll registrations)).tables[
          config.tableName]? = some actual ∧ Matches actual (expectedColumns .remote config)) ↔
        OneType config) := by
    intro config member synced
    simp only [getElem?_buildRemoteSnapshot member synced, Option.some.injEq, exists_eq_left']
    rw [← remoteShape_columns, matches_self_iff, oneType_iff]
  unfold validateRemoteSchemaSnapshot
  rw [validateSchema_eq_nil_iff]
  simp only [← configForTable_registerAll]
  constructor
  · intro clean table config left synced
    have member : config ∈ configs (registerAll registrations) := mem_configs.mpr ⟨table, left⟩
    exact (own config member synced).mp (clean config member synced)
  · intro alike config member synced
    obtain ⟨table, left⟩ := mem_configs.mp member
    exact (own config member synced).mpr (alike table config left synced)

/-- An entity that lists the column of its user's id, under the type it has on the server. -/
def listsUserId : EntityConfig :=
  { EntityConfig.synced "notes" "Note" with
    columns := [.synced "user_id" "user_id" "user_id" "TEXT" "uuid" false] }

theorem listsUserId_drifts :
    validateRemoteSchemaSnapshot (registerAll [listsUserId])
        (buildRemoteSnapshotFromRegistry (registerAll [listsUserId])) =
      ["table 'notes' column 'user_id' type mismatch: expected uuid, found string"] := by
  decide

end Polykit.Registry.Snapshot
