/- Module: Polykit/Registry/Entity
   generality: I
   source: crates/polybase/src/registry/mod.rs
   digest: Registered entities, their column maps, and the preparation of a remote payload. -/

import Polykit.Json
import Polykit.Crypto.Encryption

set_option autoImplicit false
set_option relaxedAutoImplicit false

namespace Polykit.Entity

open Contract Crypto Errors Json Lib.Text Lib.Fallible

inductive TableScope
  | synced | localOnly
  deriving DecidableEq

inductive WritePath
  | postgREST
  | edge (function defaultOp : String)
  deriving DecidableEq

/-- A column without a remote name is local only. -/
structure ColumnDef where
  canonicalName : String
  localName : String
  remoteName : Option String
  sqlType : String
  remoteType : Option String
  encrypted : Bool
  deriving DecidableEq

def ColumnDef.synced (canonicalName localName remoteName sqlType remoteType : String)
    (encrypted : Bool) : ColumnDef :=
  ⟨canonicalName, localName, some remoteName, sqlType, some remoteType, encrypted⟩

def ColumnDef.localOnly (name sqlType : String) : ColumnDef :=
  ⟨name, name, none, sqlType, none, false⟩

def ColumnDef.effectiveRemoteName (column : ColumnDef) : String :=
  column.remoteName.getD column.canonicalName

structure EntityConfig where
  tableName : String
  entityTypeName : Option String
  columns : List ColumnDef
  userIdColumn : Option String
  includeUserId : Bool
  scope : TableScope
  writePath : WritePath
  conflictTarget : String
  deriving DecidableEq

def EntityConfig.synced (table entityType : String) : EntityConfig where
  tableName := table
  entityTypeName := some entityType
  columns := []
  userIdColumn := some "user_id"
  includeUserId := true
  scope := .synced
  writePath := .postgREST
  conflictTarget := "id"

def EntityConfig.localOnly (table : String) : EntityConfig where
  tableName := table
  entityTypeName := none
  columns := []
  userIdColumn := none
  includeUserId := false
  scope := .localOnly
  writePath := .postgREST
  conflictTarget := "id"

def EntityConfig.isSynced (config : EntityConfig) : Bool := config.scope == .synced

/-- One reading of the wall clock in the two forms the columns store. -/
structure UtcNow where
  rfc3339 : String
  timestampMillis : Int64
  deriving DecidableEq

/-- Integer columns take epoch milliseconds, all others an RFC 3339 text. -/
def EntityConfig.tombstoneUpdatedAtValue (config : EntityConfig) (now : UtcNow) : Value :=
  match config.columns.find? (fun column => column.canonicalName == "updated_at") with
  | none => .string now.rfc3339
  | some column =>
      if toAsciiUppercase column.sqlType ∈ ["INTEGER", "BIGINT", "INT", "INT64"] then
        .number (Number.ofInt64 now.timestampMillis)
      else .string now.rfc3339

def mapColumn (remote : Map) (mirror : Map) (column : ColumnDef) : Map :=
  match column.remoteName with
  | none => mirror
  | some remoteName =>
      match remote[remoteName]? with
      | some value => mirror.insert column.localName value
      | none => mirror

/-- The record under local column names, without the fields no column registers. -/
def EntityConfig.mapRemoteToLocal (config : EntityConfig) (remote : Map) : Map :=
  config.columns.foldl (mapColumn remote) ∅

variable {p : Primitives}

/-- One turn of the encryption loop. The count says how many nonces were drawn so far. -/
def EntityConfig.encryptColumn (config : EntityConfig) (enc : Encryption p) (user : p.Uuid)
    (nonces : Nat → Nonce) (state : Map × Nat) (column : ColumnDef) :
    Except RegistryError (Map × Nat) :=
  if !column.encrypted then .ok state
  else
    match state.1[column.effectiveRemoteName]? with
    | some (.string current) =>
        if isEncrypted current then .ok state
        else do
          let encrypted ← (enc.encrypt current user (nonces state.2)).mapError
            (fun _ => RegistryError.encryptionFailed config.tableName column.canonicalName)
          return (state.1.insert column.effectiveRemoteName (.string encrypted), state.2 + 1)
    | _ => .ok state

def EntityConfig.injectUserId (config : EntityConfig) (userId : String) (record : Map) : Map :=
  match config.includeUserId, config.userIdColumn with
  | true, some column => record.insert column (.string userId)
  | _, _ => record

/-- The payload with its encrypted columns encrypted, or as it is without an encryptor. -/
def EntityConfig.encryptColumns (config : EntityConfig) (encryption : Option (Encryption p))
    (nonces : Nat → Nonce) (userId : String) (payload : Map) : Except RegistryError Map :=
  match encryption with
  | some enc =>
      (config.columns.foldlM (config.encryptColumn enc (keyUserUuid p userId) nonces)
        (payload, 0)).map Prod.fst
  | none => .ok payload

def EntityConfig.serializeForRemote (config : EntityConfig) (encryption : Option (Encryption p))
    (nonces : Nat → Nonce) (userId : String) (payload : Map) : Except RegistryError Map :=
  (config.encryptColumns encryption nonces userId payload).map (config.injectUserId userId)

/-- The registry's maps: configs by type and by table, and the type of each synced table. -/
structure Registry where
  byType : Std.ExtTreeMap String EntityConfig compare := ∅
  byTable : Std.ExtTreeMap String EntityConfig compare := ∅
  tableToType : Std.ExtTreeMap String String compare := ∅

/-- `none` is the panic on a synced entity that has no type name. -/
def Registry.register (registry : Registry) (config : EntityConfig) : Option Registry :=
  if config.isSynced then
    config.entityTypeName.map (fun entityType =>
      { byType := registry.byType.insert entityType config
        byTable := registry.byTable.insert config.tableName config
        tableToType := registry.tableToType.insert config.tableName entityType })
  else some { registry with byTable := registry.byTable.insert config.tableName config }

def Registry.configForTable (registry : Registry) (table : String) : Option EntityConfig :=
  registry.byTable[table]?

def Registry.isRegisteredTable (registry : Registry) (table : String) : Bool :=
  registry.tableToType.contains table

theorem getElem?_injectUserId {config : EntityConfig} {userId key : String} {record : Map}
    (other : config.includeUserId = true → config.userIdColumn ≠ some key) :
    (config.injectUserId userId record)[key]? = record[key]? := by
  unfold EntityConfig.injectUserId
  split
  · rename_i column included named
    have different : column ≠ key := fun h => other included (h ▸ named)
    simp [Std.ExtTreeMap.getElem?_insert, different]
  · rfl

theorem getElem?_mapColumn_ne {remote mirror : Map} {column : ColumnDef} {key : String}
    (other : column.localName ≠ key) : (mapColumn remote mirror column)[key]? = mirror[key]? := by
  unfold mapColumn
  split
  · rfl
  · split
    · simp [Std.ExtTreeMap.getElem?_insert, other]
    · rfl

theorem getElem?_foldl_mapColumn_ne {remote : Map} {columns : List ColumnDef} {mirror : Map}
    {key : String} (others : key ∉ columns.map ColumnDef.localName) :
    (columns.foldl (mapColumn remote) mirror)[key]? = mirror[key]? := by
  induction columns generalizing mirror with
  | nil => rfl
  | cons head tail ih =>
    simp only [List.map_cons, List.mem_cons, not_or] at others
    rw [List.foldl_cons, ih others.2, getElem?_mapColumn_ne (Ne.symm others.1)]

theorem getElem?_mapRemoteToLocal {config : EntityConfig} {remote : Map} {column : ColumnDef}
    (distinct : (config.columns.map ColumnDef.localName).Nodup) (member : column ∈ config.columns) :
    (config.mapRemoteToLocal remote)[column.localName]? =
      column.remoteName.bind (fun remoteName => remote[remoteName]?) := by
  have loop : ∀ (columns : List ColumnDef) (mirror : Map), column ∈ columns →
      (columns.map ColumnDef.localName).Nodup → mirror[column.localName]? = none →
        (columns.foldl (mapColumn remote) mirror)[column.localName]? =
          column.remoteName.bind (fun remoteName => remote[remoteName]?) := by
    intro columns
    induction columns with
    | nil => exact fun _ absent => absurd absent List.not_mem_nil
    | cons head tail ih =>
      intro mirror inside nodup fresh
      simp only [List.map_cons, List.nodup_cons] at nodup
      rw [List.foldl_cons]
      rcases List.mem_cons.mp inside with rfl | later
      · rw [getElem?_foldl_mapColumn_ne nodup.1]
        unfold mapColumn
        split
        · rename_i unnamed
          simpa [unnamed] using fresh
        · rename_i remoteName named
          cases found : remote[remoteName]? with
          | none => simpa [named, found] using fresh
          | some value => simp [named, found]
      · have different : head.localName ≠ column.localName :=
          fun same => nodup.1 (same ▸ List.mem_map_of_mem later)
        exact ih _ later nodup.2 (by rw [getElem?_mapColumn_ne different, fresh])
  exact loop config.columns ∅ member distinct (by simp)

theorem serializeForRemote_plain {config : EntityConfig}
    (plain : ∀ column ∈ config.columns, column.encrypted = false)
    (encryption : Option (Encryption p)) (nonces : Nat → Nonce) (userId : String) (payload : Map) :
    config.serializeForRemote encryption nonces userId payload =
      .ok (config.injectUserId userId payload) := by
  have loop : ∀ (enc : Encryption p) (user : p.Uuid) (columns : List ColumnDef)
      (state : Map × Nat), (∀ column ∈ columns, column.encrypted = false) →
        columns.foldlM (config.encryptColumn enc user nonces) state = .ok state := by
    intro enc user columns
    induction columns with
    | nil => exact fun _ _ => rfl
    | cons head tail ih =>
      intro state unmarked
      have skipped : config.encryptColumn enc user nonces state head = .ok state := by
        simp [EntityConfig.encryptColumn, unmarked head]
      rw [List.foldlM_cons, skipped, ok_bind]
      exact ih state (fun column member => unmarked column (List.mem_cons_of_mem _ member))
  unfold EntityConfig.serializeForRemote EntityConfig.encryptColumns
  split
  · rw [loop _ _ _ _ plain]
    rfl
  · rfl

/-! Preparation writes texts only, so a field that is no text was in the payload. -/

/-- A field after a step is what it was before, or a text. -/
def KeptOrText (before after : Option Value) : Prop :=
  after = before ∨ ∃ text, after = some (.string text)

theorem KeptOrText.trans {a b c : Option Value} (first : KeptOrText a b)
    (second : KeptOrText b c) : KeptOrText a c := by
  rcases second with rfl | text
  · exact first
  · exact .inr text

theorem keptOrText_insert (record : Map) (key column : String) (text : String) :
    KeptOrText record[key]? (record.insert column (.string text))[key]? := by
  by_cases same : column = key
  · subst same
    exact .inr ⟨text, by simp⟩
  · exact .inl (by simp [Std.ExtTreeMap.getElem?_insert, same])

theorem encryptColumn_keptOrText {config : EntityConfig} {enc : Encryption p} {user : p.Uuid}
    {nonces : Nat → Nonce} {state next : Map × Nat} {column : ColumnDef}
    (h : config.encryptColumn enc user nonces state column = .ok next) (key : String) :
    KeptOrText state.1[key]? next.1[key]? := by
  unfold EntityConfig.encryptColumn at h
  split at h
  · cases h
    exact .inl rfl
  · split at h
    · split at h
      · cases h
        exact .inl rfl
      · obtain ⟨cipher, _, h⟩ := bind_eq_ok.mp h
        cases h
        exact keptOrText_insert _ _ _ _
    · cases h
      exact .inl rfl

theorem encryptLoop_keptOrText {config : EntityConfig} {enc : Encryption p} {user : p.Uuid}
    {nonces : Nat → Nonce} {columns : List ColumnDef} {state final : Map × Nat}
    (h : columns.foldlM (config.encryptColumn enc user nonces) state = .ok final)
    (key : String) : KeptOrText state.1[key]? final.1[key]? := by
  induction columns generalizing state with
  | nil =>
    cases h
    exact .inl rfl
  | cons head tail ih =>
    obtain ⟨next, turn, rest⟩ := bind_eq_ok.mp h
    exact (encryptColumn_keptOrText turn key).trans (ih rest)

theorem serializeForRemote_keptOrText {config : EntityConfig}
    {encryption : Option (Encryption p)} {nonces : Nat → Nonce} {userId : String}
    {payload serialized : Map}
    (h : config.serializeForRemote encryption nonces userId payload = .ok serialized)
    (key : String) : KeptOrText payload[key]? serialized[key]? := by
  obtain ⟨columns, encrypted, rfl⟩ := map_eq_ok.mp h
  have injected : KeptOrText columns[key]? (config.injectUserId userId columns)[key]? := by
    unfold EntityConfig.injectUserId
    split
    · exact keptOrText_insert _ _ _ _
    · exact .inl rfl
  refine KeptOrText.trans ?_ injected
  unfold EntityConfig.encryptColumns at encrypted
  split at encrypted
  · obtain ⟨final, loop, rfl⟩ := map_eq_ok.mp encrypted
    exact encryptLoop_keptOrText loop key
  · cases encrypted
    exact .inl rfl

/-! Preparation adds the column of the user id and no other. -/

theorem encryptColumn_isSome {config : EntityConfig} {enc : Encryption p} {user : p.Uuid}
    {nonces : Nat → Nonce} {state next : Map × Nat} {column : ColumnDef}
    (h : config.encryptColumn enc user nonces state column = .ok next) (key : String) :
    (next.1[key]?).isSome = (state.1[key]?).isSome := by
  unfold EntityConfig.encryptColumn at h
  split at h
  · cases h
    rfl
  · split at h
    · rename_i current found
      split at h
      · cases h
        rfl
      · obtain ⟨cipher, _, h⟩ := bind_eq_ok.mp h
        cases h
        by_cases own : column.effectiveRemoteName = key
        · subst own
          simp [found]
        · simp [Std.ExtTreeMap.getElem?_insert, own]
    · cases h
      rfl

theorem encryptLoop_isSome {config : EntityConfig} {enc : Encryption p} {user : p.Uuid}
    {nonces : Nat → Nonce} {columns : List ColumnDef} {state final : Map × Nat}
    (h : columns.foldlM (config.encryptColumn enc user nonces) state = .ok final)
    (key : String) : (final.1[key]?).isSome = (state.1[key]?).isSome := by
  induction columns generalizing state with
  | nil =>
    cases h
    rfl
  | cons head tail ih =>
    obtain ⟨next, turn, rest⟩ := bind_eq_ok.mp h
    exact (ih rest).trans (encryptColumn_isSome turn key)

theorem serializeForRemote_isSome_iff {config : EntityConfig}
    {encryption : Option (Encryption p)} {nonces : Nat → Nonce} {userId : String}
    {payload serialized : Map}
    (h : config.serializeForRemote encryption nonces userId payload = .ok serialized)
    (key : String) :
    (serialized[key]?).isSome ↔
      (payload[key]?).isSome ∨ config.includeUserId = true ∧ config.userIdColumn = some key := by
  obtain ⟨columns, encrypted, rfl⟩ := map_eq_ok.mp h
  have kept : (columns[key]?).isSome = (payload[key]?).isSome := by
    unfold EntityConfig.encryptColumns at encrypted
    split at encrypted
    · obtain ⟨final, loop, rfl⟩ := map_eq_ok.mp encrypted
      exact encryptLoop_isSome loop key
    · cases encrypted
      rfl
  rw [← kept]
  unfold EntityConfig.injectUserId
  split
  · rename_i column included named
    by_cases own : column = key
    · subst own
      simp [included, named]
    · simp [Std.ExtTreeMap.getElem?_insert, own, named]
  · rename_i other
    have none_injected : ¬ (config.includeUserId = true ∧ config.userIdColumn = some key) :=
      fun both => other key both.1 both.2
    simp [none_injected]

end Polykit.Entity
