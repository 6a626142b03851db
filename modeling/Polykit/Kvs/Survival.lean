/- Module: Polykit/Kvs/Survival
   generality: I
   source: crates/polybase/src/kvs.rs, crates/polybase-sqlite/src/store.rs
   digest: Which values a key of the SQLite mirror gives back as they were set. -/

import Polykit.Kvs.Store
import Polykit.Registry.RoundTrip
import Polykit.Sqlite.Store
import Polykit.Sync.Calls

set_option autoImplicit false
set_option relaxedAutoImplicit false

namespace Polykit.Kvs.Survival

open Auth Crypto Entity Errors Json Kvs.Schema Kvs.Store Lib.Fallible
open Sqlite.Manager Sqlite.Storage Sqlite.Store Sync Sync.Calls Wire.Http

/-- An integer's text is the JSON text of that integer, and a text that is a JSON string
stands in quotes, so it is not that string itself. -/
structure Codec.Lawful (codec : Codec) : Prop where
  integer : ∀ n, codec.json.fromStr (codec.sql.ofInteger n) = .ok (.number (Number.ofInt64 n))
  quoted : ∀ s, codec.json.fromStr s ≠ .ok (.string s)

/-- The text column keeps integers, texts that are no JSON, and the documents whose own text
parses back to them. A double has to survive SQLite's printing of it. -/
def Survives (codec : Codec) : Value → Prop
  | .null => True
  | .bool _ => False
  | .number n =>
      n.asI64.isSome = true ∨
        codec.json.fromStr (codec.sql.ofReal (n.asF64 codec.json)) = .ok (.number n)
  | .string s => ∃ e, codec.json.fromStr s = .error e
  | .array items => codec.json.fromStr (codec.json.toString (.array items)) = .ok (.array items)
  | .object entries =>
      codec.json.fromStr (codec.json.toString (.object entries)) = .ok (.object entries)

/-- What a key reads as after `value` was bound to its column. -/
def readBack (codec : Codec) (value : Value) : Value :=
  decodeRaw codec.json (columnToJson (storedAs codec kvsSchema "value" value))

variable {p : Primitives} {Queue : Type}

theorem readBack_eq_iff_survives {codec : Codec} (lawful : Codec.Lawful codec) {value : Value}
    (present : value ≠ .null) : readBack codec value = value ↔ Survives codec value := by
  have text : kvsSchema.affinity "value" = .text := by decide
  cases value with
  | null => exact absurd rfl present
  | bool b =>
    simp [readBack, storedAs, text, bindJsonValue, Affinity.apply, columnToJson, decodeRaw,
      lawful.integer, Survives]
  | number n =>
    cases signed : n.asI64 with
    | some i =>
      have same := Number.ofInt64_of_asI64 signed
      simp [readBack, storedAs, text, bindJsonValue, Affinity.apply, columnToJson, decodeRaw,
        lawful.integer, Survives, signed, same]
    | none =>
      simp only [readBack, storedAs, text, bindJsonValue, Affinity.apply, columnToJson, decodeRaw,
        Survives, signed, Option.isSome_none, Bool.false_eq_true, false_or]
      split <;> simp_all
  | string s =>
    simp only [readBack, storedAs, text, bindJsonValue, Affinity.apply, columnToJson, decodeRaw,
      Survives]
    split
    · rename_i parsed read
      have different : parsed ≠ .string s := fun same => lawful.quoted s (same ▸ read)
      simp [read, different]
    · rename_i e read
      simp [read]
  | array items =>
    simp only [readBack, storedAs, text, bindJsonValue, Affinity.apply, columnToJson, decodeRaw,
      Survives]
    split <;> simp_all
  | object entries =>
    simp only [readBack, storedAs, text, bindJsonValue, Affinity.apply, columnToJson, decodeRaw,
      Survives]
    split <;> simp_all

theorem getElem?_localRecord {c : Coordinator p DbManager Queue}
    (registered : c.registry.configForTable kvsTable = some kvsEntityConfig)
    {session : Option SessionPayload} {nonces : Nat → Nonce} {record : Map} {prepared : Prepared}
    (ready : c.prepare session nonces kvsTable record = .ok prepared) {name : String}
    (member : name ∈ kvsSchema.columns.map SqlColumn.name) :
    (prepared.config.mapRemoteToLocal prepared.record)[name]? = record[name]? := by
  obtain ⟨config, _, _, serialized⟩ := prepare_eq_ok ready
  rw [registered, Option.some.injEq] at config
  rw [← config] at serialized ⊢
  rw [serializeForRemote_plain (by decide), Except.ok.injEq] at serialized
  have mirrored : ∀ name ∈ kvsSchema.columns.map SqlColumn.name,
      (∃ column ∈ kvsEntityConfig.columns, column.localName = name ∧
        column.remoteName = some name) ∧ kvsEntityConfig.userIdColumn ≠ some name := by decide
  obtain ⟨⟨column, inside, localName, remoteName⟩, other⟩ := mirrored name member
  have mapped : (kvsEntityConfig.mapRemoteToLocal prepared.record)[column.localName]? =
      column.remoteName.bind (fun remoteName => prepared.record[remoteName]?) :=
    getElem?_mapRemoteToLocal (by decide) inside
  rw [localName, remoteName, Option.bind_some] at mapped
  rw [mapped, ← serialized]
  exact getElem?_injectUserId (fun _ => other)

/-- After the local write of a key its row is live, with the version and the value of the
record, and that value was not null. -/
theorem readRecord_localWrite {codec : Codec} {c : Coordinator p DbManager Queue}
    (registered : c.registry.configForTable kvsTable = some kvsEntityConfig)
    {session : Option SessionPayload} {nonces : Nat → Nonce} {m after : DbManager}
    {namespace_ key : String} {value : Value} {version : Int64} {now : UtcNow}
    {prepared : Prepared} (shape : MirrorHasSchema m kvsTable kvsSchema)
    (ready : c.prepare session nonces kvsTable (kvsRecord namespace_ key value version now) =
      .ok prepared)
    (written : upsertRecord codec m kvsTable
      (prepared.config.mapRemoteToLocal prepared.record) = (after, .ok ())) :
    ∃ row, readRecord after kvsTable (encodeId namespace_ key) = .ok (some row) ∧
      rowDeleted row = false ∧ rowVersion row = version ∧
      row["value"]? = some (columnToJson (storedAs codec kvsSchema "value" value)) ∧
      value ≠ .null := by
  have fields : ∀ name ∈ kvsSchema.columns.map SqlColumn.name,
      (prepared.config.mapRemoteToLocal prepared.record)[name]? =
        (kvsRecord namespace_ key value version now)[name]? :=
    fun name member => getElem?_localRecord registered ready member
  obtain ⟨idField, valueField, deletedField⟩ := kvsRecord_fields namespace_ key value version now
  have versionField := kvsRecord_version namespace_ key value version now
  obtain ⟨row, found, columns⟩ := readRecord_upsertRecord shape (by decide)
    ((fields "id" (by decide)).trans idField) written
  have stored := columns (textColumn "value") (by decide) value
    ((fields "value" (by decide)).trans valueField)
  have versioned := columns ⟨"version", .integer, true, .value (.integer 1)⟩ (by decide)
    (.number (Number.ofInt64 version)) ((fields "version" (by decide)).trans versionField)
  have deleted := columns ⟨"deleted", .integer, true, .value (.integer 0)⟩ (by decide)
    (.bool false) ((fields "deleted" (by decide)).trans deletedField)
  refine ⟨row, found, ?_, ?_, stored.1, ?_⟩
  · have affinity : kvsSchema.affinity "deleted" = .integer := by decide
    simp [rowDeleted, deleted.1, storedAs, affinity, bindJsonValue, Affinity.apply, columnToJson,
      Value.asBool, Value.asI64, Number.asI64_ofInt64]
  · have affinity : kvsSchema.affinity "version" = .integer := by decide
    refine rowVersion_of_number (versioned.1.trans ?_)
    simp [storedAs, affinity, bindJsonValue, Number.asI64_ofInt64, Affinity.apply, columnToJson]
  · rintro rfl
    refine stored.2 rfl ?_
    simp [storedAs, bindJsonValue, Affinity.apply]

/-- After a write that returned ok, the key reads as its stored value reads, and that value
is not null. -/
theorem get_set {codec : Codec} {c : Coordinator p DbManager Queue} {env : CallEnv}
    {w after : World DbManager Queue} {namespace_ key : String} {value : Value}
    (store : c.localStore = sqliteLocalStore codec)
    (registered : c.registry.configForTable kvsTable = some kvsEntityConfig)
    (shape : MirrorHasSchema w.mirror kvsTable kvsSchema)
    (h : set .ok c env w namespace_ key value = (after, .ok ())) :
    get .ok codec.json c after namespace_ key = .ok (some (readBack codec value)) ∧
      value ≠ .null := by
  obtain ⟨version, encoded, same, persisted⟩ := set_ok h
  cases same
  obtain ⟨prepared, ready, mirrored⟩ := persistChange_ok persisted
  rw [store] at mirrored
  obtain ⟨row, found, live, _, stored, present⟩ :=
    readRecord_localWrite registered shape ready mirrored
  have located : c.readRecord after kvsTable (encodeId namespace_ key) = .ok (some row) := by
    rw [Coordinator.readRecord, store]
    exact found
  refine ⟨?_, present⟩
  rw [get_of_row located live stored]
  rfl

/-- A value set on the mirror is read back as it was set exactly if it survives. -/
theorem get_set_iff_survives {codec : Codec} (lawful : Codec.Lawful codec)
    {c : Coordinator p DbManager Queue} {env : CallEnv} {w after : World DbManager Queue}
    {namespace_ key : String} {value : Value} (store : c.localStore = sqliteLocalStore codec)
    (registered : c.registry.configForTable kvsTable = some kvsEntityConfig)
    (shape : MirrorHasSchema w.mirror kvsTable kvsSchema)
    (h : set .ok c env w namespace_ key value = (after, .ok ())) :
    get .ok codec.json c after namespace_ key = .ok (some value) ↔ Survives codec value := by
  obtain ⟨result, present⟩ := get_set store registered shape h
  rw [result, ← readBack_eq_iff_survives lawful present]
  simp

/-! A mirror with the bundled migrations and one signed-in user. The sample codec reads
integers and the three literals. -/

def sampleCodec : Codec where
  sql :=
    { ofInteger := fun n => n.toInt.repr
      ofReal := fun _ => "0.0"
      toInteger := fun s => match parseI64 s with
        | some n => .integer n
        | none => .text s
      realToInteger := .real }
  json :=
    { toString := fun _ => "{}"
      fromStr := fun s => match parseI64 s with
        | some n => .ok (.number (Number.ofInt64 n))
        | none =>
            if s = "true" then .ok (.bool true)
            else if s = "false" then .ok (.bool false)
            else if s = "null" then .ok .null
            else .error "expected value"
      u64AsF64 := id
      i64AsF64 := Int64.toUInt64 }

theorem sampleCodec_lawful : Codec.Lawful sampleCodec where
  integer n := by simp [sampleCodec, parseI64_repr]
  quoted s := by
    simp only [sampleCodec]
    repeat' split
    all_goals simp

def sampleIo : SwitchIo := ⟨.ok (), .ok (), .ok (), .ok (), .ok ()⟩

def sampleMirror : DbManager :=
  (DbManager.switchUser { polybaseMigrator := true, appMigrator := none } sampleIo "user-1").1

def sampleCoordinator :
    Coordinator Registry.RoundTrip.taggedPrimitives DbManager OfflineQueue.Memory.MemoryQueue :=
  { kvsCoordinator memoryQueue with localStore := sqliteLocalStore sampleCodec }

def sampleWorld : World DbManager OfflineQueue.Memory.MemoryQueue where
  session := (signedInWorld ()).session
  mirror := sampleMirror
  queue := .new

def setSample (value : Value) :
    World DbManager OfflineQueue.Memory.MemoryQueue × Except PolyError Unit :=
  set .ok sampleCoordinator (callAt 0 created) sampleWorld "prefs" "theme" value

theorem sampleMirror_shape : MirrorHasSchema sampleMirror kvsTable kvsSchema :=
  mirrorHasSchema_of_shipped (switchUser_shipped ⟨by simp, by simp⟩ sampleIo "user-1")

theorem get_set_dark :
    get .ok sampleCodec.json sampleCoordinator (setSample (.string "dark")).1 "prefs" "theme" =
      .ok (some (.string "dark")) :=
  (get_set_iff_survives sampleCodec_lawful rfl (by decide) sampleMirror_shape
    (Prod.ext rfl (by decide))).mpr ⟨"expected value", by rfl⟩

/-- The string `true` is set, and the boolean is read. -/
theorem get_set_string_true :
    (setSample (.string "true")).2 = .ok () ∧
      get .ok sampleCodec.json sampleCoordinator (setSample (.string "true")).1 "prefs" "theme" =
        .ok (some (.bool true)) := ⟨by decide, by rfl⟩

end Polykit.Kvs.Survival
