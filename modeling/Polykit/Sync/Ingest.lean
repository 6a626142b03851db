/- Module: Polykit/Sync/Ingest
   generality: I
   source: crates/polybase/src/sync/coordinator.rs, crates/polybase/src/registry/mod.rs
   digest: The mirror row of a local write against the row of the same record when it comes back. -/

import Polykit.Sync.Delivery

set_option autoImplicit false
set_option relaxedAutoImplicit false

namespace Polykit.Sync.Ingest

open Auth Calls Contract Crypto Delivery Entity Errors Json Kvs.Schema Lib.Fallible
open Lib.Keyed Registry.RoundTrip Wire.Http

variable {p : Primitives} {Mirror Queue : Type}

/-- A remote record with its marked texts decrypted, or as it is without an encryptor. -/
def decryptColumns (c : Coordinator p Mirror Queue) (config : EntityConfig)
    (record : Map) (userId : String) : Except PolyError Map :=
  match c.encryption with
  | some enc => decryptRecordColumns config record enc userId
  | none => .ok record

/-- Realtime delivery and the merge of a pull. -/
def applyRemoteRecord (c : Coordinator p Mirror Queue) (w : World Mirror Queue)
    (table : String) (record : Map) (userId : String) :
    World Mirror Queue × Except PolyError Unit :=
  match c.registry.configForTable table with
  | none => (w, .error (.registry (.tableNotRegistered table)))
  | some config =>
      match decryptColumns c config record userId with
      | .error error => (w, .error error)
      | .ok record =>
          let deleted := (record["deleted"]?.bind Value.asBool).getD false
          match c.localStore.upsertRecord w.mirror table (config.mapRemoteToLocal record) with
          | (mirror, .error error) => ({ w with mirror := mirror }, .error error)
          | (mirror, .ok ()) =>
              let events := if table = kvsTable then kvsEvent record deleted else []
              (World.publishAll { w with mirror := mirror } events, .ok ())

/-! Both paths hand one row to the local store, and the mirror is what the store makes of it. -/

theorem persistChangeWithOp_mirror {c : Coordinator p Mirror Queue} {env : CallEnv}
    {w : World Mirror Queue} {table : String} {record : Map} {op : Option String}
    {prepared : Prepared} (ready : c.prepare w.session env.nonces table record = .ok prepared) :
    (c.persistChangeWithOp env w table record op).1.mirror =
      (c.localStore.upsertRecord w.mirror table
        (prepared.config.mapRemoteToLocal prepared.record)).1 := by
  unfold Coordinator.persistChangeWithOp
  rw [ready]
  dsimp only
  split
  · rename_i mirror error stored
    rw [stored]
  · rename_i mirror stored
    rw [stored, settle_mirror, dispatchWrite_mirror]

theorem applyRemoteRecord_mirror {c : Coordinator p Mirror Queue} {w : World Mirror Queue}
    {table userId : String} {config : EntityConfig} {record opened : Map}
    (registered : c.registry.configForTable table = some config)
    (decrypted : decryptColumns c config record userId = .ok opened) :
    (applyRemoteRecord c w table record userId).1.mirror =
      (c.localStore.upsertRecord w.mirror table (config.mapRemoteToLocal opened)).1 := by
  simp only [applyRemoteRecord, registered, decrypted]
  split
  · rename_i mirror error stored
    rw [stored]
  · rename_i mirror stored
    rw [stored, publishAll_mirror]

/-! A local column takes the value of the last registration that finds its field. -/

/-- The registration that decides a local column of a mapped record. -/
def fills (remote : Map) (key : String) (column : ColumnDef) : Bool :=
  column.localName == key && (column.remoteName.bind (fun name => remote[name]?)).isSome

theorem getElem?_mapColumn (remote mirror : Map) (column : ColumnDef) (key : String) :
    (mapColumn remote mirror column)[key]? =
      if fills remote key column then column.remoteName.bind (fun name => remote[name]?)
      else mirror[key]? := by
  unfold mapColumn fills
  cases column.remoteName with
  | none => simp
  | some remoteName =>
    cases found : remote[remoteName]? with
    | none => simp [found]
    | some value =>
      by_cases own : column.localName = key
      · simp [found, own]
      · simp [found, own, Std.ExtTreeMap.getElem?_insert]

theorem getElem?_mapRemoteToLocal_eq (config : EntityConfig) (remote : Map) (key : String) :
    (config.mapRemoteToLocal remote)[key]? =
      (config.columns.reverse.find? (fills remote key)).bind
        (fun column => column.remoteName.bind (fun name => remote[name]?)) := by
  unfold EntityConfig.mapRemoteToLocal
  induction config.columns using List.reverseRecOn with
  | nil => simp
  | append_singleton columns last ih =>
    rw [List.foldl_append, List.foldl_cons, List.foldl_nil, getElem?_mapColumn,
      find_reverse_append]
    cases filled : fills remote key last with
    | true => simp
    | false => simpa using ih

theorem persistChangeWithOp_pushed {c : Coordinator p Mirror Queue} {env : CallEnv}
    {w : World Mirror Queue} {table : String} {record : Map} {op : Option String}
    {prepared : Prepared} (ready : c.prepare w.session env.nonces table record = .ok prepared)
    (stored : (c.localStore.upsertRecord w.mirror table
      (prepared.config.mapRemoteToLocal prepared.record)).2 = .ok ()) :
    ∃ request, (c.persistChangeWithOp env w table record op).1.requests = request :: w.requests ∧
      request.row = some prepared.record.toValue := by
  unfold Coordinator.persistChangeWithOp
  rw [ready]
  dsimp only
  split
  · rename_i mirror error failed
    rw [failed] at stored
    cases stored
  · rename_i mirror _
    obtain ⟨request, logged, row⟩ := dispatchWrite_sent c env table op { w with mirror := mirror }
      (prepare_keeps_id ready)
    obtain ⟨queue, events, same⟩ := settle_world c env (writeSettlement table prepared)
      (c.dispatchWrite env table prepared op { w with mirror := mirror }).1
      (c.dispatchWrite env table prepared op { w with mirror := mirror }).2
    refine ⟨request, ?_, row⟩
    rw [same]
    exact logged

/-- How often ingestion decrypts the field that decides a local column. -/
def openings (config : EntityConfig) (pushed : Map) (key : String) : Nat :=
  ((config.columns.reverse.find? (fills pushed key)).map
    (fun column => (encryptedNames config.columns).count column.effectiveRemoteName)).getD 0

/-- The two rows of one pushed record. They have the same columns and agree on all that hold
no marked text of an encrypted field. Where they differ the first holds the ciphertext and the
second what it decrypts to. -/
structure RowsOf (encryption : Option (Encryption p)) (config : EntityConfig) (userId : String)
    (pushed persisted ingested : Map) : Prop where
  columns : ∀ key : String, (ingested[key]?).isSome = (persisted[key]?).isSome
  agree : ∀ key : String, encryption = none ∨ openings config pushed key = 0 ∨
      (∀ text, persisted[key]? = some (.string text) → isEncrypted text = false) →
    ingested[key]? = persisted[key]?
  opened : ∀ enc, encryption = some enc → ∀ key : String, ingested[key]? =
    (restored enc (keyUserUuid p userId))^[openings config pushed key] persisted[key]?

theorem rowsOf_decryptColumns {c : Coordinator p Mirror Queue} {config : EntityConfig}
    {pushed opened : Map} {userId : String}
    (decrypted : decryptColumns c config pushed userId = .ok opened) :
    RowsOf c.encryption config userId pushed (config.mapRemoteToLocal pushed)
      (config.mapRemoteToLocal opened) := by
  cases encryption : c.encryption with
  | none =>
    simp only [decryptColumns, encryption] at decrypted
    cases decrypted
    exact ⟨fun _ => rfl, fun _ _ => rfl, fun _ absent => by cases absent⟩
  | some enc =>
    simp only [decryptColumns, encryption] at decrypted
    have fields := decryptLoop_eq decrypted
    have present : ∀ key, fills opened key = fills pushed key := by
      intro key
      funext column
      unfold fills
      cases column.remoteName with
      | none => rfl
      | some remoteName => simp only [Option.bind_some, (fields remoteName).2]
    have row : ∀ key, (config.mapRemoteToLocal opened)[key]? =
        (restored enc (keyUserUuid p userId))^[openings config pushed key]
          (config.mapRemoteToLocal pushed)[key]? ∧
        ((config.mapRemoteToLocal opened)[key]?).isSome =
          ((config.mapRemoteToLocal pushed)[key]?).isSome := by
      intro key
      rw [getElem?_mapRemoteToLocal_eq, getElem?_mapRemoteToLocal_eq, present]
      unfold openings
      cases found : config.columns.reverse.find? (fills pushed key) with
      | none => exact ⟨rfl, rfl⟩
      | some column =>
        have filled := List.find?_some found
        unfold fills at filled
        cases named : column.remoteName with
        | none => simp [named] at filled
        | some remoteName =>
          have effective : column.effectiveRemoteName = remoteName := by
            simp [ColumnDef.effectiveRemoteName, named]
          simp only [Option.bind_some, Option.map_some, Option.getD_some, named, effective]
          exact fields remoteName
    refine ⟨fun key => (row key).2, ?_, ?_⟩
    · rintro key (absent | untouched | unmarked)
      · cases absent
      · rw [(row key).1, untouched]
        rfl
      · rw [(row key).1]
        exact Function.iterate_fixed (restored_of_unmarked (isMarked_eq_false_iff.mpr unmarked)) _
    · rintro _ ⟨⟩ key
      exact (row key).1

/-- The row a write leaves in the mirror and the row that the pushed record leaves when it
comes back for the same user. -/
theorem persisted_and_ingested_rows {c : Coordinator p Mirror Queue} {env : CallEnv}
    {w : World Mirror Queue} {table : String} {record opened : Map} {prepared : Prepared}
    (ready : c.prepare w.session env.nonces table record = .ok prepared)
    (decrypted : decryptColumns c prepared.config prepared.record prepared.session.userId =
      .ok opened) (op : Option String) (later : World Mirror Queue) :
    ∃ persisted ingested,
      (c.persistChangeWithOp env w table record op).1.mirror =
        (c.localStore.upsertRecord w.mirror table persisted).1 ∧
      ((c.localStore.upsertRecord w.mirror table persisted).2 = .ok () →
        ∃ request, (c.persistChangeWithOp env w table record op).1.requests =
          request :: w.requests ∧ request.row = some prepared.record.toValue) ∧
      (applyRemoteRecord c later table prepared.record prepared.session.userId).1.mirror =
        (c.localStore.upsertRecord later.mirror table ingested).1 ∧
      RowsOf c.encryption prepared.config prepared.session.userId prepared.record persisted
        ingested := by
  refine ⟨prepared.config.mapRemoteToLocal prepared.record,
    prepared.config.mapRemoteToLocal opened, ?_, ?_, ?_, ?_⟩
  · exact persistChangeWithOp_mirror ready
  · exact persistChangeWithOp_pushed ready
  · exact applyRemoteRecord_mirror (prepare_eq_ok ready).1 decrypted
  · exact rowsOf_decryptColumns decrypted

/-! A mirror that holds the last row it was handed, for runs that compute. -/

def lastRow : LocalStore Map where
  upsertRecord _ _ row := (row, .ok ())
  markDeleted row _ _ _ := (row, .ok ())
  readRecord row _ _ := .ok (some row)

def messagesCoordinator : Coordinator taggedPrimitives Map OfflineQueue.Memory.MemoryQueue where
  registry := (Registry.register {} messagesEntityConfig).getD {}
  encryption := some sampleEncryption
  localStore := lastRow
  queue := memoryQueue
  fromStr _ := .error "expected value"

def messagesWorld : World Map OfflineQueue.Memory.MemoryQueue where
  session := some ⟨"user-1", "token", "refresh", 4102444800, 1⟩
  mirror := ∅
  queue := .new

def helloMessage : Map :=
  ((∅ : Map).insert "id" (.string "m1")).insert "content" (.string "hello")

/-- The mirror keeps the ciphertext of a message written here and the text of the same message
delivered back. -/
theorem mirror_tells_paths_apart :
    ∃ pushed : Map,
      (messagesCoordinator.persistChange (callAt 1 created) messagesWorld "messages"
        helloMessage).1.requests.map Request.row = [some pushed.toValue] ∧
      (applyRemoteRecord messagesCoordinator messagesWorld "messages" pushed "user-1").2 = .ok () ∧
      (messagesCoordinator.persistChange (callAt 1 created) messagesWorld "messages"
        helloMessage).1.mirror["content"]? ≠
      (applyRemoteRecord messagesCoordinator messagesWorld "messages" pushed
        "user-1").1.mirror["content"]? := by
  refine ⟨_, rfl, rfl, ?_⟩
  intro same
  have texts := congrArg (fun value => value.bind Value.asStr) same
  exact absurd texts (by decide)

/-- Both rows of an ordinary message, which differ on its text. -/
theorem persisted_and_ingested_rows_hello :
    ∃ (pushed opened persisted ingested : Map),
      decryptColumns messagesCoordinator messagesEntityConfig pushed "user-1" = .ok opened ∧
      RowsOf messagesCoordinator.encryption messagesEntityConfig "user-1" pushed persisted
        ingested := by
  have ready : messagesCoordinator.prepare messagesWorld.session (callAt 1 created).nonces
      "messages" helloMessage = .ok ⟨messagesEntityConfig, "m1", _, _⟩ := rfl
  obtain ⟨persisted, ingested, _, _, _, rows⟩ :=
    persisted_and_ingested_rows ready rfl none messagesWorld
  exact ⟨_, _, persisted, ingested, rfl, rows⟩

end Polykit.Sync.Ingest
