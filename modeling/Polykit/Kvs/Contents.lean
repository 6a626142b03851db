/- Module: Polykit/Kvs/Contents
   generality: I
   source: crates/polybase/src/kvs.rs, crates/polybase/src/sync/coordinator.rs
   digest: The store on its SQLite mirror is a map, written by local calls and remote rows. -/

import Polykit.Kvs.Isolation
import Polykit.Sync.Ingest

set_option autoImplicit false
set_option relaxedAutoImplicit false

namespace Polykit.Kvs.Contents

open Auth Crypto Entity Errors Json Kvs.Isolation Kvs.Schema Kvs.Store Kvs.Survival Kvs.Versions
open Sqlite.Manager Sqlite.Storage Sqlite.Store Sync Sync.Calls Sync.Ingest

structure RemoteRow where
  record : Map
  id : String
  value : Value
  deleted : Bool
  hasId : record["id"]? = some (.string id)
  hasValue : record["value"]? = some value
  hasDeleted : record["deleted"]? = some (.bool deleted)

/-- What changes the mirror of a device: its own calls, and the rows that reach it. -/
inductive Change
  | write (call : KeyedWrite)
  | remote (row : RemoteRow) (userId : String)

variable {p : Primitives} {Queue : Type}

def Change.apply (c : Coordinator p DbManager Queue) (w : World DbManager Queue) :
    Change → World DbManager Queue
  | .write call => (runWrite c call.namespace_ call.key call.env w call.op).1
  | .remote row userId => (applyRemoteRecord c w kvsTable row.record userId).1

def worldAfter (c : Coordinator p DbManager Queue) (start : World DbManager Queue) :
    List Change → World DbManager Queue
  | [] => start
  | change :: older => change.apply c (worldAfter c start older)

def reads (codec : Codec) : KvsWrite → Option Value
  | .set (.ok value) => some (readBack codec value)
  | _ => none

/-- The id that a change has given a new content, and the content, if the mirror has taken it.
What the server makes of a call does not count. -/
def Change.landing (codec : Codec) (c : Coordinator p DbManager Queue) (w : World DbManager Queue) :
    Change → Option (String × Option Value)
  | .write call =>
      match nextVersionFor c w (encodeId call.namespace_ call.key) with
      | .error _ => none
      | .ok version =>
          match (localWrite c call.namespace_ call.key call.env w version call.op).2 with
          | .error _ => none
          | .ok _ => some (encodeId call.namespace_ call.key, reads codec call.op)
  | .remote row userId =>
      match (applyRemoteRecord c w kvsTable row.record userId).2 with
      | .error _ => none
      | .ok () => some (row.id, if row.deleted then none else some (readBack codec row.value))

def landings (codec : Codec) (c : Coordinator p DbManager Queue) (start : World DbManager Queue) :
    List Change → List (String × Option Value)
  | [] => []
  | change :: older =>
      (change.landing codec c (worldAfter c start older)).toList ++ landings codec c start older

def contents (codec : Codec) (c : Coordinator p DbManager Queue) (w : World DbManager Queue)
    (id : String) : Except PolyError (Option Value) :=
  match c.readRecord w kvsTable id with
  | .error error => .error error
  | .ok none => .ok none
  | .ok (some row) =>
      .ok (if rowDeleted row then none else row["value"]?.map (decodeRaw codec.json))

theorem get_eq_contents (codec : Codec) (c : Coordinator p DbManager Queue)
    (w : World DbManager Queue) (namespace_ key : String) :
    Store.get .ok codec.json c w namespace_ key = contents codec c w (encodeId namespace_ key) := by
  unfold Store.get contents
  cases c.readRecord w kvsTable (encodeId namespace_ key) with
  | error error => rfl
  | ok found =>
    cases found with
    | none => rfl
    | some row =>
      dsimp only
      split
      · rfl
      · cases row["value"]? <;> rfl

section

variable {codec : Codec} {c : Coordinator p DbManager Queue} {w : World DbManager Queue}

theorem contents_congr {w' : World DbManager Queue} {id : String}
    (same : c.readRecord w' kvsTable id = c.readRecord w kvsTable id) :
    contents codec c w' id = contents codec c w id := by
  unfold contents
  rw [same]

theorem contents_of_row {id : String} {row : Map}
    (found : c.readRecord w kvsTable id = .ok (some row)) :
    contents codec c w id =
      .ok (if rowDeleted row then none else row["value"]?.map (decodeRaw codec.json)) := by
  unfold contents
  rw [found]

theorem contents_localWrite (store : c.localStore = sqliteLocalStore codec)
    (registered : c.registry.configForTable kvsTable = some kvsEntityConfig)
    (shape : MirrorHasSchema w.mirror kvsTable kvsSchema) {namespace_ key : String}
    {env : CallEnv} {version : Int64} {op : KvsWrite} {mirror : DbManager} {stored : Stored}
    (h : localWrite c namespace_ key env w version op = (mirror, .ok stored))
    {after : World DbManager Queue} (final : after.mirror = mirror) :
    contents codec c after (encodeId namespace_ key) = .ok (reads codec op) := by
  have located : ∀ row, readRecord mirror kvsTable (encodeId namespace_ key) = .ok row →
      c.readRecord after kvsTable (encodeId namespace_ key) = .ok row := by
    intro row found
    rw [Coordinator.readRecord, store, final]
    exact found
  cases op with
  | set encoded =>
    cases encoded with
    | error error => cases h
    | ok value =>
      simp only [localWrite, store] at h
      split at h
      · cases h
      · rename_i prepared ready
        split at h
        · cases h
        · rename_i written
          cases h
          obtain ⟨row, found, live, _, stored, _⟩ :=
            readRecord_localWrite registered shape ready written
          rw [contents_of_row (located _ found), live, stored]
          rfl
  | delete =>
    simp only [localWrite, store] at h
    split at h
    · cases h
    · split at h
      · cases h
      · split at h
        · cases h
        · rename_i written
          cases h
          rcases readRecord_markDeleted shape (by decide) (by decide) written with
            ⟨_, absent⟩ | ⟨_, row, _, found, _, deleted⟩
          · unfold contents
            rw [located _ absent]
            rfl
          · have gone : rowDeleted row = true := by
              simp [rowDeleted, deleted, Value.asBool, Value.asI64, Number.asI64_ofInt64]
            rw [contents_of_row (located _ found), gone]
            rfl

theorem decryptColumns_kvs (record : Map) (userId : String) :
    decryptColumns c kvsEntityConfig record userId = .ok record := by
  unfold decryptColumns
  cases c.encryption <;> rfl

theorem getElem?_mirrored (record : Map) {name : String}
    (member : name ∈ kvsSchema.columns.map SqlColumn.name) :
    (kvsEntityConfig.mapRemoteToLocal record)[name]? = record[name]? := by
  have mirrored : ∀ name ∈ kvsSchema.columns.map SqlColumn.name,
      ∃ column ∈ kvsEntityConfig.columns, column.localName = name ∧
        column.remoteName = some name := by decide
  obtain ⟨column, inside, localName, remoteName⟩ := mirrored name member
  have mapped : (kvsEntityConfig.mapRemoteToLocal record)[column.localName]? =
      column.remoteName.bind (fun remoteName => record[remoteName]?) :=
    getElem?_mapRemoteToLocal (by decide) inside
  rwa [localName, remoteName, Option.bind_some] at mapped

theorem applyRemoteRecord_kvs (store : c.localStore = sqliteLocalStore codec)
    (registered : c.registry.configForTable kvsTable = some kvsEntityConfig) (row : RemoteRow)
    (userId : String) :
    (applyRemoteRecord c w kvsTable row.record userId).1.mirror =
        (upsertRecord codec w.mirror kvsTable (kvsEntityConfig.mapRemoteToLocal row.record)).1 ∧
      ((applyRemoteRecord c w kvsTable row.record userId).2 = .ok () ↔
        (upsertRecord codec w.mirror kvsTable
          (kvsEntityConfig.mapRemoteToLocal row.record)).2 = .ok ()) := by
  refine ⟨?_, ?_⟩
  · rw [applyRemoteRecord_mirror registered (decryptColumns_kvs row.record userId), store]
    rfl
  · simp only [applyRemoteRecord, registered, decryptColumns_kvs, store, sqliteLocalStore]
    rcases upsertRecord codec w.mirror kvsTable
      (kvsEntityConfig.mapRemoteToLocal row.record) with ⟨mirror, error | _⟩ <;> simp

theorem contents_remote (store : c.localStore = sqliteLocalStore codec)
    (registered : c.registry.configForTable kvsTable = some kvsEntityConfig)
    (shape : MirrorHasSchema w.mirror kvsTable kvsSchema) (row : RemoteRow) (userId : String)
    (h : (applyRemoteRecord c w kvsTable row.record userId).2 = .ok ()) :
    contents codec c (applyRemoteRecord c w kvsTable row.record userId).1 row.id =
      .ok (if row.deleted then none else some (readBack codec row.value)) := by
  obtain ⟨mirror, stored⟩ := applyRemoteRecord_kvs store registered row userId
  have written : upsertRecord codec w.mirror kvsTable
      (kvsEntityConfig.mapRemoteToLocal row.record) =
        ((applyRemoteRecord c w kvsTable row.record userId).1.mirror, .ok ()) :=
    Prod.ext mirror.symm (stored.mp h)
  obtain ⟨found, location, columns⟩ := readRecord_upsertRecord shape (by decide)
    ((getElem?_mirrored row.record (by decide)).trans row.hasId) written
  have value : found["value"]? =
      some (columnToJson (storedAs codec kvsSchema "value" row.value)) :=
    (columns (textColumn "value") (by decide) row.value
      ((getElem?_mirrored row.record (by decide)).trans row.hasValue)).1
  have deleted := columns ⟨"deleted", .integer, true, .value (.integer 0)⟩ (by decide)
    (.bool row.deleted) ((getElem?_mirrored row.record (by decide)).trans row.hasDeleted)
  have affinity : kvsSchema.affinity "deleted" = .integer := by decide
  have flag : rowDeleted found = row.deleted := by
    cases gone : row.deleted <;>
      simp [rowDeleted, deleted.1, gone, storedAs, affinity, bindJsonValue, Affinity.apply,
        columnToJson, Value.asBool, Value.asI64, Number.asI64_ofInt64]
  have located : c.readRecord (applyRemoteRecord c w kvsTable row.record userId).1 kvsTable row.id =
      .ok (some found) := by
    rw [Coordinator.readRecord, store]
    exact location
  rw [contents_of_row located, flag, value]
  rfl

theorem contents_apply (store : c.localStore = sqliteLocalStore codec)
    (registered : c.registry.configForTable kvsTable = some kvsEntityConfig)
    (shape : MirrorHasSchema w.mirror kvsTable kvsSchema) (change : Change) (id : String) :
    contents codec c (change.apply c w) id =
      match change.landing codec c w with
      | none => contents codec c w id
      | some landing => if landing.1 = id then .ok landing.2 else contents codec c w id := by
  have unmoved : ∀ after : World DbManager Queue, after.mirror = w.mirror →
      contents codec c after id = contents codec c w id := by
    intro after same
    refine contents_congr ?_
    rw [Coordinator.readRecord, same, Coordinator.readRecord]
  cases change with
  | write call =>
    simp only [Change.apply, Change.landing]
    by_cases own : encodeId call.namespace_ call.key = id
    · rw [runWrite_eq]
      cases nextVersionFor c w (encodeId call.namespace_ call.key) with
      | error error => rfl
      | ok version =>
        dsimp only
        cases written : localWrite c call.namespace_ call.key call.env w version call.op with
        | mk mirror result =>
          cases result with
          | error error =>
            have same := localWrite_error store written
            exact unmoved _ same
          | ok stored =>
            dsimp only
            rw [if_pos own, ← own]
            exact contents_localWrite store registered shape written
              ((settle_mirror ..).trans (dispatch_mirror ..))
    · have kept : contents codec c
          (runWrite c call.namespace_ call.key call.env w call.op).1 id = contents codec c w id :=
        contents_congr (readRecord_runWrite_ne store registered shape call.env call.op
          (Ne.symm own))
      rw [kept]
      split
      · rfl
      · rename_i landing landed
        have here : landing.1 = encodeId call.namespace_ call.key := by
          split at landed
          · cases landed
          · split at landed <;> cases landed
            rfl
        rw [here, if_neg own]
  | remote row userId =>
    simp only [Change.apply, Change.landing]
    obtain ⟨mirror, stored⟩ := applyRemoteRecord_kvs (w := w) store registered row userId
    cases result : (applyRemoteRecord c w kvsTable row.record userId).2 with
    | error error =>
      dsimp only
      refine unmoved _ (mirror.trans ?_)
      cases failed : upsertRecord codec w.mirror kvsTable
          (kvsEntityConfig.mapRemoteToLocal row.record) with
      | mk after outcome =>
        cases outcome with
        | error error => exact upsertRecord_error failed
        | ok _ =>
          rw [failed] at stored
          rw [stored.mpr rfl] at result
          cases result
    | ok _ =>
      dsimp only
      by_cases own : row.id = id
      · rw [if_pos own, ← own]
        exact contents_remote store registered shape row userId result
      · rw [if_neg own]
        refine contents_congr ?_
        rw [Coordinator.readRecord, Coordinator.readRecord, store, mirror]
        exact readRecord_upsertRecord_ne codec shape (by decide)
          ((getElem?_mirrored row.record (by decide)).trans row.hasId) (Ne.symm own)

theorem shape_apply (store : c.localStore = sqliteLocalStore codec)
    (registered : c.registry.configForTable kvsTable = some kvsEntityConfig)
    (shape : MirrorHasSchema w.mirror kvsTable kvsSchema) (change : Change) :
    MirrorHasSchema (change.apply c w).mirror kvsTable kvsSchema := by
  cases change with
  | write call =>
    exact runWrite_shape store registered shape call.namespace_ call.key call.env call.op
  | remote row userId =>
    rw [Change.apply, (applyRemoteRecord_kvs store registered row userId).1]
    exact mirrorHasSchema_upsertRecord shape codec _

end

section

variable {codec : Codec} {c : Coordinator p DbManager Queue} {start : World DbManager Queue}

theorem shape_worldAfter (store : c.localStore = sqliteLocalStore codec)
    (registered : c.registry.configForTable kvsTable = some kvsEntityConfig)
    (shape : MirrorHasSchema start.mirror kvsTable kvsSchema) (changes : List Change) :
    MirrorHasSchema (worldAfter c start changes).mirror kvsTable kvsSchema := by
  induction changes with
  | nil => exact shape
  | cons change older ih => exact shape_apply store registered ih change

theorem landing_of_ok {call : KeyedWrite} {w : World DbManager Queue}
    (ok : (runWrite c call.namespace_ call.key call.env w call.op).2 = .ok ()) :
    (Change.write call).landing codec c w =
      some (encodeId call.namespace_ call.key, reads codec call.op) := by
  rw [runWrite_eq] at ok
  simp only [Change.landing]
  cases next : nextVersionFor c w (encodeId call.namespace_ call.key) with
  | error error =>
    rw [next] at ok
    cases ok
  | ok version =>
    rw [next] at ok
    dsimp only at ok ⊢
    cases written : localWrite c call.namespace_ call.key call.env w version call.op with
    | mk mirror result =>
      cases result with
      | error error =>
        rw [written] at ok
        cases ok
      | ok stored => rfl

/-- After any sequence of local calls and remote rows, a key reads as the newest change under its
id that the mirror has taken left it, and as it did at the start if there is none. A call that
returned ok is one that the mirror has taken. -/
theorem get_worldAfter (store : c.localStore = sqliteLocalStore codec)
    (registered : c.registry.configForTable kvsTable = some kvsEntityConfig)
    (shape : MirrorHasSchema start.mirror kvsTable kvsSchema) (changes : List Change)
    (namespace_ key : String) :
    (Store.get .ok codec.json c (worldAfter c start changes) namespace_ key =
      match (landings codec c start changes).find?
          (fun landing => landing.1 == encodeId namespace_ key) with
      | some landing => .ok landing.2
      | none => Store.get .ok codec.json c start namespace_ key) ∧
    ∀ newer call older, changes = newer ++ .write call :: older →
      (runWrite c call.namespace_ call.key call.env (worldAfter c start older) call.op).2 =
        .ok () →
      (encodeId call.namespace_ call.key, reads codec call.op) ∈
        landings codec c start changes := by
  refine ⟨?_, ?_⟩
  · rw [get_eq_contents, get_eq_contents]
    induction changes with
    | nil => rfl
    | cons change older ih =>
      have held := shape_worldAfter store registered shape older
      rw [worldAfter, contents_apply store registered held, landings]
      cases change.landing codec c (worldAfter c start older) with
      | none => exact ih
      | some landing =>
        dsimp only
        rw [Option.toList_some, List.singleton_append, List.find?_cons]
        by_cases own : landing.1 = encodeId namespace_ key
        · simp [own]
        · rw [if_neg own, beq_eq_false_iff_ne.mpr own]
          exact ih
  · rintro newer call older rfl ok
    induction newer with
    | nil =>
      rw [List.nil_append, landings, landing_of_ok ok]
      exact List.mem_cons_self
    | cons change newer ih =>
      rw [List.cons_append, landings]
      exact List.mem_append_right _ ih

end

/-! A key is set here and deleted on another device. -/

def themeDeleted : RemoteRow where
  record := (kvsRecord "prefs" "theme" (.string "light") 2 (callAt 0 created).utcNow).insert
    "deleted" (.bool true)
  id := "prefs::theme"
  value := .string "light"
  deleted := true
  hasId := by rfl
  hasValue := by rfl
  hasDeleted := by rfl

def themeChanges : List Change :=
  [.remote themeDeleted "user-1",
    .write ⟨"prefs", "theme", callAt 0 created, .set (.ok (.string "dark"))⟩]

theorem get_themeChanges :
    Store.get .ok sampleCodec.json sampleCoordinator
      (worldAfter sampleCoordinator sampleWorld themeChanges) "prefs" "theme" = .ok none := by
  have landed : landings sampleCodec sampleCoordinator sampleWorld themeChanges =
      [("prefs::theme", none), ("prefs::theme", some (readBack sampleCodec (.string "dark")))] := by
    rfl
  rw [(get_worldAfter rfl (by decide) sampleMirror_shape themeChanges "prefs" "theme").1, landed]
  rfl

end Polykit.Kvs.Contents
