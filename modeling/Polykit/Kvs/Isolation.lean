/- Module: Polykit/Kvs/Isolation
   generality: I
   source: crates/polybase/src/kvs.rs
   digest: Which keys a write under another key leaves alone. -/

import Polykit.Kvs.Versions

set_option autoImplicit false
set_option relaxedAutoImplicit false

namespace Polykit.Kvs.Isolation

open Auth Contract Crypto Entity Errors Json Kvs.Schema Kvs.Store Kvs.Survival Kvs.Versions
open Lib.Runs Lib.Text Sqlite.Manager Sqlite.Storage Sqlite.Store Sync Sync.Calls

/-- One set or delete under some key, and what it meets outside the program. -/
structure KeyedWrite where
  namespace_ : String
  key : String
  env : CallEnv
  op : KvsWrite

variable {p : Primitives} {Queue : Type}

def Writes (c : Coordinator p DbManager Queue) (w : World DbManager Queue) (call : KeyedWrite)
    (after : World DbManager Queue) : Prop :=
  after = (runWrite c call.namespace_ call.key call.env w call.op).1

/-- No set or delete under the first key changes what any reader gets under the second, in any
mirror that sets and deletes lead to. -/
def Isolated (namespace_ key namespace' key' : String) : Prop :=
  ∀ (p : Primitives) (Queue : Type) (codec : Codec) (c : Coordinator p DbManager Queue)
    (start w : World DbManager Queue) (calls : List KeyedWrite),
    c.localStore = sqliteLocalStore codec →
    c.registry.configForTable kvsTable = some kvsEntityConfig →
    MirrorHasSchema start.mirror kvsTable kvsSchema → Run (Writes c) start calls w →
    ∀ (T : Type) (fromValue : Value → Except String T) (env : CallEnv) (op : KvsWrite),
      get fromValue codec.json c (runWrite c namespace_ key env w op).1 namespace' key' =
        get fromValue codec.json c w namespace' key'

/-- The second namespace reaches across the separator into the first key. -/
def Overlaps (namespace_ key namespace' key' : String) : Prop :=
  (namespace' = namespace_ ++ ":" ∧ key = ":" ++ key') ∨
    ∃ middle, namespace' = namespace_ ++ "::" ++ middle ∧ key = middle ++ "::" ++ key'

private theorem overlaps_iff (namespace_ key namespace' key' : String) :
    Overlaps namespace_ key namespace' key' ↔
      Straddles ':' namespace_.toList key.toList namespace'.toList key'.toList := by
  have colon : ":".toList = [':'] := rfl
  have colons : "::".toList = [':', ':'] := rfl
  simp only [Overlaps, Straddles, ← String.toList_inj, String.toList_append, colon, colons,
    List.append_assoc, List.cons_append, List.nil_append]
  refine or_congr Iff.rfl ⟨?_, ?_⟩
  · rintro ⟨middle, first, second⟩
    exact ⟨middle.toList, first, second⟩
  · rintro ⟨middle, first, second⟩
    exact ⟨String.ofList middle, by simpa using first, by simpa using second⟩

theorem encodeId_eq_iff (namespace_ key namespace' key' : String) :
    encodeId namespace_ key = encodeId namespace' key' ↔
      (namespace_, key) = (namespace', key') ∨ Overlaps namespace_ key namespace' key' ∨
        Overlaps namespace' key' namespace_ key := by
  have colons : "::".toList = [':', ':'] := rfl
  rw [overlaps_iff, overlaps_iff, Prod.mk.injEq, ← String.toList_inj, ← String.toList_inj,
    ← String.toList_inj, ← append_separator_eq_iff]
  simp [encodeId, colons]

/-- Decoding gives a key back exactly if the first separator of its id is the one after its
whole namespace. -/
theorem decodeId_encodeId_iff (namespace_ key : String) :
    decodeId (encodeId namespace_ key) = some (namespace_, key) ↔
      contains (namespace_ ++ ":") "::" = false := by
  have colon : ":".toList = [':'] := rfl
  have colons : "::".toList = [':', ':'] := rfl
  have cut := splitOnceChars_append_iff namespace_.toList key.toList (c := ':')
  simp only [decodeId, splitOnce, encodeId, String.toList_append, colons, colon, contains,
    decide_eq_false_iff_not, ← cut, List.append_assoc, List.cons_append, List.nil_append,
    Option.map_eq_some_iff, Prod.mk.injEq, Prod.exists]
  constructor
  · rintro ⟨first, second, found, rfl, rfl⟩
    simpa using found
  · intro found
    exact ⟨_, _, found, by simp, by simp⟩

section

variable {codec : Codec} {c : Coordinator p DbManager Queue}

theorem localWrite_statement (store : c.localStore = sqliteLocalStore codec)
    (registered : c.registry.configForTable kvsTable = some kvsEntityConfig)
    (namespace_ key : String) (env : CallEnv) (w : World DbManager Queue) (version : Int64)
    (op : KvsWrite) :
    (localWrite c namespace_ key env w version op).1 = w.mirror ∨
      (∃ record : Map, record["id"]? = some (.string (encodeId namespace_ key)) ∧
        (localWrite c namespace_ key env w version op).1 =
          (upsertRecord codec w.mirror kvsTable record).1) ∨
      (localWrite c namespace_ key env w version op).1 =
        (markDeleted codec w.mirror kvsTable (encodeId namespace_ key) version).1 := by
  cases op with
  | set encoded =>
    cases encoded with
    | error error => exact .inl rfl
    | ok value =>
      cases ready : c.prepare w.session env.nonces kvsTable
          (kvsRecord namespace_ key value version env.utcNow) with
      | error error => exact .inl (by simp only [localWrite, ready])
      | ok prepared =>
        have named := (getElem?_localRecord registered ready (by decide : "id" ∈ _)).trans
          (kvsRecord_fields namespace_ key value version env.utcNow).1
        refine .inr (.inl ⟨_, named, ?_⟩)
        simp only [localWrite, ready, store, sqliteLocalStore]
        rcases upsertRecord codec w.mirror kvsTable
          (prepared.config.mapRemoteToLocal prepared.record) with ⟨mirror, error | _⟩ <;> rfl
  | delete =>
    simp only [localWrite, registered, store, sqliteLocalStore]
    cases w.session with
    | none => exact .inl rfl
    | some session =>
      refine .inr (.inr ?_)
      dsimp only
      rcases markDeleted codec w.mirror kvsTable (encodeId namespace_ key) version with
        ⟨mirror, error | _⟩ <;> rfl

theorem runWrite_mirror (c : Coordinator p DbManager Queue) (namespace_ key : String)
    (env : CallEnv) (w : World DbManager Queue) (op : KvsWrite) :
    (runWrite c namespace_ key env w op).1.mirror = w.mirror ∨
      ∃ version, (runWrite c namespace_ key env w op).1.mirror =
        (localWrite c namespace_ key env w version op).1 := by
  rw [runWrite_eq]
  cases nextVersionFor c w (encodeId namespace_ key) with
  | error error => exact .inl rfl
  | ok version =>
    refine .inr ⟨version, ?_⟩
    dsimp only
    rcases localWrite c namespace_ key env w version op with ⟨mirror, error | stored⟩
    · rfl
    · exact (settle_mirror ..).trans (dispatch_mirror ..)

theorem runWrite_shape (store : c.localStore = sqliteLocalStore codec)
    (registered : c.registry.configForTable kvsTable = some kvsEntityConfig)
    {w : World DbManager Queue} (shape : MirrorHasSchema w.mirror kvsTable kvsSchema)
    (namespace_ key : String) (env : CallEnv) (op : KvsWrite) :
    MirrorHasSchema (runWrite c namespace_ key env w op).1.mirror kvsTable kvsSchema := by
  rcases runWrite_mirror c namespace_ key env w op with same | ⟨version, same⟩
  · exact same ▸ shape
  · rw [same]
    rcases localWrite_statement store registered namespace_ key env w version op with
      kept | ⟨record, _, written⟩ | written
    · exact kept ▸ shape
    · exact written ▸ mirrorHasSchema_upsertRecord shape codec record
    · exact written ▸ mirrorHasSchema_markDeleted shape codec _ _

theorem readRecord_runWrite_ne (store : c.localStore = sqliteLocalStore codec)
    (registered : c.registry.configForTable kvsTable = some kvsEntityConfig)
    {w : World DbManager Queue} (shape : MirrorHasSchema w.mirror kvsTable kvsSchema)
    {namespace_ key other : String} (env : CallEnv) (op : KvsWrite)
    (different : other ≠ encodeId namespace_ key) :
    c.readRecord (runWrite c namespace_ key env w op).1 kvsTable other =
      c.readRecord w kvsTable other := by
  simp only [Coordinator.readRecord, store, sqliteLocalStore]
  rcases runWrite_mirror c namespace_ key env w op with same | ⟨version, same⟩
  · rw [same]
  · rw [same]
    rcases localWrite_statement store registered namespace_ key env w version op with
      kept | ⟨record, named, written⟩ | written
    · rw [kept]
    · rw [written]
      exact readRecord_upsertRecord_ne codec shape (by decide) named different
    · rw [written]
      exact readRecord_markDeleted_ne codec shape version different

end

theorem isolated_of_encodeId_ne {namespace_ key namespace' key' : String}
    (different : encodeId namespace_ key ≠ encodeId namespace' key') :
    Isolated namespace_ key namespace' key' := by
  intro p Queue codec c start w calls store registered shape run T fromValue env op
  have shaped : MirrorHasSchema w.mirror kvsTable kvsSchema := by
    refine run.invariant (I := fun w => MirrorHasSchema w.mirror kvsTable kvsSchema) shape ?_
    rintro s call t here rfl
    exact runWrite_shape store registered here call.namespace_ call.key call.env call.op
  have same := readRecord_runWrite_ne store registered shaped env op (Ne.symm different)
  simp only [Store.get, same]

/-! On a mirror without keys the first set of any key goes through. -/

def firstRecord (namespace_ key : String) : Map :=
  kvsRecord namespace_ key (.string "dark") 1 (callAt 0 created).utcNow

def firstPrepared (namespace_ key : String) : Prepared :=
  ⟨kvsEntityConfig, encodeId namespace_ key, ⟨"user-1", "token", "refresh", 4102444800, 1⟩,
    (firstRecord namespace_ key).insert "user_id" (.string "user-1")⟩

theorem prepare_first (namespace_ key : String) :
    sampleCoordinator.prepare sampleWorld.session (callAt 0 created).nonces kvsTable
      (firstRecord namespace_ key) = .ok (firstPrepared namespace_ key) := rfl

theorem mapRemoteToLocal_first (namespace_ key : String) :
    kvsEntityConfig.mapRemoteToLocal (firstPrepared namespace_ key).record =
      firstRecord namespace_ key := by
  simp [EntityConfig.mapRemoteToLocal, kvsEntityConfig, EntityConfig.synced, mapColumn,
    firstPrepared, firstRecord, kvsRecord, ColumnDef.synced, Std.ExtTreeMap.getElem_insert]

theorem upsertRecord_first (namespace_ key : String) :
    (upsertRecord sampleCodec sampleMirror kvsTable (firstRecord namespace_ key)).2 = .ok () := rfl

theorem get_sampleWorld (namespace_ key : String) :
    Store.get .ok sampleCodec.json sampleCoordinator sampleWorld namespace_ key = .ok none := rfl

def setFirst (namespace_ key : String) :
    World DbManager OfflineQueue.Memory.MemoryQueue × Except PolyError Unit :=
  runWrite sampleCoordinator namespace_ key (callAt 0 created) sampleWorld
    (.set (.ok (.string "dark")))

theorem setFirst_ok (namespace_ key : String) : (setFirst namespace_ key).2 = .ok () := by
  obtain ⟨mirror, written⟩ : ∃ mirror, upsertRecord sampleCodec sampleMirror kvsTable
      (firstRecord namespace_ key) = (mirror, .ok ()) :=
    ⟨_, Prod.ext rfl (upsertRecord_first namespace_ key)⟩
  have landed : localWrite sampleCoordinator namespace_ key (callAt 0 created) sampleWorld 1
      (.set (.ok (.string "dark"))) = (mirror, .ok (.write (firstPrepared namespace_ key))) := by
    have ready := prepare_first namespace_ key
    have stored : sampleCoordinator.localStore.upsertRecord sampleWorld.mirror kvsTable
        ((firstPrepared namespace_ key).config.mapRemoteToLocal
          (firstPrepared namespace_ key).record) = (mirror, .ok ()) := by
      have store : sampleCoordinator.localStore = sqliteLocalStore sampleCodec := rfl
      have config : (firstPrepared namespace_ key).config = kvsEntityConfig := rfl
      rw [store, config, mapRemoteToLocal_first]
      exact written
    unfold firstRecord at ready
    simp only [localWrite, ready, stored]
  have version : nextVersionFor sampleCoordinator sampleWorld (encodeId namespace_ key) =
      .ok 1 := rfl
  have accepted : (dispatch sampleCoordinator namespace_ key (callAt 0 created)
      { sampleWorld with mirror := mirror } (.write (firstPrepared namespace_ key))).2 =
        .ok () := by
    have named : (firstPrepared namespace_ key).record["id"]?.bind Value.asStr =
        some (encodeId namespace_ key) := rfl
    have path : (firstPrepared namespace_ key).config.writePath = .postgREST := rfl
    simp only [dispatch, Coordinator.dispatchWrite, path, Sync.pushUpsert, named]
    rfl
  rw [setFirst, runWrite_eq, version]
  dsimp only
  rw [landed]
  dsimp only
  rw [accepted]
  rfl

theorem runWrite_set (c : Coordinator p DbManager Queue) (namespace_ key : String)
    (env : CallEnv) (w : World DbManager Queue) (value : Value) :
    runWrite c namespace_ key env w (.set (.ok value)) =
      Store.set .ok c env w namespace_ key value := rfl

theorem get_setFirst (namespace_ key : String) :
    Store.get .ok sampleCodec.json sampleCoordinator (setFirst namespace_ key).1 namespace_ key =
      .ok (some (readBack sampleCodec (.string "dark"))) := by
  have ran : Store.set .ok sampleCoordinator (callAt 0 created) sampleWorld namespace_ key
      (.string "dark") = ((setFirst namespace_ key).1, .ok ()) := by
    rw [← runWrite_set, ← setFirst_ok namespace_ key, setFirst]
  exact (get_set rfl (by decide) sampleMirror_shape ran).1

theorem not_isolated_of_encodeId_eq {namespace_ key namespace' key' : String}
    (same : encodeId namespace_ key = encodeId namespace' key') :
    ¬ Isolated namespace_ key namespace' key' := by
  intro isolated
  have unchanged : Store.get .ok sampleCodec.json sampleCoordinator
      (setFirst namespace_ key).1 namespace' key' = .ok none :=
    (isolated _ _ sampleCodec sampleCoordinator sampleWorld sampleWorld [] rfl (by decide)
      sampleMirror_shape .refl Value .ok (callAt 0 created) (.set (.ok (.string "dark")))).trans
        (get_sampleWorld namespace' key')
  have reader : ∀ w, Store.get Except.ok sampleCodec.json sampleCoordinator w namespace' key' =
      Store.get .ok sampleCodec.json sampleCoordinator w namespace_ key := by
    intro w
    simp only [Store.get, same]
  have changed := (get_setFirst namespace_ key).symm.trans ((reader _).symm.trans unchanged)
  simp at changed

/-- Two different keys are isolated exactly if their ids differ, which is if neither namespace
reaches across the separator into the other key. -/
theorem isolated_iff {namespace_ key namespace' key' : String}
    (different : (namespace_, key) ≠ (namespace', key')) :
    (Isolated namespace_ key namespace' key' ↔
        ¬ (Overlaps namespace_ key namespace' key' ∨ Overlaps namespace' key' namespace_ key)) ∧
      (encodeId namespace_ key ≠ encodeId namespace' key' ↔
        ¬ (Overlaps namespace_ key namespace' key' ∨ Overlaps namespace' key' namespace_ key)) ∧
      (decodeId (encodeId namespace_ key) = some (namespace_, key) ↔
        contains (namespace_ ++ ":") "::" = false) := by
  have ids : encodeId namespace_ key = encodeId namespace' key' ↔
      Overlaps namespace_ key namespace' key' ∨ Overlaps namespace' key' namespace_ key :=
    (encodeId_eq_iff ..).trans (or_iff_right different)
  refine ⟨?_, not_congr ids, decodeId_encodeId_iff namespace_ key⟩
  rw [← ids]
  exact ⟨fun isolated same => not_isolated_of_encodeId_eq same isolated, isolated_of_encodeId_ne⟩

theorem isolated_theme_font : Isolated "prefs" "theme" "prefs" "font" := by
  refine (isolated_iff (by decide)).1.mpr ?_
  rw [← (encodeId_eq_iff ..).trans (or_iff_right (by decide))]
  decide

/-- What is set under `b::c` in `a` is read under `c` in `a::b`. -/
theorem set_reaches_straddling_key :
    ("a", "b::c") ≠ ("a::b", "c") ∧ ¬ Isolated "a" "b::c" "a::b" "c" ∧
      decodeId (encodeId "a::b" "c") = some ("a", "b::c") :=
  ⟨by decide, not_isolated_of_encodeId_eq (by decide), by decide⟩

/-- Keys whose ids decode to them are isolated from each other. -/
theorem isolated_of_decodable {namespace_ key namespace' key' : String}
    (different : (namespace_, key) ≠ (namespace', key'))
    (first : contains (namespace_ ++ ":") "::" = false)
    (second : contains (namespace' ++ ":") "::" = false) :
    Isolated namespace_ key namespace' key' := by
  refine isolated_of_encodeId_ne (fun same => different ?_)
  have decoded := (decodeId_encodeId_iff namespace_ key).mpr first
  rw [same, (decodeId_encodeId_iff namespace' key').mpr second] at decoded
  exact (Option.some.inj decoded).symm

end Polykit.Kvs.Isolation
