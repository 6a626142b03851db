/- Module: Polykit/Sync/Dedupe
   generality: I
   source: crates/polybase/src/sync/coordinator.rs, crates/polybase/src/offline_queue/mod.rs, crates/polybase/src/sync/push.rs
   digest: When the last queued write of a row has the effect of all that it replaced. -/

import Polykit.Lib.Overlay
import Polykit.Sync.Redispatch

set_option autoImplicit false
set_option relaxedAutoImplicit false

namespace Polykit.Sync.Dedupe

open Auth Calls Contract Crypto Delivery Entity Errors Json Lib.Overlay Lib.Runs
open OfflineQueue.Memory Redispatch Wire.Http

abbrev RemoteRow := String → Option Value

def carried (payload : Map) : RemoteRow := fun column => payload[column]?

/-- `resolution=merge-duplicates`: the columns of the payload are set, all others stay. -/
def applyQueued : QueuedOperationKind → RemoteRow → RemoteRow
  | .write payload, row => overlay payload.get row
  | _, row => row

/-- A record that was written, and the payload prepared from it. -/
structure FailedWrite where
  record : Map
  payload : Map

variable {p : Primitives} {Mirror : Type}

/-- One write of the row that fails transiently, under the session of its moment. -/
structure FailsToWrite (c : Coordinator p Mirror MemoryQueue) (table id : String)
    (config : EntityConfig) (w : World Mirror MemoryQueue) (write : FailedWrite)
    (next : World Mirror MemoryQueue) (env : CallEnv) (session : SessionPayload)
    (op : Option String) : Prop where
  named : write.record["id"]?.bind Value.asStr = some id
  serialized : config.serializeForRemote c.encryption env.nonces session.userId write.record =
    .ok write.payload
  fails : FailsTransiently c env { w with session := some session }
    (.persist table write.record op) config
  ran : next = (runCall c env { w with session := some session }
    (.persist table write.record op)).1

def Fails (c : Coordinator p Mirror MemoryQueue) (table id : String) (config : EntityConfig)
    (w : World Mirror MemoryQueue) (write : FailedWrite) (next : World Mirror MemoryQueue) :
    Prop :=
  ∃ env session op, FailsToWrite c table id config w write next env session op

section

variable {c : Coordinator p Mirror MemoryQueue} {table id : String} {config : EntityConfig}
  {w next : World Mirror MemoryQueue} {write : FailedWrite}

theorem fails_queue (memory : c.queue = memoryQueue)
    (failed : Fails c table id config w write next) :
    ∃ op, next.queue.inner.filter (fun entry => decide (entry.key = (table, id))) = [op] ∧
      op.kind = .write write.payload.toValue := by
  obtain ⟨env, session, op, failing⟩ := failed
  obtain ⟨queued, enqueued, own, kind⟩ := failing.fails.enqueued
  have key : queued.key = (table, id) :=
    Prod.ext own.table (Option.some.inj (own.entityId.symm.trans failing.named))
  have ready : c.prepare (some session) env.nonces table write.record =
      .ok ⟨config, id, session, write.payload⟩ := by
    have registered : c.registry.configForTable table = some config := failing.fails.registered
    simp [Coordinator.prepare, registered, failing.named, failing.serialized]
  refine ⟨queued, ?_, ?_⟩
  · rw [failing.ran, enqueued, memory, ← key]
    exact filter_enqueue _ _
  · simpa [intent, ready, Except.toOption] using kind.symm

theorem carried_isSome_iff (failed : Fails c table id config w write next) (column : String) :
    (carried write.payload column).isSome ↔
      (write.record[column]?).isSome ∨
        config.includeUserId = true ∧ config.userIdColumn = some column := by
  obtain ⟨env, session, op, failing⟩ := failed
  exact serializeForRemote_isSome_iff failing.serialized column

/-- The one payload left in the queue gives every remote row what all payloads in their order
give it exactly if the last record has each column of the earlier ones. The column of the user
id is in all payloads. -/
theorem dedupe_preserves_iff (memory : c.queue = memoryQueue)
    {start after : World Mirror MemoryQueue} {last : FailedWrite} {earlier : List FailedWrite}
    (run : Run (Fails c table id config) start (last :: earlier) after) :
    ∃ op, after.queue.inner.filter (fun entry => decide (entry.key = (table, id))) = [op] ∧
      ((∀ remote, applyQueued op.kind remote =
          overlayAll ((last :: earlier).map (fun write => carried write.payload)) remote) ↔
        ∀ write ∈ earlier, ∀ column, (write.record[column]?).isSome →
          (last.record[column]?).isSome ∨
            config.includeUserId = true ∧ config.userIdColumn = some column) := by
  have columns : ∀ write ∈ last :: earlier, ∀ column, (carried write.payload column).isSome ↔
      (write.record[column]?).isSome ∨
        config.includeUserId = true ∧ config.userIdColumn = some column := by
    refine run.history_invariant (I := fun writes _ => ∀ write ∈ writes, ∀ column,
      (carried write.payload column).isSome ↔ (write.record[column]?).isSome ∨
        config.includeUserId = true ∧ config.userIdColumn = some column) (by simp) ?_
    intro older s write t known failed
    exact List.forall_mem_cons.mpr ⟨carried_isSome_iff failed, known⟩
  cases run with
  | tail before failed =>
    obtain ⟨op, alone, kind⟩ := fails_queue memory failed
    refine ⟨op, alone, ?_⟩
    have applied : ∀ remote, applyQueued op.kind remote =
        overlay (carried last.payload) remote := by
      intro remote
      rw [kind, applyQueued]
      congr 1
      funext column
      exact Map.get_toValue ..
    simp only [applied, List.map_cons, overlay_absorbs_iff, List.forall_mem_map]
    refine forall₂_congr (fun write member => forall_congr' (fun column => ?_))
    rw [columns write (List.mem_cons_of_mem _ member), columns last List.mem_cons_self]
    tauto

end

/-! Writes of one key while the server cannot be reached. -/

def coloured : Map :=
  ((∅ : Map).insert "id" (.string "prefs::theme")).insert "value" (.string "dark")

def renamed : Map :=
  ((∅ : Map).insert "id" (.string "prefs::theme")).insert "key" (.string "palette")

def user : SessionPayload := ⟨"user-1", "token", "refresh", 4102444800, 1⟩

def offlineWrite (record : Map) : FailedWrite :=
  ⟨record, Std.ExtTreeMap.insert record "user_id" (.string "user-1")⟩

def afterWrite (w : World Unit MemoryQueue) (record : Map) : World Unit MemoryQueue :=
  (runCall (kvsCoordinator memoryQueue) offline { w with session := some user }
    (.persist "kvs" record none)).1

theorem offlineWrite_fails (w : World Unit MemoryQueue) {record : Map}
    (named : record["id"]?.bind Value.asStr = some "prefs::theme") :
    Fails (kvsCoordinator memoryQueue) "kvs" "prefs::theme" Kvs.Schema.kvsEntityConfig w
      (offlineWrite record) (afterWrite w record) := by
  have registered : (kvsCoordinator memoryQueue).registry.configForTable "kvs" =
      some Kvs.Schema.kvsEntityConfig := by decide
  have serialized : Kvs.Schema.kvsEntityConfig.serializeForRemote
      (kvsCoordinator memoryQueue).encryption offline.nonces user.userId record =
        .ok (offlineWrite record).payload :=
    serializeForRemote_plain (by decide) _ _ _ _
  refine ⟨offline, user, none, named, serialized, ⟨registered, ⟨(), ?_⟩, rfl⟩, rfl⟩
  have named' : (offlineWrite record).record["id"]?.bind Value.asStr = some "prefs::theme" := named
  have serialized' : Kvs.Schema.kvsEntityConfig.serializeForRemote
      (kvsCoordinator memoryQueue).encryption offline.nonces user.userId
        (offlineWrite record).record = .ok (offlineWrite record).payload := serialized
  simp only [localStage, Coordinator.prepare, registered, named', serialized']
  rfl

def afterBoth (first second : Map) : World Unit MemoryQueue :=
  afterWrite (afterWrite (signedInWorld .new) first) second

theorem both_fail {first second : Map}
    (firstNamed : first["id"]?.bind Value.asStr = some "prefs::theme")
    (secondNamed : second["id"]?.bind Value.asStr = some "prefs::theme") :
    Run (Fails (kvsCoordinator memoryQueue) "kvs" "prefs::theme" Kvs.Schema.kvsEntityConfig)
      (signedInWorld .new) [offlineWrite second, offlineWrite first] (afterBoth first second) :=
  .tail (.tail .refl (offlineWrite_fails _ firstNamed)) (offlineWrite_fails _ secondNamed)

/-- The value of the first write is not in the one operation that is left. -/
theorem replaced_value_is_lost :
    Run (Fails (kvsCoordinator memoryQueue) "kvs" "prefs::theme" Kvs.Schema.kvsEntityConfig)
        (signedInWorld .new) [offlineWrite renamed, offlineWrite coloured]
        (afterBoth coloured renamed) ∧
      ((afterBoth coloured renamed).queue.inner.map
        (fun op => applyQueued op.kind (fun _ => none) "value")) = [none] ∧
      overlayAll ([offlineWrite renamed, offlineWrite coloured].map
        (fun write => carried write.payload)) (fun _ => none) "value" = some (.string "dark") :=
  ⟨both_fail rfl rfl, rfl, rfl⟩

/-- The same writes the other way round, with the key's name in both. -/
theorem dedupe_preserves_renamed :
    ∃ op, (afterBoth renamed (Std.ExtTreeMap.insert renamed "value" (.string "dark"))
        ).queue.inner.filter (fun entry => decide (entry.key = ("kvs", "prefs::theme"))) = [op] ∧
      ∀ remote, applyQueued op.kind remote =
        overlayAll ([offlineWrite (Std.ExtTreeMap.insert renamed "value" (.string "dark")),
          offlineWrite renamed].map (fun write => carried write.payload)) remote := by
  obtain ⟨op, alone, preserved⟩ := dedupe_preserves_iff rfl
    (both_fail (rfl : renamed["id"]?.bind Value.asStr = _)
      (rfl : (Std.ExtTreeMap.insert renamed "value" (.string "dark"))["id"]?.bind Value.asStr = _))
  refine ⟨op, alone, preserved.mpr ?_⟩
  intro write member column present
  rw [List.mem_singleton] at member
  subst member
  refine .inl ?_
  by_cases value : column = "value"
  · subst value
    rfl
  · have same : (Std.ExtTreeMap.insert renamed "value" (.string "dark"))[column]? =
        renamed[column]? := by
      simp [Std.ExtTreeMap.getElem?_insert, Ne.symm value]
    exact (congrArg Option.isSome same).trans present

end Polykit.Sync.Dedupe
