/- Module: Polykit/Sync/LocalOnly
   generality: I
   source: crates/polybase/src/sync/coordinator.rs, crates/polybase/src/registry/mod.rs
   digest: Writes of local-only tables are dispatched like all others, and their columns dropped. -/

import Polykit.Kvs.Survival
import Polykit.Sync.Ingest

set_option autoImplicit false
set_option relaxedAutoImplicit false

namespace Polykit.Sync.LocalOnly

open Calls Crypto Delivery Entity Errors Json Kvs.Survival OfflineQueue.Memory
open Sqlite.Manager Sqlite.Storage Sqlite.Store Wire.Http

variable {p : Primitives} {Mirror Queue : Type}

/-- What a call on a local-only table owes: no request, nothing queued, and after a write that
returned ok the mirror has each registered column of its record. -/
structure StaysLocal (c : Coordinator p Mirror Queue) (config : EntityConfig) (env : CallEnv)
    (w : World Mirror Queue) (call : Call) : Prop where
  silent : (runCall c env w call).1.requests = w.requests
  unqueued : (runCall c env w call).1.queue = w.queue
  readable : ∀ table record op entityId, call = .persist table record op →
    call.entityId = some entityId → (runCall c env w call).2 = .ok () →
      ∀ column ∈ config.columns, (record[column.effectiveRemoteName]?).isSome →
        ∃ row, c.localStore.readRecord (runCall c env w call).1.mirror table entityId =
          .ok (some row) ∧ (row[column.localName]?).isSome

/-- The call does not get past the mirror: the record has no id, nobody is signed in, a column
cannot be encrypted, or the local store refuses the statement. -/
def EndsAtMirror (c : Coordinator p Mirror Queue) (config : EntityConfig) (env : CallEnv)
    (w : World Mirror Queue) : Call → Prop
  | .persist table record _ =>
      record["id"]?.bind Value.asStr = none ∨ w.session = none ∨
        ∃ session, w.session = some session ∧
          ((∃ error, config.serializeForRemote c.encryption env.nonces session.userId record =
              .error error) ∨
            ∃ payload error, config.serializeForRemote c.encryption env.nonces session.userId
                record = .ok payload ∧
              (c.localStore.upsertRecord w.mirror table (config.mapRemoteToLocal payload)).2 =
                .error error)
  | .delete table entityId version =>
      w.session = none ∨
        ∃ error, (c.localStore.markDeleted w.mirror table entityId version).2 = .error error

theorem endsAtMirror_iff {c : Coordinator p Mirror Queue} {config : EntityConfig} {env : CallEnv}
    {w : World Mirror Queue} {call : Call}
    (registered : c.registry.configForTable call.table = some config) :
    EndsAtMirror c config env w call ↔
      ∃ mirror error, localStage c env w call = (mirror, .error error) := by
  obtain ⟨held, before, queue, echo, requests, events⟩ := w
  cases call with
  | persist table record op =>
    simp only [Call.table] at registered
    simp only [EndsAtMirror, localStage, Coordinator.prepare, registered]
    cases record["id"]?.bind Value.asStr with
    | none => simp
    | some entityId =>
      cases held with
      | none => simp
      | some session =>
        cases serialized : config.serializeForRemote c.encryption env.nonces session.userId
            record with
        | error error => simp [serialized]
        | ok payload =>
          simp only [reduceCtorEq, false_or, Option.some.injEq, exists_eq_left', serialized,
            Except.ok.injEq, exists_false]
          cases stored : c.localStore.upsertRecord before table
              (config.mapRemoteToLocal payload) with
          | mk mirror result => cases result <;> simp [stored]
  | delete table entityId version =>
    simp only [Call.table] at registered
    simp only [EndsAtMirror, localStage, registered]
    cases held with
    | none => simp
    | some session =>
      cases c.localStore.markDeleted before table entityId version with
      | mk mirror result => cases result <;> simp

/-- A call on a local-only table keeps to the mirror exactly if it fails there. -/
theorem stays_local_iff {c : Coordinator p Mirror Queue} {config : EntityConfig} {env : CallEnv}
    {w : World Mirror Queue} {call : Call}
    (registered : c.registry.configForTable call.table = some config) :
    config.scope = .localOnly →
      (StaysLocal c config env w call ↔ EndsAtMirror c config env w call) := by
  intro _
  rw [endsAtMirror_iff registered]
  constructor
  · intro stays
    cases stage : localStage c env w call with
    | mk mirror result =>
      cases result with
      | error error => exact ⟨mirror, error, rfl⟩
      | ok _ =>
        obtain ⟨config', s, sent, sending⟩ := runCall_late stage
        obtain ⟨request, logged⟩ := sending.request
        obtain ⟨queue, events, settled⟩ := settle_world c env s sent
          ((Freshness.routeOf call config'.writePath).1.result c.fromStr
            (Freshness.routeOf call config'.writePath).2 env.reply)
        have silent := stays.silent
        rw [sending.settled, settled] at silent
        dsimp only at silent
        rw [logged] at silent
        exact absurd silent (List.cons_ne_self _ _)
  · rintro ⟨mirror, error, stage⟩
    have early := runCall_early stage
    refine ⟨by rw [early], by rw [early], ?_⟩
    intro table record op entityId _ _ succeeded
    rw [early] at succeeded
    cases succeeded

/-! Columns without a remote name never reach the mirror. -/

theorem mapRemoteToLocal_of_unnamed {config : EntityConfig}
    (unnamed : ∀ column ∈ config.columns, column.remoteName = none) (record : Map) :
    config.mapRemoteToLocal record = ∅ := by
  have loop : ∀ (columns : List ColumnDef) (mirror : Map),
      (∀ column ∈ columns, column.remoteName = none) →
        columns.foldl (mapColumn record) mirror = mirror := by
    intro columns
    induction columns with
    | nil => exact fun _ _ => rfl
    | cons head tail ih =>
      intro mirror absent
      have skipped : mapColumn record mirror head = mirror := by
        simp [mapColumn, absent head List.mem_cons_self]
      rw [List.foldl_cons, skipped]
      exact ih mirror (fun column member => absent column (List.mem_cons_of_mem _ member))
  exact loop config.columns ∅ unnamed

/-- A write of local-only columns leaves the mirror as it was, whatever it returns. -/
theorem persist_local_columns_mirror {codec : Codec} {c : Coordinator p DbManager Queue}
    {config : EntityConfig} {table : String} (store : c.localStore = sqliteLocalStore codec)
    (registered : c.registry.configForTable table = some config)
    (unnamed : ∀ column ∈ config.columns, column.remoteName = none) (env : CallEnv)
    (w : World DbManager Queue) (record : Map) (op : Option String) :
    (c.persistChangeWithOp env w table record op).1.mirror = w.mirror := by
  cases ready : c.prepare w.session env.nonces table record with
  | error error => simp only [Coordinator.persistChangeWithOp, ready]
  | ok prepared =>
    have same : config = prepared.config :=
      Option.some.inj (registered.symm.trans (prepare_eq_ok ready).1)
    rw [Ingest.persistChangeWithOp_mirror ready, store, ← same,
      mapRemoteToLocal_of_unnamed unnamed]
    simp only [sqliteLocalStore, upsertRecord]
    split
    · rfl
    · simp [upsertRecordOn]

/-! A table of drafts, kept on this device. -/

def draftsConfig : EntityConfig :=
  { EntityConfig.localOnly "drafts" with
    columns := [ColumnDef.localOnly "id" "TEXT", ColumnDef.localOnly "body" "TEXT",
      ColumnDef.localOnly "version" "INTEGER", ColumnDef.localOnly "deleted" "INTEGER"] }

def draftsTable : Table where
  schema :=
    { columns := [⟨"id", .text, false, .none⟩, ⟨"body", .text, false, .none⟩,
        ⟨"version", .integer, false, .none⟩, ⟨"deleted", .integer, false, .none⟩]
      unique := [] }
  rows := []

def draftsMigrator (db : Database) : Database :=
  { db with tables := db.tables.insert "drafts" draftsTable }

def draftsCoordinator : Coordinator Registry.RoundTrip.taggedPrimitives DbManager MemoryQueue :=
  { sampleCoordinator with registry := (Registry.register {} draftsConfig).getD {} }

def draftsWorld : World DbManager MemoryQueue :=
  { sampleWorld with
    mirror := (DbManager.switchUser
      { polybaseMigrator := true, appMigrator := some draftsMigrator } sampleIo "user-1").1 }

def draft : Map :=
  ((∅ : Map).insert "id" (.string "d1")).insert "body" (.string "not for the server")

/-- Tables and bodies of the requests so far, newest first. -/
def sentRows (w : World DbManager MemoryQueue) : List (String × Option Value) :=
  w.requests.map (fun request => match request with
    | .upsert table record _ _ => (table, record["body"]?)
    | .updateTombstone table _ _ _ _ => (table, none)
    | .edge function _ _ _ => (function, none))

/-- A draft is sent to the server and not kept in the mirror, and so is its deletion. -/
theorem draft_leaks :
    let call : Call := .persist "drafts" draft none
    let written := runCall draftsCoordinator (callAt 0 created) draftsWorld call
    draftsConfig.scope = .localOnly ∧ written.2 = .ok () ∧
      sentRows written.1 = [("drafts", some (.string "not for the server"))] ∧
      readRecord written.1.mirror "drafts" "d1" = .ok none ∧
      sentRows (runCall draftsCoordinator (callAt 0 created) draftsWorld
        (.delete "drafts" "d1" 1)).1 = [("drafts", none)] ∧
      ¬ StaysLocal draftsCoordinator draftsConfig (callAt 0 created) draftsWorld call := by
  intro call written
  refine ⟨rfl, rfl, rfl, rfl, rfl, ?_⟩
  intro stays
  have leaked : sentRows written.1 = sentRows draftsWorld := congrArg
    (List.map _) stays.silent
  exact absurd (congrArg List.length leaked) (by decide)

/-- Without a session the draft stays here, unsaved. -/
theorem stays_local_signed_out :
    StaysLocal draftsCoordinator draftsConfig (callAt 0 created)
      { draftsWorld with session := none } (.persist "drafts" draft none) := by
  have registered : draftsCoordinator.registry.configForTable
      (Call.persist "drafts" draft none).table = some draftsConfig := by decide
  exact (stays_local_iff registered rfl).mpr (.inr (.inl rfl))

end Polykit.Sync.LocalOnly
