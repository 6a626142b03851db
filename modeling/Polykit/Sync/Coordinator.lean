/- Module: Polykit/Sync/Coordinator
   generality: I
   source: crates/polybase/src/sync/coordinator.rs, crates/polybase/src/kvs.rs
   digest: The key-value table and the write lifecycle: prepare, mirror, dispatch, settle. -/

import Polykit.Auth.Session
import Polykit.OfflineQueue.Memory
import Polykit.Registry.Entity
import Polykit.Wire.Edge
import Polykit.Wire.Push

set_option autoImplicit false
set_option relaxedAutoImplicit false

namespace Polykit.Kvs.Schema

open Entity Lib.Text

def kvsTable : String := "kvs"

def kvsEntityConfig : EntityConfig :=
  { EntityConfig.synced kvsTable "Kvs" with
    columns := [
      ColumnDef.synced "id" "id" "id" "TEXT" "string" false,
      ColumnDef.synced "namespace" "namespace" "namespace" "TEXT" "string" false,
      ColumnDef.synced "key" "key" "key" "TEXT" "string" false,
      ColumnDef.synced "value" "value" "value" "TEXT" "jsonb" false,
      ColumnDef.synced "version" "version" "version" "INTEGER" "integer" false,
      ColumnDef.synced "deleted" "deleted" "deleted" "INTEGER" "boolean" false,
      ColumnDef.synced "updated_at" "updated_at" "updated_at" "TEXT" "string" false]
    userIdColumn := some "user_id"
    includeUserId := true
    conflictTarget := "id,user_id" }

def encodeId (namespace_ key : String) : String := namespace_ ++ "::" ++ key

def decodeId (id : String) : Option (String × String) := splitOnce id "::"

/-- Registering the table a second time changes nothing. -/
def register (registry : Registry) : Option Registry :=
  if registry.isRegisteredTable kvsTable then some registry
  else registry.register kvsEntityConfig

end Polykit.Kvs.Schema

namespace Polykit.Sync

open Auth Contract Crypto Entity Errors Json Kvs.Schema OfflineQueue.Memory
open Wire.Edge Wire.Http Wire.Push

inductive PolyEvent
  | kvsChanged (namespace_ key : String) (deleted : Bool)
  | offlineQueueChanged (depth : Nat) (inFlight : Bool)
  | versionRegressionDetected (table entityId : String)
  deriving DecidableEq

/-- The write side of a local mirror. A failed call may still have changed it. -/
structure LocalStore (Mirror : Type) where
  upsertRecord : Mirror → String → Map → Mirror × Except PolyError Unit
  markDeleted : Mirror → String → String → Int64 → Mirror × Except PolyError Unit
  readRecord : Mirror → String → String → Except PolyError (Option Map)

def nullLocalStore : LocalStore Unit where
  upsertRecord store _ _ := (store, .ok ())
  markDeleted store _ _ _ := (store, .ok ())
  readRecord _ _ _ := .ok none

structure OfflineQueue (Queue : Type) where
  enqueue : Queue → QueuedOperation → Queue × Except OfflineQueueError Unit
  depth : Queue → Except OfflineQueueError Nat

def memoryQueue : OfflineQueue MemoryQueue where
  enqueue queue op := (queue.enqueue op, .ok ())
  depth queue := .ok queue.depth

structure Coordinator (p : Primitives) (Mirror Queue : Type) where
  registry : Registry
  encryption : Option (Encryption p)
  localStore : LocalStore Mirror
  queue : OfflineQueue Queue
  fromStr : EnvelopeDecoder

/-- The state a call reads and writes. Echo marks carry the instant they were made, requests
and events are logged newest first. -/
structure World (Mirror Queue : Type) where
  session : Option SessionPayload
  mirror : Mirror
  queue : Queue
  echo : Std.ExtTreeMap String Nat compare := ∅
  requests : List Request := []
  events : List PolyEvent := []

/-- What one call meets outside the program: random nonces, the clocks and the reply. -/
structure CallEnv where
  nonces : Nat → Nonce
  utcNow : UtcNow
  instant : Nat
  epochMicros : Int
  reply : Reply

/-- A wall clock before the epoch reads as zero, one past 64 bits wraps. -/
def nowMicros (epochMicros : Int) : Int64 :=
  if epochMicros < 0 then 0 else Int64.ofInt epochMicros

variable {p : Primitives} {Mirror Queue : Type}

def World.publish (w : World Mirror Queue) (event : PolyEvent) : World Mirror Queue :=
  { w with events := event :: w.events }

def World.publishAll (w : World Mirror Queue) (events : List PolyEvent) : World Mirror Queue :=
  events.foldl World.publish w

def World.markPushed (w : World Mirror Queue) (instant : Nat) (table entityId : String) :
    World Mirror Queue :=
  { w with echo := w.echo.insert (echoTrackerKey table entityId) instant }

def World.send (w : World Mirror Queue) (request : Request) : World Mirror Queue :=
  { w with requests := request :: w.requests }

def isTransient : PolyError → Bool
  | .edge (.transient _ _) | .edge (.forbidden _ _) => true
  | .push (.transient _ _) => true
  | .http _ => true
  | _ => false

def isVersionRegression : PolyError → Bool
  | .push error => error.isVersionRegression
  | .edge error => error.isVersionRegression
  | _ => false

structure Prepared where
  config : EntityConfig
  entityId : String
  session : SessionPayload
  record : Map

def Coordinator.prepare (c : Coordinator p Mirror Queue) (session : Option SessionPayload)
    (nonces : Nat → Nonce) (table : String) (record : Map) : Except PolyError Prepared :=
  match c.registry.configForTable table with
  | none => .error (.registry (.tableNotRegistered table))
  | some config =>
      match record["id"]?.bind Value.asStr with
      | none => .error (.registry (.missingField table "id"))
      | some entityId =>
          match session with
          | none => .error .noSession
          | some session =>
              match config.serializeForRemote c.encryption nonces session.userId record with
              | .error error => .error (.registry error)
              | .ok record => .ok ⟨config, entityId, session, record⟩

/-- `Pusher::upsert`: the echo is marked before the request leaves. -/
def pushUpsert (env : CallEnv) (table : String) (record : Map) (conflictTarget accessToken : String)
    (w : World Mirror Queue) : World Mirror Queue × Except PolyError Unit :=
  match record["id"]?.bind Value.asStr with
  | none => (w, .error (.push (.permanent table "record missing 'id' field")))
  | some entityId =>
      ((w.markPushed env.instant table entityId).send
          (.upsert table record conflictTarget accessToken),
        upsertResult table env.reply)

/-- `Pusher::update_tombstone`. -/
def pushTombstone (env : CallEnv) (table entityId : String) (version : Int64) (updatedAt : Value)
    (accessToken : String) (w : World Mirror Queue) :
    World Mirror Queue × Except PolyError Unit :=
  ((w.markPushed env.instant table entityId).send
      (.updateTombstone table entityId version updatedAt accessToken),
    updateTombstoneResult table env.reply)

/-- An Edge Function call of the coordinator, which marks the echo itself. -/
def edgeCall (fromStr : EnvelopeDecoder) (env : CallEnv) (table entityId function op : String)
    (payload : Value) (accessToken : String) (w : World Mirror Queue) :
    World Mirror Queue × Except PolyError Unit :=
  ((w.markPushed env.instant table entityId).send (.edge function op payload accessToken),
    (callResult fromStr function env.reply).map (fun _ => ()))

def Coordinator.dispatchWrite (c : Coordinator p Mirror Queue) (env : CallEnv) (table : String)
    (prepared : Prepared) (op : Option String) (w : World Mirror Queue) :
    World Mirror Queue × Except PolyError Unit :=
  match prepared.config.writePath with
  | .postgREST =>
      pushUpsert env table prepared.record prepared.config.conflictTarget
        prepared.session.accessToken w
  | .edge function defaultOp =>
      edgeCall c.fromStr env table prepared.entityId function (op.getD defaultOp)
        prepared.record.toValue prepared.session.accessToken w

/-- The payload of a delete that goes through an Edge Function, keys in order. -/
def deletePayload (entityId : String) (version : Int64) : Value :=
  .object [("deleted", .bool true), ("id", .string entityId),
    ("version", .number (Number.ofInt64 version))]

def Coordinator.dispatchDelete (c : Coordinator p Mirror Queue) (env : CallEnv)
    (table entityId : String) (version : Int64) (config : EntityConfig) (accessToken : String)
    (w : World Mirror Queue) : World Mirror Queue × Except PolyError Unit :=
  match config.writePath with
  | .postgREST =>
      pushTombstone env table entityId version (config.tombstoneUpdatedAtValue env.utcNow)
        accessToken w
  | .edge function _ =>
      edgeCall c.fromStr env table entityId function "delete" (deletePayload entityId version)
        accessToken w

/-- The event of a key-value write, when the record names its key. -/
def kvsEvent (record : Map) (deleted : Bool) : List PolyEvent :=
  match record["namespace"]?.bind Value.asStr, record["key"]?.bind Value.asStr with
  | some namespace_, some key => [.kvsChanged namespace_ key deleted]
  | _, _ => []

/-- What a call settles its result with: the row, the operation a retry would replay, and
the events of the arms that report success. -/
structure Settlement where
  table : String
  entityId : String
  kind : QueuedOperationKind
  onSuccess : List PolyEvent
  onBenign : List PolyEvent
  onQueued : List PolyEvent

def writeSettlement (table : String) (prepared : Prepared) : Settlement :=
  let events := if table = kvsTable then kvsEvent prepared.record false else []
  ⟨table, prepared.entityId, .write prepared.record.toValue, events, events, events⟩

/-- A delete reports its key when the server accepted it, and only then. -/
def deleteSettlement (table entityId : String) (version : Int64) : Settlement :=
  let accepted := if table = kvsTable then
    match decodeId entityId with
    | some (namespace_, key) => [.kvsChanged namespace_ key true]
    | none => []
  else []
  ⟨table, entityId, .tombstone version, accepted, [], []⟩

def Settlement.queuedOperation (s : Settlement) (env : CallEnv) (error : PolyError) :
    QueuedOperation :=
  ⟨s.table, s.entityId, s.kind, nowMicros env.epochMicros, 0, some error.display⟩

def Coordinator.enqueueForRetry (c : Coordinator p Mirror Queue) (env : CallEnv) (s : Settlement)
    (error : PolyError) (w : World Mirror Queue) : World Mirror Queue × Except PolyError Unit :=
  match c.queue.enqueue w.queue (s.queuedOperation env error) with
  | (queue, .error failure) => ({ w with queue := queue }, .error (.offlineQueue failure))
  | (queue, .ok ()) =>
      let depth := (c.queue.depth queue).toOption.getD 0
      ((World.publishAll { w with queue := queue }
        (.offlineQueueChanged depth false :: s.onQueued)), .ok ())

/-- The match on the result that ends both write operations. -/
def Coordinator.settle (c : Coordinator p Mirror Queue) (env : CallEnv) (s : Settlement)
    (w : World Mirror Queue) : Except PolyError Unit → World Mirror Queue × Except PolyError Unit
  | .ok () => (w.publishAll s.onSuccess, .ok ())
  | .error (.push (.sameVersionMutationIgnored _)) => (w.publishAll s.onBenign, .ok ())
  | .error error =>
      if isTransient error then c.enqueueForRetry env s error w
      else if isVersionRegression error then
        (w.publish (.versionRegressionDetected s.table s.entityId), .error error)
      else (w, .error error)

def Coordinator.persistChangeWithOp (c : Coordinator p Mirror Queue) (env : CallEnv)
    (w : World Mirror Queue) (table : String) (record : Map) (op : Option String) :
    World Mirror Queue × Except PolyError Unit :=
  match c.prepare w.session env.nonces table record with
  | .error error => (w, .error error)
  | .ok prepared =>
      match c.localStore.upsertRecord w.mirror table
          (prepared.config.mapRemoteToLocal prepared.record) with
      | (mirror, .error error) => ({ w with mirror := mirror }, .error error)
      | (mirror, .ok ()) =>
          let sent := c.dispatchWrite env table prepared op { w with mirror := mirror }
          c.settle env (writeSettlement table prepared) sent.1 sent.2

def Coordinator.persistChange (c : Coordinator p Mirror Queue) (env : CallEnv)
    (w : World Mirror Queue) (table : String) (record : Map) :
    World Mirror Queue × Except PolyError Unit :=
  c.persistChangeWithOp env w table record none

def Coordinator.delete (c : Coordinator p Mirror Queue) (env : CallEnv) (w : World Mirror Queue)
    (table entityId : String) (version : Int64) : World Mirror Queue × Except PolyError Unit :=
  match c.registry.configForTable table with
  | none => (w, .error (.registry (.tableNotRegistered table)))
  | some config =>
      match w.session with
      | none => (w, .error .noSession)
      | some session =>
          match c.localStore.markDeleted w.mirror table entityId version with
          | (mirror, .error error) => ({ w with mirror := mirror }, .error error)
          | (mirror, .ok ()) =>
              let sent := c.dispatchDelete env table entityId version config
                session.accessToken { w with mirror := mirror }
              c.settle env (deleteSettlement table entityId version) sent.1 sent.2

def Coordinator.readRecord (c : Coordinator p Mirror Queue) (w : World Mirror Queue)
    (table id : String) : Except PolyError (Option Map) :=
  c.localStore.readRecord w.mirror table id

end Polykit.Sync
