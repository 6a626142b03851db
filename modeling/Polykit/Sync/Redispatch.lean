/- Module: Polykit/Sync/Redispatch
   generality: I
   source: crates/polybase/src/sync/coordinator.rs, crates/polybase/src/offline_queue/mod.rs
   digest: When a queued operation and the registry give back the dispatch that failed. -/

import Polykit.Sync.Delivery

set_option autoImplicit false
set_option relaxedAutoImplicit false

namespace Polykit.Sync.Redispatch

open Auth Calls Contract Crypto Delivery Entity Errors Freshness Json OfflineQueue.Memory Routes
open Wire.Edge Wire.Http Wire.Push

/-- A write request without what each attempt makes anew: the access token, and the time a
tombstone update stamps. -/
inductive Dispatch
  | upsert (table : String) (row : Value) (onConflict : String)
  | tombstone (table entityId : String) (version : Int64)
  | edge (function op : String) (payload : Value)

def Dispatch.ofRequest : Request → Dispatch
  | .upsert table record onConflict _ => .upsert table record.toValue onConflict
  | .updateTombstone table entityId version _ _ => .tombstone table entityId version
  | .edge function op payload _ => .edge function op payload

/-- Where the registry sends a mutation of a row, under an operation that may be given. -/
def Dispatch.ofKind (config : EntityConfig) (table entityId : String) (op : Option String) :
    QueuedOperationKind → Option Dispatch
  | .write payload =>
      match config.writePath with
      | .postgREST => some (.upsert table payload config.conflictTarget)
      | .edge function defaultOp => some (.edge function (op.getD defaultOp) payload)
  | .tombstone version =>
      match config.writePath with
      | .postgREST => some (.tombstone table entityId version)
      | .edge function _ => some (.edge function "delete" (deletePayload entityId version))
  | .hardDelete => none

/-- What the registry and a queued operation say of its replay: a write that names no operation
is sent under the default one. -/
def replayed (registry : Registry) (op : QueuedOperation) : Option Dispatch :=
  (registry.configForTable op.table).bind
    (fun config => Dispatch.ofKind config op.table op.entityId none op.kind)

def namedOp : Call → Option String
  | .persist _ _ op => op
  | .delete _ _ _ => none

variable {p : Primitives} {Mirror Queue : Type}

/-- The call sent its request, the answer was a transient failure, and the operation it
enqueued is read back as the dispatch it attempted. -/
def RecoveredBy (read : Registry → QueuedOperation → Option Dispatch)
    (c : Coordinator p Mirror Queue) (env : CallEnv) (w : World Mirror Queue) (call : Call) :
    Prop :=
  ∃ request op, (runCall c env w call).1.requests = request :: w.requests ∧
    (runCall c env w call).1.queue = (c.queue.enqueue w.queue op).1 ∧
    QueuedFor env call op ∧ intent c env w.session call = some op.kind ∧
    read c.registry op = some (Dispatch.ofRequest request)

/-- The call gets past its local write and is answered with a failure that is retried. -/
structure FailsTransiently (c : Coordinator p Mirror Queue) (env : CallEnv)
    (w : World Mirror Queue) (call : Call) (config : EntityConfig) : Prop where
  registered : c.registry.configForTable call.table = some config
  stored : ∃ mirror, localStage c env w call = (mirror, .ok ())
  transient : outcome c.fromStr call config.writePath env.reply = .transient

/-- A named operation survives in the queue only where it is the default, or not used. -/
def OpSurvives (call : Call) : WritePath → Prop
  | .postgREST => True
  | .edge _ defaultOp => ∀ op, namedOp call = some op → op = defaultOp

theorem disposition_of_transient {fromStr : EnvelopeDecoder} {call : Call} {path : WritePath}
    {reply : Reply} (h : outcome fromStr call path reply = .transient) :
    disposition ((routeOf call path).1.result fromStr (routeOf call path).2 reply) =
      .enqueue := by
  unfold outcome at h
  dsimp only at h
  split at h
  · cases h
  · split at h
    · assumption
    · split at h <;> cases h

/-! A dispatch sends what its queued operation stands for under the registration. -/

theorem dispatchWrite_request (c : Coordinator p Mirror Queue) (env : CallEnv) (table : String)
    {prepared : Prepared} {id : String} (op : Option String) (w : World Mirror Queue)
    (text : prepared.record["id"]?.bind Value.asStr = some id) :
    ∃ request, (c.dispatchWrite env table prepared op w).1.requests = request :: w.requests ∧
      Dispatch.ofKind prepared.config table prepared.entityId op
        (.write prepared.record.toValue) = some (Dispatch.ofRequest request) := by
  unfold Coordinator.dispatchWrite Dispatch.ofKind
  cases prepared.config.writePath with
  | postgREST =>
    refine ⟨.upsert table prepared.record prepared.config.conflictTarget
      prepared.session.accessToken, ?_, rfl⟩
    simp only [pushUpsert, text]
    rfl
  | edge function defaultOp =>
    exact ⟨.edge function (op.getD defaultOp) prepared.record.toValue
      prepared.session.accessToken, rfl, rfl⟩

theorem dispatchDelete_request (c : Coordinator p Mirror Queue) (env : CallEnv)
    (table entityId : String) (version : Int64) (config : EntityConfig) (accessToken : String)
    (w : World Mirror Queue) :
    ∃ request, (c.dispatchDelete env table entityId version config accessToken w).1.requests =
        request :: w.requests ∧
      Dispatch.ofKind config table entityId none (.tombstone version) =
        some (Dispatch.ofRequest request) := by
  unfold Coordinator.dispatchDelete Dispatch.ofKind
  cases config.writePath with
  | postgREST =>
    exact ⟨.updateTombstone table entityId version
      (config.tombstoneUpdatedAtValue env.utcNow) accessToken, rfl, rfl⟩
  | edge function defaultOp =>
    exact ⟨.edge function "delete" (deletePayload entityId version) accessToken, rfl, rfl⟩

/-- What a call past its local write sends: the mutation its retry has to carry, where the
registry sends it. -/
theorem runCall_request {c : Coordinator p Mirror Queue} {env : CallEnv} {w : World Mirror Queue}
    {call : Call} {config : EntityConfig} {mirror : Mirror}
    (registered : c.registry.configForTable call.table = some config)
    (stage : localStage c env w call = (mirror, .ok ())) :
    ∃ request entityId kind, (runCall c env w call).1.requests = request :: w.requests ∧
      call.entityId = some entityId ∧ intent c env w.session call = some kind ∧
      Dispatch.ofKind config call.table entityId (namedOp call) kind =
        some (Dispatch.ofRequest request) := by
  cases call with
  | persist table record op =>
    simp only [localStage] at stage
    cases ready : c.prepare w.session env.nonces table record with
    | error error => simp [ready] at stage
    | ok prepared =>
      rw [ready] at stage
      dsimp only at stage
      obtain ⟨found, named, _, _⟩ := prepare_eq_ok ready
      have same : config = prepared.config := Option.some.inj (registered.symm.trans found)
      subst same
      obtain ⟨id, text⟩ := Option.isSome_iff_exists.mp (prepare_keeps_id ready)
      let stored : World Mirror Queue := { w with mirror := mirror }
      obtain ⟨request, logged, sent⟩ := dispatchWrite_request c env table op stored text
      obtain ⟨queue, events, settled⟩ := settle_world c env (writeSettlement table prepared)
        (c.dispatchWrite env table prepared op stored).1
        (c.dispatchWrite env table prepared op stored).2
      refine ⟨request, prepared.entityId, .write prepared.record.toValue, ?_, named, ?_, sent⟩
      · simp only [runCall, Coordinator.persistChangeWithOp, ready, stage]
        rw [settled]
        exact logged
      · simp [intent, ready, Except.toOption]
  | delete table entityId version =>
    obtain ⟨held, before, queue, echo, requests, events⟩ := w
    simp only [localStage] at stage
    simp only [Call.table] at registered
    rw [registered] at stage
    cases held with
    | none => cases stage
    | some session =>
      let stored : World Mirror Queue := ⟨some session, mirror, queue, echo, requests, events⟩
      obtain ⟨request, logged, sent⟩ :=
        dispatchDelete_request c env table entityId version config session.accessToken stored
      obtain ⟨queue', events', settled⟩ := settle_world c env
        (deleteSettlement table entityId version)
        (c.dispatchDelete env table entityId version config session.accessToken stored).1
        (c.dispatchDelete env table entityId version config session.accessToken stored).2
      refine ⟨request, entityId, .tombstone version, ?_, rfl, rfl, sent⟩
      simp only [runCall, Coordinator.delete, registered, stage]
      rw [settled]
      exact logged

theorem FailsTransiently.enqueued {c : Coordinator p Mirror Queue} {env : CallEnv}
    {w : World Mirror Queue} {call : Call} {config : EntityConfig}
    (fails : FailsTransiently c env w call config) :
    ∃ op, (runCall c env w call).1.queue = (c.queue.enqueue w.queue op).1 ∧
      QueuedFor env call op ∧ intent c env w.session call = some op.kind := by
  obtain ⟨mirror, stage⟩ := fails.stored
  obtain ⟨config', s, sent, sending⟩ := runCall_late stage
  have same : config = config' :=
    Option.some.inj (fails.registered.symm.trans sending.registered)
  have arm := disposition_of_transient fails.transient
  have settled := sending.settled
  rw [← same] at settled
  cases result : (routeOf call config.writePath).1.result c.fromStr
      (routeOf call config.writePath).2 env.reply with
  | ok _ =>
    rw [result] at arm
    cases arm
  | error error =>
    rw [result] at arm settled
    rw [settle_enqueue c env s sent arm] at settled
    refine ⟨s.queuedOperation env error, ?_, sending.queued error, sending.kind⟩
    rw [settled, enqueueForRetry_queue, sending.queue]

theorem ofKind_none_eq_iff {c : Coordinator p Mirror Queue} {env : CallEnv}
    {session : Option SessionPayload} {call : Call} {kind : QueuedOperationKind}
    (intended : intent c env session call = some kind) (config : EntityConfig)
    (table entityId : String) :
    Dispatch.ofKind config table entityId none kind =
        Dispatch.ofKind config table entityId (namedOp call) kind ↔
      OpSurvives call config.writePath := by
  cases call with
  | persist table' record op =>
    obtain ⟨prepared, _, rfl⟩ := Option.map_eq_some_iff.mp intended
    unfold Dispatch.ofKind OpSurvives
    cases config.writePath with
    | postgREST => simp
    | edge function defaultOp =>
      cases op with
      | none => simp [namedOp]
      | some op => simp [namedOp, eq_comm]
  | delete table' entityId' version =>
    cases intended
    unfold OpSurvives
    cases config.writePath <;> simp [namedOp]

/-- After a transient failure the dispatch can be read off the queued operation exactly if the
call named no operation, or the default one, or its table needs none. -/
theorem recoveredBy_replayed_iff {c : Coordinator p Mirror Queue} {env : CallEnv}
    {w : World Mirror Queue} {call : Call} {config : EntityConfig}
    (fails : FailsTransiently c env w call config) :
    RecoveredBy replayed c env w call ↔ OpSurvives call config.writePath := by
  obtain ⟨mirror, stage⟩ := fails.stored
  obtain ⟨request, entityId, kind, logged, named, intended, dispatched⟩ :=
    runCall_request fails.registered stage
  rw [← ofKind_none_eq_iff intended config call.table entityId, dispatched]
  have reads : ∀ op, QueuedFor env call op → intent c env w.session call = some op.kind →
      replayed c.registry op = Dispatch.ofKind config call.table entityId none kind := by
    intro op queued kinds
    have row : op.entityId = entityId := Option.some.inj (queued.entityId.symm.trans named)
    have same : op.kind = kind := Option.some.inj (kinds.symm.trans intended)
    simp [replayed, queued.table, fails.registered, row, same]
  constructor
  · rintro ⟨request', op, logged', _, queued, kinds, read⟩
    rw [logged, List.cons.injEq] at logged'
    rw [reads op queued kinds, ← logged'.1] at read
    exact read
  · intro recovers
    obtain ⟨op, enqueued, queued, kinds⟩ := fails.enqueued
    exact ⟨request, op, logged, enqueued, queued, kinds, (reads op queued kinds).trans recovers⟩

/-! One table behind an Edge Function whose default operation is `create`. -/

def notesConfig : EntityConfig :=
  { EntityConfig.synced "notes" "Note" with writePath := .edge "notes-write" "create" }

def notesCoordinator : Coordinator Registry.RoundTrip.taggedPrimitives Unit MemoryQueue :=
  { kvsCoordinator memoryQueue with registry := (Registry.register {} notesConfig).getD {} }

def note : Map := (∅ : Map).insert "id" (.string "n1")

def writeNote (op : String) : Call := .persist "notes" note (some op)

def notePayload : Value := Map.toValue (note.insert "user_id" (.string "user-1"))

def offline : CallEnv := callAt 1 (.failed "offline")

def afterNote (op : String) : World Unit MemoryQueue :=
  (runCall notesCoordinator offline (signedInWorld .new) (writeNote op)).1

theorem writeNote_fails (op : String) :
    FailsTransiently notesCoordinator offline (signedInWorld .new) (writeNote op) notesConfig where
  registered :=
    (by decide : notesCoordinator.registry.configForTable "notes" = some notesConfig)
  stored := ⟨(), rfl⟩
  transient := rfl

theorem afterNote_requests (op : String) :
    (afterNote op).requests = [.edge "notes-write" op notePayload "token"] := rfl

theorem afterNote_queue (op other : String) : (afterNote op).queue = (afterNote other).queue := rfl

/-- Two calls that differ in their operation enqueue one and the same operation, so no function
of it and the registry tells their dispatches apart. -/
theorem no_function_recovers :
    ¬ ∃ read : Registry → QueuedOperation → Option Dispatch,
      ∀ (p : Primitives) (Mirror Queue : Type) (c : Coordinator p Mirror Queue) (env : CallEnv)
        (w : World Mirror Queue) (call : Call) (config : EntityConfig),
        FailsTransiently c env w call config → RecoveredBy read c env w call := by
  rintro ⟨read, recovers⟩
  have readOf : ∀ op, ∃ queued : QueuedOperation, (afterNote op).queue.inner = [queued] ∧
      read notesCoordinator.registry queued = some (.edge "notes-write" op notePayload) := by
    intro op
    obtain ⟨request, queued, logged, enqueued, _, _, found⟩ :=
      recovers _ _ _ notesCoordinator offline (signedInWorld .new) (writeNote op) notesConfig
        (writeNote_fails op)
    obtain ⟨sent, _⟩ := List.cons.inj ((afterNote_requests op).symm.trans logged)
    subst sent
    exact ⟨queued, congrArg MemoryQueue.inner enqueued, found⟩
  obtain ⟨created, createdQueue, createdRead⟩ := readOf "create"
  obtain ⟨updated, updatedQueue, updatedRead⟩ := readOf "update"
  rw [afterNote_queue "create" "update", updatedQueue] at createdQueue
  obtain ⟨same, _⟩ := List.cons.inj createdQueue
  rw [same, createdRead] at updatedRead
  simp at updatedRead

theorem recoveredBy_default :
    RecoveredBy replayed notesCoordinator offline (signedInWorld .new) (writeNote "create") :=
  (recoveredBy_replayed_iff (writeNote_fails "create")).mpr (by
    rintro op ⟨⟩
    rfl)

end Polykit.Sync.Redispatch
