/- Module: Polykit/Sync/Calls
   generality: I
   source: crates/polybase/src/sync/coordinator.rs
   digest: Both write operations as one call, and what a call can do to the queue. -/

import Polykit.Registry.RoundTrip
import Polykit.Sync.Routes

set_option autoImplicit false
set_option relaxedAutoImplicit false

namespace Polykit.Sync.Calls

open Auth Contract Crypto Entity Errors Json Kvs.Schema OfflineQueue.Memory Routes
open Wire.Edge Wire.Http Wire.Push

inductive Call
  | persist (table : String) (record : Map) (op : Option String)
  | delete (table entityId : String) (version : Int64)

def Call.table : Call → String
  | .persist table _ _ | .delete table _ _ => table

def Call.entityId : Call → Option String
  | .persist _ record _ => record["id"]?.bind Value.asStr
  | .delete _ entityId _ => some entityId

def Call.version : Call → Option Int64
  | .persist _ record _ => record["version"]?.bind Value.asI64
  | .delete _ _ version => some version

def queuedVersion (op : QueuedOperation) : Option Int64 :=
  match op.kind with
  | .write payload => (payload.get "version").bind Value.asI64
  | .tombstone version => some version
  | .hardDelete => none

variable {p : Primitives} {Mirror Queue : Type}

def runCall (c : Coordinator p Mirror Queue) (env : CallEnv) (w : World Mirror Queue) :
    Call → World Mirror Queue × Except PolyError Unit
  | .persist table record op => c.persistChangeWithOp env w table record op
  | .delete table entityId version => c.delete env w table entityId version

/-! Dispatch and publishing leave the queue alone. -/

theorem publishAll_eq (w : World Mirror Queue) (events : List PolyEvent) :
    w.publishAll events = { w with events := events.reverse ++ w.events } := by
  unfold World.publishAll
  induction events generalizing w with
  | nil => rfl
  | cons event rest ih =>
    rw [List.foldl_cons, ih]
    simp [World.publish]

@[simp] theorem publishAll_queue (w : World Mirror Queue) (events : List PolyEvent) :
    (w.publishAll events).queue = w.queue := by
  rw [publishAll_eq]

theorem dispatchWrite_world (c : Coordinator p Mirror Queue) (env : CallEnv) (table : String)
    (prepared : Prepared) (op : Option String) (w : World Mirror Queue) :
    ∃ echo requests, (c.dispatchWrite env table prepared op w).1 =
      { w with echo := echo, requests := requests } := by
  unfold Coordinator.dispatchWrite pushUpsert edgeCall
  split
  · split
    · exact ⟨w.echo, w.requests, rfl⟩
    · exact ⟨_, _, rfl⟩
  · exact ⟨_, _, rfl⟩

theorem dispatchDelete_world (c : Coordinator p Mirror Queue) (env : CallEnv)
    (table entityId : String) (version : Int64) (config : EntityConfig) (accessToken : String)
    (w : World Mirror Queue) :
    ∃ echo requests, (c.dispatchDelete env table entityId version config accessToken w).1 =
      { w with echo := echo, requests := requests } := by
  unfold Coordinator.dispatchDelete
  split
  · exact ⟨_, _, rfl⟩
  · exact ⟨_, _, rfl⟩

@[simp] theorem dispatchWrite_queue (c : Coordinator p Mirror Queue) (env : CallEnv)
    (table : String) (prepared : Prepared) (op : Option String) (w : World Mirror Queue) :
    (c.dispatchWrite env table prepared op w).1.queue = w.queue := by
  obtain ⟨echo, requests, same⟩ := dispatchWrite_world c env table prepared op w
  rw [same]

@[simp] theorem dispatchDelete_queue (c : Coordinator p Mirror Queue) (env : CallEnv)
    (table entityId : String) (version : Int64) (config : EntityConfig) (accessToken : String)
    (w : World Mirror Queue) :
    (c.dispatchDelete env table entityId version config accessToken w).1.queue = w.queue := by
  obtain ⟨echo, requests, same⟩ :=
    dispatchDelete_world c env table entityId version config accessToken w
  rw [same]

theorem enqueueForRetry_queue (c : Coordinator p Mirror Queue) (env : CallEnv) (s : Settlement)
    (error : PolyError) (w : World Mirror Queue) :
    (c.enqueueForRetry env s error w).1.queue =
      (c.queue.enqueue w.queue (s.queuedOperation env error)).1 := by
  unfold Coordinator.enqueueForRetry
  split
  · rename_i queue failure result
    rw [result]
  · rename_i queue result
    rw [result, publishAll_queue]

theorem settle_queue (c : Coordinator p Mirror Queue) (env : CallEnv) (s : Settlement)
    (w : World Mirror Queue) (result : Except PolyError Unit) :
    (c.settle env s w result).1.queue = w.queue ∨
      ∃ error, (c.settle env s w result).1.queue =
        (c.queue.enqueue w.queue (s.queuedOperation env error)).1 := by
  cases arm : disposition result with
  | success =>
    rw [settle_success c env s w arm]
    simp
  | benign =>
    rw [settle_benign c env s w arm]
    simp
  | enqueue =>
    cases result with
    | ok _ => cases arm
    | error error =>
      rw [settle_enqueue c env s w arm]
      exact .inr ⟨error, enqueueForRetry_queue c env s error w⟩
  | permanent =>
    cases result with
    | ok _ => cases arm
    | error error =>
      rw [settle_permanent c env s w arm]
      left
      dsimp only
      split <;> rfl

/-! Whatever the server answers, the mirror stays as the local write left it. -/

@[simp] theorem publishAll_mirror (w : World Mirror Queue) (events : List PolyEvent) :
    (w.publishAll events).mirror = w.mirror := by
  rw [publishAll_eq]

theorem dispatchWrite_mirror (c : Coordinator p Mirror Queue) (env : CallEnv)
    (table : String) (prepared : Prepared) (op : Option String) (w : World Mirror Queue) :
    (c.dispatchWrite env table prepared op w).1.mirror = w.mirror := by
  obtain ⟨echo, requests, same⟩ := dispatchWrite_world c env table prepared op w
  rw [same]

theorem dispatchDelete_mirror (c : Coordinator p Mirror Queue) (env : CallEnv)
    (table entityId : String) (version : Int64) (config : EntityConfig) (accessToken : String)
    (w : World Mirror Queue) :
    (c.dispatchDelete env table entityId version config accessToken w).1.mirror = w.mirror := by
  obtain ⟨echo, requests, same⟩ :=
    dispatchDelete_world c env table entityId version config accessToken w
  rw [same]

theorem settle_world (c : Coordinator p Mirror Queue) (env : CallEnv) (s : Settlement)
    (w : World Mirror Queue) (result : Except PolyError Unit) :
    ∃ queue events, (c.settle env s w result).1 = { w with queue := queue, events := events } := by
  unfold Coordinator.settle
  split
  · exact ⟨_, _, publishAll_eq ..⟩
  · exact ⟨_, _, publishAll_eq ..⟩
  · split
    · unfold Coordinator.enqueueForRetry
      split
      · exact ⟨_, _, rfl⟩
      · exact ⟨_, _, publishAll_eq ..⟩
    · split
      · exact ⟨_, _, rfl⟩
      · exact ⟨_, _, rfl⟩

theorem settle_mirror (c : Coordinator p Mirror Queue) (env : CallEnv) (s : Settlement)
    (w : World Mirror Queue) (result : Except PolyError Unit) :
    (c.settle env s w result).1.mirror = w.mirror := by
  obtain ⟨queue, events, same⟩ := settle_world c env s w result
  rw [same]

theorem persistChange_ok {c : Coordinator p Mirror Queue} {env : CallEnv}
    {w after : World Mirror Queue} {table : String} {record : Map}
    (h : c.persistChange env w table record = (after, .ok ())) :
    ∃ prepared, c.prepare w.session env.nonces table record = .ok prepared ∧
      c.localStore.upsertRecord w.mirror table
        (prepared.config.mapRemoteToLocal prepared.record) = (after.mirror, .ok ()) := by
  unfold Coordinator.persistChange Coordinator.persistChangeWithOp at h
  split at h
  · cases h
  · rename_i prepared ready
    split at h
    · cases h
    · rename_i mirror stored
      have kept : after.mirror = mirror := by
        have final := congrArg (fun result => result.1.mirror) h
        simp only [settle_mirror, dispatchWrite_mirror] at final
        exact final.symm
      exact ⟨prepared, ready, kept ▸ stored⟩

/-- An operation that `call` may enqueue: it names the call's row, carries the time of the
call and no retries, and a version only if it is the call's. -/
structure QueuedFor (env : CallEnv) (call : Call) (op : QueuedOperation) : Prop where
  table : op.table = call.table
  entityId : call.entityId = some op.entityId
  stamp : op.queuedAtMicros = nowMicros env.epochMicros
  retryCount : op.retryCount = 0
  version : ∀ version, queuedVersion op = some version → call.version = some version

theorem prepare_eq_ok {c : Coordinator p Mirror Queue} {session : Option SessionPayload}
    {nonces : Nat → Nonce} {table : String} {record : Map} {prepared : Prepared}
    (h : c.prepare session nonces table record = .ok prepared) :
    c.registry.configForTable table = some prepared.config ∧
      record["id"]?.bind Value.asStr = some prepared.entityId ∧
      session = some prepared.session ∧
      prepared.config.serializeForRemote c.encryption nonces prepared.session.userId record =
        .ok prepared.record := by
  unfold Coordinator.prepare at h
  split at h
  · cases h
  · rename_i config registered
    split at h
    · cases h
    · rename_i entityId named
      split at h
      · cases h
      · split at h
        · cases h
        · rename_i serialized
          cases h
          exact ⟨registered, named, rfl, serialized⟩

theorem queuedFor_write {c : Coordinator p Mirror Queue} {env : CallEnv}
    {session : Option SessionPayload} {table : String} {record : Map} {op : Option String}
    {prepared : Prepared} (h : c.prepare session env.nonces table record = .ok prepared)
    (error : PolyError) :
    QueuedFor env (.persist table record op)
      ((writeSettlement table prepared).queuedOperation env error) where
  table := rfl
  entityId := (prepare_eq_ok h).2.1
  stamp := rfl
  retryCount := rfl
  version := by
    intro version carried
    have field : (prepared.record["version"]?.bind Value.asI64) = some version := by
      simpa [queuedVersion, Settlement.queuedOperation, writeSettlement, Map.get_toValue]
        using carried
    rcases serializeForRemote_keptOrText (prepare_eq_ok h).2.2.2 "version" with kept | ⟨text, text_eq⟩
    · rw [kept] at field
      exact field
    · rw [text_eq] at field
      cases field

theorem queuedFor_delete (env : CallEnv) (table entityId : String) (version : Int64)
    (error : PolyError) :
    QueuedFor env (.delete table entityId version)
      ((deleteSettlement table entityId version).queuedOperation env error) where
  table := rfl
  entityId := rfl
  stamp := rfl
  retryCount := rfl
  version := fun _ h => h

theorem call_queue (c : Coordinator p Mirror Queue) (env : CallEnv) (w : World Mirror Queue)
    (call : Call) :
    (runCall c env w call).1.queue = w.queue ∨
      ∃ op, QueuedFor env call op ∧
        (runCall c env w call).1.queue = (c.queue.enqueue w.queue op).1 := by
  cases call with
  | persist table record op =>
    simp only [runCall, Coordinator.persistChangeWithOp]
    split
    · exact .inl rfl
    · rename_i prepared ready
      split
      · exact .inl rfl
      · rename_i mirror stored
        rcases settle_queue c env (writeSettlement table prepared)
          (c.dispatchWrite env table prepared op { w with mirror := mirror }).1
          (c.dispatchWrite env table prepared op { w with mirror := mirror }).2 with
          kept | ⟨error, queued⟩
        · exact .inl (kept.trans (dispatchWrite_queue ..))
        · rw [dispatchWrite_queue] at queued
          exact .inr ⟨_, queuedFor_write ready error, queued⟩
  | delete table entityId version =>
    simp only [runCall, Coordinator.delete]
    split
    · exact .inl rfl
    · rename_i config registered
      split
      · exact .inl rfl
      · rename_i session signedIn
        split
        · exact .inl rfl
        · rename_i mirror stored
          rcases settle_queue c env (deleteSettlement table entityId version)
            (c.dispatchDelete env table entityId version config session.accessToken
              { w with mirror := mirror }).1
            (c.dispatchDelete env table entityId version config session.accessToken
              { w with mirror := mirror }).2 with kept | ⟨error, queued⟩
          · exact .inl (kept.trans (dispatchDelete_queue ..))
          · rw [dispatchDelete_queue] at queued
            exact .inr ⟨_, queuedFor_delete env table entityId version error, queued⟩

/-! A key-value table over the store that keeps nothing, for runs that compute. -/

def kvsCoordinator (queue : OfflineQueue Queue) :
    Coordinator Registry.RoundTrip.taggedPrimitives Unit Queue where
  registry := (Kvs.Schema.register {}).getD {}
  encryption := none
  localStore := nullLocalStore
  queue := queue
  fromStr _ := .error "expected value"

def signedInWorld (queue : Queue) : World Unit Queue where
  session := some ⟨"user-1", "token", "refresh", 4102444800, 1⟩
  mirror := ()
  queue := queue

def themeRecord (version : Int64) : Map :=
  ((((∅ : Map).insert "id" (.string "prefs::theme")).insert "namespace" (.string "prefs")).insert
    "key" (.string "theme")).insert "version" (.number (Number.ofInt64 version))

def callAt (epochMicros : Int) (reply : Reply) : CallEnv where
  nonces _ := Registry.RoundTrip.zeroNonce
  utcNow := ⟨"1970-01-01T00:00:00+00:00", 0⟩
  instant := 0
  epochMicros := epochMicros
  reply := reply

def created : Reply := .responded ⟨201, by decide⟩ (.ok "")

def writeTheme (version : Int64) : Call := .persist "kvs" (themeRecord version) none

end Polykit.Sync.Calls
