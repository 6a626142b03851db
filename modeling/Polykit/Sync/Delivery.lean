/- Module: Polykit/Sync/Delivery
   generality: I
   source: crates/polybase/src/sync/coordinator.rs, crates/polybase/src/offline_queue/mod.rs
   digest: A write that reports success is on the server or queued, a failed one left no trace. -/

import Polykit.Sync.Freshness

set_option autoImplicit false
set_option relaxedAutoImplicit false

namespace Polykit.Sync.Delivery

open Auth Calls Contract Crypto Entity Errors Freshness Json OfflineQueue.Memory Routes
open Wire.Edge Wire.Http Wire.Push

variable {p : Primitives} {Mirror Queue : Type}

/-- A call up to its local write: the mirror it leaves, and whether it goes on. -/
def localStage (c : Coordinator p Mirror Queue) (env : CallEnv) (w : World Mirror Queue) :
    Call → Mirror × Except PolyError Unit
  | .persist table record _ =>
      match c.prepare w.session env.nonces table record with
      | .error error => (w.mirror, .error error)
      | .ok prepared =>
          c.localStore.upsertRecord w.mirror table
            (prepared.config.mapRemoteToLocal prepared.record)
  | .delete table entityId version =>
      match c.registry.configForTable table, w.session with
      | none, _ => (w.mirror, .error (.registry (.tableNotRegistered table)))
      | some _, none => (w.mirror, .error .noSession)
      | some _, some _ => c.localStore.markDeleted w.mirror table entityId version

/-- What a retry of the call has to carry: the prepared payload or the tombstone's version. -/
def intent (c : Coordinator p Mirror Queue) (env : CallEnv) (session : Option SessionPayload) :
    Call → Option QueuedOperationKind
  | .persist table record _ =>
      (c.prepare session env.nonces table record).toOption.map
        (fun prepared => .write prepared.record.toValue)
  | .delete _ _ version => some (.tombstone version)

theorem runCall_early {c : Coordinator p Mirror Queue} {env : CallEnv} {w : World Mirror Queue}
    {call : Call} {mirror : Mirror} {error : PolyError}
    (h : localStage c env w call = (mirror, .error error)) :
    runCall c env w call = ({ w with mirror := mirror }, .error error) := by
  cases call with
  | persist table record op =>
    simp only [localStage] at h
    cases ready : c.prepare w.session env.nonces table record with
    | error refusal =>
      rw [ready] at h
      cases h
      simp only [runCall, Coordinator.persistChangeWithOp, ready]
    | ok prepared =>
      rw [ready] at h
      dsimp only at h
      simp only [runCall, Coordinator.persistChangeWithOp, ready, h]
  | delete table entityId version =>
    obtain ⟨held, before, queue, echo, requests, events⟩ := w
    simp only [localStage] at h
    simp only [runCall, Coordinator.delete]
    split at h
    · rename_i unregistered
      cases h
      rw [unregistered]
    · rename_i registered
      cases h
      simp only [registered]
    · rename_i registered
      simp only [registered, h]

/-- A call that got past its local write has sent its request and marked its echo, and is
about to settle the result of its route. -/
structure Sent (c : Coordinator p Mirror Queue) (env : CallEnv) (w : World Mirror Queue)
    (call : Call) (config : EntityConfig) (s : Settlement) (sent : World Mirror Queue) :
    Prop where
  registered : c.registry.configForTable call.table = some config
  queued : ∀ error, QueuedFor env call (s.queuedOperation env error)
  kind : intent c env w.session call = some s.kind
  request : ∃ request, sent.requests = request :: w.requests
  queue : sent.queue = w.queue
  settled : runCall c env w call = c.settle env s sent
    ((routeOf call config.writePath).1.result c.fromStr (routeOf call config.writePath).2 env.reply)

theorem prepare_keeps_id {c : Coordinator p Mirror Queue} {session : Option SessionPayload}
    {nonces : Nat → Nonce} {table : String} {record : Map} {prepared : Prepared}
    (h : c.prepare session nonces table record = .ok prepared) :
    (prepared.record["id"]?.bind Value.asStr).isSome := by
  obtain ⟨_, named, _, serialized⟩ := prepare_eq_ok h
  rcases serializeForRemote_keptOrText serialized "id" with kept | ⟨text, written⟩
  · rw [kept, named]
    rfl
  · rw [written]
    rfl

theorem dispatchWrite_sent (c : Coordinator p Mirror Queue) (env : CallEnv) (table : String)
    {prepared : Prepared} (op : Option String) (w : World Mirror Queue)
    (id : (prepared.record["id"]?.bind Value.asStr).isSome) :
    ∃ request, (c.dispatchWrite env table prepared op w).1.requests = request :: w.requests ∧
      request.row = some prepared.record.toValue := by
  unfold Coordinator.dispatchWrite pushUpsert edgeCall
  split
  · split
    · rename_i absent
      rw [absent] at id
      cases id
    · exact ⟨_, rfl, rfl⟩
  · exact ⟨_, rfl, rfl⟩

theorem dispatchDelete_sent (c : Coordinator p Mirror Queue) (env : CallEnv)
    (table entityId : String) (version : Int64) (config : EntityConfig) (accessToken : String)
    (w : World Mirror Queue) :
    ∃ request, (c.dispatchDelete env table entityId version config accessToken w).1.requests =
      request :: w.requests := by
  unfold Coordinator.dispatchDelete
  split
  · exact ⟨_, rfl⟩
  · exact ⟨_, rfl⟩

theorem runCall_late {c : Coordinator p Mirror Queue} {env : CallEnv} {w : World Mirror Queue}
    {call : Call} {mirror : Mirror} (h : localStage c env w call = (mirror, .ok ())) :
    ∃ config s sent, Sent c env w call config s sent := by
  cases call with
  | persist table record op =>
    simp only [localStage] at h
    split at h
    · cases h
    · rename_i prepared ready
      let stored : World Mirror Queue := { w with mirror := mirror }
      have id := prepare_keeps_id ready
      refine ⟨prepared.config, writeSettlement table prepared,
        (c.dispatchWrite env table prepared op stored).1, ?_⟩
      exact {
        registered := (prepare_eq_ok ready).1
        queued := queuedFor_write ready
        kind := by
          simp only [intent, ready]
          rfl
        request := by
          obtain ⟨request, logged, _⟩ := dispatchWrite_sent c env table op stored id
          exact ⟨request, logged⟩
        queue := dispatchWrite_queue ..
        settled := by
          have result := dispatchWrite_result c env table prepared op stored id
          simp only [runCall, Coordinator.persistChangeWithOp, ready, h]
          rw [result]
          cases prepared.config.writePath <;> rfl }
  | delete table entityId version =>
    obtain ⟨held, before, queue, echo, requests, events⟩ := w
    simp only [localStage] at h
    split at h
    · cases h
    · cases h
    · rename_i config session registered
      let stored : World Mirror Queue := ⟨some session, mirror, queue, echo, requests, events⟩
      refine ⟨config, deleteSettlement table entityId version,
        (c.dispatchDelete env table entityId version config session.accessToken stored).1, ?_⟩
      exact {
        registered := registered
        queued := queuedFor_delete env table entityId version
        kind := rfl
        request := dispatchDelete_sent ..
        queue := dispatchDelete_queue ..
        settled := by
          have result := dispatchDelete_result c env table entityId version config
            session.accessToken stored
          simp only [runCall, Coordinator.delete, registered, h]
          rw [result]
          cases config.writePath <;> rfl }

/-! A route that ends in success or in the benign rejection was answered so by the server. -/

theorem accepts_of_callResult {fromStr : EnvelopeDecoder} {function defaultOp : String}
    {reply : Reply} {ok : EdgeOk} (h : callResult fromStr function reply = .ok ok) :
    accepts fromStr (.edge function defaultOp) reply = true := by
  unfold callResult at h
  split at h
  · cases h
  · cases h
  · rename_i status body
    split at h
    · rename_i success
      split at h
      · cases h
      · rename_i envelope decoded
        split at h
        · rename_i flagged
          simp [accepts, success, decoded, flagged, Except.toOption]
        · cases h
    · cases h

theorem outcome_of_success {fromStr : EnvelopeDecoder} {call : Call} {path : WritePath}
    {reply : Reply}
    (h : disposition ((routeOf call path).1.result fromStr (routeOf call path).2 reply) =
      .success) : outcome fromStr call path reply = .accepted := by
  have answered : ∃ value, (routeOf call path).1.result fromStr (routeOf call path).2 reply =
      .ok value := by
    unfold disposition at h
    split at h
    · rename_i succeeded
      exact ⟨(), succeeded⟩
    · cases h
    · split at h <;> cases h
  obtain ⟨value, answered⟩ := answered
  have accepted : accepts fromStr path reply = true := by
    cases path with
    | postgREST =>
      cases call with
      | persist table record op =>
        simp only [routeOf, Route.result, upsertResult] at answered
        split at answered
        · cases answered
        · split at answered
          · rename_i success
            exact success
          · split at answered <;> cases answered
      | delete table entityId version =>
        simp only [routeOf, Route.result, updateTombstoneResult] at answered
        split at answered
        · cases answered
        · split at answered
          · rename_i success
            exact success
          · cases answered
    | edge function defaultOp =>
      have called : ∃ ok, callResult fromStr function reply = .ok ok := by
        cases call with
        | persist table record op =>
          obtain ⟨ok, called, _⟩ := Lib.Fallible.map_eq_ok.mp answered
          exact ⟨ok, called⟩
        | delete table entityId version =>
          obtain ⟨ok, called, _⟩ := Lib.Fallible.map_eq_ok.mp answered
          exact ⟨ok, called⟩
      obtain ⟨ok, called⟩ := called
      exact accepts_of_callResult called
  simp [outcome, accepted]

theorem classifyError_edge (function : String) (status : StatusCode) (error : EdgeErrorBody) :
    ∃ edge, classifyError function status error = .edge edge := by
  unfold classifyError
  split
  · exact ⟨_, rfl⟩
  · split
    · split <;> exact ⟨_, rfl⟩
    · dsimp only
      split <;> exact ⟨_, rfl⟩

theorem callResult_error {fromStr : EnvelopeDecoder} {function : String} {reply : Reply}
    {error : PolyError} (h : callResult fromStr function reply = .error error) :
    ∃ edge, error = .edge edge := by
  unfold callResult at h
  split at h
  · cases h
    exact ⟨_, rfl⟩
  · cases h
    exact ⟨_, rfl⟩
  · split at h
    · split at h
      · cases h
        exact ⟨_, rfl⟩
      · split at h
        · split at h <;> cases h
          exact ⟨_, rfl⟩
        · cases h
          exact classifyError_edge ..
    · cases h
      exact classifyError_edge ..

theorem outcome_of_benign {fromStr : EnvelopeDecoder} {call : Call} {path : WritePath}
    {reply : Reply}
    (h : disposition ((routeOf call path).1.result fromStr (routeOf call path).2 reply) =
      .benign) :
    outcome fromStr call path reply = .accepted ∨
      outcome fromStr call path reply = .sameVersion := by
  have ignored : ∃ table, (routeOf call path).1.result fromStr (routeOf call path).2 reply =
      .error (.push (.sameVersionMutationIgnored table)) := by
    unfold disposition at h
    split at h
    · cases h
    · rename_i table ignored
      exact ⟨table, ignored⟩
    · split at h <;> cases h
  obtain ⟨target, ignored⟩ := ignored
  have benign : isSameVersionMutationMessage (rejectionMessage fromStr path reply) = true := by
    cases path with
    | postgREST =>
      cases call with
      | persist table record op =>
        simp only [routeOf, Route.result, upsertResult] at ignored
        split at ignored
        · cases ignored
        · split at ignored
          · cases ignored
          · split at ignored
            · rename_i same
              exact same
            · unfold classifyPushErrorMessage at ignored
              split at ignored <;> cases ignored
      | delete table entityId version =>
        simp only [routeOf, Route.result, updateTombstoneResult] at ignored
        split at ignored
        · cases ignored
        · split at ignored
          · cases ignored
          · unfold classifyPushErrorMessage at ignored
            split at ignored <;> cases ignored
    | edge function defaultOp =>
      have refused : ∀ error, callResult fromStr function reply = .error error →
          (callResult fromStr function reply).map (fun _ => ()) ≠
            .error (.push (.sameVersionMutationIgnored target)) := by
        intro error refused same
        obtain ⟨edge, rfl⟩ := callResult_error refused
        rw [refused] at same
        cases same
      cases answered : callResult fromStr function reply with
      | ok ok => cases call <;> simp [routeOf, Route.result, answered, Except.map] at ignored
      | error error => cases call <;> exact (refused error answered ignored).elim
  by_cases accepted : accepts fromStr path reply = true
  · exact .inl (by simp [outcome, accepted])
  · have arm : disposition ((routeOf call path).1.result fromStr (routeOf call path).2 reply) ≠
        .enqueue := by
      rw [h]
      decide
    exact .inr (by simp [outcome, accepted, arm, benign])

theorem settle_cases {c : Coordinator p Mirror MemoryQueue} (memory : c.queue = memoryQueue)
    {env : CallEnv} {s : Settlement} {w : World Mirror MemoryQueue}
    {result : Except PolyError Unit} {ended : World Mirror MemoryQueue × Except PolyError Unit}
    (h : ended = c.settle env s w result) :
    (ended.2 = .ok () ∧ (disposition result = .success ∨ disposition result = .benign)) ∨
      (ended.2 = .ok () ∧
        ∃ error, ended.1.queue = w.queue.enqueue (s.queuedOperation env error)) ∨
      ∃ error, ended.2 = .error error ∧ ended.1.queue = w.queue := by
  cases arm : disposition result with
  | success =>
    rw [settle_success c env s w arm] at h
    subst h
    exact .inl ⟨rfl, .inl rfl⟩
  | benign =>
    rw [settle_benign c env s w arm] at h
    subst h
    exact .inl ⟨rfl, .inr rfl⟩
  | enqueue =>
    cases result with
    | ok _ => cases arm
    | error error =>
      rw [settle_enqueue c env s w arm] at h
      subst h
      have reported : (c.enqueueForRetry env s error w).2 = .ok () := by
        simp [Coordinator.enqueueForRetry, memory, memoryQueue]
      have enqueued := enqueueForRetry_queue c env s error w
      rw [memory] at enqueued
      exact .inr (.inl ⟨reported, error, enqueued⟩)
  | permanent =>
    cases result with
    | ok _ => cases arm
    | error error =>
      rw [settle_permanent c env s w arm] at h
      subst h
      refine .inr (.inr ⟨error, rfl, ?_⟩)
      dsimp only
      split <;> rfl

theorem filter_enqueue (queue : MemoryQueue) (op : QueuedOperation) :
    (queue.enqueue op).inner.filter (fun entry => decide (entry.key = op.key)) = [op] := by
  have none_left : (queue.inner.filter (fun existing =>
      !(existing.table == op.table && existing.entityId == op.entityId))).filter
        (fun entry => decide (entry.key = op.key)) = [] := by
    rw [List.filter_eq_nil_iff]
    intro entry member same
    have other := (List.mem_filter.mp member).2
    simp_all [QueuedOperation.key, ContractOperation.key, QueuedOperation.toContract]
  simp only [MemoryQueue.enqueue, List.filter_append, none_left, List.nil_append]
  simp

/-- What a call may leave behind. An early failure leaves the world as the local store left it,
any other call sends one request. Success means that the server has the write or that the only
operation queued for the row carries it, and a late failure queues nothing. -/
structure NeverLost (c : Coordinator p Mirror MemoryQueue) (env : CallEnv)
    (w : World Mirror MemoryQueue) (call : Call) : Prop where
  early : ∀ mirror error, localStage c env w call = (mirror, .error error) →
    runCall c env w call = ({ w with mirror := mirror }, .error error)
  sent : ∀ mirror, localStage c env w call = (mirror, .ok ()) →
    ∃ request, (runCall c env w call).1.requests = request :: w.requests
  delivered : (runCall c env w call).2 = .ok () →
    serverHas c env w call = true ∨
      ∃ op, QueuedFor env call op ∧ intent c env w.session call = some op.kind ∧
        (runCall c env w call).1.queue.inner.filter (fun entry => decide (entry.key = op.key)) =
          [op]
  late : ∀ mirror error, localStage c env w call = (mirror, .ok ()) →
    (runCall c env w call).2 = .error error → (runCall c env w call).1.queue = w.queue

theorem Sent.logged {c : Coordinator p Mirror Queue} {env : CallEnv} {w : World Mirror Queue}
    {call : Call} {config : EntityConfig} {s : Settlement} {sent : World Mirror Queue}
    (h : Sent c env w call config s sent) :
    ∃ request, (runCall c env w call).1.requests = request :: w.requests := by
  obtain ⟨request, logged⟩ := h.request
  obtain ⟨queue, events, same⟩ := settle_world c env s sent
    ((routeOf call config.writePath).1.result c.fromStr (routeOf call config.writePath).2 env.reply)
  refine ⟨request, ?_⟩
  rw [h.settled, same]
  exact logged

theorem Sent.serverHas {c : Coordinator p Mirror MemoryQueue} {env : CallEnv}
    {w sent : World Mirror MemoryQueue} {call : Call} {config : EntityConfig} {s : Settlement}
    (h : Sent c env w call config s sent) {result : Except PolyError Unit}
    (route : result = (routeOf call config.writePath).1.result c.fromStr
      (routeOf call config.writePath).2 env.reply)
    (answered : disposition result = .success ∨ disposition result = .benign) :
    Freshness.serverHas c env w call = true := by
  have grown : ((runCall c env w call).1.requests.length != w.requests.length) = true := by
    obtain ⟨request, logged⟩ := h.logged
    rw [logged]
    simp
  have has : outcome c.fromStr call config.writePath env.reply = .accepted ∨
      outcome c.fromStr call config.writePath env.reply = .sameVersion := by
    subst route
    rcases answered with success | benign
    · exact .inl (outcome_of_success success)
    · exact outcome_of_benign benign
  unfold Freshness.serverHas
  rw [grown, h.registered]
  rcases has with has | has <;> simp [has]

/-- No write is lost, whatever the server answers, and no failed one is half applied. -/
theorem call_never_lost {c : Coordinator p Mirror MemoryQueue} (memory : c.queue = memoryQueue)
    (env : CallEnv) (w : World Mirror MemoryQueue) (call : Call) : NeverLost c env w call := by
  refine ⟨fun mirror error failed => runCall_early failed, ?_, ?_, ?_⟩
  · intro mirror stored
    obtain ⟨config, s, world, sending⟩ := runCall_late stored
    exact sending.logged
  · intro succeeded
    cases stage : localStage c env w call with
    | mk mirror stored =>
      cases stored with
      | error error =>
        rw [runCall_early stage] at succeeded
        cases succeeded
      | ok _ =>
        obtain ⟨config, s, world, sending⟩ := runCall_late stage
        rcases settle_cases memory sending.settled with
          ⟨_, answered⟩ | ⟨_, error, enqueued⟩ | ⟨error, failed, _⟩
        · exact .inl (sending.serverHas rfl answered)
        · right
          refine ⟨s.queuedOperation env error, sending.queued error, sending.kind, ?_⟩
          rw [enqueued]
          exact filter_enqueue _ _
        · rw [failed] at succeeded
          cases succeeded
  · intro mirror error stored failed
    obtain ⟨config, s, world, sending⟩ := runCall_late stored
    rcases settle_cases memory sending.settled with
      ⟨succeeded, _⟩ | ⟨succeeded, _⟩ | ⟨_, _, kept⟩
    · rw [failed] at succeeded
      cases succeeded
    · rw [failed] at succeeded
      cases succeeded
    · exact kept.trans sending.queue

/-- An offline write reports success, and the one operation queued for its row carries it. -/
theorem call_never_lost_offline :
    let env := callAt 1 (.failed "offline")
    let w := signedInWorld MemoryQueue.new
    ∃ op, QueuedFor env (writeTheme 1) op ∧
      intent (kvsCoordinator memoryQueue) env w.session (writeTheme 1) = some op.kind ∧
      (runCall (kvsCoordinator memoryQueue) env w (writeTheme 1)).1.queue.inner.filter
        (fun entry => decide (entry.key = op.key)) = [op] := by
  intro env w
  have never := call_never_lost (c := kvsCoordinator memoryQueue) rfl env w (writeTheme 1)
  have succeeded : (runCall (kvsCoordinator memoryQueue) env w (writeTheme 1)).2 = .ok () := rfl
  rcases never.delivered succeeded with served | queued
  · exact absurd served (by decide)
  · exact queued

end Polykit.Sync.Delivery
