/- Module: Polykit/Sync/Freshness
   generality: I
   source: crates/polybase/src/sync/coordinator.rs, crates/polybase/src/offline_queue/mod.rs
   digest: When no queued write of a row is older than what the server already has. -/

import Polykit.Lib.Runs
import Polykit.Sync.Calls

set_option autoImplicit false
set_option relaxedAutoImplicit false

namespace Polykit.Sync.Freshness

open Auth Calls Contract Crypto Entity Errors Json Kvs.Schema Lib.Runs OfflineQueue.Memory Routes
open Wire.Edge Wire.Http Wire.Push

/-- How the server answered a write, in the terms of the coordinator's lifecycle. -/
inductive Outcome
  | accepted | sameVersion | transient | permanent
  deriving DecidableEq

/-- A PostgREST write is accepted by its status, an Edge write by its envelope. -/
def accepts (fromStr : EnvelopeDecoder) : WritePath → Reply → Bool
  | .postgREST, .responded status _ => status.isSuccess
  | .edge _ _, .responded status (.ok body) =>
      status.isSuccess && ((fromStr body).toOption.map RawEnvelope.success).getD false
  | _, _ => false

def rejectionMessage (fromStr : EnvelopeDecoder) : WritePath → Reply → String
  | .postgREST, .responded _ body => bodyOrDefault body
  | .edge _ _, .responded _ (.ok body) =>
      (((fromStr body).toOption.bind RawEnvelope.error).map EdgeErrorBody.message).getD body
  | _, _ => ""

/-- The route of a call under a write path, with the table or function it is sent to. -/
def routeOf (call : Call) : WritePath → Route × String
  | .postgREST =>
      match call with
      | .persist table _ _ => (.persistPostgREST, table)
      | .delete table _ _ => (.deletePostgREST, table)
  | .edge function _ =>
      match call with
      | .persist _ _ _ => (.persistEdge, function)
      | .delete _ _ _ => (.deleteEdge, function)

def outcome (fromStr : EnvelopeDecoder) (call : Call) (path : WritePath) (reply : Reply) :
    Outcome :=
  let route := routeOf call path
  if accepts fromStr path reply then .accepted
  else if disposition (route.1.result fromStr route.2 reply) = .enqueue then .transient
  else if isSameVersionMutationMessage (rejectionMessage fromStr path reply) then .sameVersion
  else .permanent

variable {p : Primitives} {Mirror : Type}

/-- The call reached the server, and the server accepted it or answered that it already has
the version. -/
def serverHas (c : Coordinator p Mirror MemoryQueue) (env : CallEnv)
    (w : World Mirror MemoryQueue) (call : Call) : Bool :=
  (runCall c env w call).1.requests.length != w.requests.length &&
    match c.registry.configForTable call.table with
    | some config =>
        outcome c.fromStr call config.writePath env.reply == .accepted ||
          outcome c.fromStr call config.writePath env.reply == .sameVersion
    | none => false

/-- The calls on one row: the versions issued so far and those the server has. -/
structure RowState (Mirror : Type) where
  world : World Mirror MemoryQueue
  issued : List Int64 := []
  onServer : List Int64 := []

inductive RowEvent
  | call (env : CallEnv) (call : Call)
  | signIn (session : Option SessionPayload)

def RowState.after (c : Coordinator p Mirror MemoryQueue) (s : RowState Mirror) (env : CallEnv)
    (call : Call) (version : Int64) : RowState Mirror where
  world := (runCall c env s.world call).1
  issued := version :: s.issued
  onServer := if serverHas c env s.world call then version :: s.onServer else s.onServer

/-- Calls come one after the other with increasing versions, the session may change between
them. -/
inductive RowStep (c : Coordinator p Mirror MemoryQueue) (row : String × String) :
    RowState Mirror → RowEvent → RowState Mirror → Prop
  | call (s : RowState Mirror) (env : CallEnv) (call : Call) (version : Int64)
      (ofRow : call.table = row.1 ∧ call.entityId = some row.2)
      (versioned : call.version = some version) (newer : ∀ older ∈ s.issued, older < version) :
      RowStep c row s (.call env call) (s.after c env call version)
  | signIn (s : RowState Mirror) (session : Option SessionPayload) :
      RowStep c row s (.signIn session) { s with world := { s.world with session := session } }

/-- No queued operation of the row has a lower version than one the server has. -/
def NothingStale (row : String × String) (s : RowState Mirror) : Prop :=
  ∀ op ∈ s.world.queue.inner, op.key = row → ∀ version, queuedVersion op = some version →
    ∀ stored ∈ s.onServer, stored ≤ version

/-- No versioned operation of the row is queued when the server takes a call. -/
def ClearWhenServed (c : Coordinator p Mirror MemoryQueue) (row : String × String)
    (s : RowState Mirror) : RowEvent → Prop
  | .call env call => serverHas c env s.world call →
      ∀ op ∈ s.world.queue.inner, op.key = row → queuedVersion op = none
  | .signIn _ => True

theorem nothingStale_step {c : Coordinator p Mirror MemoryQueue} {row : String × String}
    (memory : c.queue = memoryQueue) {s t : RowState Mirror} {event : RowEvent}
    (known : ∀ stored ∈ s.onServer, stored ∈ s.issued) (fresh : NothingStale row s)
    (step : RowStep c row s event t) (clear : ClearWhenServed c row s event) :
    (∀ stored ∈ t.onServer, stored ∈ t.issued) ∧ NothingStale row t := by
  cases step with
  | signIn session => exact ⟨known, fresh⟩
  | call env call version ofRow versioned newer =>
    have served : ∀ stored ∈ (s.after c env call version).onServer,
        stored = version ∨ stored ∈ s.onServer := by
      intro stored member
      unfold RowState.after at member
      dsimp only at member
      split at member
      · exact List.mem_cons.mp member
      · exact .inr member
    refine ⟨?_, ?_⟩
    · intro stored member
      rcases served stored member with rfl | older
      · exact List.mem_cons_self
      · exact List.mem_cons_of_mem _ (known stored older)
    · intro op member ofKey carried hcarried stored stored_mem
      have same : (s.after c env call version).world = (runCall c env s.world call).1 := rfl
      rw [same] at member
      rcases call_queue c env s.world call with kept | ⟨new, queued, enqueued⟩
      · rw [kept] at member
        by_cases taken : serverHas c env s.world call = true
        · rw [clear taken op member ofKey] at hcarried
          cases hcarried
        · rw [RowState.after, if_neg taken] at stored_mem
          exact fresh op member ofKey carried hcarried stored stored_mem
      · rw [enqueued, memory] at member
        have newKey : new.key = row := by
          have named := queued.entityId.symm.trans ofRow.2
          exact Prod.ext (queued.table.trans ofRow.1) (Option.some.inj named)
        rcases (mem_enqueue _ _ _).mp member with rfl | ⟨_, other⟩
        · have own := (queued.version carried hcarried).symm.trans versioned
          cases own
          rcases served stored stored_mem with rfl | older
          · exact Int64.le_refl _
          · exact Int64.le_of_lt (newer stored (known stored older))
        · exact (other (ofKey.trans newKey.symm)).elim

/-- In every run whose calls all meet the condition, no state holds a stale operation. -/
theorem run_nothingStale {c : Coordinator p Mirror MemoryQueue} {row : String × String}
    (memory : c.queue = memoryQueue) {w : World Mirror MemoryQueue}
    {events : List RowEvent} {s : RowState Mirror}
    (run : Run (Guarded (ClearWhenServed c row) (RowStep c row)) ⟨w, [], []⟩ events s) :
    NothingStale row s := by
  have both : (∀ stored ∈ s.onServer, stored ∈ s.issued) ∧ NothingStale row s := by
    refine run.invariant (I := fun s =>
      (∀ stored ∈ s.onServer, stored ∈ s.issued) ∧ NothingStale row s) ?_ ?_
    · simp [NothingStale]
    · intro s event t invariant step
      exact nothingStale_step memory invariant.1 invariant.2 step.1 step.2
  exact both.2

/-- An offline write of version 1 stays queued when version 2 is accepted online. -/
theorem stale_after_online_write :
    let row := ("kvs", "prefs::theme")
    let offline : RowEvent := .call (callAt 1 (.failed "offline")) (writeTheme 1)
    let online : RowEvent := .call (callAt 2 created) (writeTheme 2)
    ∃ s, Run (RowStep (kvsCoordinator memoryQueue) row) ⟨signedInWorld MemoryQueue.new, [], []⟩
      [online, offline] s ∧ ¬ NothingStale row s := by
  intro row offline online
  let before : RowState Unit := ⟨signedInWorld MemoryQueue.new, [], []⟩
  let queued := before.after (kvsCoordinator memoryQueue) (callAt 1 (.failed "offline"))
    (writeTheme 1) 1
  let served := queued.after (kvsCoordinator memoryQueue) (callAt 2 created) (writeTheme 2) 2
  have issued : queued.issued = [1] := rfl
  have first : RowStep (kvsCoordinator memoryQueue) row before offline queued :=
    .call before _ _ 1 (by decide) (by decide) (by simp [before])
  have second : RowStep (kvsCoordinator memoryQueue) row queued online served :=
    .call queued _ _ 2 (by decide) (by decide) (by simp [issued])
  refine ⟨served, (Run.refl.tail first).tail second, ?_⟩
  intro fresh
  have left : served.world.queue.inner.map (fun op => (op.key, queuedVersion op)) =
      [(row, some 1)] := by decide
  obtain ⟨op, member, shape⟩ := List.mem_map.mp (left ▸ List.mem_singleton_self (row, some 1))
  have low := fresh op member (congrArg Prod.fst shape) 1 (congrArg Prod.snd shape) 2 (by decide)
  exact absurd low (by decide)

/-- A write accepted with nothing queued, then one that fails and is queued. -/
theorem run_nothingStale_online_first :
    let row := ("kvs", "prefs::theme")
    let online : RowEvent := .call (callAt 1 created) (writeTheme 1)
    let offline : RowEvent := .call (callAt 2 (.failed "offline")) (writeTheme 2)
    ∃ s, Run (RowStep (kvsCoordinator memoryQueue) row) ⟨signedInWorld MemoryQueue.new, [], []⟩
      [offline, online] s ∧
      s.world.queue.inner.length = 1 ∧ s.onServer = [1] ∧ NothingStale row s := by
  intro row online offline
  let before : RowState Unit := ⟨signedInWorld MemoryQueue.new, [], []⟩
  let served := before.after (kvsCoordinator memoryQueue) (callAt 1 created) (writeTheme 1) 1
  let queued := served.after (kvsCoordinator memoryQueue) (callAt 2 (.failed "offline"))
    (writeTheme 2) 2
  have issued : served.issued = [1] := rfl
  have first : RowStep (kvsCoordinator memoryQueue) row before online served :=
    .call before _ _ 1 (by decide) (by decide) (by simp [before])
  have second : RowStep (kvsCoordinator memoryQueue) row served offline queued :=
    .call served _ _ 2 (by decide) (by decide) (by simp [issued])
  have clear : ClearWhenServed (kvsCoordinator memoryQueue) row before online := by
    intro _ op member
    cases member
  have unserved : ClearWhenServed (kvsCoordinator memoryQueue) row served offline := by
    intro taken
    exact absurd taken (by decide)
  refine ⟨queued, (Run.refl.tail first).tail second, by decide, by decide, ?_⟩
  exact run_nothingStale rfl ((Run.refl.tail ⟨first, clear⟩).tail ⟨second, unserved⟩)

end Polykit.Sync.Freshness
