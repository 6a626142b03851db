/- Module: Polykit/Sync/Concurrent
   generality: I
   source: crates/polybase/src/sync/coordinator.rs, crates/polybase/src/offline_queue/mod.rs, crates/polybase-sqlite/src/queue.rs
   digest: Interleaved calls on one row, and which of their failures the queue is left with. -/

import Polykit.Lib.Runs
import Polykit.Sqlite.Queue
import Polykit.Sync.Delivery

set_option autoImplicit false
set_option relaxedAutoImplicit false

namespace Polykit.Sync.Concurrent

open Auth Calls Contract Crypto Delivery Entity Errors Json Lib.Runs OfflineQueue.Memory Routes
open Wire.Http

variable {p : Primitives} {Mirror Queue : Type}

/-! A queue as a row sees it. Both queues answer an accepted enqueue by replacing what they held
for the row. -/

structure RowQueue (queue : OfflineQueue Queue) where
  versions : Queue → String × String → List (Option Int64)
  replaces : ∀ held op, (queue.enqueue held op).2 = .ok () →
    versions (queue.enqueue held op).1 op.key = [queuedVersion op]

def memoryRows : RowQueue memoryQueue where
  versions queue row :=
    (queue.inner.filter (fun op => decide (op.key = row))).map queuedVersion
  replaces held op _ := congrArg (List.map queuedVersion) (filter_enqueue held op)

section Sqlite

open Sqlite.Manager Sqlite.Queue Sqlite.Store

def activeRows (m : DbManager) : List QueueRow :=
  match m.pool with
  | none => []
  | some handle => (m.execute handle selectRows).2.toOption.getD []

theorem activeRows_perm {m : DbManager} {rows : List QueueRow} (h : HoldsRows m rows) :
    (activeRows m).Perm rows := by
  have reads : ∀ db, db.queue = some rows → selectRows db = .ok (db, rows.mergeSort upTo) := by
    intro db table
    simp only [selectRows, table]
  obtain ⟨handle, active, result⟩ := query_holdsRows h _ reads
  unfold activeRows
  rw [active]
  simp only [result, Except.toOption, Option.getD_some]
  exact List.mergeSort_perm rows upTo

theorem holdsRows_of_enqueue {codec : Codec} {m : DbManager} {op : QueuedOperation}
    (h : (enqueue codec m op).2 = .ok ()) : ∃ rows, HoldsRows m rows := by
  unfold enqueue enqueueOn DbManager.execute at h
  cases active : m.pool with
  | none => simp [active] at h
  | some handle =>
    cases opened : m.pools[handle]? with
    | none => simp [active, opened, Except.mapError] at h
    | some pool =>
      cases closed : pool.closed with
      | true => simp [active, opened, closed, Except.mapError] at h
      | false =>
        cases found : m.disk[pool.user]? with
        | none => simp [active, opened, closed, found, Except.mapError] at h
        | some db =>
          cases table : db.queue with
          | none => simp [active, opened, closed, found, replaceRow, table, Except.mapError] at h
          | some rows => exact ⟨rows, handle, pool, db, active, opened, closed, found, table⟩

theorem filter_replacedBy (rows : List QueueRow) (row : QueueRow) :
    (replacedBy rows row).filter
      (fun old => decide ((old.tableName, old.entityId) = (row.tableName, row.entityId))) =
        [row] := by
  have none_left : (rows.filter (fun old =>
      !(old.tableName == row.tableName && old.entityId == row.entityId))).filter
        (fun old => decide ((old.tableName, old.entityId) = (row.tableName, row.entityId))) =
          [] := by
    rw [List.filter_eq_nil_iff]
    intro old member same
    have other := (List.mem_filter.mp member).2
    simp_all
  simp only [replacedBy, List.filter_append, none_left, List.nil_append]
  simp

/-- The table reads a kind back as the serializer wrote it. -/
def sqliteRows (codec : Codec) (fromStr : KindFromStr)
    (decodes : ∀ kind, fromStr (codec.json.toString (kindToValue kind)) = .ok kind) :
    RowQueue (sqliteOfflineQueue codec) where
  versions m row :=
    ((activeRows m).filter (fun old => decide ((old.tableName, old.entityId) = row))).map
      (fun old => (tryFromRow fromStr old).toOption.bind queuedVersion)
  replaces held op accepted := by
    obtain ⟨rows, holds⟩ := holdsRows_of_enqueue accepted
    have written : HoldsRows _ (replacedBy rows (queueRow codec.json op)) :=
      (enqueue_holdsRows holds op).2
    have kept := (activeRows_perm written).filter
      (fun old => decide ((old.tableName, old.entityId) = (op.table, op.entityId)))
    have single := List.perm_singleton.mp
      (kept.trans (.of_eq (filter_replacedBy rows (queueRow codec.json op))))
    have version : (tryFromRow fromStr (queueRow codec.json op)).toOption.bind queuedVersion =
        queuedVersion op := by
      simp [tryFromRow, queueRow, decodes, Except.toOption, queuedVersion]
    have listed := congrArg
      (List.map (fun old => (tryFromRow fromStr old).toOption.bind queuedVersion)) single
    rw [List.map_singleton, version] at listed
    exact listed

end Sqlite

inductive Pending
  | write (table : String) (prepared : Prepared) (op : Option String)
  | tombstone (table entityId : String) (version : Int64) (config : EntityConfig)
      (session : SessionPayload)

def Pending.version : Pending → Option Int64
  | .write _ prepared _ => prepared.record["version"]?.bind Value.asI64
  | .tombstone _ _ version _ _ => some version

def Pending.settlement : Pending → Settlement
  | .write table prepared _ => writeSettlement table prepared
  | .tombstone table entityId version _ _ => deleteSettlement table entityId version

/-- The stretch up to the local write, which reads the session. -/
def prepareCall (c : Coordinator p Mirror Queue) (env : CallEnv)
    (session : Option SessionPayload) : Call → Except PolyError Pending
  | .persist table record op =>
      match c.prepare session env.nonces table record with
      | .error error => .error error
      | .ok prepared => .ok (.write table prepared op)
  | .delete table entityId version =>
      match c.registry.configForTable table, session with
      | none, _ => .error (.registry (.tableNotRegistered table))
      | some _, none => .error .noSession
      | some config, some session => .ok (.tombstone table entityId version config session)

def Pending.localWrite (c : Coordinator p Mirror Queue) (mirror : Mirror) :
    Pending → Mirror × Except PolyError Unit
  | .write table prepared _ =>
      c.localStore.upsertRecord mirror table (prepared.config.mapRemoteToLocal prepared.record)
  | .tombstone table entityId version _ _ => c.localStore.markDeleted mirror table entityId version

def Pending.dispatch (c : Coordinator p Mirror Queue) (env : CallEnv)
    (w : World Mirror Queue) : Pending → World Mirror Queue × Except PolyError Unit
  | .write table prepared op => c.dispatchWrite env table prepared op w
  | .tombstone table entityId version config session =>
      c.dispatchDelete env table entityId version config session.accessToken w

/-- A call that nothing interrupts is these four stretches in their order. -/
theorem runCall_eq (c : Coordinator p Mirror Queue) (env : CallEnv)
    (w : World Mirror Queue) (call : Call) :
    runCall c env w call =
      match prepareCall c env w.session call with
      | .error error => (w, .error error)
      | .ok pending =>
          match pending.localWrite c w.mirror with
          | (mirror, .error error) => ({ w with mirror := mirror }, .error error)
          | (mirror, .ok ()) =>
              let sent := pending.dispatch c env { w with mirror := mirror }
              c.settle env pending.settlement sent.1 sent.2 := by
  obtain ⟨held, before, queue, echo, requests, events⟩ := w
  cases call with
  | persist table record op =>
    simp only [runCall, Coordinator.persistChangeWithOp, prepareCall]
    cases c.prepare held env.nonces table record <;> rfl
  | delete table entityId version =>
    simp only [runCall, Coordinator.delete, prepareCall]
    cases c.registry.configForTable table with
    | none => rfl
    | some config => cases held <;> rfl

inductive Phase
  | prepare
  | localWrite (pending : Pending)
  | network (pending : Pending)
  | settle (pending : Pending) (result : Except PolyError Unit)
  | done (result : Except PolyError Unit)

structure Activity where
  env : CallEnv
  call : Call
  phase : Phase

/-- `written` and `failed` hold the versions of the local writes and of the transient failures
of the run, newest first. -/
structure State (Mirror Queue : Type) where
  world : World Mirror Queue
  calls : Nat → Option Activity := fun _ => none
  written : List Int64 := []
  failed : List Int64 := []

inductive Label
  | start (id : Nat) (env : CallEnv) (call : Call)
  | advance (id : Nat)
  | signIn (session : Option SessionPayload)

def State.move (s : State Mirror Queue) (id : Nat) (a : Activity) (phase : Phase) :
    State Mirror Queue :=
  { s with calls := Function.update s.calls id (some { a with phase := phase }) }

def State.withMirror (s : State Mirror Queue) (mirror : Mirror) : State Mirror Queue :=
  { s with world := { s.world with mirror := mirror } }

def State.wrote (s : State Mirror Queue) (pending : Pending) : State Mirror Queue :=
  { s with written := pending.version.toList ++ s.written }

/-- The world after a settlement, and a log entry if the result was a transient failure. -/
def State.settled (s : State Mirror Queue) (world : World Mirror Queue) (pending : Pending)
    (result : Except PolyError Unit) : State Mirror Queue :=
  { s with
    world := world
    failed := if disposition result = .enqueue then pending.version.toList ++ s.failed
      else s.failed }

def advance (c : Coordinator p Mirror Queue) (s : State Mirror Queue) (id : Nat) (a : Activity) :
    Option (State Mirror Queue) :=
  match a.phase with
  | .prepare =>
      match prepareCall c a.env s.world.session a.call with
      | .error error => some (s.move id a (.done (.error error)))
      | .ok pending => some (s.move id a (.localWrite pending))
  | .localWrite pending =>
      match pending.localWrite c s.world.mirror with
      | (mirror, .error error) => some ((s.withMirror mirror).move id a (.done (.error error)))
      | (mirror, .ok ()) =>
          some (((s.withMirror mirror).wrote pending).move id a (.network pending))
  | .network pending =>
      let sent := pending.dispatch c a.env s.world
      some ({ s with world := sent.1 }.move id a (.settle pending sent.2))
  | .settle pending result =>
      let ended := c.settle a.env pending.settlement s.world result
      some ((s.settled ended.1 pending result).move id a (.done ended.2))
  | .done _ => none

/-- Calls start and go on in any order, and the session may change between any two steps. -/
def poll (c : Coordinator p Mirror Queue) (s : State Mirror Queue) :
    Label → Option (State Mirror Queue)
  | .start id env call =>
      match s.calls id with
      | none => some { s with
          calls := Function.update s.calls id (some ⟨env, call, .prepare⟩) }
      | some _ => none
  | .advance id => (s.calls id).bind (advance c s id)
  | .signIn session => some { s with world := { s.world with session := session } }

def State.returned (s : State Mirror Queue) (id : Nat) : Option (Except PolyError Unit) :=
  match s.calls id with
  | some ⟨_, _, .done result⟩ => some result
  | _ => none

/-- All calls are calls on one row, and each local write that succeeds stores a higher version
than all before it. -/
def onRow (c : Coordinator p Mirror Queue) (row : String × String) (s : State Mirror Queue) :
    Label → Bool
  | .start _ _ call => call.table == row.1 && call.entityId == some row.2
  | .advance id =>
      match s.calls id with
      | some ⟨_, _, .localWrite pending⟩ =>
          !(pending.localWrite c s.world.mirror).2.isOk ||
            pending.version.any (fun version =>
              s.written.all (fun older => decide (older < version)))
      | _ => true
  | .signIn _ => true

def queueTakes (c : Coordinator p Mirror Queue) (s : State Mirror Queue) : Label → Bool
  | .advance id =>
      match s.calls id with
      | some ⟨env, _, .settle pending (.error error)⟩ =>
          disposition (.error error) != .enqueue ||
            (c.queue.enqueue s.world.queue (pending.settlement.queuedOperation env error)).2.isOk
      | _ => true
  | _ => true

/-- A call that fails transiently has a version no lower than all that failed so before it. -/
def failsInOrder (s : State Mirror Queue) : Label → Bool
  | .advance id =>
      match s.calls id with
      | some ⟨_, _, .settle pending result⟩ =>
          disposition result != .enqueue ||
            pending.version.all (fun version =>
              s.failed.all (fun older => decide (older ≤ version)))
      | _ => true
  | _ => true

/-- If calls failed transiently, the one operation queued for the row carries the highest of
their versions. Else the row is queued as it was. -/
structure HighestQueued {queue : OfflineQueue Queue} (rows : RowQueue queue)
    (row : String × String) (before : Queue) (s : State Mirror Queue) : Prop where
  none_failed : s.failed = [] → rows.versions s.world.queue row = rows.versions before row
  highest : s.failed ≠ [] → ∃ version ∈ s.failed, (∀ other ∈ s.failed, other ≤ version) ∧
    rows.versions s.world.queue row = [some version]

/-! A settlement reaches the queue only with a transient failure, and then with the version its
call has stored. -/

theorem queuedVersion_settlement (pending : Pending) (env : CallEnv) (error : PolyError) :
    queuedVersion (pending.settlement.queuedOperation env error) = pending.version := by
  cases pending with
  | write table prepared op =>
    simp [queuedVersion, Pending.settlement, Settlement.queuedOperation, writeSettlement,
      Pending.version, Map.get_toValue]
  | tombstone table entityId version config session => rfl

theorem settle_queue_cases (c : Coordinator p Mirror Queue) (env : CallEnv) (s : Settlement)
    (w : World Mirror Queue) (result : Except PolyError Unit) :
    (disposition result ≠ .enqueue ∧ (c.settle env s w result).1.queue = w.queue) ∨
      ∃ error, result = .error error ∧ disposition result = .enqueue ∧
        (c.settle env s w result).1.queue =
          (c.queue.enqueue w.queue (s.queuedOperation env error)).1 := by
  cases arm : disposition result with
  | success =>
    rw [settle_success c env s w arm]
    simp
  | benign =>
    rw [settle_benign c env s w arm]
    simp
  | enqueue =>
    cases result with
    | ok _ => cases arm
    | error error =>
      rw [settle_enqueue c env s w arm, enqueueForRetry_queue]
      exact .inr ⟨error, rfl, rfl, rfl⟩
  | permanent =>
    cases result with
    | ok _ => cases arm
    | error error =>
      rw [settle_permanent c env s w arm]
      left
      dsimp only
      split <;> simp [World.publish]

/-- The operation a pending call may enqueue is one of the row. -/
def Names (row : String × String) (pending : Pending) : Prop :=
  (pending.settlement.table, pending.settlement.entityId) = row

theorem names_of_prepareCall {c : Coordinator p Mirror Queue} {env : CallEnv}
    {session : Option SessionPayload} {call : Call} {pending : Pending} {row : String × String}
    (table : call.table = row.1) (entityId : call.entityId = some row.2)
    (h : prepareCall c env session call = .ok pending) : Names row pending := by
  cases call with
  | persist table' record op =>
    simp only [prepareCall] at h
    cases ready : c.prepare session env.nonces table' record with
    | error error => simp [ready] at h
    | ok prepared =>
      simp only [ready, Except.ok.injEq] at h
      subst h
      have named := (prepare_eq_ok ready).2.1.symm.trans entityId
      exact Prod.ext table (Option.some.inj named)
  | delete table' entityId' version =>
    simp only [prepareCall] at h
    split at h
    · cases h
    · cases h
    · cases h
      exact Prod.ext table (Option.some.inj entityId)

/-- Past its local write a call has the version it stored. -/
def AtPhase (row : String × String) : Phase → Prop
  | .prepare | .done _ => True
  | .localWrite pending => Names row pending
  | .network pending | .settle pending _ => Names row pending ∧ pending.version.isSome = true

structure Attends (row : String × String) (a : Activity) : Prop where
  table : a.call.table = row.1
  entityId : a.call.entityId = some row.2
  phase : AtPhase row a.phase

/-- The versions queued for the row once these calls have failed, the last of them first. -/
def leftQueued (before : List (Option Int64)) : List Int64 → List (Option Int64)
  | [] => before
  | newest :: _ => [some newest]

/-- The queue ends with the failure that came last. -/
structure Tracked {queue : OfflineQueue Queue} (rows : RowQueue queue) (row : String × String)
    (before : Queue) (s : State Mirror Queue) : Prop where
  calls : ∀ id a, s.calls id = some a → Attends row a
  last : rows.versions s.world.queue row = leftQueued (rows.versions before row) s.failed

section

variable {c : Coordinator p Mirror Queue} {rows : RowQueue c.queue} {row : String × String}
  {before : Queue} {s t : State Mirror Queue}

theorem attends_update {id : Nat} {a : Activity}
    (attend : ∀ id a, s.calls id = some a → Attends row a) (attends : Attends row a) :
    ∀ other b, Function.update s.calls id (some a) other = some b → Attends row b := by
  intro other b found
  rcases update_some_cases found with ⟨rfl, rfl⟩ | ⟨_, found⟩
  · exact attends
  · exact attend other b found

/-- A step that leaves queue and failures alone keeps the invariant if the call it moved still
attends to the row. -/
theorem tracked_move (tracked : Tracked rows row before s) {id : Nat} {a : Activity}
    (moved : t.calls = Function.update s.calls id (some a)) (attends : Attends row a)
    (queue : t.world.queue = s.world.queue) (failed : t.failed = s.failed) :
    Tracked rows row before t where
  calls := by
    rw [moved]
    exact attends_update tracked.calls attends
  last := by
    rw [queue, failed]
    exact tracked.last

theorem tracked_settle (tracked : Tracked rows row before s) {id : Nat} {env : CallEnv}
    {call : Call} {pending : Pending} {result : Except PolyError Unit}
    (found : s.calls id = some ⟨env, call, .settle pending result⟩)
    (takes : queueTakes c s (.advance id) = true) :
    Tracked rows row before
      ((s.settled (c.settle env pending.settlement s.world result).1 pending result).move id
        ⟨env, call, .settle pending result⟩
        (.done (c.settle env pending.settlement s.world result).2)) := by
  have attends := tracked.calls id _ found
  obtain ⟨names, versioned⟩ := attends.phase
  constructor
  · exact attends_update tracked.calls ⟨attends.table, attends.entityId, trivial⟩
  · rcases settle_queue_cases c env pending.settlement s.world result with
      ⟨other, kept⟩ | ⟨error, rfl, transient, enqueued⟩
    · simp only [State.move, State.settled, if_neg other, kept]
      exact tracked.last
    · obtain ⟨version, hversion⟩ := Option.isSome_iff_exists.mp versioned
      have accepted : (c.queue.enqueue s.world.queue
          (pending.settlement.queuedOperation env error)).2 = .ok () := by
        simp only [queueTakes, found, transient, bne_self_eq_false, Bool.false_or] at takes
        cases answer : (c.queue.enqueue s.world.queue
            (pending.settlement.queuedOperation env error)).2 with
        | error failure => simp [answer, Except.isOk, Except.toBool] at takes
        | ok _ => rfl
      have replaced := rows.replaces s.world.queue _ accepted
      have key : (pending.settlement.queuedOperation env error).key = row := names
      rw [queuedVersion_settlement, hversion, key] at replaced
      simp only [State.move, State.settled, if_pos transient, enqueued, replaced, hversion]
      rfl

theorem tracked_step {label : Label} (tracked : Tracked rows row before s)
    (edge : poll c s label = some t) (ofRow : onRow c row s label = true)
    (takes : queueTakes c s label = true) : Tracked rows row before t := by
  cases label with
  | start id env call =>
    simp only [onRow, Bool.and_eq_true, beq_iff_eq] at ofRow
    cases free : s.calls id with
    | some a => simp [poll, free] at edge
    | none =>
      simp only [poll, free, Option.some.injEq] at edge
      subst edge
      exact tracked_move tracked rfl ⟨ofRow.1, ofRow.2, trivial⟩ rfl rfl
  | signIn session =>
    cases edge
    exact ⟨tracked.calls, tracked.last⟩
  | advance id =>
    obtain ⟨⟨env, call, phase⟩, found, edge⟩ := Option.bind_eq_some_iff.mp edge
    obtain ⟨table, entityId, here⟩ := tracked.calls id _ found
    cases phase with
    | prepare =>
      simp only [advance] at edge
      cases ready : prepareCall c env s.world.session call with
      | error error =>
        simp only [ready, Option.some.injEq] at edge
        subst edge
        exact tracked_move tracked rfl ⟨table, entityId, trivial⟩ rfl rfl
      | ok pending =>
        simp only [ready, Option.some.injEq] at edge
        subst edge
        have names := names_of_prepareCall table entityId ready
        exact tracked_move tracked rfl ⟨table, entityId, names⟩ rfl rfl
    | localWrite pending =>
      simp only [advance] at edge
      split at edge
      · cases edge
        exact tracked_move tracked rfl ⟨table, entityId, trivial⟩ rfl rfl
      · rename_i mirror stored
        cases edge
        have versioned : pending.version.isSome = true := by
          simp only [onRow, found, stored, Except.isOk, Except.toBool] at ofRow
          cases version : pending.version with
          | none => simp [version] at ofRow
          | some version => rfl
        exact tracked_move tracked rfl ⟨table, entityId, here, versioned⟩ rfl rfl
    | network pending =>
      cases edge
      refine tracked_move tracked rfl ⟨table, entityId, here⟩ ?_ rfl
      cases pending with
      | write table prepared op => exact dispatchWrite_queue ..
      | tombstone table entityId version config session => exact dispatchDelete_queue ..
    | settle pending result =>
      cases edge
      exact tracked_settle tracked found takes
    | done result => cases edge

theorem ordered_step {label : Label}
    (ordered : s.failed.Pairwise (fun newer older => older ≤ newer))
    (edge : poll c s label = some t) (inOrder : failsInOrder s label = true) :
    t.failed.Pairwise (fun newer older => older ≤ newer) := by
  cases label with
  | start id env call =>
    cases free : s.calls id with
    | some a => simp [poll, free] at edge
    | none =>
      simp only [poll, free, Option.some.injEq] at edge
      exact edge ▸ ordered
  | signIn session =>
    cases edge
    exact ordered
  | advance id =>
    obtain ⟨⟨env, call, phase⟩, found, edge⟩ := Option.bind_eq_some_iff.mp edge
    cases phase with
    | prepare =>
      simp only [advance] at edge
      split at edge <;> cases edge <;> exact ordered
    | localWrite pending =>
      simp only [advance] at edge
      split at edge <;> cases edge <;> exact ordered
    | network pending =>
      cases edge
      exact ordered
    | settle pending result =>
      cases edge
      simp only [State.move, State.settled]
      split
      · rename_i transient
        simp only [failsInOrder, found, transient, bne_self_eq_false, Bool.false_or] at inOrder
        cases version : pending.version with
        | none => exact ordered
        | some version =>
          refine List.pairwise_cons.mpr ⟨fun older member => ?_, ordered⟩
          simp only [version, Option.all_some, List.all_eq_true, decide_eq_true_eq] at inOrder
          exact inOrder older member
      · exact ordered
    | done result => cases edge

end

def idle (w : World Mirror Queue) : State Mirror Queue := ⟨w, fun _ => none, [], []⟩

/-- While the calls on a row fail in the order of their versions and the queue takes their
operations, the operation queued for the row is that of the highest failure. -/
theorem highestQueued_run {c : Coordinator p Mirror Queue} (rows : RowQueue c.queue)
    {row : String × String} {w : World Mirror Queue} {labels : List Label}
    {s : State Mirror Queue}
    (run : Run (Guarded (fun s label => onRow c row s label = true ∧
      queueTakes c s label = true ∧ failsInOrder s label = true) (Steps (poll c)))
      (idle w) labels s) : HighestQueued rows row w.queue s := by
  have both : Tracked rows row w.queue s ∧
      s.failed.Pairwise (fun newer older => older ≤ newer) := by
    refine run.invariant (I := fun s => Tracked rows row w.queue s ∧
      s.failed.Pairwise (fun newer older => older ≤ newer)) ?_ ?_
    · refine ⟨⟨?_, rfl⟩, List.Pairwise.nil⟩
      rintro id a ⟨⟩
    · rintro s label t ⟨tracked, ordered⟩ ⟨edge, ofRow, takes, inOrder⟩
      exact ⟨tracked_step tracked edge ofRow takes, ordered_step ordered edge inOrder⟩
  obtain ⟨tracked, ordered⟩ := both
  have last := tracked.last
  constructor
  · intro none_failed
    rw [none_failed] at last
    exact last
  · intro some_failed
    obtain ⟨newest, older, failed⟩ := List.exists_cons_of_ne_nil some_failed
    rw [failed] at last ordered ⊢
    refine ⟨newest, List.mem_cons_self, ?_, last⟩
    intro other member
    rcases List.mem_cons.mp member with rfl | earlier
    · exact Int64.le_refl other
    · exact (List.pairwise_cons.mp ordered).1 other earlier

/-- Two offline writes of one key start, and store their versions in order. -/
def bothWritten : List Label :=
  [.advance 2, .advance 2, .advance 1, .advance 1,
    .start 2 (callAt 2 (.failed "offline")) (writeTheme 2),
    .start 1 (callAt 1 (.failed "offline")) (writeTheme 1)]

def twoCalls : State Unit MemoryQueue := idle (signedInWorld MemoryQueue.new)

/-- The first write fails first, and the second write is what stays queued. -/
theorem highestQueued_run_in_order :
    ∃ s : State Unit MemoryQueue, s.failed = [2, 1] ∧
      HighestQueued memoryRows ("kvs", "prefs::theme") MemoryQueue.new s := by
  let c := kvsCoordinator memoryQueue
  let labels : List Label := [.advance 2, .advance 2, .advance 1, .advance 1] ++ bothWritten
  have logged : (execute (restrict (fun s label => decide
      (onRow c ("kvs", "prefs::theme") s label = true ∧ queueTakes c s label = true ∧
        failsInOrder s label = true)) (poll c)) twoCalls labels).map State.failed =
          some [2, 1] := by decide
  obtain ⟨s, computed, failed⟩ := Option.map_eq_some_iff.mp logged
  exact ⟨s, failed, highestQueued_run (c := c) memoryRows (guarded_of_execute_decide computed)⟩

/-- What a run has come to: what the two calls returned, the logs, and what the queue holds. -/
def outcomeOf (s : State Unit MemoryQueue) :
    List (Option Bool) × List Int64 × List Int64 × List (Option Int64) :=
  ([1, 2].map (fun id => (s.returned id).map Except.isOk), s.written, s.failed,
    memoryRows.versions s.world.queue ("kvs", "prefs::theme"))

/-- The second write fails first, and the first write replaces it in the queue. -/
theorem older_write_replaces_newer :
    ∃ labels, ∃ s : State Unit MemoryQueue,
      Run (Guarded
        (fun s label => onRow (kvsCoordinator memoryQueue) ("kvs", "prefs::theme") s label = true)
        (Steps (poll (kvsCoordinator memoryQueue)))) twoCalls labels s ∧
      outcomeOf s = ([some true, some true], [2, 1], [1, 2], [some 1]) ∧
      ¬ HighestQueued memoryRows ("kvs", "prefs::theme") MemoryQueue.new s := by
  let labels : List Label := [.advance 1, .advance 1, .advance 2, .advance 2] ++ bothWritten
  have computed : (execute (restrict (onRow (kvsCoordinator memoryQueue)
      ("kvs", "prefs::theme")) (poll (kvsCoordinator memoryQueue))) twoCalls labels).map outcomeOf =
      some ([some true, some true], [2, 1], [1, 2], [some 1]) := by decide
  obtain ⟨s, computed, outcome⟩ := Option.map_eq_some_iff.mp computed
  refine ⟨labels, s, guarded_of_execute computed, outcome, ?_⟩
  intro highest
  simp only [outcomeOf, Prod.mk.injEq] at outcome
  obtain ⟨-, -, failed, queued⟩ := outcome
  obtain ⟨version, -, above, single⟩ := highest.highest (by simp [failed])
  rw [queued] at single
  rw [failed] at above
  cases single
  exact absurd (above 2 (by simp)) (by decide)

end Polykit.Sync.Concurrent
