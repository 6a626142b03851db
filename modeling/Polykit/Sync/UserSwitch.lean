/- Module: Polykit/Sync/UserSwitch
   generality: I
   source: crates/polybase/src/sync/coordinator.rs, crates/polybase-sqlite/src/manager.rs, crates/polybase-sqlite/src/queue.rs
   digest: Writes that interleave with sign-ins and database switches, and whose database they reach. -/

import Polykit.Kvs.Survival
import Polykit.Lib.Runs

set_option autoImplicit false
set_option relaxedAutoImplicit false

namespace Polykit.Sync.UserSwitch

open Auth Calls Contract Crypto Entity Errors Json Lib.Runs Routes
open Sqlite.Manager Sqlite.Storage Sqlite.Store Wire.Http

inductive Phase
  | localLookup
  | localExec (handle : Nat)
  | network
  | queueLookup (error : PolyError)
  | queueExec (handle : Nat) (error : PolyError)
  | reportDepth
  | done (result : Except PolyError Unit)
  deriving DecidableEq

/-- A call of `persist_change_with_op` that has read the session. -/
structure Activity where
  env : CallEnv
  table : String
  op : Option String
  prepared : Prepared
  phase : Phase

def Activity.user (a : Activity) : String := a.prepared.session.userId

def Activity.localRecord (a : Activity) : Map :=
  a.prepared.config.mapRemoteToLocal a.prepared.record

def Activity.settlement (a : Activity) : Settlement := writeSettlement a.table a.prepared

def Phase.handle : Phase → Option Nat
  | .localExec handle | .queueExec handle _ => some handle
  | _ => none

inductive Target
  | mirror | queue
  deriving DecidableEq

/-- A row that landed: where, in whose database, and for whom it was prepared. -/
structure Effect where
  target : Target
  database : String
  preparedFor : String
  deriving DecidableEq

/-- One manager serves the mirror and the queue of every call. -/
structure State where
  world : World DbManager Unit
  tasks : Nat → Option Activity := fun _ => none
  effects : List Effect := []

inductive Label
  | setSession (payload : SessionPayload)
  | clearSession
  | switchUser (io : SwitchIo) (user : String)
  | call (id : Nat) (env : CallEnv) (table : String) (record : Map) (op : Option String)
  | advance (id : Nat)

def State.move (s : State) (id : Nat) (a : Activity) (phase : Phase) : State :=
  { s with tasks := Function.update s.tasks id (some { a with phase := phase }) }

def State.withMirror (s : State) (mirror : DbManager) : State :=
  { s with world := { s.world with mirror := mirror } }

/-- Note a row that a statement on `handle` stored. -/
def State.landed (s : State) (a : Activity) (handle : Nat) (target : Target) : State :=
  match s.world.mirror.pools[handle]? with
  | some pool => { s with effects := ⟨target, pool.user, a.user⟩ :: s.effects }
  | none => s

variable {p : Primitives}

def advance (c : Coordinator p DbManager Unit) (codec : Codec) (s : State) (id : Nat)
    (a : Activity) : Option State :=
  match a.phase with
  | .localLookup =>
      match s.world.mirror.pool with
      | none => some (s.move id a (.done (.error poolRequired)))
      | some handle => some (s.move id a (.localExec handle))
  | .localExec handle =>
      match upsertRecordOn codec s.world.mirror handle a.table a.localRecord with
      | (mirror, .error error) => some ((s.withMirror mirror).move id a (.done (.error error)))
      | (mirror, .ok ()) =>
          let stored := s.withMirror mirror
          some ((if a.localRecord.isEmpty then stored
            else stored.landed a handle .mirror).move id a .network)
  | .network =>
      let sent := c.dispatchWrite a.env a.table a.prepared a.op s.world
      match disposition sent.2, sent.2 with
      | .enqueue, .error error => some ({ s with world := sent.1 }.move id a (.queueLookup error))
      | _, result =>
          let settled := c.settle a.env a.settlement sent.1 result
          some ({ s with world := settled.1 }.move id a (.done settled.2))
  | .queueLookup error =>
      match s.world.mirror.pool with
      | none => some (s.move id a (.done (.error (.offlineQueue (.io "no active user pool")))))
      | some handle => some (s.move id a (.queueExec handle error))
  | .queueExec handle error =>
      match enqueueOn codec s.world.mirror handle (a.settlement.queuedOperation a.env error) with
      | (mirror, .error failure) =>
          some ((s.withMirror mirror).move id a (.done (.error (.offlineQueue failure))))
      | (mirror, .ok ()) =>
          some (((s.withMirror mirror).landed a handle .queue).move id a .reportDepth)
  | .reportDepth =>
      let queued := (depth s.world.mirror).toOption.getD 0
      let reported := s.world.publishAll
        (.offlineQueueChanged queued false :: a.settlement.onQueued)
      some ({ s with world := reported }.move id a (.done (.ok ())))
  | .done _ => none

/-- A step of the whole: the host signs in, signs out or switches the database, or a call
starts or goes on. A call reads the session and prepares its record in one piece. -/
def poll (c : Coordinator p DbManager Unit) (codec : Codec) (s : State) : Label → Option State
  | .setSession payload => some { s with world := { s.world with session := some payload } }
  | .clearSession => some { s with world := { s.world with session := none } }
  | .switchUser io user => some (s.withMirror (s.world.mirror.switchUser io user).1)
  | .call id env table record op =>
      match s.tasks id, c.prepare s.world.session env.nonces table record with
      | none, .ok prepared =>
          some { s with
            tasks := Function.update s.tasks id (some ⟨env, table, op, prepared, .localLookup⟩) }
      | none, .error _ => some s
      | some _, _ => none
  | .advance id => (s.tasks id).bind (advance c codec s id)

def Phase.looksUp : Phase → Bool
  | .localLookup | .queueLookup _ => true
  | _ => false

/-- When a call looks up the pool, the active database is its own user's, or there is none. -/
def userStays (s : State) : Label → Bool
  | .advance id =>
      match s.tasks id with
      | some a =>
          !a.phase.looksUp || s.world.mirror.userId == some a.user ||
            s.world.mirror.userId == none
      | none => true
  | _ => true

/-- A pool that is held is one of the holder's user, and so is every row that landed. -/
structure Owned (s : State) : Prop where
  pool : PoolOfUser s.world.mirror
  held : ∀ id a handle, s.tasks id = some a → a.phase.handle = some handle →
    ∃ pool, s.world.mirror.pools[handle]? = some pool ∧ pool.user = a.user
  effects : ∀ effect ∈ s.effects, effect.database = effect.preparedFor

theorem Owned.withWorld {s : State} (h : Owned s) {world : World DbManager Unit}
    (keeps : KeepsPools s.world.mirror world.mirror) (pool : PoolOfUser world.mirror) :
    Owned { s with world := world } where
  pool := pool
  held id a handle task holds := by
    obtain ⟨old, found, owner⟩ := h.held id a handle task holds
    obtain ⟨kept, still, same⟩ := keeps handle old found
    exact ⟨kept, still, same.trans owner⟩
  effects := h.effects

theorem Owned.sameMirror {s : State} (h : Owned s) {world : World DbManager Unit}
    (same : world.mirror = s.world.mirror) : Owned { s with world := world } :=
  h.withWorld (same ▸ KeepsPools.refl _) (same ▸ h.pool)

theorem Owned.move {s : State} (h : Owned s) {id : Nat} {a : Activity} {phase : Phase}
    (held : ∀ handle, phase.handle = some handle →
      ∃ pool, s.world.mirror.pools[handle]? = some pool ∧ pool.user = a.user) :
    Owned (s.move id a phase) where
  pool := h.pool
  held other b handle task holds := by
    rcases update_some_cases task with ⟨rfl, rfl⟩ | ⟨_, task⟩
    · exact held handle holds
    · exact h.held other b handle task holds
  effects := h.effects

theorem Owned.landed {s : State} (h : Owned s) {a : Activity} {handle : Nat} {target : Target}
    (held : ∃ pool, s.world.mirror.pools[handle]? = some pool ∧ pool.user = a.user) :
    Owned (s.landed a handle target) := by
  obtain ⟨pool, found, owner⟩ := held
  refine ⟨?_, ?_, ?_⟩ <;> simp only [State.landed, found]
  · exact h.pool
  · exact h.held
  · intro effect member
    rcases List.mem_cons.mp member with rfl | older
    · exact owner
    · exact h.effects effect older

theorem Owned.statement {s : State} (h : Owned s) {mirror : DbManager}
    (frame : mirror.pools = s.world.mirror.pools ∧ mirror.pool = s.world.mirror.pool ∧
      mirror.userId = s.world.mirror.userId) : Owned (s.withMirror mirror) := by
  obtain ⟨pools, pool, userId⟩ := frame
  refine h.withWorld ?_ ?_
  · intro handle old found
    exact ⟨old, by rw [pools]; exact found, rfl⟩
  · intro handle active
    rw [pool] at active
    rw [pools, userId]
    exact h.pool handle active

theorem owned_lookup {s : State} (h : Owned s) {a : Activity} {handle : Nat}
    (active : s.world.mirror.pool = some handle)
    (stays : s.world.mirror.userId = some a.user ∨ s.world.mirror.userId = none) :
    ∃ pool, s.world.mirror.pools[handle]? = some pool ∧ pool.user = a.user := by
  obtain ⟨pool, user, found, current, owner⟩ := h.pool handle active
  rcases stays with mine | nobody
  · rw [mine, Option.some.injEq] at current
    exact ⟨pool, found, owner.trans current.symm⟩
  · rw [nobody] at current
    cases current

theorem upsertRecordOn_frame (codec : Codec) (m : DbManager) (handle : Nat) (table : String)
    (record : Map) :
    (upsertRecordOn codec m handle table record).1.pools = m.pools ∧
      (upsertRecordOn codec m handle table record).1.pool = m.pool ∧
      (upsertRecordOn codec m handle table record).1.userId = m.userId := by
  unfold upsertRecordOn
  split
  · exact ⟨rfl, rfl, rfl⟩
  · exact execute_frame ..

theorem enqueueOn_frame (codec : Codec) (m : DbManager) (handle : Nat)
    (op : OfflineQueue.Memory.QueuedOperation) :
    (enqueueOn codec m handle op).1.pools = m.pools ∧
      (enqueueOn codec m handle op).1.pool = m.pool ∧
      (enqueueOn codec m handle op).1.userId = m.userId := by
  unfold enqueueOn
  exact execute_frame ..

theorem Owned.stored {s : State} (h : Owned s) {mirror : DbManager} {a : Activity} {handle : Nat}
    {target : Target}
    (frame : mirror.pools = s.world.mirror.pools ∧ mirror.pool = s.world.mirror.pool ∧
      mirror.userId = s.world.mirror.userId)
    (own : ∃ pool, s.world.mirror.pools[handle]? = some pool ∧ pool.user = a.user) :
    Owned ((s.withMirror mirror).landed a handle target) := by
  refine (h.statement frame).landed ?_
  obtain ⟨pool, found, owner⟩ := own
  refine ⟨pool, ?_, owner⟩
  rw [← found]
  exact congrArg (·[handle]?) frame.1

theorem owned_advance {c : Coordinator p DbManager Unit} {codec : Codec} {s next : State}
    {id : Nat} {a : Activity} (h : Owned s) (task : s.tasks id = some a)
    (stays : userStays s (.advance id) = true) (edge : advance c codec s id a = some next) :
    Owned next := by
  have mine : a.phase.looksUp = true →
      s.world.mirror.userId = some a.user ∨ s.world.mirror.userId = none := by
    intro looking
    simpa [userStays, task, looking] using stays
  have free : ∀ handle, ∀ phase : Phase, phase.handle = none → phase.handle = some handle →
      ∃ pool, s.world.mirror.pools[handle]? = some pool ∧ pool.user = a.user := by
    intro handle phase none some
    rw [none] at some
    cases some
  unfold advance at edge
  split at edge
  · rename_i phase
    split at edge
    · cases edge
      exact h.move (fun handle holds => free handle _ rfl holds)
    · rename_i handle active
      cases edge
      refine h.move (fun held holds => ?_)
      cases holds
      exact owned_lookup h active (mine (by rw [phase]; rfl))
  · rename_i handle phase
    have own := h.held id a handle task (by rw [phase]; rfl)
    have frame := upsertRecordOn_frame codec s.world.mirror handle a.table a.localRecord
    split at edge
    · rename_i mirror error result
      rw [result] at frame
      cases edge
      exact (h.statement frame).move (fun held holds => by cases holds)
    · rename_i mirror result
      rw [result] at frame
      cases edge
      split
      · exact (h.statement frame).move (fun held holds => by cases holds)
      · exact (h.stored frame own).move (fun held holds => by cases holds)
  · have sent := dispatchWrite_mirror c a.env a.table a.prepared a.op s.world
    dsimp only at edge
    split at edge
    · cases edge
      exact (h.sameMirror sent).move (fun held holds => by cases holds)
    · cases edge
      exact (h.sameMirror ((settle_mirror ..).trans sent)).move (fun held holds => by cases holds)
  · rename_i error phase
    split at edge
    · cases edge
      exact h.move (fun handle holds => free handle _ rfl holds)
    · rename_i handle active
      cases edge
      refine h.move (fun held holds => ?_)
      cases holds
      exact owned_lookup h active (mine (by rw [phase]; rfl))
  · rename_i handle error phase
    have own := h.held id a handle task (by rw [phase]; rfl)
    have frame := enqueueOn_frame codec s.world.mirror handle
      (a.settlement.queuedOperation a.env error)
    split at edge
    · rename_i mirror failure result
      rw [result] at frame
      cases edge
      exact (h.statement frame).move (fun held holds => by cases holds)
    · rename_i mirror result
      rw [result] at frame
      cases edge
      exact (h.stored frame own).move (fun held holds => by cases holds)
  · cases edge
    exact (h.sameMirror (publishAll_mirror ..)).move (fun held holds => by cases holds)
  · cases edge

theorem execute_disk {α : Type} (m : DbManager) (handle : Nat)
    (statement : Database → Except String (Database × α)) :
    (m.execute handle statement).1.disk = m.disk ∨
      ∃ pool db value, m.pools[handle]? = some pool ∧
        (m.execute handle statement).2 = .ok value ∧
        (m.execute handle statement).1.disk = m.disk.insert pool.user db := by
  unfold DbManager.execute
  split
  · exact .inl rfl
  · rename_i pool found
    split
    · exact .inl rfl
    · split
      · exact .inl rfl
      · split
        · exact .inl rfl
        · exact .inr ⟨pool, _, _, found, rfl, rfl⟩

theorem upsertRecordOn_disk {codec : Codec} {m after : DbManager} {handle : Nat} {table : String}
    {record : Map} {result : Except PolyError Unit}
    (h : upsertRecordOn codec m handle table record = (after, result)) :
    after.disk = m.disk ∨ ∃ pool db, record.isEmpty = false ∧ m.pools[handle]? = some pool ∧
      result = .ok () ∧ after.disk = m.disk.insert pool.user db := by
  unfold upsertRecordOn at h
  split at h
  · cases h
    exact .inl rfl
  · rename_i filled
    cases h
    rcases execute_disk m handle _ with same | ⟨pool, db, value, found, ok, disk⟩
    · exact .inl same
    · exact .inr ⟨pool, db, by simpa using filled, found, by rw [ok]; rfl, disk⟩

theorem enqueueOn_disk {codec : Codec} {m after : DbManager} {handle : Nat}
    {op : OfflineQueue.Memory.QueuedOperation} {result : Except OfflineQueueError Unit}
    (h : enqueueOn codec m handle op = (after, result)) :
    after.disk = m.disk ∨ ∃ pool db, m.pools[handle]? = some pool ∧
      result = .ok () ∧ after.disk = m.disk.insert pool.user db := by
  unfold enqueueOn at h
  cases h
  rcases execute_disk m handle _ with same | ⟨pool, db, value, found, ok, disk⟩
  · exact .inl same
  · exact .inr ⟨pool, db, found, by rw [ok]; rfl, disk⟩

theorem landed_world (s : State) (a : Activity) (handle : Nat) (target : Target) :
    (s.landed a handle target).world = s.world := by
  unfold State.landed
  split <;> rfl

theorem landed_effects {s : State} {a : Activity} {handle : Nat} {target : Target} {pool : Pool}
    (found : s.world.mirror.pools[handle]? = some pool) :
    (s.landed a handle target).effects = ⟨target, pool.user, a.user⟩ :: s.effects := by
  simp [State.landed, found]

theorem advance_disk {c : Coordinator p DbManager Unit} {codec : Codec} {s next : State}
    {id : Nat} {a : Activity} (edge : advance c codec s id a = some next) :
    next.world.mirror.disk = s.world.mirror.disk ∨
      ∃ effect db, next.effects = effect :: s.effects ∧ effect.preparedFor = a.user ∧
        next.world.mirror.disk = s.world.mirror.disk.insert effect.database db := by
  unfold advance at edge
  split at edge
  · split at edge <;> cases edge <;> exact .inl rfl
  · rename_i handle phase
    have frame := upsertRecordOn_frame codec s.world.mirror handle a.table a.localRecord
    split at edge
    · rename_i mirror error run
      cases edge
      rcases upsertRecordOn_disk run with same | ⟨_, _, _, _, ok, _⟩
      · exact .inl same
      · cases ok
    · rename_i mirror run
      rw [run] at frame
      cases edge
      have world : ((if a.localRecord.isEmpty then s.withMirror mirror
          else (s.withMirror mirror).landed a handle .mirror).move id a .network).world.mirror =
            mirror := by
        dsimp only [State.move]
        split
        · rfl
        · rw [landed_world]
          rfl
      rw [world]
      rcases upsertRecordOn_disk run with same | ⟨pool, db, filled, found, _, disk⟩
      · exact .inl same
      · have present : (s.withMirror mirror).world.mirror.pools[handle]? = some pool := by
          rw [← found]
          exact congrArg (·[handle]?) frame.1
        refine .inr ⟨⟨.mirror, pool.user, a.user⟩, db, ?_, rfl, disk⟩
        simp only [filled, Bool.false_eq_true, if_false]
        exact landed_effects present
  · have sent := dispatchWrite_mirror c a.env a.table a.prepared a.op s.world
    left
    dsimp only at edge
    split at edge
    · cases edge
      exact congrArg DbManager.disk sent
    · cases edge
      exact congrArg DbManager.disk ((settle_mirror ..).trans sent)
  · split at edge <;> cases edge <;> exact .inl rfl
  · rename_i handle error phase
    have frame := enqueueOn_frame codec s.world.mirror handle
      (a.settlement.queuedOperation a.env error)
    split at edge
    · rename_i mirror failure run
      cases edge
      rcases enqueueOn_disk run with same | ⟨_, _, _, ok, _⟩
      · exact .inl same
      · cases ok
    · rename_i mirror run
      rw [run] at frame
      cases edge
      have world : (((s.withMirror mirror).landed a handle .queue).move id a
          .reportDepth).world.mirror = mirror := by
        dsimp only [State.move]
        rw [landed_world]
        rfl
      rw [world]
      rcases enqueueOn_disk run with same | ⟨pool, db, found, _, disk⟩
      · exact .inl same
      · have present : (s.withMirror mirror).world.mirror.pools[handle]? = some pool := by
          rw [← found]
          exact congrArg (·[handle]?) frame.1
        exact .inr ⟨⟨.queue, pool.user, a.user⟩, db, landed_effects present, rfl, disk⟩
  · cases edge
    exact .inl (congrArg DbManager.disk (publishAll_mirror ..))
  · cases edge

theorem owned_poll {c : Coordinator p DbManager Unit} {codec : Codec} {s next : State}
    {label : Label} (h : Owned s) (stays : userStays s label = true)
    (edge : poll c codec s label = some next) : Owned next := by
  cases label with
  | setSession payload =>
    cases edge
    exact h.sameMirror rfl
  | clearSession =>
    cases edge
    exact h.sameMirror rfl
  | switchUser io user =>
    cases edge
    obtain ⟨keeps, pool⟩ := switchUser_spec io user h.pool
    exact h.withWorld keeps pool
  | call id env table record op =>
    unfold poll at edge
    dsimp only at edge
    split at edge
    · rename_i prepared free ready
      cases edge
      let started : Activity := ⟨env, table, op, prepared, .localLookup⟩
      have begun : Owned (s.move id started .localLookup) :=
        h.move (fun held holds => by cases holds)
      exact begun
    · cases edge
      exact h
    · cases edge
  | advance id =>
    obtain ⟨a, task, edge⟩ := Option.bind_eq_some_iff.mp edge
    exact owned_advance h task stays edge

/-- No call has begun, and whatever database is active is its user's. -/
structure Start (s : State) : Prop where
  pool : PoolOfUser s.world.mirror
  idle : ∀ id, s.tasks id = none
  quiet : s.effects = []

theorem Start.owned {s : State} (h : Start s) : Owned s where
  pool := h.pool
  held id a handle task := by
    rw [h.idle id] at task
    cases task
  effects := by
    rw [h.quiet]
    exact fun effect absent => absurd absent List.not_mem_nil

/-- Where the active user is the caller's at every lookup, all rows land with the user they
were prepared for, however sign-ins, switches and any number of calls interleave. -/
theorem run_effects_stay {c : Coordinator p DbManager Unit} {codec : Codec} {start s : State}
    {labels : List Label} (initial : Start start)
    (run : Run (Guarded (fun s label => userStays s label = true) (Steps (poll c codec)))
      start labels s) :
    ∀ effect ∈ s.effects, effect.database = effect.preparedFor := by
  have keeps : ∀ s label t, Owned s →
      Guarded (fun s label => userStays s label = true) (Steps (poll c codec)) s label t →
        Owned t := fun _ _ _ owned edge => owned_poll owned edge.2 edge.1
  exact (run.invariant initial.owned keeps).effects

/-! Alice writes her theme while the network is down. Bob signs in before her row is stored, or
after it was queued. -/

section Sample

open Kvs.Survival

def sampleSwitchCoordinator : Coordinator Registry.RoundTrip.taggedPrimitives DbManager Unit :=
  { kvsCoordinator ⟨fun queue _ => (queue, .ok ()), fun _ => .ok 0⟩ with
    localStore := sqliteLocalStore sampleCodec }

def signedOut : State where
  world := ⟨none, { polybaseMigrator := true, appMigrator := none }, (), ∅, [], []⟩

def signIn (user : String) : List Label :=
  [.switchUser sampleIo user, .setSession ⟨user, "token", "refresh", 4102444800, 1⟩]

def aliceWrites : Label :=
  .call 0 (callAt 0 (.failed "offline")) "kvs"
    (Kvs.Store.kvsRecord "prefs" "theme" (.string "dark") 1 ⟨"1970-01-01T00:00:00+00:00", 0⟩) none

def finishCall : List Label := List.replicate 6 (.advance 0)

theorem signedOut_start : Start signedOut where
  pool _ active := by cases active
  idle _ := rfl
  quiet := rfl

/-- Bob's sign-in falls between Alice's session read and her pool lookup. -/
theorem alice_lands_with_bob :
    ∃ s, Run (Steps (poll sampleSwitchCoordinator sampleCodec)) signedOut
        (finishCall ++ signIn "bob" ++ [aliceWrites] ++ signIn "alice") s ∧
      s.effects = [⟨.queue, "bob", "alice"⟩, ⟨.mirror, "bob", "alice"⟩] := by
  have computed : (execute (poll sampleSwitchCoordinator sampleCodec) signedOut
      (finishCall ++ signIn "bob" ++ [aliceWrites] ++ signIn "alice")).map State.effects =
        some [⟨.queue, "bob", "alice"⟩, ⟨.mirror, "bob", "alice"⟩] := by decide
  obtain ⟨s, ran, effects⟩ := Option.map_eq_some_iff.mp computed
  exact ⟨s, run_of_execute ran, effects⟩

theorem run_effects_stay_alice :
    ∃ s, Run (Steps (poll sampleSwitchCoordinator sampleCodec)) signedOut
        (signIn "bob" ++ finishCall ++ [aliceWrites] ++ signIn "alice") s ∧
      s.effects.length = 2 ∧ ∀ effect ∈ s.effects, effect.database = effect.preparedFor := by
  have computed : (execute (restrict userStays (poll sampleSwitchCoordinator sampleCodec))
      signedOut (signIn "bob" ++ finishCall ++ [aliceWrites] ++ signIn "alice")).map
        (fun s => s.effects.length) = some 2 := by decide
  obtain ⟨s, ran, effects⟩ := Option.map_eq_some_iff.mp computed
  have guarded := guarded_of_execute ran
  exact ⟨s, guarded.mono (fun _ _ _ edge => edge.1), effects,
    run_effects_stay signedOut_start guarded⟩

end Sample

end Polykit.Sync.UserSwitch
