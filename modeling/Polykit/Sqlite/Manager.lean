/- Module: Polykit/Sqlite/Manager
   generality: I
   source: crates/polybase-sqlite/src/manager.rs, crates/polybase-sqlite/migrations/0001_kvs.sql, crates/polybase-sqlite/migrations/0002_offline_queue.sql
   digest: Per-user databases, their pools, and the switch from one user to the next. -/

import Polykit.Sqlite.Storage

set_option autoImplicit false
set_option relaxedAutoImplicit false

namespace Polykit.Sqlite.Manager

open Storage

/-- A row of `polybase_queue`. The kind is its JSON text. -/
structure QueueRow where
  tableName : String
  entityId : String
  kind : String
  queuedAtMicros : Int64
  retryCount : Int64
  lastError : Option String
  deriving DecidableEq

/-- One `sync.db`: its record tables, and the queue table once it was created. -/
structure Database where
  tables : Std.ExtTreeMap String Table compare := ∅
  queue : Option (List QueueRow) := none

def textColumn (name : String) : SqlColumn := ⟨name, .text, true, .none⟩

def kvsSchema : TableSchema where
  columns := [
    ⟨"id", .text, false, .none⟩, textColumn "namespace", textColumn "key", textColumn "value",
    ⟨"version", .integer, true, .value (.integer 1)⟩,
    ⟨"deleted", .integer, true, .value (.integer 0)⟩,
    ⟨"updated_at", .text, true, .now⟩]
  unique := [["namespace", "key"]]

/-- The bundled migrations, `create table if not exists` each. -/
def polybaseMigrator (db : Database) : Database where
  tables := if db.tables.contains "kvs" then db.tables else db.tables.insert "kvs" ⟨kvsSchema, []⟩
  queue := some (db.queue.getD [])

/-- A pool is opened on one user's file and stays with it. Once closed it serves nothing. -/
structure Pool where
  user : String
  closed : Bool
  deriving DecidableEq

inductive DbManagerError
  | sqlx (detail : String)
  | migrate (detail : String)
  | io (detail : String)
  | invalidUserId (user : String)
  deriving DecidableEq

def DbManagerError.display : DbManagerError → String
  | .sqlx detail => "sqlx error: " ++ detail
  | .migrate detail => "migration error: " ++ detail
  | .io detail => "io error: " ++ detail
  | .invalidUserId user => "invalid user id: " ++ user

/-- The manager with the disk below its root. A pool is named by its place among all the
pools opened so far, `sqlNow` is what SQLite's clock reads. -/
structure DbManager where
  polybaseMigrator : Bool
  appMigrator : Option (Database → Database)
  userId : Option String := none
  pool : Option Nat := none
  pools : List Pool := []
  disk : Std.ExtTreeMap String Database compare := ∅
  sqlNow : String := ""

/-- What the file system and the database library answer during one switch. -/
structure SwitchIo where
  removeDir : Except String Unit
  createDir : Except String Unit
  connect : Except String Unit
  polybaseMigration : Except String Unit
  appMigration : Except String Unit

def validUserId (user : String) : Bool :=
  user.toList.all (fun c => c.isAlphanum || c == '-' || c == '_')

def DbManager.closePool (m : DbManager) : DbManager :=
  match m.pool with
  | some handle =>
      { m with
        pool := none
        pools := m.pools.modify handle (fun pool => { pool with closed := true }) }
  | none => m

def DbManager.removePrior (m : DbManager) (io : SwitchIo) :
    DbManager × Except DbManagerError Unit :=
  match m.userId with
  | some prior =>
      let m := { m with userId := none }
      if m.disk.contains prior then
        match io.removeDir with
        | .error e => (m, .error (.io e))
        | .ok () => ({ m with disk := m.disk.erase prior }, .ok ())
      else (m, .ok ())
  | none => (m, .ok ())

/-- Create the user's directory, open its file, migrate it, and only then activate it. -/
def DbManager.openUser (m : DbManager) (io : SwitchIo) (user : String) :
    DbManager × Except DbManagerError Unit :=
  match io.createDir with
  | .error e => (m, .error (.io e))
  | .ok () =>
      let db := (m.disk[user]?).getD {}
      let created := { m with disk := m.disk.insert user db }
      match io.connect with
      | .error e => (created, .error (.sqlx e))
      | .ok () =>
          match if m.polybaseMigrator then io.polybaseMigration else .ok () with
          | .error e => (created, .error (.migrate e))
          | .ok () =>
              let base := if m.polybaseMigrator then Manager.polybaseMigrator db else db
              let based := { m with disk := m.disk.insert user base }
              match if m.appMigrator.isSome then io.appMigration else .ok () with
              | .error e => (based, .error (.migrate e))
              | .ok () =>
                  ({ m with
                      disk := m.disk.insert user ((m.appMigrator.getD id) base)
                      pools := m.pools ++ [⟨user, false⟩]
                      userId := some user
                      pool := some m.pools.length }, .ok ())

/-- The state lock is held throughout, so a switch is one step for everyone else. -/
def DbManager.switchUser (m : DbManager) (io : SwitchIo) (user : String) :
    DbManager × Except DbManagerError Unit :=
  if m.userId = some user then (m, .ok ())
  else
    match m.closePool.removePrior io with
    | (m, .error e) => (m, .error e)
    | (m, .ok ()) =>
        if user = "" then ({ m with userId := none, pool := none }, .ok ())
        else if !validUserId user then (m, .error (.invalidUserId user))
        else m.openUser io user

def DbManager.execute {α : Type} (m : DbManager) (handle : Nat)
    (statement : Database → Except String (Database × α)) : DbManager × Except String α :=
  match m.pools[handle]? with
  | none => (m, .error "no such pool")
  | some pool =>
      if pool.closed then (m, .error "attempted to acquire a connection on a closed pool")
      else
        match m.disk[pool.user]? with
        | none => (m, .error "unable to open database file")
        | some db =>
            match statement db with
            | .error e => (m, .error e)
            | .ok (after, result) =>
                ({ m with disk := m.disk.insert pool.user after }, .ok result)

/-- The active pool is open on the active user's file, and there is none without a user. -/
def PoolOfUser (m : DbManager) : Prop :=
  ∀ handle, m.pool = some handle →
    ∃ pool user, m.pools[handle]? = some pool ∧ m.userId = some user ∧ pool.user = user

/-- Pools keep their user, whatever becomes of the manager. -/
def KeepsPools (before after : DbManager) : Prop :=
  ∀ (handle : Nat) (pool : Pool), before.pools[handle]? = some pool →
    ∃ kept, after.pools[handle]? = some kept ∧ kept.user = pool.user

theorem KeepsPools.refl (m : DbManager) : KeepsPools m m := fun _ pool h => ⟨pool, h, rfl⟩

theorem KeepsPools.trans {a b c : DbManager} (first : KeepsPools a b) (second : KeepsPools b c) :
    KeepsPools a c := by
  intro handle pool h
  obtain ⟨middle, hmiddle, same⟩ := first handle pool h
  obtain ⟨last, hlast, again⟩ := second handle middle hmiddle
  exact ⟨last, hlast, again.trans same⟩

theorem closePool_spec (m : DbManager) :
    KeepsPools m m.closePool ∧ m.closePool.pool = none ∧ m.closePool.userId = m.userId := by
  unfold DbManager.closePool
  split
  · rename_i active hactive
    refine ⟨?_, rfl, rfl⟩
    intro handle pool h
    by_cases same : active = handle
    · subst same
      exact ⟨{ pool with closed := true }, by simp [h], rfl⟩
    · exact ⟨pool, by simp [h, same], rfl⟩
  · rename_i inactive
    exact ⟨KeepsPools.refl m, inactive, rfl⟩

theorem removePrior_spec (m : DbManager) (io : SwitchIo) :
    (m.removePrior io).1.pools = m.pools ∧ (m.removePrior io).1.pool = m.pool ∧
      (m.removePrior io).1.userId = none := by
  unfold DbManager.removePrior
  split
  · dsimp only
    split
    · split <;> exact ⟨rfl, rfl, rfl⟩
    · exact ⟨rfl, rfl, rfl⟩
  · rename_i none
    exact ⟨rfl, rfl, none⟩

theorem openUser_spec (m : DbManager) (io : SwitchIo) (user : String) :
    ((m.openUser io user).1.pools = m.pools ∧ (m.openUser io user).1.pool = m.pool ∧
        (m.openUser io user).1.userId = m.userId) ∨
      ((m.openUser io user).1.pools = m.pools ++ [⟨user, false⟩] ∧
        (m.openUser io user).1.pool = some m.pools.length ∧
        (m.openUser io user).1.userId = some user) := by
  unfold DbManager.openUser
  split
  · exact .inl ⟨rfl, rfl, rfl⟩
  · dsimp only
    split
    · exact .inl ⟨rfl, rfl, rfl⟩
    · split
      · exact .inl ⟨rfl, rfl, rfl⟩
      · split
        · exact .inl ⟨rfl, rfl, rfl⟩
        · exact .inr ⟨rfl, rfl, rfl⟩

theorem openUser_ok {m : DbManager} {io : SwitchIo} {user : String}
    (h : (m.openUser io user).2 = .ok ()) : (m.openUser io user).1.userId = some user := by
  unfold DbManager.openUser at h ⊢
  split
  · rename_i failed
    simp only [failed] at h
    cases h
  · rename_i created
    simp only [created] at h
    dsimp only
    split
    · rename_i failed
      simp only [failed] at h
      cases h
    · rename_i connected
      simp only [connected] at h
      split
      · rename_i failed
        simp only [failed] at h
        cases h
      · rename_i migrated
        simp only [migrated] at h
        split
        · rename_i failed
          simp only [failed] at h
          cases h
        · rfl

theorem switchUser_spec {m : DbManager} (io : SwitchIo) (user : String) (h : PoolOfUser m) :
    KeepsPools m (m.switchUser io user).1 ∧ PoolOfUser (m.switchUser io user).1 := by
  obtain ⟨closing, noPool, _⟩ := closePool_spec m
  obtain ⟨samePools, samePool, noUser⟩ := removePrior_spec m.closePool io
  have removing : KeepsPools m (m.closePool.removePrior io).1 := by
    intro handle pool hpool
    rw [samePools]
    exact closing handle pool hpool
  have idle : ∀ t : DbManager, t.pool = none → PoolOfUser t := by
    intro t none handle active
    rw [none] at active
    cases active
  have cleared : (m.closePool.removePrior io).1.pool = none := samePool.trans noPool
  unfold DbManager.switchUser
  split
  · exact ⟨KeepsPools.refl m, h⟩
  · split
    · rename_i removed e result
      rw [result] at removing cleared
      exact ⟨removing, idle _ cleared⟩
    · rename_i removed result
      rw [result] at removing cleared
      split
      · exact ⟨removing, idle _ rfl⟩
      · split
        · exact ⟨removing, idle _ cleared⟩
        · rcases openUser_spec removed io user with ⟨pools, pool, _⟩ | ⟨pools, pool, active⟩
          · refine ⟨?_, idle _ (pool.trans cleared)⟩
            intro handle old hold
            rw [pools]
            exact removing handle old hold
          · constructor
            · intro handle old hold
              obtain ⟨kept, hkept, same⟩ := removing handle old hold
              have inside : handle < removed.pools.length :=
                (List.getElem?_eq_some_iff.mp hkept).1
              exact ⟨kept, by rw [pools, List.getElem?_append_left inside, hkept], same⟩
            · intro handle activeHandle
              rw [pool] at activeHandle
              cases activeHandle
              exact ⟨⟨user, false⟩, user, by rw [pools]; simp, active, rfl⟩

/-- A database has the shipped key-value table or none. -/
def ShippedKvs (db : Database) : Prop := ∀ t, db.tables["kvs"]? = some t → t.schema = kvsSchema

/-- Every database on disk does, and the app's migrations leave it so. -/
structure Shipped (m : DbManager) : Prop where
  disk : ∀ (user : String) (db : Database), m.disk[user]? = some db → ShippedKvs db
  app : ∀ migrate, m.appMigrator = some migrate → ∀ db, ShippedKvs db → ShippedKvs (migrate db)

theorem polybaseMigrator_shipped {db : Database} (h : ShippedKvs db) :
    ShippedKvs (polybaseMigrator db) := by
  intro t found
  unfold polybaseMigrator at found
  dsimp only at found
  split at found
  · exact h t found
  · rw [Std.ExtTreeMap.getElem?_insert_self, Option.some.injEq] at found
    rw [← found]

theorem Shipped.insert {m after : DbManager} (h : Shipped m) {user : String} {db : Database}
    (shipped : ShippedKvs db) (disk : after.disk = m.disk.insert user db)
    (app : after.appMigrator = m.appMigrator) : Shipped after where
  disk other found hfound := by
    rw [disk, Std.ExtTreeMap.getElem?_insert] at hfound
    split at hfound
    · cases hfound
      exact shipped
    · exact h.disk other found hfound
  app := app ▸ h.app

theorem closePool_shipped {m : DbManager} (h : Shipped m) : Shipped m.closePool := by
  unfold DbManager.closePool
  split
  · exact ⟨h.disk, h.app⟩
  · exact h

theorem removePrior_shipped {m : DbManager} (h : Shipped m) (io : SwitchIo) :
    Shipped (m.removePrior io).1 := by
  unfold DbManager.removePrior
  split
  · rename_i prior signedIn
    dsimp only
    split
    · split
      · exact ⟨h.disk, h.app⟩
      · refine ⟨fun user db found => ?_, h.app⟩
        rw [Std.ExtTreeMap.getElem?_erase] at found
        split at found
        · cases found
        · exact h.disk user db found
    · exact ⟨h.disk, h.app⟩
  · exact h

theorem openUser_shipped {m : DbManager} (h : Shipped m) (io : SwitchIo) (user : String) :
    Shipped (m.openUser io user).1 := by
  have opened : ShippedKvs ((m.disk[user]?).getD {}) := by
    cases found : m.disk[user]? with
    | none =>
      intro t absent
      simp at absent
    | some db => exact h.disk user db found
  have based : ShippedKvs (if m.polybaseMigrator then
      Manager.polybaseMigrator ((m.disk[user]?).getD {}) else (m.disk[user]?).getD {}) := by
    split
    · exact polybaseMigrator_shipped opened
    · exact opened
  unfold DbManager.openUser
  split
  · exact h
  · dsimp only
    split
    · exact h.insert opened rfl rfl
    · split
      · exact h.insert opened rfl rfl
      · split
        · exact h.insert based rfl rfl
        · refine h.insert ?_ rfl rfl
          cases app : m.appMigrator with
          | none => exact based
          | some migrate => exact h.app migrate app _ based

/-- The bundled schema is what every user's database has, however users are switched. -/
theorem switchUser_shipped {m : DbManager} (h : Shipped m) (io : SwitchIo) (user : String) :
    Shipped (m.switchUser io user).1 := by
  have removed := removePrior_shipped (closePool_shipped h) io
  unfold DbManager.switchUser
  split
  · exact h
  · split
    · rename_i after e result
      exact result ▸ removed
    · rename_i after result
      rw [result] at removed
      split
      · exact ⟨removed.disk, removed.app⟩
      · split
        · exact removed
        · exact openUser_shipped removed io user

theorem execute_frame {α : Type} (m : DbManager) (handle : Nat)
    (statement : Database → Except String (Database × α)) :
    (m.execute handle statement).1.pools = m.pools ∧
      (m.execute handle statement).1.pool = m.pool ∧
      (m.execute handle statement).1.userId = m.userId := by
  unfold DbManager.execute
  split
  · exact ⟨rfl, rfl, rfl⟩
  · split
    · exact ⟨rfl, rfl, rfl⟩
    · split
      · exact ⟨rfl, rfl, rfl⟩
      · split <;> exact ⟨rfl, rfl, rfl⟩

theorem execute_eq_ok {α : Type} {m after : DbManager} {handle : Nat}
    {statement : Database → Except String (Database × α)} {result : α}
    (h : m.execute handle statement = (after, .ok result)) :
    ∃ pool db final, m.pools[handle]? = some pool ∧ pool.closed = false ∧
      m.disk[pool.user]? = some db ∧ statement db = .ok (final, result) ∧
      after = { m with disk := m.disk.insert pool.user final } := by
  unfold DbManager.execute at h
  split at h
  · cases h
  · rename_i pool hpool
    split at h
    · cases h
    · rename_i opened
      split at h
      · cases h
      · rename_i db hdb
        split at h
        · cases h
        · rename_i final result' hrun
          cases h
          exact ⟨pool, db, final, hpool, by simpa using opened, hdb, hrun, rfl⟩

theorem execute_eq_error {α : Type} {m after : DbManager} {handle : Nat}
    {statement : Database → Except String (Database × α)} {e : String}
    (h : m.execute handle statement = (after, .error e)) : after = m := by
  unfold DbManager.execute at h
  repeat' split at h
  all_goals first | exact (congrArg Prod.fst h).symm | cases congrArg Prod.snd h

theorem execute_open {α : Type} {m : DbManager} {handle : Nat} {pool : Pool} {db final : Database}
    {statement : Database → Except String (Database × α)} {result : α}
    (hpool : m.pools[handle]? = some pool) (opened : pool.closed = false)
    (hdb : m.disk[pool.user]? = some db) (hrun : statement db = .ok (final, result)) :
    m.execute handle statement =
      ({ m with disk := m.disk.insert pool.user final }, .ok result) := by
  simp [DbManager.execute, hpool, opened, hdb, hrun]

end Polykit.Sqlite.Manager
