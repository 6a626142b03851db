/- Module: Polykit/Sqlite/Directories
   generality: I
   source: crates/polybase-sqlite/src/manager.rs
   digest: Which directories user switches create and delete, and whose data they leave on disk. -/

import Polykit.Lib.Fallible
import Polykit.Lib.Paths
import Polykit.Lib.Runs
import Polykit.Sqlite.Manager

set_option autoImplicit false
set_option relaxedAutoImplicit false

namespace Polykit.Sqlite.Directories

open Lib.Fallible Lib.Paths Lib.Runs Manager

/-- `metadata` says whether an existing directory can be seen to exist. When creation fails, the
first `made` of the missing parents are there, and a failed deletion leaves what it `leaves`. -/
structure HostIo extends SwitchIo where
  metadata : Bool := true
  made : Nat := 0
  leaves : Path → Bool := fun _ => false

/-- A directory created for a user, or deleted with everything below it while a user was active. -/
inductive Effect
  | creates (user : String) (dir : Path)
  | removes (active : Option String) (dir : Path)
  deriving DecidableEq

/-- The manager with all the directories of the machine it runs on. `opened` counts the pools,
and the log holds the newest effect first. -/
structure Host where
  root : Path
  polybaseMigrator : Bool
  appMigrator : Bool
  dirs : List Path
  userId : Option String := none
  pool : Option Nat := none
  opened : Nat := 0
  log : List Effect := []

/-- `DbManager::new` with its options. It touches nothing. -/
def Host.new (root : Path) (polybaseMigrator appMigrator : Bool) (dirs : List Path) : Host :=
  { root, polybaseMigrator, appMigrator, dirs }

def Host.userDbDir (h : Host) (user : String) : Path := join h.root user

/-- The missing directories that `create_dir_all` creates, also when it fails. -/
def HostIo.creates (io : HostIo) (dirs : List Path) (dir : Path) : List Path :=
  match io.createDir with
  | .ok () => missing dirs dir
  | .error _ => (missing dirs dir.dropLast).take io.made

/-- `create_dir_all` -/
def Host.createDirAll (h : Host) (io : HostIo) (user : String) (dir : Path) :
    Host × Except DbManagerError Unit :=
  let created := io.creates h.dirs dir
  ({ h with
      dirs := h.dirs ++ created
      log := (created.map (Effect.creates user)).reverse ++ h.log }, io.createDir.mapError .io)

/-- `remove_dir_all` -/
def Host.removeDirAll (h : Host) (io : HostIo) (active : Option String) (dir : Path) :
    Host × Except DbManagerError Unit :=
  let remains := fun path => match io.removeDir with
    | .ok () => false
    | .error _ => path == dir || io.leaves path
  ({ h with
      dirs := h.dirs.filter (fun path => !dir.isPrefixOf path || remains path)
      log := .removes active dir :: h.log }, io.removeDir.mapError .io)

def Host.closePool (h : Host) : Host := { h with pool := none }

def Host.removePrior (h : Host) (io : HostIo) : Host × Except DbManagerError Unit :=
  match h.userId with
  | some prior =>
      let priorDir := h.userDbDir prior
      if h.dirs.contains priorDir && io.metadata then
        ({ h with userId := none }).removeDirAll io h.userId priorDir
      else ({ h with userId := none }, .ok ())
  | none => (h, .ok ())

def Host.openPool (h : Host) (io : HostIo) : Except DbManagerError Unit := do
  io.connect.mapError .sqlx
  if h.polybaseMigrator then io.polybaseMigration.mapError .migrate
  if h.appMigrator then io.appMigration.mapError .migrate

def Host.openUser (h : Host) (io : HostIo) (user : String) : Host × Except DbManagerError Unit :=
  match h.createDirAll io user (h.userDbDir user) with
  | (h, .error e) => (h, .error e)
  | (h, .ok ()) =>
      match h.openPool io with
      | .error e => (h, .error e)
      | .ok () =>
          ({ h with opened := h.opened + 1, userId := some user, pool := some h.opened }, .ok ())

def Host.switchUser (h : Host) (io : HostIo) (user : String) :
    Host × Except DbManagerError Unit :=
  if h.userId = some user then (h, .ok ())
  else
    match h.closePool.removePrior io with
    | (h, .error e) => (h, .error e)
    | (h, .ok ()) =>
        if user = "" then ({ h with userId := none, pool := none }, .ok ())
        else if !validUserId user then (h, .error (.invalidUserId user))
        else h.openUser io user

/-- A switch, or a new process with a manager of its own on the same root. -/
inductive Call
  | switch (io : HostIo) (user : String)
  | restart (polybaseMigrator appMigrator : Bool)

def Host.call (h : Host) : Call → Host
  | .switch io user => (h.switchUser io user).1
  | .restart polybaseMigrator appMigrator =>
      { Host.new h.root polybaseMigrator appMigrator h.dirs with log := h.log }

def poll (h : Host) (call : Call) : Option Host := some (h.call call)

structure IsUser (user : String) : Prop where
  nonempty : user ≠ ""
  valid : validUserId user = true

theorem IsUser.isName {user : String} (h : IsUser user) : IsName user := by
  have chars := List.all_eq_true.mp h.valid
  refine ⟨h.nonempty, ?_, ?_, fun separator => absurd (chars '/' separator) (by decide)⟩
  · rintro rfl
    exact absurd h.valid (by decide)
  · rintro rfl
    exact absurd h.valid (by decide)

theorem userDbDir_eq (h : Host) {user : String} (admitted : IsUser user) :
    h.userDbDir user = h.root ++ [user] :=
  join_name admitted.isName h.root

structure Remembers (h : Host) : Prop where
  admitted : ∀ prior, h.userId = some prior → IsUser prior
  present : ∀ prior, h.userId = some prior → h.root ++ [prior] ∈ h.dirs

structure Recorded (h : Host) : Prop extends Remembers h where
  paired : h.userId.isSome ↔ h.pool.isSome

theorem Remembers.closePool {h : Host} (r : Remembers h) : Remembers h.closePool :=
  ⟨r.admitted, r.present⟩

/-- A path that no switch may delete or, unless it is on the way to the root, create. -/
def Outside (root path : Path) : Prop := ∀ user, IsUser user → ¬ root ++ [user] <+: path

/-- What every effect is allowed to be, given the directories at the start. -/
def Allowed (root : Path) (dirs : List Path) : Effect → Prop
  | .creates user dir =>
      IsUser user ∧ (dir = root ++ [user] ∨ (dir <+: root ∧ dir ∉ dirs))
  | .removes active dir => ∃ prior, active = some prior ∧ IsUser prior ∧ dir = root ++ [prior]

/-- Nothing but allowed effects since the directories were `dirs`. -/
structure Confined (root : Path) (dirs : List Path) (h : Host) : Prop where
  root_eq : h.root = root
  allowed : ∀ effect ∈ h.log, Allowed root dirs effect
  kept : ∀ path ∈ dirs, Outside root path → path ∈ h.dirs
  added : ∀ path ∈ h.dirs, Outside root path → path ∈ dirs ∨ path <+: root

variable {root : Path} {dirs : List Path} {h : Host} {user : String}

theorem outside_above {path : Path} (above : path <+: root) : Outside root path :=
  fun _ _ => no_child_above above

theorem Confined.congr {after : Host} (c : Confined root dirs h) (sameRoot : after.root = h.root)
    (sameDirs : after.dirs = h.dirs) (sameLog : after.log = h.log) :
    Confined root dirs after where
  root_eq := sameRoot.trans c.root_eq
  allowed := sameLog ▸ c.allowed
  kept := sameDirs ▸ c.kept
  added := sameDirs ▸ c.added

theorem Confined.userDbDir (c : Confined root dirs h) (admitted : IsUser user) :
    h.userDbDir user = root ++ [user] := by
  rw [userDbDir_eq h admitted, c.root_eq]

theorem removeDirAll_confined (c : Confined root dirs h) (io : HostIo) (admitted : IsUser user) :
    Confined root dirs (h.removeDirAll io (some user) (root ++ [user])).1 where
  root_eq := c.root_eq
  allowed effect member := by
    rcases List.mem_cons.mp member with rfl | old
    · exact ⟨user, rfl, admitted, rfl⟩
    · exact c.allowed effect old
  kept path member outside := by
    refine List.mem_filter.mpr ⟨c.kept path member outside, ?_⟩
    have apart : (root ++ [user]).isPrefixOf path = false :=
      Bool.eq_false_iff.mpr (fun below =>
        outside user admitted (List.isPrefixOf_iff_prefix.mp below))
    rw [apart]
    rfl
  added path member outside := c.added path (List.mem_filter.mp member).1 outside

theorem mem_creates {io : HostIo} {dir path : Path} (member : path ∈ io.creates dirs dir) :
    path <+: dir ∧ path ∉ dirs := by
  unfold HostIo.creates at member
  split at member
  · have new := mem_missing.mp member
    exact ⟨new.1, new.2.2⟩
  · have new := mem_missing.mp (List.mem_of_mem_take member)
    exact ⟨new.1.trans (List.dropLast_prefix dir), new.2.2⟩

theorem createDirAll_confined (c : Confined root dirs h) (io : HostIo) (admitted : IsUser user) :
    Confined root dirs (h.createDirAll io user (root ++ [user])).1 where
  root_eq := c.root_eq
  allowed effect member := by
    rcases List.mem_append.mp member with made | old
    · obtain ⟨dir, created, rfl⟩ := List.mem_map.mp (List.mem_reverse.mp made)
      obtain ⟨way, absent⟩ := mem_creates created
      refine ⟨admitted, (prefix_child_cases way).imp_right (fun above => ⟨above, ?_⟩)⟩
      exact fun initial => absent (c.kept dir initial (outside_above above))
    · exact c.allowed effect old
  kept path member outside := List.mem_append_left _ (c.kept path member outside)
  added path member outside := by
    rcases List.mem_append.mp member with old | created
    · exact c.added path old outside
    · rcases prefix_child_cases (mem_creates created).1 with rfl | above
      · exact absurd (List.prefix_refl _) (outside user admitted)
      · exact .inr above

theorem removePrior_spec (h : Host) (io : HostIo) :
    (h.removePrior io).1.userId = none ∧ (h.removePrior io).1.pool = h.pool ∧
      (h.removePrior io).1.root = h.root := by
  unfold Host.removePrior
  split
  · dsimp only
    split <;> exact ⟨rfl, rfl, rfl⟩
  · rename_i none
    exact ⟨none, rfl, rfl⟩

theorem removePrior_confined (c : Confined root dirs h) (remembers : Remembers h) (io : HostIo) :
    Confined root dirs (h.removePrior io).1 := by
  unfold Host.removePrior
  split
  · rename_i prior active
    have admitted := remembers.admitted prior active
    have forgotten : Confined root dirs { h with userId := none } := c.congr rfl rfl rfl
    dsimp only
    split
    · rw [active, c.userDbDir admitted]
      exact removeDirAll_confined forgotten io admitted
    · exact forgotten
  · exact c

theorem openUser_of_error {io : HostIo} {e : String} (failed : io.createDir = .error e)
    (h : Host) (user : String) : h.openUser io user =
      ((h.createDirAll io user (h.userDbDir user)).1, .error (.io e)) := by
  simp only [Host.openUser, Host.createDirAll, failed, Except.mapError]

theorem openUser_of_ok {io : HostIo} (made : io.createDir = .ok ()) (h : Host) (user : String) :
    h.openUser io user =
      let created := (h.createDirAll io user (h.userDbDir user)).1
      match h.openPool io with
      | .error e => (created, .error e)
      | .ok () =>
          ({ created with
              opened := created.opened + 1
              userId := some user
              pool := some created.opened }, .ok ()) := by
  simp only [Host.openUser, Host.createDirAll, made, Except.mapError]
  rfl

theorem openUser_cases (h : Host) (io : HostIo) (user : String) :
    let created := (h.createDirAll io user (h.userDbDir user)).1
    (∃ e, (io.createDir = .ok () → h.openPool io = .error e) ∧
        h.openUser io user = (created, .error e)) ∨
      (io.createDir = .ok () ∧ h.openPool io = .ok () ∧
        h.openUser io user = ({ created with
          opened := created.opened + 1
          userId := some user
          pool := some created.opened }, .ok ())) := by
  cases answer : io.createDir with
  | error e => exact .inl ⟨.io e, nofun, openUser_of_error answer h user⟩
  | ok made =>
    rw [openUser_of_ok answer]
    cases h.openPool io with
    | error e => exact .inl ⟨e, fun _ => rfl, rfl⟩
    | ok done => exact .inr ⟨rfl, rfl, rfl⟩

theorem openUser_confined (c : Confined root dirs h) (io : HostIo) (admitted : IsUser user) :
    Confined root dirs (h.openUser io user).1 := by
  have created := createDirAll_confined c io admitted
  rw [← c.userDbDir admitted] at created
  rcases openUser_cases h io user with ⟨e, _, failed⟩ | ⟨_, _, opened⟩
  · rw [failed]
    exact created
  · rw [opened]
    exact created.congr rfl rfl rfl

/-- A switch to another user fails once the previous one is gone, or ends with nobody signed in,
or opens the new user's file. -/
theorem switchUser_cases (io : HostIo) (other : h.userId ≠ some user) :
    let removal := h.closePool.removePrior io
    (∃ e, h.switchUser io user = (removal.1, .error e)) ∨
      (user = "" ∧ removal.2 = .ok () ∧ h.switchUser io user = (removal.1, .ok ())) ∨
      (IsUser user ∧ removal.2 = .ok () ∧
        h.switchUser io user = removal.1.openUser io user) := by
  obtain ⟨nobody, closed, _⟩ := removePrior_spec h.closePool io
  unfold Host.switchUser
  rw [if_neg other]
  rcases removal : h.closePool.removePrior io with ⟨removed, e | done⟩
  · exact .inl ⟨e, rfl⟩
  · rw [removal] at nobody closed
    dsimp only [Host.closePool] at nobody closed ⊢
    split
    · rename_i empty
      refine .inr (.inl ⟨empty, rfl, ?_⟩)
      have unchanged : { removed with userId := none, pool := none } = removed := by
        rw [← nobody, ← closed]
      rw [unchanged]
    · rename_i named
      split
      · exact .inl ⟨_, rfl⟩
      · rename_i valid
        exact .inr (.inr ⟨⟨named, by simpa using valid⟩, rfl, rfl⟩)

theorem switchUser_confined (c : Confined root dirs h) (recorded : Recorded h) (io : HostIo)
    (user : String) : Confined root dirs (h.switchUser io user).1 := by
  by_cases same : h.userId = some user
  · rw [Host.switchUser, if_pos same]
    exact c
  · have closed : Confined root dirs h.closePool := c.congr rfl rfl rfl
    have removed := removePrior_confined closed recorded.closePool io
    rcases switchUser_cases io same with ⟨e, failed⟩ | ⟨_, _, left⟩ | ⟨admitted, _, opens⟩
    · rw [failed]
      exact removed
    · rw [left]
      exact removed
    · rw [opens]
      exact openUser_confined removed io admitted

theorem recorded_of_nobody (nobody : h.userId = none) (noPool : h.pool = none) : Recorded h where
  admitted prior active := by
    rw [nobody] at active
    cases active
  present prior active := by
    rw [nobody] at active
    cases active
  paired := by simp [nobody, noPool]

theorem createDirAll_present {io : HostIo} (made : io.createDir = .ok ()) (root : Path)
    (user : String) : root ++ [user] ∈ (h.createDirAll io user (root ++ [user])).1.dirs := by
  by_cases old : root ++ [user] ∈ h.dirs
  · exact List.mem_append_left _ old
  · refine List.mem_append_right _ ?_
    rw [HostIo.creates, made]
    exact mem_missing.mpr ⟨List.prefix_refl _, List.concat_ne_nil _ _, old⟩

theorem openUser_recorded (nobody : h.userId = none) (noPool : h.pool = none) (io : HostIo)
    (admitted : IsUser user) : Recorded (h.openUser io user).1 := by
  rcases openUser_cases h io user with ⟨e, _, failed⟩ | ⟨made, _, opened⟩
  · rw [failed]
    exact recorded_of_nobody nobody noPool
  · rw [opened, userDbDir_eq h admitted]
    refine { admitted := ?_, present := ?_, paired := iff_of_true rfl rfl }
    · rintro prior ⟨⟩
      exact admitted
    · rintro prior ⟨⟩
      exact createDirAll_present made h.root user

theorem switchUser_recorded (recorded : Recorded h) (io : HostIo) (user : String) :
    Recorded (h.switchUser io user).1 := by
  by_cases same : h.userId = some user
  · rw [Host.switchUser, if_pos same]
    exact recorded
  · obtain ⟨nobody, noPool, _⟩ := removePrior_spec h.closePool io
    rcases switchUser_cases io same with ⟨e, failed⟩ | ⟨_, _, left⟩ | ⟨admitted, _, opens⟩
    · rw [failed]
      exact recorded_of_nobody nobody noPool
    · rw [left]
      exact recorded_of_nobody nobody noPool
    · rw [opens]
      exact openUser_recorded nobody noPool io admitted

theorem call_recorded (recorded : Recorded h) (call : Call) : Recorded (h.call call) := by
  cases call with
  | switch io user => exact switchUser_recorded recorded io user
  | restart => exact recorded_of_nobody rfl rfl

theorem call_confined (c : Confined root dirs h) (recorded : Recorded h) (call : Call) :
    Confined root dirs (h.call call) := by
  cases call with
  | switch io user => exact switchUser_confined c recorded io user
  | restart => exact c.congr rfl rfl rfl

theorem new_confined (root : Path) (polybaseMigrator appMigrator : Bool) (dirs : List Path) :
    Confined root dirs (Host.new root polybaseMigrator appMigrator dirs) where
  root_eq := rfl
  allowed effect member := by cases member
  kept path member _ := member
  added path member _ := .inl member

variable {polybaseMigrator appMigrator : Bool} {calls : List Call}

theorem run_invariant
    (run : Run (Steps poll) (Host.new root polybaseMigrator appMigrator dirs) calls h) :
    Confined root dirs h ∧ Recorded h := by
  refine run.invariant (I := fun h => Confined root dirs h ∧ Recorded h)
    ⟨new_confined root _ _ dirs, recorded_of_nobody rfl rfl⟩ ?_
  rintro before call after ⟨confined, recorded⟩ ⟨⟩
  exact ⟨call_confined confined recorded call, call_recorded recorded call⟩

/-- Whatever is asked for and whatever fails, only directories of admitted ids are created, the
missing part of the way to the root aside, and only that of the active user is deleted. All other
directories stay, and a user is recorded exactly when a pool is. -/
theorem run_keeps_to_userDirs
    (run : Run (Steps poll) (Host.new root polybaseMigrator appMigrator dirs) calls h) :
    (∀ user dir, Effect.creates user dir ∈ h.log →
        IsUser user ∧ (dir = root ++ [user] ∨ (dir <+: root ∧ dir ∉ dirs))) ∧
      (∀ active dir, Effect.removes active dir ∈ h.log →
        ∃ prior, active = some prior ∧ IsUser prior ∧ dir = root ++ [prior]) ∧
      (∀ path, Outside root path → (path ∈ dirs → path ∈ h.dirs) ∧
        (path ∈ h.dirs → path ∈ dirs ∨ path <+: root)) ∧
      (h.userId.isSome ↔ h.pool.isSome) := by
  obtain ⟨confined, recorded⟩ := run_invariant run
  refine ⟨?_, ?_, ?_, recorded.paired⟩
  · intro user dir member
    exact confined.allowed (.creates user dir) member
  · intro active dir member
    exact confined.allowed (.removes active dir) member
  · intro path outside
    exact ⟨fun old => confined.kept path old outside, fun now => confined.added path now outside⟩

def answered : HostIo where
  removeDir := .ok ()
  createDir := .ok ()
  connect := .ok ()
  polybaseMigration := .ok ()
  appMigration := .ok ()

theorem run_keeps_to_userDirs_traversal :
    let start := Host.new ["app"] true false [["app"], ["app", "a"], ["etc"]]
    ∃ h, Run (Steps poll) start [.switch answered "../etc", .switch answered "b",
        .switch answered "a", .switch answered "/etc"] h ∧
      h.dirs = [["app"], ["etc"]] ∧
      (∀ active dir, Effect.removes active dir ∈ h.log →
        ∃ prior, active = some prior ∧ IsUser prior ∧ dir = ["app"] ++ [prior]) := by
  intro start
  have run : Run (Steps poll) start [.switch answered "../etc", .switch answered "b",
      .switch answered "a", .switch answered "/etc"] _ := run_of_execute rfl
  exact ⟨_, run, by decide, (run_keeps_to_userDirs run).2.1⟩

/-- A switch creates the root itself when it is missing. -/
theorem missingRoot_created :
    let h := (Host.new ["data", "app"] true false [["data"]]).call (.switch answered "alice")
    Effect.creates "alice" h.root ∈ h.log ∧ ∀ user, h.root ≠ h.root ++ [user] := by
  refine ⟨by decide, fun user same => ?_⟩
  have longer := congrArg List.length same
  rw [List.length_append, List.length_singleton] at longer
  omega

/-- Exactly the user's directory is left in the root, and none after a sign-out. -/
def OnlyUser (h : Host) (user : String) : Prop :=
  ∀ name, h.root ++ [name] ∈ h.dirs ↔ name = user ∧ user ≠ ""

/-- Every directory in the root is the next user's own, or that of the recorded user, seen to
exist. -/
def Accounted (h : Host) (io : HostIo) (user : String) : Prop :=
  ∀ name, h.root ++ [name] ∈ h.dirs →
    (name = user ∧ user ≠ "") ∨ (h.userId = some name ∧ io.metadata = true)

theorem removeDirAll_children {io : HostIo} (removed : io.removeDir = .ok ())
    (active : Option String) (prior name : String) :
    h.root ++ [name] ∈ (h.removeDirAll io active (h.root ++ [prior])).1.dirs ↔
      h.root ++ [name] ∈ h.dirs ∧ prior ≠ name := by
  simp only [Host.removeDirAll, removed, List.mem_filter, Bool.or_false, Bool.not_eq_true',
    ← Bool.not_eq_true, isPrefixOf_child, ne_eq]

theorem removePrior_children (remembers : Remembers h) {io : HostIo}
    (removed : (h.removePrior io).2 = .ok ()) (name : String) :
    h.root ++ [name] ∈ (h.removePrior io).1.dirs ↔
      h.root ++ [name] ∈ h.dirs ∧ ¬ (h.userId = some name ∧ io.metadata = true) := by
  unfold Host.removePrior at removed ⊢
  cases active : h.userId with
  | none => simp
  | some prior =>
    have place := userDbDir_eq h (remembers.admitted prior active)
    have there := remembers.present prior active
    simp only [active, place, List.contains_eq_mem, there, decide_true, Bool.true_and]
      at removed ⊢
    cases seen : io.metadata with
    | false => simp
    | true =>
      simp only [seen, if_true] at removed ⊢
      have answer : io.removeDir = .ok () := mapError_eq_ok.mp removed
      rw [Option.some.injEq, and_true]
      exact removeDirAll_children answer (some prior) prior name

theorem createDirAll_children {io : HostIo} (made : io.createDir = .ok ()) (user name : String) :
    h.root ++ [name] ∈ (h.createDirAll io user (h.root ++ [user])).1.dirs ↔
      h.root ++ [name] ∈ h.dirs ∨ name = user := by
  constructor
  · intro member
    rcases List.mem_append.mp member with old | created
    · exact .inl old
    · rcases prefix_child_cases (mem_creates created).1 with same | above
      · exact .inr (by simpa using same)
      · exact absurd (List.prefix_refl _) (no_child_above above)
  · rintro (old | rfl)
    · exact List.mem_append_left _ old
    · exact createDirAll_present made h.root name

theorem switchUser_children (recorded : Recorded h) {io : HostIo}
    (ok : (h.switchUser io user).2 = .ok ()) (name : String) :
    h.root ++ [name] ∈ (h.switchUser io user).1.dirs ↔
      (h.root ++ [name] ∈ h.dirs ∧ ¬ (h.userId = some name ∧ io.metadata = true)) ∨
        (name = user ∧ user ≠ "") := by
  by_cases same : h.userId = some user
  · have named := (recorded.admitted user same).nonempty
    have there := recorded.present user same
    rw [Host.switchUser, if_pos same, same]
    by_cases own : name = user
    · simp [own, named, there]
    · simp [own, Ne.symm own]
  · have removal : (h.closePool.removePrior io).2 = .ok () →
        (h.root ++ [name] ∈ (h.closePool.removePrior io).1.dirs ↔
          h.root ++ [name] ∈ h.dirs ∧ ¬ (h.userId = some name ∧ io.metadata = true)) :=
      fun done => removePrior_children recorded.closePool done name
    rcases switchUser_cases io same with ⟨e, failed⟩ | ⟨empty, done, left⟩ | ⟨admitted, done, opens⟩
    · rw [failed] at ok
      cases ok
    · rw [left]
      simpa [empty] using removal done
    · have sameRoot : (h.closePool.removePrior io).1.root = h.root :=
        (removePrior_spec h.closePool io).2.2
      rcases openUser_cases (h.closePool.removePrior io).1 io user with ⟨e, _, failed⟩ | opened
      · rw [opens, failed] at ok
        cases ok
      · obtain ⟨made, _, result⟩ := opened
        have children :=
          createDirAll_children (h := (h.closePool.removePrior io).1) made user name
        rw [opens, result, userDbDir_eq _ admitted]
        rw [sameRoot] at children
        simpa [sameRoot, removal done, admitted.nonempty] using children

/-- Calls that end what they began: every check is answered and every deletion done, a user whose
directory was created gets its pool, and a process ends with nobody signed in. -/
def Tidy (h : Host) : Call → Prop
  | .switch io _ =>
      io.metadata = true ∧ io.removeDir = .ok () ∧ (io.createDir = .ok () → h.openPool io = .ok ())
  | .restart _ _ => h.userId = none

def Owned (h : Host) : Prop := ∀ name, h.root ++ [name] ∈ h.dirs → h.userId = some name

theorem accounted_of_owned {io : HostIo} (owned : Owned h) (seen : io.metadata = true) :
    Accounted h io user :=
  fun name member => .inr ⟨owned name member, seen⟩

theorem removePrior_ok (h : Host) {io : HostIo} (removed : io.removeDir = .ok ()) :
    (h.removePrior io).2 = .ok () := by
  unfold Host.removePrior
  split
  · dsimp only
    split
    · exact mapError_eq_ok.mpr removed
    · rfl
  · rfl

theorem openPool_removePrior (h : Host) (io : HostIo) :
    (h.removePrior io).1.openPool io = h.openPool io := by
  unfold Host.removePrior
  split
  · dsimp only
    split <;> rfl
  · rfl

theorem creates_of_error {io : HostIo} {e : String} (failed : io.createDir = .error e)
    (root : Path) (user name : String) : root ++ [name] ∉ io.creates dirs (root ++ [user]) := by
  rw [HostIo.creates, failed, List.dropLast_concat]
  intro member
  exact no_child_above (mem_missing.mp (List.mem_of_mem_take member)).1 (List.prefix_refl _)

theorem openUser_owned (empty : ∀ name, h.root ++ [name] ∉ h.dirs) {io : HostIo}
    (admitted : IsUser user) (finishes : io.createDir = .ok () → h.openPool io = .ok ()) :
    Owned (h.openUser io user).1 := by
  rcases openUser_cases h io user with ⟨e, stuck, failed⟩ | ⟨made, _, opened⟩
  · rw [failed, userDbDir_eq h admitted]
    intro name member
    cases answer : io.createDir with
    | ok =>
      have opens := finishes answer
      rw [stuck answer] at opens
      cases opens
    | error e =>
      rcases List.mem_append.mp member with old | created
      · exact absurd old (empty name)
      · exact absurd created (creates_of_error answer h.root user name)
  · rw [opened, userDbDir_eq h admitted]
    intro name member
    rcases (createDirAll_children made user name).mp member with old | rfl
    · exact absurd old (empty name)
    · rfl

theorem switchUser_owned (recorded : Recorded h) (owned : Owned h) {io : HostIo}
    (tidy : Tidy h (.switch io user)) : Owned (h.switchUser io user).1 := by
  obtain ⟨seen, removed, finishes⟩ := tidy
  by_cases same : h.userId = some user
  · rw [Host.switchUser, if_pos same]
    exact owned
  · have empty : ∀ name, (h.closePool.removePrior io).1.root ++ [name] ∉
        (h.closePool.removePrior io).1.dirs := by
      intro name member
      rw [(removePrior_spec h.closePool io).2.2] at member
      have children := removePrior_children recorded.closePool (removePrior_ok _ removed) name
      have left := children.mp member
      exact left.2 ⟨owned name left.1, seen⟩
    rcases switchUser_cases io same with ⟨e, failed⟩ | ⟨_, _, left⟩ | ⟨admitted, _, opens⟩
    · rw [failed]
      exact fun name member => absurd member (empty name)
    · rw [left]
      exact fun name member => absurd member (empty name)
    · rw [opens]
      refine openUser_owned empty admitted (fun made => ?_)
      exact (openPool_removePrior h.closePool io).trans (finishes made)

theorem call_owned (recorded : Recorded h) (owned : Owned h) {call : Call} (tidy : Tidy h call) :
    Owned (h.call call) := by
  cases call with
  | switch io user => exact switchUser_owned recorded owned tidy
  | restart polybaseMigrator appMigrator =>
    intro name member
    have impossible := owned name member
    rw [show h.userId = none from tidy] at impossible
    cases impossible

/-- After any run, a switch that succeeds leaves exactly its user's data if and only if the
directories in the root were all accounted for. After a tidy run they always are. -/
theorem switch_leaves_onlyUser (empty : ∀ name, root ++ [name] ∉ dirs)
    (run : Run (Steps poll) (Host.new root polybaseMigrator appMigrator dirs) calls h)
    (io : HostIo) (user : String) (ok : (h.switchUser io user).2 = .ok ()) :
    (OnlyUser (h.switchUser io user).1 user ↔ Accounted h io user) ∧
      (Run (Guarded Tidy (Steps poll)) (Host.new root polybaseMigrator appMigrator dirs) calls h →
        io.metadata = true → OnlyUser (h.switchUser io user).1 user) := by
  obtain ⟨confined, recorded⟩ := run_invariant run
  have sameRoot : (h.switchUser io user).1.root = h.root :=
    (switchUser_confined confined recorded io user).root_eq.trans confined.root_eq.symm
  have exact : OnlyUser (h.switchUser io user).1 user ↔ Accounted h io user := by
    unfold OnlyUser Accounted
    rw [sameRoot]
    refine forall_congr' (fun name => ?_)
    rw [switchUser_children recorded ok name]
    tauto
  refine ⟨exact, fun tidy seen => exact.mpr (accounted_of_owned ?_ seen)⟩
  have invariant := tidy.invariant (I := fun h => Recorded h ∧ Owned h)
    ⟨recorded_of_nobody rfl rfl, fun name member => absurd member (empty name)⟩ ?_
  · exact invariant.2
  · rintro before call after ⟨kept, owned⟩ ⟨⟨⟩, tidy⟩
    exact ⟨call_recorded kept call, call_owned kept owned tidy⟩

theorem switch_leaves_onlyUser_bob :
    let start := Host.new ["app"] true false [["app"]]
    ∃ h, Run (Guarded Tidy (Steps poll)) start [.switch answered "alice"] h ∧
      start.root ++ ["alice"] ∈ h.dirs ∧ OnlyUser (h.switchUser answered "bob").1 "bob" := by
  intro start
  have empty : ∀ name, start.root ++ [name] ∉ start.dirs := fun name member => by
    simp [start, Host.new] at member
  have tidy : Run (Guarded Tidy (Steps poll)) start [.switch answered "alice"]
      (start.call (.switch answered "alice")) :=
    Run.refl.tail ⟨rfl, rfl, rfl, fun _ => rfl⟩
  have run := tidy.mono (fun _ _ _ step => step.1)
  exact ⟨_, tidy, by decide, (switch_leaves_onlyUser empty run answered "bob" rfl).2 tidy rfl⟩

theorem not_onlyUser {name : String} (left : h.root ++ [name] ∈ h.dirs) (other : name ≠ user) :
    ¬ OnlyUser h user :=
  fun only => other ((only name).mp left).1

def refused : HostIo := { answered with removeDir := .error "permission denied" }

def unopened : HostIo := { answered with connect := .error "unable to open database file" }

/-- Alice's directory outlives bob's switch and a sign-out after these calls, newest first. -/
def LeavesAlice (calls : List Call) : Prop :=
  ∃ h, Run (Steps poll) (Host.new ["app"] true false [["app"]]) calls h ∧
    ∀ user ∈ ["bob", ""], (h.switchUser answered user).2 = .ok () ∧
      ¬ OnlyUser (h.switchUser answered user).1 user

theorem leavesAlice_of_kept {calls : List Call} {h : Host}
    (run : Run (Steps poll) (Host.new ["app"] true false [["app"]]) calls h)
    (kept : ∀ user ∈ ["bob", ""], (h.switchUser answered user).2 = .ok () ∧
      (h.switchUser answered user).1.root ++ ["alice"] ∈ (h.switchUser answered user).1.dirs ∧
      "alice" ≠ user) : LeavesAlice calls := by
  refine ⟨h, run, fun user member => ?_⟩
  obtain ⟨ok, left, other⟩ := kept user member
  exact ⟨ok, not_onlyUser left other⟩

/-- A wipe that failed is not made up for, and neither is what a user left behind who was never
activated or whom the process forgot. -/
theorem leftovers_stay :
    LeavesAlice [.switch refused "bob", .switch answered "alice"] ∧
      LeavesAlice [.switch unopened "alice"] ∧
      LeavesAlice [.restart true false, .switch answered "alice"] :=
  ⟨leavesAlice_of_kept (run_of_execute rfl) (by decide),
    leavesAlice_of_kept (run_of_execute rfl) (by decide),
    leavesAlice_of_kept (run_of_execute rfl) (by decide)⟩

/-! The directories in the root are the disk that the rest of the development works on. -/

structure Refines (h : Host) (m : DbManager) : Prop where
  userId : h.userId = m.userId
  pool : h.pool = m.pool
  opened : h.opened = m.pools.length
  polybase : h.polybaseMigrator = m.polybaseMigrator
  app : h.appMigrator = m.appMigrator.isSome
  disk : ∀ user, IsUser user → (h.root ++ [user] ∈ h.dirs ↔ user ∈ m.disk)

variable {m : DbManager} {io : HostIo}

theorem closePool_refines (r : Refines h m) : Refines h.closePool m.closePool := by
  unfold DbManager.closePool
  cases active : m.pool with
  | none => exact ⟨r.userId, active.symm, r.opened, r.polybase, r.app, r.disk⟩
  | some handle =>
    refine ⟨r.userId, rfl, ?_, r.polybase, r.app, r.disk⟩
    rw [List.length_modify]
    exact r.opened

theorem removeDirAll_refused {e : String} (failed : io.removeDir = .error e)
    (active : Option String) (prior name : String) :
    h.root ++ [name] ∈ (h.removeDirAll io active (h.root ++ [prior])).1.dirs ↔
      h.root ++ [name] ∈ h.dirs := by
  simp only [Host.removeDirAll, failed, List.mem_filter, and_iff_left_iff_imp, Bool.or_eq_true,
    Bool.not_eq_true', ← Bool.not_eq_true, isPrefixOf_child, beq_iff_eq, List.append_cancel_left_eq,
    List.cons.injEq, and_true]
  intro _
  by_cases same : prior = name
  · exact .inr (.inl same.symm)
  · exact .inl same

theorem removePrior_refines (remembers : Remembers h) (r : Refines h m)
    (seen : io.metadata = true) :
    Refines (h.removePrior io).1 (m.removePrior io.toSwitchIo).1 ∧
      (h.removePrior io).2 = (m.removePrior io.toSwitchIo).2 := by
  unfold Host.removePrior DbManager.removePrior
  rw [← r.userId]
  cases active : h.userId with
  | none => exact ⟨r, rfl⟩
  | some prior =>
    have admitted := remembers.admitted prior active
    have there := remembers.present prior active
    have held : m.disk.contains prior = true :=
      Std.ExtTreeMap.mem_iff_contains.mp ((r.disk prior admitted).mp there)
    have place := userDbDir_eq h admitted
    simp only [place, List.contains_eq_mem, there, decide_true, seen, Bool.and_self, if_true, held]
    cases answer : io.removeDir with
    | error e =>
      refine ⟨⟨rfl, r.pool, r.opened, r.polybase, r.app, fun user known => ?_⟩, ?_⟩
      · exact (removeDirAll_refused answer (some prior) prior user).trans (r.disk user known)
      · exact congrArg (Except.mapError DbManagerError.io) answer
    | ok done =>
      refine ⟨⟨rfl, r.pool, r.opened, r.polybase, r.app, fun user known => ?_⟩, ?_⟩
      · have children := removeDirAll_children (h := h) answer (some prior) prior user
        rw [Std.ExtTreeMap.mem_erase, ne_eq, Std.LawfulEqOrd.compare_eq_iff_eq, and_comm,
          ← r.disk user known]
        exact children
      · exact congrArg (Except.mapError DbManagerError.io) answer

theorem manager_openUser (r : Refines h m) (made : io.createDir = .ok ()) (user : String) :
    ∃ db, m.openUser io.toSwitchIo user =
      match h.openPool io with
      | .error e => ({ m with disk := m.disk.insert user db }, .error e)
      | .ok () =>
          ({ m with
              disk := m.disk.insert user db
              pools := m.pools ++ [⟨user, false⟩]
              userId := some user
              pool := some m.pools.length }, .ok ()) := by
  unfold DbManager.openUser Host.openPool
  rw [made, r.polybase, r.app]
  dsimp only
  cases io.connect with
  | error e => exact ⟨_, rfl⟩
  | ok connected =>
    cases m.polybaseMigrator with
    | false =>
      cases m.appMigrator with
      | none => exact ⟨_, rfl⟩
      | some migrate =>
        cases io.appMigration with
        | error e => exact ⟨_, rfl⟩
        | ok migrated => exact ⟨_, rfl⟩
    | true =>
      cases io.polybaseMigration with
      | error e => exact ⟨_, rfl⟩
      | ok based =>
        cases m.appMigrator with
        | none => exact ⟨_, rfl⟩
        | some migrate =>
          cases io.appMigration with
          | error e => exact ⟨_, rfl⟩
          | ok migrated => exact ⟨_, rfl⟩

theorem openUser_refines (r : Refines h m) {user : String} (admitted : IsUser user) :
    Refines (h.openUser io user).1 (m.openUser io.toSwitchIo user).1 ∧
      (h.openUser io user).2 = (m.openUser io.toSwitchIo user).2 := by
  cases answer : io.createDir with
  | error e =>
    have kept : m.openUser io.toSwitchIo user = (m, .error (.io e)) := by
      simp only [DbManager.openUser, answer]
    rw [openUser_of_error answer, kept, userDbDir_eq h admitted]
    refine ⟨⟨r.userId, r.pool, r.opened, r.polybase, r.app, fun other known => ?_⟩, rfl⟩
    refine Iff.trans ?_ (r.disk other known)
    refine ⟨fun member => ?_, fun old => List.mem_append_left _ old⟩
    exact (List.mem_append.mp member).resolve_right (creates_of_error answer h.root user other)
  | ok made =>
    have grown : ∀ db other, IsUser other →
        (h.root ++ [other] ∈ (h.createDirAll io user (h.userDbDir user)).1.dirs ↔
          other ∈ m.disk.insert user db) := by
      intro db other known
      rw [userDbDir_eq h admitted, createDirAll_children answer, Std.ExtTreeMap.mem_insert,
        Std.LawfulEqOrd.compare_eq_iff_eq, r.disk other known, or_comm, eq_comm]
    obtain ⟨db, managed⟩ := manager_openUser r answer user
    rw [openUser_of_ok answer, managed]
    cases h.openPool io with
    | error e => exact ⟨⟨r.userId, r.pool, r.opened, r.polybase, r.app, grown db⟩, rfl⟩
    | ok opened =>
      refine ⟨⟨rfl, congrArg some r.opened, ?_, r.polybase, r.app, grown db⟩, rfl⟩
      rw [List.length_append, ← r.opened]
      rfl

/-- A switch whose existence check is answered is the manager's switch, seen from the machine. -/
theorem switchUser_refines (recorded : Recorded h) (r : Refines h m) (seen : io.metadata = true)
    (user : String) :
    Refines (h.switchUser io user).1 (m.switchUser io.toSwitchIo user).1 ∧
      (h.switchUser io user).2 = (m.switchUser io.toSwitchIo user).2 := by
  have closed := closePool_refines r
  obtain ⟨removed, results⟩ := removePrior_refines recorded.closePool closed seen
  unfold Host.switchUser DbManager.switchUser
  rw [← r.userId]
  by_cases same : h.userId = some user
  · rw [if_pos same, if_pos same]
    exact ⟨r, rfl⟩
  · rw [if_neg same, if_neg same]
    rcases removal : h.closePool.removePrior io with ⟨left, result⟩
    rcases managed : m.closePool.removePrior io.toSwitchIo with ⟨other, result'⟩
    rw [removal, managed] at removed results
    obtain rfl : result = result' := results
    cases result with
    | error e => exact ⟨removed, rfl⟩
    | ok done =>
      dsimp only
      by_cases empty : user = ""
      · rw [if_pos empty, if_pos empty]
        exact ⟨⟨rfl, rfl, removed.opened, removed.polybase, removed.app, removed.disk⟩, rfl⟩
      · rw [if_neg empty, if_neg empty]
        cases valid : validUserId user with
        | false => exact ⟨removed, rfl⟩
        | true => exact openUser_refines removed ⟨empty, valid⟩

end Polykit.Sqlite.Directories
