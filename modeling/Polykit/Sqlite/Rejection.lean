/- Module: Polykit/Sqlite/Rejection
   generality: I
   source: crates/polybase-sqlite/src/manager.rs
   digest: What a switch to an invalid user id does to the user that is active. -/

import Polykit.Sqlite.Directories

set_option autoImplicit false
set_option relaxedAutoImplicit false

namespace Polykit.Sqlite.Rejection

open Directories Lib.Paths Lib.Runs Manager

variable {root : Path} {dirs : List Path} {h : Host} {io : HostIo} {user prior : String}
variable {polybaseMigrator appMigrator : Bool} {calls : List Call}

/-- The id is rejected, and the active user, the pool and all in the user's directory stay. -/
structure RejectsOnly (h : Host) (io : HostIo) (user : String) : Prop where
  answer : (h.switchUser io user).2 = .error (.invalidUserId user)
  userId : (h.switchUser io user).1.userId = h.userId
  pool : (h.switchUser io user).1.pool = h.pool
  dir : ∀ active, h.userId = some active → ∀ path, h.userDbDir active <+: path →
    (path ∈ (h.switchUser io user).1.dirs ↔ path ∈ h.dirs)

theorem switchUser_rejected (recorded : Recorded h) (named : user ≠ "")
    (invalid : validUserId user = false) :
    h.switchUser io user = ((h.closePool.removePrior io).1,
      (h.closePool.removePrior io).2.bind (fun _ => .error (.invalidUserId user))) := by
  have other : h.userId ≠ some user := by
    intro same
    have valid := (recorded.admitted user same).valid
    rw [invalid] at valid
    cases valid
  rw [Host.switchUser, if_neg other]
  rcases h.closePool.removePrior io with ⟨removed, e | done⟩
  · rfl
  · simp [named, invalid, Except.bind]

theorem switchUser_signedOut (recorded : Recorded h) (nobody : h.userId = none)
    (named : user ≠ "") (invalid : validUserId user = false) :
    h.switchUser io user = (h, .error (.invalidUserId user)) := by
  have noPool : h.pool = none := by
    have unpaired : ¬ h.pool.isSome = true := by
      rw [← recorded.paired, nobody]
      exact nofun
    simpa using unpaired
  have closed : h.closePool = h := by
    rw [Host.closePool, ← noPool]
  have kept : h.removePrior io = (h, .ok ()) := by
    simp [Host.removePrior, nobody]
  rw [switchUser_rejected recorded named invalid, closed, kept]
  rfl

theorem removePrior_error {e : DbManagerError} (failed : (h.removePrior io).2 = .error e) :
    ∃ reason, e = .io reason := by
  unfold Host.removePrior at failed
  split at failed
  · dsimp only at failed
    split at failed
    · cases answer : io.removeDir with
      | ok done => simp [Host.removeDirAll, answer, Except.mapError] at failed
      | error reason =>
        simp only [Host.removeDirAll, answer, Except.mapError, Except.error.injEq] at failed
        exact ⟨reason, failed.symm⟩
    · cases failed
  · cases failed

/-- The user is signed out and the pool closed, and once the id is rejected the directory of a
user that can be seen to exist is gone. -/
theorem switchUser_signsOut (recorded : Recorded h) (active : h.userId = some prior)
    (named : user ≠ "") (invalid : validUserId user = false) :
    (h.switchUser io user).1.userId = none ∧ (h.switchUser io user).1.pool = none ∧
      ((h.switchUser io user).2 = .error (.invalidUserId user) → io.metadata = true →
        h.root ++ [prior] ∉ (h.switchUser io user).1.dirs) := by
  obtain ⟨nobody, closed, _⟩ := removePrior_spec h.closePool io
  rw [switchUser_rejected recorded named invalid]
  refine ⟨nobody, closed, fun answer seen there => ?_⟩
  have removed : (h.closePool.removePrior io).2 = .ok () := by
    cases result : (h.closePool.removePrior io).2 with
    | ok done => rfl
    | error e =>
      obtain ⟨reason, rfl⟩ := removePrior_error result
      simp [result, Except.bind] at answer
  have left := (removePrior_children recorded.closePool removed prior).mp there
  exact left.2 ⟨active, seen⟩

/-- Rejecting an invalid id is all that a switch does exactly when nobody is signed in. -/
theorem rejectsOnly_iff
    (run : Run (Steps poll) (Host.new root polybaseMigrator appMigrator dirs) calls h)
    (io : HostIo) (named : user ≠ "") (invalid : validUserId user = false) :
    RejectsOnly h io user ↔ h.userId = none := by
  have recorded := (run_invariant run).2
  constructor
  · intro only
    cases active : h.userId with
    | none => rfl
    | some prior =>
      have forgotten : (h.switchUser io user).1.userId = none :=
        (switchUser_signsOut recorded active named invalid).1
      rw [only.userId, active] at forgotten
      cases forgotten
  · intro nobody
    have rejects : h.switchUser io user = (h, .error (.invalidUserId user)) :=
      switchUser_signedOut recorded nobody named invalid
    refine ⟨by rw [rejects], by rw [rejects], by rw [rejects], fun active found => ?_⟩
    rw [nobody] at found
    cases found

/-- An id with a slash signs alice out and deletes her data. -/
theorem rejection_signs_out :
    let h := (Host.new ["app"] true false [["app"]]).call (.switch answered "alice")
    let after := h.switchUser answered "bad/id"
    h.userId = some "alice" ∧ h.pool.isSome ∧ ["app", "alice"] ∈ h.dirs ∧
      after.2 = .error (.invalidUserId "bad/id") ∧ after.1.userId = none ∧
      after.1.pool = none ∧ ["app", "alice"] ∉ after.1.dirs := by
  decide

theorem rejectsOnly_iff_signed_out :
    RejectsOnly (Host.new ["app"] true false [["app"]]) answered "bad/id" :=
  (rejectsOnly_iff .refl answered (by decide) (by decide)).mpr rfl

end Polykit.Sqlite.Rejection
