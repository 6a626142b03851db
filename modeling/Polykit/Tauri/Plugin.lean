/- Module: Polykit/Tauri/Plugin
   generality: I
   source: crates/tauri-plugin-polybase/src/commands.rs, crates/polybase/src/auth.rs
   digest: The plugin's commands and the database switches they spawn, and whose mirror is active. -/

import Polykit.Auth.Machine
import Polykit.Sqlite.Manager

set_option autoImplicit false
set_option relaxedAutoImplicit false

namespace Polykit.Tauri.Plugin

open Auth Auth.Machine Lib.Runs Sqlite.Manager

/-- The session store between two calls, with the store its user change hook switches. -/
structure Sessions where
  session : Option SessionPayload := none
  updateCounter : UInt64 := 1
  hook : Option Nat := none

/-- A `set_session` that nothing interrupts. -/
def Sessions.setSession (s : Sessions) (payload : SessionPayload) : Sessions × SessionMutation :=
  match s.session.filter (fun current => sessionMatches current payload) with
  | some current => (s, ⟨.noop, current.updatedAt⟩)
  | none =>
      ({ s with
          session := some { payload with updatedAt := s.updateCounter }
          updateCounter := s.updateCounter + 1 },
        ⟨mutationKind s.session payload, s.updateCounter⟩)

def Sessions.clearSession (s : Sessions) : Sessions × SessionMutation :=
  ({ s with session := none }, ⟨if s.session.isSome then .cleared else .noop, 0⟩)

/-- The hook fires for another user and for a sign-out that ended a session. -/
def fires (kind : SessionMutationKind) : Bool := kind == .userChanged || kind == .cleared

/-! The two operations are what the calls of the session store do when nothing interrupts them. -/

def Sessions.ofStore (s : Store) (hook : Option Nat) : Sessions :=
  ⟨s.session, s.updateCounter, hook⟩

theorem setSession_alone (decode : RefreshDecoder) {s : Store} {id : Nat} (hook : Option Nat)
    (free : ∀ lock, s.guards lock = none) (new : s.tasks id = none) (payload : SessionPayload)
    (anotherSignIn : Bool) (env : Env) :
    let result := (Sessions.ofStore s hook).setSession payload
    ∃ n t, execute (Machine.poll decode) s
        (advances id n env ++ [.call id (.setSession payload anotherSignIn)]) = some t ∧
      Sessions.ofStore t hook = result.1 ∧
      t.hookCalls = (if fires result.2.kind then [some payload.userId] else []) ++ s.hookCalls := by
  intro result
  have firing : ∀ kind : SessionMutationKind,
      (kind = .userChanged ∨ kind = .cleared) = (fires kind = true) := by
    intro kind
    cases kind <;> simp [fires]
  cases found : s.session.filter (fun current => sessionMatches current payload) with
  | some current =>
    have kept : result = (Sessions.ofStore s hook, ⟨.noop, current.updatedAt⟩) := by
      simp [result, Sessions.setSession, Sessions.ofStore, found]
    refine ⟨2, ?_⟩
    simp [execute, advances, List.replicate_succ, Machine.poll, new, Call.start, Store.ready,
      Pc.need, free, resume, found, Store.endSet, kept, Sessions.ofStore, fires]
  | none =>
    have stored : result =
        (⟨some { payload with updatedAt := s.updateCounter }, s.updateCounter + 1, hook⟩,
          ⟨mutationKind s.session payload, s.updateCounter⟩) := by
      simp [result, Sessions.setSession, Sessions.ofStore, found]
    refine ⟨3, ?_⟩
    simp [execute, advances, List.replicate_succ, Machine.poll, new, Call.start, Store.ready,
      Pc.need, free, resume, found, Store.endSet, stored, Sessions.ofStore, firing]
    split <;> rfl

theorem clearSession_alone (decode : RefreshDecoder) {s : Store} {id : Nat} (hook : Option Nat)
    (free : ∀ lock, s.guards lock = none) (new : s.tasks id = none) (env : Env) :
    let result := (Sessions.ofStore s hook).clearSession
    ∃ t, execute (Machine.poll decode) s (advances id 5 env ++ [.call id .clearSession]) = some t ∧
      Sessions.ofStore t hook = result.1 ∧
      t.hookCalls = (if fires result.2.kind then [none] else []) ++ s.hookCalls := by
  intro result
  cases held : s.session with
  | none =>
    simp [execute, advances, List.replicate_succ, Machine.poll, new, Call.start, Store.ready,
      Pc.need, free, resume, Store.endClear, result, Sessions.clearSession, Sessions.ofStore,
      fires, held]
  | some current =>
    simp [execute, advances, List.replicate_succ, Machine.poll, new, Call.start, Store.ready,
      Pc.need, free, resume, Store.endClear, result, Sessions.clearSession, Sessions.ofStore,
      fires, held]

/-- The plugin's state. Local stores are named by number, each with its own manager. `spawned`
holds the switches that wait to run, each with its store and its user. -/
structure Runtime where
  sessions : Option Sessions := none
  attached : Option Nat := none
  coordinator : Option Nat := none
  managers : Nat → DbManager
  spawned : List (Nat × String) := []

def Runtime.sessionUser (r : Runtime) : Option String :=
  (r.sessions.bind Sessions.session).map SessionPayload.userId

def notConfigured : String := "polybase not configured"

def Runtime.attach (r : Runtime) (store : Nat) : Runtime := { r with attached := some store }

/-- `built` is what building the client and the encryption gave. The session store survives,
and its hook moves to the attached local store. -/
def Runtime.configure (r : Runtime) (built : Except String Unit) : Runtime × Except String Unit :=
  match built with
  | .error error => (r, .error error)
  | .ok () =>
      let sessions := r.sessions.getD {}
      match r.attached with
      | some store =>
          ({ r with
              sessions := some { sessions with hook := some store }
              coordinator := some store }, .ok ())
      | none => ({ r with sessions := some sessions, coordinator := none }, .ok ())

/-- The end of a session command: the hook spawns a switch of its store. -/
def Runtime.mutated (r : Runtime) (sessions : Sessions) (kind : SessionMutationKind)
    (user : String) : Runtime :=
  match fires kind, sessions.hook with
  | true, some store =>
      { r with sessions := some sessions, spawned := r.spawned ++ [(store, user)] }
  | _, _ => { r with sessions := some sessions }

def Runtime.setSession (r : Runtime) (payload : SessionPayload) : Runtime × Except String Unit :=
  match r.sessions with
  | none => (r, .error notConfigured)
  | some sessions =>
      let next := sessions.setSession payload
      (r.mutated next.1 next.2.kind payload.userId, .ok ())

def Runtime.clearSession (r : Runtime) : Runtime × Except String Unit :=
  match r.sessions with
  | none => (r, .error notConfigured)
  | some sessions =>
      let next := sessions.clearSession
      (r.mutated next.1 next.2.kind "", .ok ())

/-- One of the spawned tasks runs. What its switch answers is dropped. -/
def Runtime.runTask (r : Runtime) (index : Nat) (io : SwitchIo) : Option Runtime :=
  r.spawned[index]?.map (fun task =>
    { r with
      managers := Function.update r.managers task.1
        ((r.managers task.1).switchUser io task.2).1
      spawned := r.spawned.eraseIdx index })

inductive Label
  | attach (store : Nat)
  | configure (built : Except String Unit)
  | setSession (payload : SessionPayload)
  | clearSession
  | runTask (index : Nat) (io : SwitchIo)

/-- Commands come in any order, and tasks run in any order. -/
def poll (r : Runtime) : Label → Option Runtime
  | .attach store => some (r.attach store)
  | .configure built => some (r.configure built).1
  | .setSession payload => some (r.setSession payload).1
  | .clearSession => some r.clearSession.1
  | .runTask index io => r.runTask index io

/-- The user a switch to `user` makes active. -/
def activeAfter (user : String) : Option String := if user = "" then none else some user

/-- The last switch that waits for the coordinator's store is to the session's user and
succeeds, and a store that a coordinator is built on waits for a switch or is that user's. -/
def timely (r : Runtime) : Label → Bool
  | .runTask index io =>
      match r.spawned[index]? with
      | none => true
      | some (store, user) =>
          (r.spawned.eraseIdx index).any (fun task => task.1 == store) ||
            r.coordinator != some store ||
            r.sessionUser == activeAfter user &&
              ((r.managers store).switchUser io user).2.toOption.isSome
  | .configure (.ok ()) =>
      match r.attached with
      | none => true
      | some store =>
          r.spawned.any (fun task => task.1 == store) ||
            (r.managers store).userId == r.sessionUser
  | _ => true

/-- The mirror of the built coordinator, if there is one, is the session's user's. -/
def MirrorFollows (r : Runtime) : Prop :=
  ∀ store, r.coordinator = some store → (r.managers store).userId = r.sessionUser

/-- Nothing configured, nothing spawned. No manager's user is the empty one. -/
structure Start (r : Runtime) : Prop where
  sessions : r.sessions = none
  coordinator : r.coordinator = none
  spawned : r.spawned = []
  named : ∀ store, (r.managers store).userId ≠ some ""

theorem switchUser_ok {m : DbManager} {io : SwitchIo} {user : String}
    (named : m.userId ≠ some "") (h : (m.switchUser io user).2 = .ok ()) :
    (m.switchUser io user).1.userId = activeAfter user := by
  unfold DbManager.switchUser at h ⊢
  unfold activeAfter
  split
  · rename_i already
    have other : user ≠ "" := fun empty => named (empty ▸ already)
    rw [if_neg other]
    exact already
  · rename_i different
    rw [if_neg different] at h
    split
    · rename_i failed
      simp only [failed] at h
      cases h
    · rename_i removed
      simp only [removed] at h
      split
      · rfl
      · rename_i someone
        rw [if_neg someone] at h
        split
        · rename_i invalid
          rw [if_pos invalid] at h
          cases h
        · rename_i valid
          rw [if_neg valid] at h
          exact openUser_ok h

theorem switchUser_named {m : DbManager} (io : SwitchIo) (user : String)
    (named : m.userId ≠ some "") : (m.switchUser io user).1.userId ≠ some "" := by
  have forgotten := (removePrior_spec m.closePool io).2.2
  unfold DbManager.switchUser
  split
  · exact named
  · split
    · rename_i removed e result
      rw [result] at forgotten
      rw [forgotten]
      exact nofun
    · rename_i removed result
      rw [result] at forgotten
      split
      · exact nofun
      · rename_i someone
        split
        · rw [forgotten]
          exact nofun
        · rcases openUser_spec removed io user with ⟨_, _, same⟩ | ⟨_, _, active⟩
          · rw [same, forgotten]
            exact nofun
          · rw [active]
            exact fun empty => someone (Option.some.inj empty)

/-- What a guarded run keeps: the hook switches the coordinator's store, and a store that waits
for no switch is the session's user's. -/
structure Follows (r : Runtime) : Prop where
  hooked : ∀ store, r.coordinator = some store →
    ∃ sessions, r.sessions = some sessions ∧ sessions.hook = some store
  named : ∀ store, (r.managers store).userId ≠ some ""
  settled : ∀ store, r.coordinator = some store → (∀ task ∈ r.spawned, task.1 ≠ store) →
    (r.managers store).userId = r.sessionUser

theorem Start.follows {r : Runtime} (h : Start r) : Follows r where
  hooked store built := by
    rw [h.coordinator] at built
    cases built
  named := h.named
  settled store built := by
    rw [h.coordinator] at built
    cases built

theorem sessionUser_of_sessions {r : Runtime} {sessions : Sessions}
    (h : r.sessions = some sessions) :
    r.sessionUser = sessions.session.map SessionPayload.userId := by
  simp [Runtime.sessionUser, h]

theorem setSession_quiet {sessions : Sessions} {payload : SessionPayload}
    (h : fires (sessions.setSession payload).2.kind = false) :
    (sessions.setSession payload).1.session.map SessionPayload.userId =
      sessions.session.map SessionPayload.userId := by
  unfold Sessions.setSession at h ⊢
  split
  · rfl
  · rename_i different
    simp only [different] at h
    cases current : sessions.session with
    | none => simp [current, mutationKind, fires] at h
    | some stored =>
      by_cases same : stored.userId = payload.userId
      · simp [same]
      · simp [current, mutationKind, fires, same] at h

theorem clearSession_quiet {sessions : Sessions}
    (h : fires sessions.clearSession.2.kind = false) :
    sessions.clearSession.1.session.map SessionPayload.userId =
      sessions.session.map SessionPayload.userId := by
  cases current : sessions.session with
  | none => simp [Sessions.clearSession]
  | some stored => simp [Sessions.clearSession, current, fires] at h

theorem Follows.mutated {r : Runtime} {before after : Sessions} {kind : SessionMutationKind}
    {user : String} (h : Follows r) (present : r.sessions = some before)
    (hook : after.hook = before.hook)
    (quiet : fires kind = false →
      after.session.map SessionPayload.userId = before.session.map SessionPayload.userId) :
    Follows (r.mutated after kind user) := by
  have sameHook : ∀ store, r.coordinator = some store → after.hook = some store := by
    intro store built
    obtain ⟨sessions, found, hooked⟩ := h.hooked store built
    rw [present, Option.some.injEq] at found
    rw [hook, found, hooked]
  unfold Runtime.mutated
  split
  · rename_i store fired hooked
    refine ⟨fun other built => ⟨after, rfl, sameHook other built⟩, h.named, ?_⟩
    intro other built clear
    have same := (sameHook other built).symm.trans hooked
    have waits := clear (store, user) (by simp)
    exact absurd (Option.some.inj same).symm waits
  · rename_i silent
    refine ⟨fun other built => ⟨after, rfl, sameHook other built⟩, h.named, ?_⟩
    intro other built clear
    have quietly : fires kind = false := by
      by_contra fired
      rw [Bool.not_eq_false] at fired
      exact silent other fired (sameHook other built)
    have kept : (r.managers other).userId = r.sessionUser := h.settled other built clear
    rw [sessionUser_of_sessions rfl, quiet quietly, ← sessionUser_of_sessions present]
    exact kept

theorem follows_configure {r : Runtime} {built : Except String Unit} (h : Follows r)
    (timed : timely r (.configure built) = true) : Follows (r.configure built).1 := by
  cases built with
  | error error => exact h
  | ok done =>
    have user : ∀ hook, Runtime.sessionUser { r with
        sessions := some { r.sessions.getD {} with hook := hook } } = r.sessionUser := by
      intro hook
      cases present : r.sessions <;> simp [Runtime.sessionUser, present]
    unfold Runtime.configure
    cases attached : r.attached with
    | none =>
      refine ⟨?_, h.named, ?_⟩
      · rintro store ⟨⟩
      · rintro store ⟨⟩
    | some store =>
      refine ⟨fun other hother => ?_, h.named, fun other hother clear => ?_⟩
      · cases hother
        exact ⟨_, rfl, rfl⟩
      · cases hother
        have ready : (r.managers store).userId = r.sessionUser := by
          have waitsOrReady := timed
          simp only [timely, attached, Bool.or_eq_true, List.any_eq_true, beq_iff_eq]
            at waitsOrReady
          rcases waitsOrReady with ⟨task, waits, same⟩ | ready
          · exact absurd same (clear task waits)
          · exact ready
        exact ready.trans (user (some store)).symm

theorem follows_runTask {r t : Runtime} {index : Nat} {io : SwitchIo} (h : Follows r)
    (timed : timely r (.runTask index io) = true) (edge : r.runTask index io = some t) :
    Follows t := by
  obtain ⟨⟨store, user⟩, found, rfl⟩ := Option.map_eq_some_iff.mp edge
  refine ⟨h.hooked, fun other => ?_, fun other built clear => ?_⟩
  · by_cases same : other = store
    · subst same
      simpa using switchUser_named io user (h.named other)
    · simpa [same] using h.named other
  · have remaining : ∀ task ∈ r.spawned.eraseIdx index, task.1 ≠ other := clear
    by_cases same : other = store
    · subst same
      simp only [timely, found, Bool.or_eq_true, List.any_eq_true, beq_iff_eq, bne_iff_ne,
        Bool.and_eq_true] at timed
      rcases timed with (⟨task, waits, same⟩ | elsewhere) | ⟨current, succeeded⟩
      · exact absurd same (remaining task waits)
      · exact absurd built elsewhere
      · obtain ⟨done, result⟩ := Option.isSome_iff_exists.mp succeeded
        have answered : ((r.managers other).switchUser io user).2 = .ok () := by
          cases answer : ((r.managers other).switchUser io user).2 with
          | error e => simp [answer, Except.toOption] at result
          | ok done => rfl
        have active := switchUser_ok (h.named other) answered
        have reached : (Function.update r.managers other
            ((r.managers other).switchUser io user).1 other).userId = activeAfter user := by
          rw [Function.update_self]
          exact active
        exact reached.trans current.symm
    · have untouched : (Function.update r.managers store
          ((r.managers store).switchUser io user).1 other).userId =
            (r.managers other).userId := by
        rw [Function.update_of_ne same]
      refine untouched.trans (h.settled other built (fun task waits => ?_))
      intro mine
      obtain ⟨place, inside, here⟩ := List.getElem_of_mem waits
      have kept : task ∈ r.spawned.eraseIdx index := by
        refine List.mem_eraseIdx_iff_getElem?.mpr ⟨place, ?_, ?_⟩
        · rintro rfl
          have first : r.spawned[place]? = some task := by
            rw [List.getElem?_eq_getElem inside, here]
          rw [first, Option.some.injEq] at found
          exact same (mine.symm.trans (congrArg Prod.fst found))
        · rw [List.getElem?_eq_getElem inside, here]
      exact remaining task kept mine

theorem follows_poll {r t : Runtime} {label : Label} (h : Follows r)
    (timed : timely r label = true) (edge : poll r label = some t) : Follows t := by
  cases label with
  | attach store =>
    cases edge
    exact ⟨h.hooked, h.named, h.settled⟩
  | configure built =>
    cases edge
    exact follows_configure h timed
  | setSession payload =>
    cases edge
    unfold Runtime.setSession
    split
    · exact h
    · rename_i sessions present
      refine h.mutated present ?_ setSession_quiet
      unfold Sessions.setSession
      split <;> rfl
  | clearSession =>
    cases edge
    unfold Runtime.clearSession
    split
    · exact h
    · rename_i sessions present
      exact h.mutated present rfl clearSession_quiet
  | runTask index io => exact follows_runTask h timed edge

/-- However commands and tasks interleave, when no task is left the mirror follows the session,
if the last switch of a store was always to the session's user and every coordinator was built
on a store that waits for a switch or is that user's. -/
theorem run_mirror_follows {start r : Runtime} {labels : List Label} (initial : Start start)
    (run : Run (Guarded (fun r label => timely r label = true) (Steps poll)) start labels r)
    (idle : r.spawned = []) : MirrorFollows r := by
  have keeps : ∀ r label t, Follows r →
      Guarded (fun r label => timely r label = true) (Steps poll) r label t → Follows t :=
    fun _ _ _ h edge => follows_poll h edge.2 edge.1
  have follows := run.invariant initial.follows keeps
  intro store built
  refine follows.settled store built (fun task waits => ?_)
  rw [idle] at waits
  cases waits

/-! Alice signs in, Bob takes over, and the two switches run. -/

section Sample

def sampleIo : SwitchIo := ⟨.ok (), .ok (), .ok (), .ok (), .ok ()⟩

def fresh : Runtime where
  managers _ := { polybaseMigrator := true, appMigrator := none }

theorem fresh_start : Start fresh := ⟨rfl, rfl, rfl, fun _ => nofun⟩

def session (user : String) : SessionPayload := ⟨user, "token", "refresh", 4102444800, 0⟩

def handOver : List Label :=
  [.setSession (session "bob"), .setSession (session "alice"), .configure (.ok ()), .attach 0]

def mirrorUser (r : Runtime) : Option String := (r.managers 0).userId

/-- Alice's switch runs last, and the mirror is hers while the session is Bob's. -/
theorem mirror_lags_behind :
    ∃ r, Run (Steps poll) fresh ([.runTask 0 sampleIo, .runTask 1 sampleIo] ++ handOver) r ∧
      r.spawned = [] ∧ r.coordinator = some 0 ∧ (r.managers 0).userId = some "alice" ∧
      r.sessionUser = some "bob" := by
  have computed : (execute poll fresh
      ([.runTask 0 sampleIo, .runTask 1 sampleIo] ++ handOver)).map (fun r =>
        (r.spawned, r.coordinator, mirrorUser r, r.sessionUser)) =
      some ([], some 0, some "alice", some "bob") := by decide
  obtain ⟨r, ran, facts⟩ := Option.map_eq_some_iff.mp computed
  simp only [Prod.mk.injEq] at facts
  obtain ⟨idle, built, mirror, user⟩ := facts
  exact ⟨r, run_of_execute ran, idle, built, mirror, user⟩

theorem run_mirror_follows_bob :
    ∃ r, Run (Steps poll) fresh ([.runTask 0 sampleIo, .runTask 0 sampleIo] ++ handOver) r ∧
      r.coordinator = some 0 ∧ r.sessionUser = some "bob" ∧ MirrorFollows r := by
  have computed : (execute (restrict timely poll) fresh
      ([.runTask 0 sampleIo, .runTask 0 sampleIo] ++ handOver)).map (fun r =>
        (r.spawned, r.coordinator, r.sessionUser)) = some ([], some 0, some "bob") := by decide
  obtain ⟨r, ran, facts⟩ := Option.map_eq_some_iff.mp computed
  simp only [Prod.mk.injEq] at facts
  obtain ⟨idle, built, user⟩ := facts
  have guarded := guarded_of_execute ran
  exact ⟨r, guarded.mono (fun _ _ _ edge => edge.1), built, user,
    run_mirror_follows fresh_start guarded idle⟩

end Sample

end Polykit.Tauri.Plugin
