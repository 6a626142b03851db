/- Module: Polykit/Auth/Notifications
   generality: I
   source: crates/polybase/src/auth.rs
   digest: Session mutations one after another, and what their hook and their events tell. -/

import Polykit.Auth.Locks

set_option autoImplicit false
set_option relaxedAutoImplicit false

namespace Polykit.Auth.Notifications

open Auth.Machine Lib.Runs

/-- What a mutation reads and writes, and what it told so far, newest first. The calls are those
of the hook that is registered. -/
structure Shared where
  session : Option SessionPayload := none
  updateCounter : UInt64 := 1
  userChangeHook : Bool := false
  hookCalls : List (Option String) := []
  events : List SessionChanged := []
  deriving DecidableEq

inductive Mutation
  | setSession (payload : SessionPayload)
  | clearSession
  deriving DecidableEq

def Shared.userId (s : Shared) : Option String := s.session.map SessionPayload.userId

def Shared.credentials (s : Shared) : Option (String × String × String × Int64) :=
  s.session.map (fun p => (p.userId, p.accessToken, p.refreshToken, p.expiresAt))

/-- A new hook replaces the one before, and nothing was passed to it yet. -/
@[simps] def Shared.onUserChanged (s : Shared) : Shared :=
  { s with userChangeHook := true, hookCalls := [] }

def Shared.fireUserChangeHook (s : Shared) (newUser : Option String) : Shared :=
  if s.userChangeHook then { s with hookCalls := newUser :: s.hookCalls } else s

def Shared.publish (s : Shared) (userId : Option String) (kind : SessionMutationKind) : Shared :=
  { s with events := (kind.intoEventKind.map (SessionChanged.mk userId)).toList ++ s.events }

/-- The end of a mutation: the hook hears of another user and of a sign-out. -/
def Shared.tell (s : Shared) (userId : Option String) (kind : SessionMutationKind) : Shared :=
  if kind = .userChanged ∨ kind = .cleared then (s.fireUserChangeHook userId).publish userId kind
  else s.publish userId kind

@[simps] def Shared.write (s : Shared) (payload : SessionPayload) : Shared :=
  { s with
    session := some { payload with updatedAt := s.updateCounter }
    updateCounter := s.updateCounter + 1 }

@[simps] def Shared.erase (s : Shared) : Shared := { s with session := none }

def Shared.setSession (s : Shared) (payload : SessionPayload) : Shared × SessionMutation :=
  match s.session.filter (fun current => sessionMatches current payload) with
  | some current => (s, ⟨.noop, current.updatedAt⟩)
  | none =>
      let kind := mutationKind s.session payload
      ((s.write payload).tell (some payload.userId) kind, ⟨kind, s.updateCounter⟩)

def Shared.clearSession (s : Shared) : Shared × SessionMutation :=
  if s.session.isSome then (s.erase.tell none .cleared, ⟨.cleared, 0⟩) else (s, ⟨.noop, 0⟩)

def Shared.mutate (s : Shared) : Mutation → Shared × SessionMutation
  | .setSession payload => s.setSession payload
  | .clearSession => s.clearSession

def Shared.after (s : Shared) (calls : List Mutation) : Shared :=
  calls.foldl (fun s call => (s.mutate call).1) s

def Shared.assigned (s : Shared) : Mutation → Option UInt64
  | .setSession payload =>
      let mutation := (s.setSession payload).2
      if mutation.kind = .noop then none else some mutation.updatedAt
  | .clearSession => none

def Shared.assignments (s : Shared) : List Mutation → List UInt64
  | [] => []
  | call :: later => (s.assigned call).toList ++ (s.mutate call).1.assignments later

theorem erase_of_none {s : Shared} (h : s.session = none) : s.erase = s := by
  obtain ⟨session, _, _, _, _⟩ := s
  cases h
  rfl

theorem mutationKind_ne_noop (current : Option SessionPayload) (payload : SessionPayload) :
    mutationKind current payload ≠ .noop := by
  unfold mutationKind
  split
  · split <;> nofun
  · nofun

theorem credentials_eq_iff {s : Shared} (payload : SessionPayload) :
    some (payload.userId, payload.accessToken, payload.refreshToken, payload.expiresAt) =
        s.credentials ↔
      (s.session.filter (fun current => sessionMatches current payload)).isSome = true := by
  cases stored : s.session with
  | none => simp [Shared.credentials, stored]
  | some current =>
    simp only [Shared.credentials, stored, Option.map_some, Option.some.injEq, Prod.mk.injEq,
      Option.isSome_filter, Option.any_some, sessionMatches, Bool.and_eq_true, beq_iff_eq,
      and_assoc]
    simp only [eq_comm]

theorem mutationKind_ne_cleared (current : Option SessionPayload) (payload : SessionPayload) :
    mutationKind current payload ≠ .cleared := by
  unfold mutationKind
  split
  · split <;> nofun
  · nofun

theorem mutationKind_userChanged_iff {current : Option SessionPayload}
    {payload : SessionPayload} :
    mutationKind current payload = .userChanged ↔
      some payload.userId ≠ current.map SessionPayload.userId := by
  cases current with
  | none => simp [mutationKind]
  | some current =>
    by_cases same : current.userId = payload.userId
    · simp [mutationKind, same]
    · simp [mutationKind, same, Ne.symm same]

structure Announced (s t : Shared) (mutation : SessionMutation) : Prop where
  hook : t.hookCalls = if t.userId = s.userId then s.hookCalls else t.userId :: s.hookCalls
  kind : mutation.kind = .noop ↔ t.credentials = s.credentials
  events : t.events = s.events ↔ t.credentials = s.credentials

theorem Announced.quiet (s : Shared) (updatedAt : UInt64) : Announced s s ⟨.noop, updatedAt⟩ where
  hook := by simp
  kind := by simp
  events := by simp

@[simp] theorem tell_session (s : Shared) (userId : Option String) (kind : SessionMutationKind) :
    (s.tell userId kind).session = s.session := by
  unfold Shared.tell Shared.fireUserChangeHook
  repeat' split
  all_goals rfl

@[simp] theorem tell_updateCounter (s : Shared) (userId : Option String)
    (kind : SessionMutationKind) : (s.tell userId kind).updateCounter = s.updateCounter := by
  unfold Shared.tell Shared.fireUserChangeHook
  repeat' split
  all_goals rfl

@[simp] theorem tell_userChangeHook (s : Shared) (userId : Option String)
    (kind : SessionMutationKind) : (s.tell userId kind).userChangeHook = s.userChangeHook := by
  unfold Shared.tell Shared.fireUserChangeHook
  repeat' split
  all_goals rfl

@[simp] theorem tell_hookCalls (s : Shared) (userId : Option String) (kind : SessionMutationKind) :
    (s.tell userId kind).hookCalls =
      if s.userChangeHook = true ∧ (kind = .userChanged ∨ kind = .cleared) then
        userId :: s.hookCalls
      else s.hookCalls := by
  unfold Shared.tell Shared.fireUserChangeHook
  by_cases fires : kind = .userChanged ∨ kind = .cleared
  · by_cases hooked : s.userChangeHook = true <;> simp [fires, hooked, Shared.publish]
  · simp [fires, Shared.publish]

@[simp] theorem tell_events (s : Shared) (userId : Option String) (kind : SessionMutationKind) :
    (s.tell userId kind).events =
      (kind.intoEventKind.map (SessionChanged.mk userId)).toList ++ s.events := by
  unfold Shared.tell Shared.fireUserChangeHook
  repeat' split
  all_goals rfl

theorem announced_tell {s written : Shared} {kind : SessionMutationKind} {updatedAt : UInt64}
    (hooked : written.userChangeHook = true) (hookCalls : written.hookCalls = s.hookCalls)
    (events : written.events = s.events) (changed : written.credentials ≠ s.credentials)
    (change : kind ≠ .noop)
    (user : kind = .userChanged ∨ kind = .cleared ↔ written.userId ≠ s.userId) :
    Announced s (written.tell written.userId kind) ⟨kind, updatedAt⟩ where
  hook := by
    have same : (written.tell written.userId kind).userId = written.userId := by
      simp [Shared.userId]
    rw [same, tell_hookCalls, hookCalls]
    by_cases other : written.userId = s.userId <;> simp [hooked, user, other]
  kind := iff_of_false change (by simpa [Shared.credentials] using changed)
  events := by
    refine iff_of_false ?_ (by simpa [Shared.credentials] using changed)
    rw [tell_events, events]
    cases kind with
    | noop => exact absurd rfl change
    | _ => simp [SessionMutationKind.intoEventKind]

theorem setSession_cases (s : Shared) (payload : SessionPayload) :
    (∃ current : SessionPayload, s.setSession payload = (s, ⟨.noop, current.updatedAt⟩)) ∨
      (s.session.filter (fun current => sessionMatches current payload) = none ∧
        s.setSession payload =
          ((s.write payload).tell (some payload.userId) (mutationKind s.session payload),
            ⟨mutationKind s.session payload, s.updateCounter⟩)) := by
  unfold Shared.setSession
  split
  · rename_i current _
    exact .inl ⟨current, rfl⟩
  · rename_i different
    exact .inr ⟨different, rfl⟩

theorem announced_mutate {s : Shared} (hooked : s.userChangeHook = true) (call : Mutation) :
    Announced s (s.mutate call).1 (s.mutate call).2 := by
  cases call with
  | setSession payload =>
    simp only [Shared.mutate]
    rcases setSession_cases s payload with ⟨current, same⟩ | ⟨different, written⟩
    · rw [same]
      exact .quiet s _
    · rw [written]
      have changed : (s.write payload).credentials ≠ s.credentials := by
        intro same
        simpa [different] using (credentials_eq_iff payload).mp same
      have user : mutationKind s.session payload = .userChanged ∨
          mutationKind s.session payload = .cleared ↔ (s.write payload).userId ≠ s.userId := by
        rw [or_iff_left (mutationKind_ne_cleared s.session payload)]
        exact mutationKind_userChanged_iff
      exact announced_tell hooked rfl rfl changed (mutationKind_ne_noop s.session payload) user
  | clearSession =>
    simp only [Shared.mutate, Shared.clearSession]
    split
    · rename_i present
      obtain ⟨current, stored⟩ := Option.isSome_iff_exists.mp present
      have changed : s.erase.credentials ≠ s.credentials := by simp [Shared.credentials, stored]
      have user : SessionMutationKind.cleared = .userChanged ∨
          SessionMutationKind.cleared = .cleared ↔ s.erase.userId ≠ s.userId := by
        simp [Shared.userId, stored]
      have told : Announced s (s.erase.tell s.erase.userId .cleared) ⟨.cleared, 0⟩ :=
        announced_tell hooked rfl rfl changed nofun user
      exact told
    · exact .quiet s _

theorem mutate_userChangeHook (s : Shared) (call : Mutation) :
    (s.mutate call).1.userChangeHook = s.userChangeHook := by
  cases call with
  | setSession payload =>
    simp only [Shared.mutate]
    rcases setSession_cases s payload with ⟨current, same⟩ | ⟨_, written⟩
    · rw [same]
    · simp [written]
  | clearSession =>
    simp only [Shared.mutate, Shared.clearSession]
    split <;> simp

theorem mutate_updateCounter (s : Shared) (call : Mutation) :
    (s.assigned call = none ∧ (s.mutate call).1.updateCounter = s.updateCounter) ∨
      (s.assigned call = some s.updateCounter ∧
        (s.mutate call).1.updateCounter = s.updateCounter + 1) := by
  cases call with
  | setSession payload =>
    simp only [Shared.mutate, Shared.assigned]
    rcases setSession_cases s payload with ⟨current, same⟩ | ⟨_, written⟩
    · rw [same]
      exact .inl ⟨rfl, rfl⟩
    · rw [written]
      exact .inr ⟨if_neg (mutationKind_ne_noop s.session payload), by simp⟩
  | clearSession =>
    refine .inl ⟨rfl, ?_⟩
    simp only [Shared.mutate, Shared.clearSession]
    split <;> simp

theorem after_cons (s : Shared) (call : Mutation) (later : List Mutation) :
    s.after (call :: later) = (s.mutate call).1.after later := rfl

theorem after_append (s : Shared) (earlier later : List Mutation) :
    s.after (earlier ++ later) = (s.after earlier).after later := List.foldl_append

/-- The hook stays, and its last call named the stored session's user. -/
structure Follows (s : Shared) : Prop where
  hooked : s.userChangeHook = true
  last : s.hookCalls.head?.join = s.userId

theorem Follows.mutate {s : Shared} (h : Follows s) (call : Mutation) :
    Follows (s.mutate call).1 where
  hooked := (mutate_userChangeHook s call).trans h.hooked
  last := by
    rw [(announced_mutate h.hooked call).hook]
    split
    · rename_i same
      rw [same]
      exact h.last
    · rfl

theorem Follows.after {s : Shared} (h : Follows s) (calls : List Mutation) :
    Follows (s.after calls) := by
  induction calls generalizing s with
  | nil => exact h
  | cons call later ih => exact ih (h.mutate call)

theorem counter_after (s : Shared) (calls : List Mutation) :
    (s.after calls).updateCounter.toNat ≤ s.updateCounter.toNat + calls.length := by
  induction calls generalizing s with
  | nil => exact Nat.le_refl _
  | cons call later ih =>
    have next : (s.mutate call).1.updateCounter.toNat ≤ s.updateCounter.toNat + 1 := by
      rcases mutate_updateCounter s call with ⟨_, same⟩ | ⟨_, drawn⟩
      · rw [same]
        exact Nat.le_succ _
      · rw [drawn, UInt64.toNat_add]
        exact Nat.mod_le _ _
    have rest := ih (s.mutate call).1
    rw [after_cons, List.length_cons]
    omega

theorem assignments_increase (s : Shared) (calls : List Mutation)
    (room : s.updateCounter.toNat + calls.length ≤ 2 ^ 64) :
    (s.assignments calls).Pairwise (· < ·) ∧ ∀ n ∈ s.assignments calls, s.updateCounter ≤ n := by
  induction calls generalizing s with
  | nil => exact ⟨.nil, nofun⟩
  | cons call later ih =>
    rw [List.length_cons] at room
    simp only [Shared.assignments]
    rcases mutate_updateCounter s call with ⟨free, same⟩ | ⟨drawn, moved⟩
    · rw [free, ← same]
      exact ih _ (by rw [same]; omega)
    · rw [drawn]
      have counted : (s.mutate call).1.updateCounter.toNat ≤ s.updateCounter.toNat + 1 := by
        rw [moved, UInt64.toNat_add]
        exact Nat.mod_le _ _
      obtain ⟨rest, above⟩ := ih (s.mutate call).1 (by omega)
      -- the counter wraps after the last call at the earliest
      have below : ∀ n ∈ (s.mutate call).1.assignments later, s.updateCounter < n := by
        cases later with
        | nil => exact nofun
        | cons next others =>
          intro n member
          rw [List.length_cons] at room
          refine UInt64.lt_of_lt_of_le ?_ (above n member)
          rw [UInt64.lt_iff_toNat_lt, moved, UInt64.toNat_add, UInt64.toNat_one, Nat.mod_eq_of_lt]
          · exact Nat.lt_succ_self _
          · omega
      refine ⟨List.pairwise_cons.mpr ⟨below, rest⟩, fun n member => ?_⟩
      rcases List.mem_cons.mp member with rfl | later
      · exact UInt64.le_refl _
      · exact UInt64.le_of_lt (below n later)

/-! In the session store whose calls interleave, the mutation lock makes them whole calls. -/

def ofStore (s : Store) : Shared := ⟨s.session, s.updateCounter, true, s.hookCalls, s.events⟩

/-- What the shared fields are at a stage under the mutation lock, when they were `before` as the
lock was taken. -/
def Reached (before : Shared) (now : Shared) : Pc → Prop
  | .setRead _ _ | .clearRead _ => now = before
  | .setWrite payload updatedAt kind _ =>
      now = { before with updateCounter := before.updateCounter + 1 } ∧
        before.session.filter (fun current => sessionMatches current payload) = none ∧
        updatedAt = before.updateCounter ∧ kind = mutationKind before.session payload
  | .clearWrite hadSession _ => now = before ∧ hadSession = before.session.isSome
  | .clearState hadSession _ | .clearSlot hadSession _ =>
      now = before.erase ∧ hadSession = before.session.isSome
  | _ => True

/-- Some whole calls lead to the shared fields, up to the call that holds the lock. -/
def Serialized (s : Store) : Prop :=
  ∃ calls : List Mutation, let before := Shared.after { userChangeHook := true } calls
    (s.guards .mutation = none → ofStore s = before) ∧
    ∀ id pc, s.tasks id = some pc → pc.mutating = true → Reached before (ofStore s) pc

theorem notify_eq_tell (s : Store) (userId : Option String) (kind : SessionMutationKind) :
    ofStore (s.notify userId kind) = (ofStore s).tell userId kind := by
  by_cases fires : kind = .userChanged ∨ kind = .cleared <;>
    simp [ofStore, Shared.tell, Shared.fireUserChangeHook, Shared.publish, fires]

/-- A stretch outside the mutation lock leaves the shared fields, and takes the lock or leaves
it as it was. -/
theorem resume_outside {decode : RefreshDecoder} {s t : Store} {id : Nat} {env : Env} {pc next : Pc}
    (idle : pc.mutating = false) (edge : resume decode s id env pc = some t)
    (found : t.tasks id = some next) :
    ofStore t = ofStore s ∧
      ((t.guards .mutation = s.guards .mutation ∧ next.mutating = false) ∨
        (t.guards .mutation = some id ∧ pc.need = .lock .mutation ∧
          ∀ before, Reached before before next)) := by
  cases pc with
  | setLock payload origin | clearLock cause =>
    cases edge
    obtain rfl := Store.eq_of_go found
    exact ⟨rfl, .inr ⟨by simp, rfl, fun before => rfl⟩⟩
  | watching channel =>
    obtain ⟨outcome, _, rfl⟩ := Option.map_eq_some_iff.mp edge
    obtain rfl := Store.eq_of_go found
    exact ⟨rfl, .inl ⟨by simp [Store.unsubscribe], rfl⟩⟩
  | setRead _ _ | setWrite _ _ _ _ | clearRead _ | clearWrite _ _ | clearState _ _
  | clearSlot _ _ => cases idle
  | done returned => cases edge
  | _ =>
    simp only [resume, Store.unlessFresh, Store.publish] at edge
    repeat' split at edge
    all_goals
      cases edge
      obtain rfl := Store.eq_of_go found
      exact ⟨rfl, .inl ⟨by simp [Store.subscribe], rfl⟩⟩

/-! The stretch that ends a call leaves what the whole call makes of the shared fields. -/

theorem mutate_of_matching {before : Shared} {payload current : SessionPayload}
    (matching : before.session.filter (fun c => sessionMatches c payload) = some current) :
    (before.mutate (.setSession payload)).1 = before := by
  simp [Shared.mutate, Shared.setSession, matching]

theorem ofStore_writeSession {s : Store} {before : Shared} {payload : SessionPayload}
    (now : ofStore s = { before with updateCounter := before.updateCounter + 1 })
    (different : before.session.filter (fun c => sessionMatches c payload) = none)
    (origin : Origin) :
    ofStore ((s.writeSession payload before.updateCounter (mutationKind before.session payload)
      origin).notify (some payload.userId) (mutationKind before.session payload)) =
        (before.mutate (.setSession payload)).1 := by
  have stored : ofStore (s.writeSession payload before.updateCounter
      (mutationKind before.session payload) origin) = before.write payload :=
    congrArg (fun now : Shared => { now with session := (before.write payload).session }) now
  rw [notify_eq_tell, stored]
  simp [Shared.mutate, Shared.setSession, different]

theorem ofStore_emptySlot {s : Store} {before : Shared} (erased : ofStore s = before.erase) :
    ofStore (s.emptySlot.notify none (if before.session.isSome then .cleared else .noop)) =
      (before.mutate .clearSession).1 := by
  have kept : ofStore s.emptySlot = before.erase := erased
  rw [notify_eq_tell, kept]
  simp only [Shared.mutate, Shared.clearSession]
  split
  · rfl
  · rename_i absent
    rw [erase_of_none (Option.not_isSome_iff_eq_none.mp absent)]
    rfl

theorem resume_inside {decode : RefreshDecoder} {s t : Store} {id : Nat} {env : Env} {pc next : Pc}
    {before : Shared} (reached : Reached before (ofStore s) pc)
    (mutating : pc.mutating = true) (held : s.guards .mutation = some id)
    (edge : resume decode s id env pc = some t) (found : t.tasks id = some next) :
    (next.mutating = true ∧ t.guards .mutation = some id ∧ Reached before (ofStore t) next) ∨
      (next.mutating = false ∧ t.guards .mutation = none ∧
        ∃ call, ofStore t = (before.mutate call).1) := by
  cases pc with
  | setRead payload origin =>
    have same : ofStore s = before := reached
    simp only [resume] at edge
    split at edge
    · rename_i current matching
      cases edge
      have stored : before.session.filter (fun c => sessionMatches c payload) = some current := by
        rw [← same]
        exact matching
      have quiet := mutate_of_matching stored
      cases origin <;>
        (obtain rfl := Store.eq_of_go found
         exact .inr ⟨rfl, by simp [Store.endSet], .setSession payload, same.trans quiet.symm⟩)
    · rename_i different
      cases edge
      obtain rfl := Store.eq_of_go found
      refine .inl ⟨rfl, held, ?_⟩
      subst same
      exact ⟨rfl, different, rfl, rfl⟩
  | setWrite payload updatedAt kind origin =>
    obtain ⟨now, different, rfl, rfl⟩ := reached
    cases edge
    have written := ofStore_writeSession now different origin
    cases origin <;>
      (obtain rfl := Store.eq_of_go found
       exact .inr ⟨rfl, by simp [Store.endSet], .setSession payload, written⟩)
  | clearRead cause =>
    cases edge
    obtain rfl := Store.eq_of_go found
    have same : ofStore s = before := reached
    subst same
    exact .inl ⟨rfl, held, rfl, rfl⟩
  | clearWrite hadSession cause =>
    obtain ⟨same, rfl⟩ := reached
    cases edge
    obtain rfl := Store.eq_of_go found
    subst same
    exact .inl ⟨rfl, held, rfl, rfl⟩
  | clearState hadSession cause =>
    obtain ⟨same, rfl⟩ := reached
    cases edge
    obtain rfl := Store.eq_of_go found
    exact .inl ⟨rfl, held, same, rfl⟩
  | clearSlot hadSession cause =>
    obtain ⟨same, rfl⟩ := reached
    cases edge
    have erased := ofStore_emptySlot same
    cases cause <;>
      (obtain rfl := Store.eq_of_go found
       exact .inr ⟨rfl, by simp [Store.endClear, Store.publish], .clearSession, erased⟩)
  | _ => cases mutating

theorem serialized_poll {decode : RefreshDecoder} {s t : Store} {label : Label}
    (order : InOrder none s) (h : Serialized s) (edge : poll decode s label = some t) :
    Serialized t := by
  obtain ⟨calls, idle, stages⟩ := h
  cases poll_cases edge with
  | begins id call absent =>
    refine ⟨calls, idle, fun other pc found mutating => ?_⟩
    rcases update_some_cases found with ⟨rfl, rfl⟩ | ⟨_, found⟩
    · cases call <;> cases mutating
    · exact stages other pc found mutating
  | resumes id env pc task ready edge =>
    obtain ⟨next, tasks, _, _⟩ := resume_stretch edge
    have own : t.tasks id = some next := by rw [tasks, Function.update_self]
    by_cases mutating : pc.mutating = true
    · have held := order.holder id pc nofun task mutating
      have alone : ∀ other opc, other ≠ id → s.tasks other = some opc → opc.mutating = true →
          False := by
        intro other opc different found also
        have theirs := order.holder other opc nofun found also
        exact different (Option.some.inj (theirs.symm.trans held))
      rcases resume_inside (stages id pc task mutating) mutating held edge own with
        ⟨_, still, reached⟩ | ⟨ended, dropped, call, done⟩
      · refine ⟨calls, fun free => ?_, fun other opc found also => ?_⟩
        · rw [still] at free
          cases free
        · rcases update_some_cases (tasks ▸ found) with ⟨rfl, rfl⟩ | ⟨different, found⟩
          · exact reached
          · exact (alone other opc different found also).elim
      · refine ⟨calls ++ [call], fun _ => ?_, fun other opc found also => ?_⟩
        · rw [done, after_append]
          rfl
        · rcases update_some_cases (tasks ▸ found) with ⟨rfl, rfl⟩ | ⟨different, found⟩
          · rw [ended] at also
            cases also
          · exact (alone other opc different found also).elim
    · rw [Bool.not_eq_true] at mutating
      obtain ⟨same, ⟨guards, still⟩ | ⟨taken, need, start⟩⟩ := resume_outside mutating edge own
      · refine ⟨calls, fun free => same.trans (idle (guards ▸ free)),
          fun other opc found also => ?_⟩
        rcases update_some_cases (tasks ▸ found) with ⟨rfl, rfl⟩ | ⟨_, found⟩
        · rw [still] at also
          cases also
        · rw [same]
          exact stages other opc found also
      · have free : s.guards .mutation = none := by simpa [need, Store.ready] using ready
        refine ⟨calls, fun dropped => ?_, fun other opc found also => ?_⟩
        · rw [taken] at dropped
          cases dropped
        · rw [same, idle free]
          rcases update_some_cases (tasks ▸ found) with ⟨rfl, rfl⟩ | ⟨_, found⟩
          · exact start _
          · have theirs := order.holder other opc nofun found also
            rw [free] at theirs
            cases theirs

theorem serialized_initial : Serialized {} :=
  ⟨[], fun _ => rfl, fun _ _ found => by cases found⟩

/-- However calls interleave, refreshes among them, whenever no mutation is under way the session,
what the hook heard and the events are those of some whole calls one after another. -/
theorem run_serialized {decode : RefreshDecoder} {s : Store} {labels : List Label}
    (run : Run (Steps (poll decode)) {} labels s) (free : s.guards .mutation = none) :
    ∃ calls : List Mutation, ofStore s = Shared.after { userChangeHook := true } calls := by
  have holds : InOrder none s ∧ Serialized s :=
    run.invariant (I := fun s => InOrder none s ∧ Serialized s)
      ⟨inOrder_initial, serialized_initial⟩
      (fun _ _ _ h edge => ⟨inOrder_poll h.1 edge, serialized_poll h.1 h.2 edge⟩)
  obtain ⟨calls, idle, _⟩ := holds.2
  exact ⟨calls, idle free⟩

theorem run_hook_follows {decode : RefreshDecoder} {s : Store} {labels : List Label}
    (run : Run (Steps (poll decode)) {} labels s) (free : s.guards .mutation = none) :
    s.hookCalls.head?.join = s.session.map SessionPayload.userId := by
  obtain ⟨calls, same⟩ := run_serialized run free
  have fresh : Follows { userChangeHook := true } := ⟨rfl, rfl⟩
  have last := (fresh.after calls).last
  rw [← same] at last
  exact last

/-- On a store whose hook was registered while it was empty, after every call the hook last heard
of the stored session's user, the call told the hook and the events of what it changed and of
nothing else, and the watermarks go up. -/
theorem calls_announced {earlier calls : List Mutation}
    (few : earlier.length + calls.length < 2 ^ 64)
    (emptied : (Shared.after {} earlier).session = none) :
    let registered := (Shared.after {} earlier).onUserChanged
    (∀ before call later, calls = before ++ call :: later →
      let s := registered.after before
      let t := (s.mutate call).1
      t.hookCalls.head?.join = t.userId ∧ Announced s t (s.mutate call).2) ∧
    (registered.assignments calls).Pairwise (· < ·) := by
  intro registered
  have follows : Follows registered := by
    refine ⟨rfl, ?_⟩
    simp [registered, Shared.userId, emptied]
  refine ⟨?_, ?_⟩
  · intro before call later split s t
    have here : Follows s := follows.after before
    exact ⟨(here.mutate call).last, announced_mutate here.hooked call⟩
  · refine (assignments_increase registered calls ?_).1
    have counted := counter_after {} earlier
    have first : (Shared.updateCounter {}).toNat = 1 := rfl
    have same : registered.updateCounter = (Shared.after {} earlier).updateCounter := rfl
    rw [same]
    omega

/-- Bob signed in and out before the hook came. Then Alice signs in, is refreshed, hands in what
is stored, and leaves. -/
theorem calls_announced_alice :
    let registered := (Shared.after {} [.setSession (expiredSession "bob"),
      .clearSession]).onUserChanged
    let calls : List Mutation := [.setSession (expiredSession "alice"),
      .setSession ⟨"alice", "new", "refresh", 9, 0⟩, .setSession ⟨"alice", "new", "refresh", 9, 0⟩,
      .clearSession]
    (registered.after calls).hookCalls = [none, some "alice"] ∧
      registered.assignments calls = [2, 3] ∧
      (registered.assignments calls).Pairwise (· < ·) := by
  refine ⟨by decide, by decide, ?_⟩
  exact (calls_announced (by decide) (by decide)).2

end Polykit.Auth.Notifications
