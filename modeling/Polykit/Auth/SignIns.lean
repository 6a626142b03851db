/- Module: Polykit/Auth/SignIns
   generality: I
   source: crates/polybase/src/auth.rs
   digest: Which session the completion of a token refresh can touch. -/

import Polykit.Auth.Locks

set_option autoImplicit false
set_option relaxedAutoImplicit false

namespace Polykit.Auth.Machine

open Errors Lib.Runs

/-- The sign-in `signIn` is past, or it is the one whose user is still signed in. -/
structure SignedInAs (s : Store) (current : SessionPayload) (signIn : Nat) : Prop where
  past : signIn ≤ s.signIns
  active : signIn = s.signIns →
    ∃ stored, s.session = some stored ∧ stored.userId = current.userId

/-- What a mutation knows once it holds the lock, and a refresh before it is claimed. -/
def Knows (s : Store) : Pc → Prop
  | .claim _ current signIn => SignedInAs s current signIn
  | .setRead payload origin => ∀ l, origin.lead = some l → l.signIn = s.signIns ∨
      ∃ stored, s.session = some stored ∧ sessionMatches stored payload = true
  | .setWrite payload _ kind origin => kind = mutationKind s.session payload ∧
      ∀ l, origin.lead = some l → l.signIn = s.signIns
  | .clearRead cause => ∀ e l, cause = some (e, l) → l.signIn = s.signIns ∨ s.session = none
  | .clearWrite hadSession cause => hadSession = s.session.isSome ∧
      ∀ e l, cause = some (e, l) → l.signIn = s.signIns ∨ s.session = none
  | _ => True

/-- Every call knows where it stands, and every refresh whose sign-in it serves. -/
structure Attached (s : Store) : Prop where
  knows : ∀ id pc, s.tasks id = some pc → Knows s pc
  leads : ∀ id pc lead, s.tasks id = some pc → pc.lead = some lead →
    SignedInAs s lead.current lead.signIn

/-- A refresh takes the mutation lock only for the sign-in it started from, or to find that
there is nothing to change. -/
def signInActive (s : Store) : Label → Bool
  | .call _ _ => true
  | .advance id _ =>
      match s.tasks id with
      | some (.setLock payload (.refresh lead)) =>
          lead.signIn == s.signIns || s.session.any (fun stored => sessionMatches stored payload)
      | some (.clearLock (some (_, lead))) => lead.signIn == s.signIns || s.session.isNone
      | _ => true

theorem resume_session {decode : RefreshDecoder} {s t : Store} {id : Nat} {env : Env} {pc : Pc}
    (edge : resume decode s id env pc = some t) :
    (t.session = s.session ∧ t.signIns = s.signIns) ∨
      (∃ payload updatedAt kind origin, pc = .setWrite payload updatedAt kind origin ∧
        t.session = some { payload with updatedAt := updatedAt } ∧
        t.signIns = if endsSignIn kind origin then s.signIns + 1 else s.signIns) ∨
      ∃ hadSession cause, pc = .clearWrite hadSession cause ∧ t.session = none ∧
        t.signIns = if hadSession then s.signIns + 1 else s.signIns := by
  cases pc with
  | setWrite payload updatedAt kind origin =>
    cases edge
    cases origin <;> exact .inr (.inl ⟨payload, updatedAt, kind, _, rfl, rfl, rfl⟩)
  | clearWrite hadSession cause =>
    cases edge
    exact .inr (.inr ⟨hadSession, cause, rfl, rfl, rfl⟩)
  | watching channel =>
    obtain ⟨outcome, _, rfl⟩ := Option.map_eq_some_iff.mp edge
    exact .inl ⟨rfl, rfl⟩
  | setRead payload origin =>
    simp only [resume] at edge
    split at edge <;> cases edge <;> cases origin <;> exact .inl ⟨rfl, rfl⟩
  | clearSlot hadSession cause =>
    cases edge
    cases cause <;> exact .inl ⟨rfl, rfl⟩
  | done returned => cases edge
  | _ =>
    left
    simp only [resume, Store.unlessFresh] at edge
    repeat' split at edge
    all_goals
      cases edge
      exact ⟨rfl, rfl⟩

/-- What a step can do to the session: nothing, a write of the kind that fits, a sign-out. -/
def SessionChange (s t : Store) : Prop :=
  (t.session = s.session ∧ t.signIns = s.signIns) ∨
    (∃ payload updatedAt kind origin, kind = mutationKind s.session payload ∧
      t.session = some { payload with updatedAt := updatedAt } ∧
      t.signIns = if endsSignIn kind origin then s.signIns + 1 else s.signIns) ∨
    ∃ hadSession, hadSession = s.session.isSome ∧ t.session = none ∧
      t.signIns = if hadSession then s.signIns + 1 else s.signIns

theorem sessionChange_resume {decode : RefreshDecoder} {s t : Store} {id : Nat} {env : Env}
    {pc : Pc} (knows : Knows s pc) (edge : resume decode s id env pc = some t) :
    SessionChange s t := by
  rcases resume_session edge with same | ⟨payload, updatedAt, kind, origin, rfl, session, signIns⟩ |
    ⟨hadSession, cause, rfl, session, signIns⟩
  · exact .inl same
  · exact .inr (.inl ⟨payload, updatedAt, kind, origin, knows.1, session, signIns⟩)
  · exact .inr (.inr ⟨hadSession, knows.1, session, signIns⟩)

theorem SignedInAs.step {s t : Store} {current : SessionPayload} {signIn : Nat}
    (h : SignedInAs s current signIn) (change : SessionChange s t) :
    SignedInAs t current signIn := by
  have past := h.past
  rcases change with ⟨session, signIns⟩ | ⟨payload, updatedAt, kind, origin, decided, session, signIns⟩ |
    ⟨hadSession, decided, session, signIns⟩
  · exact ⟨signIns ▸ h.past, by rw [session, signIns]; exact h.active⟩
  · by_cases changed : endsSignIn kind origin = true
    · simp only [changed, if_true] at signIns
      exact ⟨by omega, fun same => by omega⟩
    · simp only [changed, Bool.false_eq_true, if_false] at signIns
      refine ⟨by omega, fun same => ⟨_, session, ?_⟩⟩
      obtain ⟨stored, active, user⟩ := h.active (by omega)
      have sameUser : stored.userId = payload.userId := by
        by_contra different
        simp [endsSignIn, decided, mutationKind, active, different] at changed
      exact sameUser.symm.trans user
  · by_cases had : hadSession = true
    · simp only [had, if_true] at signIns
      exact ⟨by omega, fun same => by omega⟩
    · simp only [had, Bool.false_eq_true, if_false] at signIns
      refine ⟨by omega, fun same => ?_⟩
      obtain ⟨stored, active, _⟩ := h.active (by omega)
      simp [decided, active] at had

theorem Knows.frame {s t : Store} {pc : Pc} (h : Knows s pc) (session : t.session = s.session)
    (signIns : t.signIns = s.signIns) : Knows t pc := by
  cases pc with
  | claim query current signIn => exact SignedInAs.step h (.inl ⟨session, signIns⟩)
  | setRead payload origin =>
    simp only [Knows, session, signIns] at h ⊢
    exact h
  | setWrite payload updatedAt kind origin =>
    simp only [Knows, session, signIns] at h ⊢
    exact h
  | clearRead cause =>
    simp only [Knows, session, signIns] at h ⊢
    exact h
  | clearWrite hadSession cause =>
    simp only [Knows, session, signIns] at h ⊢
    exact h
  | _ => trivial

theorem Knows.step {s t : Store} {pc : Pc} (h : Knows s pc) (change : SessionChange s t)
    (idle : pc.mutating = false) : Knows t pc := by
  cases pc with
  | claim query current signIn => exact SignedInAs.step h change
  | setRead _ _ | setWrite _ _ _ _ | clearRead _ | clearWrite _ _ => cases idle
  | _ => trivial

theorem resume_knows {decode : RefreshDecoder} {s t : Store} {id : Nat} {env : Env} {pc next : Pc}
    (task : s.tasks id = some pc) (knows : Knows s pc)
    (admitted : signInActive s (.advance id env) = true)
    (edge : resume decode s id env pc = some t) (found : t.tasks id = some next) :
    Knows t next := by
  simp only [signInActive, task] at admitted
  cases pc with
  | sessionReread query =>
    simp only [resume, Store.unlessFresh] at edge
    split at edge
    · cases edge
      exact Store.eq_of_go found ▸ trivial
    · rename_i current active
      split at edge
      · cases edge
        exact Store.eq_of_go found ▸ trivial
      · cases edge
        obtain rfl := Store.eq_of_go found
        exact ⟨le_refl _, fun _ => ⟨current, active, rfl⟩⟩
  | setLock payload origin =>
    cases edge
    obtain rfl := Store.eq_of_go found
    cases origin with
    | caller anotherSignIn => exact fun l leads => by cases leads
    | refresh lead =>
      rintro l ⟨⟩
      simp only [Bool.or_eq_true, beq_iff_eq, Option.any_eq_true] at admitted
      exact admitted
  | setRead payload origin =>
    simp only [resume] at edge
    split at edge
    · cases edge
      cases origin <;> exact Store.eq_of_go found ▸ trivial
    · rename_i different
      cases edge
      obtain rfl := Store.eq_of_go found
      refine ⟨rfl, fun l leads => ?_⟩
      rcases knows l leads with active | ⟨stored, present, same⟩
      · exact active
      · simp [present, same] at different
  | clearLock cause =>
    cases edge
    obtain rfl := Store.eq_of_go found
    rintro e l rfl
    simpa using admitted
  | clearRead cause =>
    cases edge
    obtain rfl := Store.eq_of_go found
    exact ⟨rfl, knows⟩
  | watching channel =>
    obtain ⟨outcome, _, rfl⟩ := Option.map_eq_some_iff.mp edge
    exact Store.eq_of_go found ▸ trivial
  | setWrite payload updatedAt kind origin =>
    cases edge
    cases origin <;> exact Store.eq_of_go found ▸ trivial
  | clearSlot hadSession cause =>
    cases edge
    cases cause <;> exact Store.eq_of_go found ▸ trivial
  | done returned => cases edge
  | _ =>
    simp only [resume, Store.unlessFresh, Store.publish] at edge
    repeat' split at edge
    all_goals
      cases edge
      exact Store.eq_of_go found ▸ trivial

theorem resume_session_of_holder {decode : RefreshDecoder} {s t : Store} {id other : Nat}
    {env : Env} {pc opc : Pc} (order : InOrder none s) (task : s.tasks id = some pc)
    (edge : resume decode s id env pc = some t) (different : other ≠ id)
    (found : s.tasks other = some opc) (mutating : opc.mutating = true) :
    t.session = s.session ∧ t.signIns = s.signIns := by
  have held := order.holder other opc nofun found mutating
  have excluded : pc.mutating = false := by
    by_contra also
    rw [Bool.not_eq_false] at also
    rw [order.holder id pc nofun task also, Option.some.injEq] at held
    exact different held.symm
  rcases resume_session edge with same | ⟨_, _, _, _, rfl, _⟩ | ⟨_, _, rfl, _⟩
  · exact same
  · cases excluded
  · cases excluded

theorem attached_poll {decode : RefreshDecoder} {s t : Store} {label : Label} (h : Attached s)
    (order : InOrder none s) (admitted : signInActive s label = true)
    (edge : poll decode s label = some t) : Attached t := by
  cases poll_cases edge with
  | begins id call absent =>
    constructor
    · intro other pc found
      rcases update_some_cases found with ⟨rfl, rfl⟩ | ⟨_, found⟩
      · cases call <;> trivial
      · exact (h.knows other pc found).frame rfl rfl
    · intro other pc lead found leads
      rcases update_some_cases found with ⟨rfl, rfl⟩ | ⟨_, found⟩
      · cases call <;> cases leads
      · exact (h.leads other pc lead found leads).step (.inl ⟨rfl, rfl⟩)
  | resumes id env pc task ready edge =>
    have knows := h.knows id pc task
    have change := sessionChange_resume knows edge
    obtain ⟨next, tasks, _, leadsOn⟩ := resume_stretch edge
    constructor
    · intro other opc found
      rcases update_some_cases (tasks ▸ found) with ⟨rfl, _⟩ | ⟨same, found⟩
      · exact resume_knows task knows admitted edge found
      · have before := h.knows other opc found
        cases mutating : opc.mutating with
        | true =>
          obtain ⟨session, signIns⟩ :=
            resume_session_of_holder order task edge same found mutating
          exact before.frame session signIns
        | false => exact before.step change mutating
    · intro other opc lead found leads
      rcases update_some_cases (tasks ▸ found) with ⟨rfl, rfl⟩ | ⟨_, found⟩
      · rcases leadsOn lead leads with before | ⟨query, current, signIn, rfl, rfl, _⟩
        · exact (h.leads other pc lead task before).step change
        · exact SignedInAs.step knows change
      · exact (h.leads other opc lead found leads).step change

structure Confined (s : Store) : Prop where
  inOrder : InOrder none s
  attached : Attached s

theorem run_confined {decode : RefreshDecoder} {s : Store} {labels : List Label}
    (run : Run (Guarded (fun s label => signInActive s label = true) (Steps (poll decode)))
      {} labels s) : Confined s := by
  have unattached : Attached {} :=
    { knows := fun _ _ found => by cases found
      leads := fun _ _ _ found => by cases found }
  have initial : Confined {} := ⟨inOrder_initial, unattached⟩
  have keeps : ∀ s label t, Confined s →
      Guarded (fun s label => signInActive s label = true) (Steps (poll decode)) s label t →
        Confined t := fun _ _ _ h edge =>
    ⟨inOrder_poll h.inOrder edge.1, attached_poll h.attached h.inOrder edge.2 edge.1⟩
  exact run.invariant initial keeps

theorem stale_session {decode : RefreshDecoder} {s t : Store} {id : Nat} {env : Env} {pc : Pc}
    {lead : Lead} (h : Attached s) (task : s.tasks id = some pc) (leads : pc.lead = some lead)
    (edge : resume decode s id env pc = some t) (stale : lead.signIn ≠ s.signIns) :
    t.session = s.session := by
  have knows := h.knows id pc task
  rcases resume_session edge with same | ⟨_, _, _, _, rfl, _⟩ | ⟨_, cause, rfl, session, _⟩
  · exact same.1
  · exact absurd (knows.2 lead leads) stale
  · obtain ⟨⟨e, l⟩, caused, rfl⟩ := Option.map_eq_some_iff.mp leads
    rcases knows.2 e l caused with active | empty
    · exact absurd active stale
    · rw [session, empty]

/-- In a run where refreshes take the mutation lock for their own sign-ins only, the refresh of
a past sign-in leaves the session as it is, no refresh fills an empty store, and none clears
the session of another user. -/
theorem run_refresh_confined {decode : RefreshDecoder} {s t : Store} {labels : List Label}
    (run : Run (Guarded (fun s label => signInActive s label = true) (Steps (poll decode)))
      {} labels s) {id : Nat} {env : Env} {pc : Pc} {lead : Lead} (task : s.tasks id = some pc)
    (leads : pc.lead = some lead) (edge : poll decode s (.advance id env) = some t) :
    (lead.signIn ≠ s.signIns → t.session = s.session) ∧
      (s.session = none → t.session = none) ∧
      ∀ stored, s.session = some stored → t.session = none →
        stored.userId = lead.current.userId := by
  have h := (run_confined run).attached
  simp only [poll, task, Option.bind_some, Option.ite_none_right_eq_some] at edge
  have stays : lead.signIn ≠ s.signIns → t.session = s.session :=
    stale_session h task leads edge.2
  have signedIn := h.leads id pc lead task leads
  refine ⟨stays, ?_, ?_⟩
  · intro empty
    by_cases active : lead.signIn = s.signIns
    · obtain ⟨stored, present, _⟩ := signedIn.active active
      rw [empty] at present
      cases present
    · exact (stays active).trans empty
  · intro stored present cleared
    by_cases active : lead.signIn = s.signIns
    · obtain ⟨own, same, user⟩ := signedIn.active active
      rw [present, Option.some.injEq] at same
      exact same ▸ user
    · rw [stays active, present] at cleared
      cases cleared

/-- Alice signs out while her token is being refreshed. The refresh signs her in again. -/
theorem refresh_after_signOut :
    ∃ s t, Run (Steps (poll sampleDecode)) {}
        (signsOut 2 ++ startsRefresh 1 ++ signsIn 0 "alice") s ∧ s.session = none ∧
      Run (Steps (poll sampleDecode)) s (advances 1 4 renewed) t ∧
      t.session.map SessionPayload.userId = some "alice" := by
  have computed : ((execute (poll sampleDecode) {}
      (signsOut 2 ++ startsRefresh 1 ++ signsIn 0 "alice")).map (fun s =>
        (s.session, (execute (poll sampleDecode) s (advances 1 4 renewed)).map (fun t =>
          t.session.map SessionPayload.userId)))) = some (none, some (some "alice")) := by decide
  obtain ⟨s, before, facts⟩ := Option.map_eq_some_iff.mp computed
  obtain ⟨empty, after⟩ := Prod.mk.inj facts
  obtain ⟨t, refreshed, user⟩ := Option.map_eq_some_iff.mp after
  exact ⟨s, t, run_of_execute before, empty, run_of_execute refreshed, user⟩

/-- Bob signs in during Alice's refresh, which then fails for the time being. -/
theorem run_refresh_confined_bob :
    ∃ s t, Run (Steps (poll sampleDecode)) {}
        (signsIn 2 "bob" ++ startsRefresh 1 ++ signsIn 0 "alice") s ∧
      poll sampleDecode s (.advance 1 unavailable) = some t ∧
      s.session.map SessionPayload.userId = some "bob" ∧ t.session = s.session := by
  have computed : ((execute (restrict signInActive (poll sampleDecode)) {}
      (signsIn 2 "bob" ++ startsRefresh 1 ++ signsIn 0 "alice")).map (fun s =>
        (s.session.map SessionPayload.userId, s.signIns,
          ((s.tasks 1).bind Pc.lead).map Lead.signIn,
          (poll sampleDecode s (.advance 1 unavailable)).isSome))) =
      some (some "bob", 2, some 1, true) := by decide
  obtain ⟨s, ran, facts⟩ := Option.map_eq_some_iff.mp computed
  simp only [Prod.mk.injEq, Option.map_eq_some_iff, Option.bind_eq_some_iff,
    Option.isSome_iff_exists] at facts
  obtain ⟨bob, signIns, ⟨lead, ⟨pc, task, leads⟩, first⟩, t, edge⟩ := facts
  have guarded := guarded_of_execute ran
  have stale : lead.signIn ≠ s.signIns := by omega
  exact ⟨s, t, guarded.mono (fun _ _ _ edge => edge.1), edge, by simpa using bob,
    (run_refresh_confined guarded task leads edge).1 stale⟩

end Polykit.Auth.Machine
