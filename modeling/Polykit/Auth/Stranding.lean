/- Module: Polykit/Auth/Stranding
   generality: I
   source: crates/polybase/src/auth.rs
   digest: A step that is not calm leaves a follower waiting in every state that comes after. -/

import Polykit.Auth.Deadlock

set_option autoImplicit false
set_option relaxedAutoImplicit false

namespace Polykit.Auth.Machine

open Errors Lib.Runs Lib.Waiting

/-- The follower `f` waits on an empty channel whose leader does not get to publish. -/
structure Stranded (s : Store) (f channel : Nat) : Prop where
  watching : s.tasks f = some (.watching channel)
  silent : s.published channel = none
  unheard : s.willPublish channel = false

theorem unheard_iff {s : Store} {channel : Nat} :
    s.willPublish channel = false ↔ ∀ pc, s.leaderOf channel = some pc →
      pc.heading = some channel → pc.entering = true ∧ s.clearing = true := by
  cases leader : s.leaderOf channel with
  | none => simp [Store.willPublish, leader]
  | some pc => simp [Store.willPublish, leader]

theorem unheard_step {s t : Store} {id channel : Nat} {next : Pc} (h : InOrder none s)
    (ht : InOrder none t) (tasks : t.tasks = Function.update s.tasks id (some next))
    (kept : ChannelsKept s t) (inside : channel < s.channels.length)
    (unheard : s.willPublish channel = false) (heading : next.heading ≠ some channel)
    (clearing : ∀ pc, s.tasks id = some pc → pc.clearing = true → next.clearing = true) :
    t.willPublish channel = false := by
  have found : s.channels[channel]? = some s.channels[channel] := List.getElem?_eq_getElem inside
  obtain ⟨c', found', same, _⟩ := kept channel _ found
  refine unheard_iff.mpr (fun lpc leader heads => ?_)
  have task : t.tasks s.channels[channel].leader = some lpc := by
    simpa [Store.leaderOf, found', same] using leader
  have other : s.channels[channel].leader ≠ id := by
    intro mine
    rw [tasks, mine, Function.update_self, Option.some.injEq] at task
    exact heading (task ▸ heads)
  rw [tasks, Function.update_of_ne other] at task
  have before : s.leaderOf channel = some lpc := by simpa [Store.leaderOf, found] using task
  obtain ⟨enters, clears⟩ := unheard_iff.mp unheard lpc before heads
  refine ⟨enters, ?_⟩
  obtain ⟨m, mpc, mtask, signs⟩ := (clearing_iff h).mp clears
  by_cases mine : m = id
  · subst mine
    exact (clearing_iff ht).mpr ⟨m, next, by simp [tasks], clearing mpc mtask signs⟩
  · exact (clearing_iff ht).mpr ⟨m, mpc, by simp [tasks, mine, mtask], signs⟩

theorem resume_away {decode : RefreshDecoder} {s t : Store} {id channel : Nat} {env : Env}
    {pc next : Pc} (away : pc.need ≠ .lock .refreshInFlight) (idle : pc.heading ≠ some channel)
    (edge : resume decode s id env pc = some t) (found : t.tasks id = some next) :
    next.heading ≠ some channel ∧ (pc.clearing = true → next.clearing = true) ∧
      t.published channel = s.published channel := by
  have publishes : ∀ (u : Store) (lead : Lead) (result : RefreshResult), u.channels = s.channels →
      lead.channel ≠ channel →
      (u.publish id lead result).published channel = s.published channel := by
    intro u lead result channels other
    simp [Store.publish, Store.published, channels, other]
  cases pc with
  | inFlightCheck query => exact absurd rfl away
  | claim query current signIn => exact absurd rfl away
  | clearSlot hadSession cause => exact absurd rfl away
  | release result => exact absurd rfl away
  | watching watched =>
    obtain ⟨outcome, _, rfl⟩ := Option.map_eq_some_iff.mp edge
    obtain rfl := Store.eq_of_go found
    refine ⟨away_of_none rfl, clears_of_false rfl, ?_⟩
    simp only [Store.published, Store.unsubscribe, Store.go_channels, Store.unlock_channels,
      Store.modifyChannel_channels, List.getElem?_modify, Option.map_eq_map, Option.bind_map]
    congr 1
    funext c
    by_cases same : watched = channel <;> simp [same]
  | readBack payload kind lead | noteFailure error lead =>
    cases edge
    obtain rfl := Store.eq_of_go found
    have other : lead.channel ≠ channel := fun same => idle (congrArg some same)
    exact ⟨away_of_none rfl, clears_of_false rfl, publishes _ _ _ rfl other⟩
  | setRead payload origin =>
    simp only [resume] at edge
    split at edge
    · cases edge
      cases origin <;>
        (obtain rfl := Store.eq_of_go found
         exact ⟨idle, clears_of_false rfl, rfl⟩)
    · cases edge
      obtain rfl := Store.eq_of_go found
      exact ⟨idle, clears_of_false rfl, rfl⟩
  | setWrite payload updatedAt kind origin =>
    cases edge
    cases origin <;>
      (obtain rfl := Store.eq_of_go found
       exact ⟨idle, clears_of_false rfl, rfl⟩)
  | clearLock cause | clearRead cause | clearWrite hadSession cause | clearState hadSession cause =>
    cases edge
    obtain rfl := Store.eq_of_go found
    exact ⟨away_of_none rfl, fun _ => rfl, rfl⟩
  | request lead =>
    simp only [resume] at edge
    split at edge
    · cases edge
      obtain rfl := Store.eq_of_go found
      exact ⟨idle, clears_of_false rfl, rfl⟩
    · split at edge <;> cases edge <;> obtain rfl := Store.eq_of_go found
      · exact ⟨away_of_none rfl, clears_of_false rfl, rfl⟩
      · exact ⟨idle, clears_of_false rfl, rfl⟩
  | setLock payload origin | noteSuccess payload kind lead =>
    cases edge
    obtain rfl := Store.eq_of_go found
    exact ⟨idle, clears_of_false rfl, rfl⟩
  | sessionRead query | cooldownCheck query | sessionReread query =>
    simp only [resume, Store.unlessFresh] at edge
    repeat' split at edge
    all_goals
      cases edge
      obtain rfl := Store.eq_of_go found
      exact ⟨away_of_none rfl, clears_of_false rfl, rfl⟩
  | done returned => cases edge

theorem Stranded.away {s : Store} {f channel id : Nat} {pc : Pc} (stranded : Stranded s f channel)
    (h : InOrder none s) (own : LeadsOwn s) (task : s.tasks id = some pc)
    (ready : s.ready pc.need = true) :
    pc.need ≠ .lock .refreshInFlight ∧ pc.heading ≠ some channel := by
  have held := (h.watcher f channel nofun stranded.watching).1
  refine ⟨fun need => ?_, fun heads => ?_⟩
  · simp [need, Store.ready, held] at ready
  · obtain ⟨lead, leads, same⟩ := lead_of_heading heads
    obtain ⟨c, found, mine⟩ := own id pc lead task leads
    have leader : s.leaderOf channel = some pc := by
      simp [Store.leaderOf, ← same, found, mine, task]
    obtain ⟨enters, clears⟩ := unheard_iff.mp stranded.unheard pc leader heads
    obtain ⟨m, mpc, mtask, signs⟩ := (clearing_iff h).mp clears
    have locked := h.holder m mpc nofun mtask (by simp [Pc.mutating, signs])
    cases pc with
    | setLock payload origin => simp [Pc.need, Store.ready, locked] at ready
    | _ => cases enters

theorem stranded_poll {decode : RefreshDecoder} {s t : Store} {f channel : Nat} {label : Label}
    (stranded : Stranded s f channel) (h : InOrder none s) (own : LeadsOwn s)
    (edge : poll decode s label = some t) : Stranded t f channel := by
  have ht := inOrder_poll h edge
  obtain ⟨c, opened, _⟩ := (h.watcher f channel nofun stranded.watching).2
  have inside := (List.getElem?_eq_some_iff.mp opened).1
  cases poll_cases edge with
  | begins id call absent =>
    have other : f ≠ id := by
      rintro rfl
      rw [stranded.watching] at absent
      cases absent
    refine ⟨by simp [other, stranded.watching], stranded.silent, ?_⟩
    have heading : call.start.heading ≠ some channel := by cases call <;> nofun
    exact unheard_step h ht rfl (.refl rfl) inside stranded.unheard heading
      (fun pc found => by rw [absent] at found; cases found)
  | resumes id env pc task ready edge =>
    obtain ⟨away, idle⟩ := stranded.away h own task ready
    obtain ⟨next, tasks, kept, _⟩ := resume_stretch edge
    have found : t.tasks id = some next := by simp [tasks]
    obtain ⟨heading, clearing, published⟩ := resume_away away idle edge found
    have other : f ≠ id := by
      rintro rfl
      rw [stranded.watching, Option.some.injEq] at task
      subst task
      simp [Pc.need, Store.ready, stranded.silent] at ready
    refine ⟨by simp [tasks, other, stranded.watching], published.trans stranded.silent, ?_⟩
    refine unheard_step h ht tasks kept inside stranded.unheard heading (fun own found => ?_)
    rw [task, Option.some.injEq] at found
    exact found ▸ clearing

/-- A leader that stands before the mutation lock under a sign-out, or past all publishing, is
not heard by its follower. -/
theorem Stranded.of_leader {t : Store} {f channel l : Nat} {lpc : Pc} {c : Channel}
    (watching : t.tasks f = some (.watching channel)) (silent : t.published channel = none)
    (found : t.channels[channel]? = some c) (leader : c.leader = l) (task : t.tasks l = some lpc)
    (passes : lpc.heading = some channel → lpc.entering = true ∧ t.clearing = true) :
    Stranded t f channel where
  watching := watching
  silent := silent
  unheard := by
    refine unheard_iff.mpr (fun pc leads heads => ?_)
    simp only [Store.leaderOf, found, Option.bind_some, leader, task, Option.some.injEq] at leads
    subst leads
    exact passes heads

theorem stranded_park {s : Store} {id channel : Nat} {query : Query} (h : InOrder none s)
    (ht : InOrder none (((s.acquire .refreshInFlight id).subscribe channel).go id
      (.watching channel)))
    (task : s.tasks id = some (.inFlightCheck query)) (current : s.refreshInFlight = some channel)
    (silent : s.published channel = none) (unheard : s.willPublish channel = false) :
    Stranded (((s.acquire .refreshInFlight id).subscribe channel).go id (.watching channel))
      id channel := by
  have inside := h.range channel current
  have kept : ChannelsKept s
      (((s.acquire .refreshInFlight id).subscribe channel).go id (.watching channel)) :=
    channelsKept_modifyChannel (fun _ => rfl) (fun _ silent => silent)
  have empty : s.channels[channel].value = none := by
    simpa [Store.published, List.getElem?_eq_getElem inside] using silent
  refine ⟨by simp, ?_, ?_⟩
  · simp [Store.published, Store.subscribe, List.getElem?_eq_getElem inside, empty]
  · have idle : (Pc.watching channel).heading ≠ some channel := away_of_none rfl
    refine unheard_step h ht rfl kept inside unheard idle (fun pc found clears => ?_)
    rw [task, Option.some.injEq] at found
    subst found
    cases clears

theorem stranded_of_refused {decode : RefreshDecoder} {s t : Store} {label : Label}
    (h : InOrder none s) (own : LeadsOwn s) (edge : poll decode s label = some t)
    (refused : calm decode s label = false) : ∃ f channel, Stranded t f channel := by
  have ht := inOrder_poll h edge
  cases poll_cases edge with
  | begins id call absent => cases refused
  | resumes id env pc task ready edge =>
    simp only [calm, task] at refused
    cases pc with
    | inFlightCheck query =>
      simp only [resume] at edge
      split at edge
      · rename_i channel current
        cases edge
        simp only [current, Option.all_some, Bool.or_eq_false_iff, Option.isSome_eq_false_iff,
          Option.isNone_iff_eq_none] at refused
        exact ⟨id, channel, stranded_park h ht task current refused.1 refused.2⟩
      · rename_i empty
        simp [empty] at refused
    | request lead =>
      simp only [Bool.or_eq_false_iff, bne_eq_false_iff_eq] at refused
      obtain ⟨awaited, reply⟩ := refused
      obtain ⟨⟨f, watching⟩, silent⟩ := (awaited_iff h).mp awaited
      obtain ⟨c, found, leader⟩ := own id _ lead task rfl
      have other : f ≠ id := by
        rintro rfl
        rw [task] at watching
        cases watching
      simp only [resume] at edge
      split at edge
      · rename_i payload success
        cases edge
        simp only [success, Bool.not_eq_false'] at reply
        obtain ⟨m, mpc, mtask, clears⟩ := (clearing_iff h).mp reply
        have signer : m ≠ id := by
          rintro rfl
          rw [task, Option.some.injEq] at mtask
          subst mtask
          cases clears
        refine ⟨f, lead.channel, .of_leader (by simp [other, watching]) silent found leader
          (Function.update_self ..) (fun _ => ⟨rfl, ?_⟩)⟩
        exact (clearing_iff ht).mpr ⟨m, mpc, by simp [signer, mtask], clears⟩
      · rename_i error failure
        simp only [failure, Bool.not_eq_false'] at reply
        rw [if_pos reply] at edge
        cases edge
        exact ⟨f, lead.channel, .of_leader (by simp [other, watching]) silent found leader
          (Function.update_self ..) (fun heads => absurd heads (away_of_none rfl))⟩
    | clearLock cause =>
      cases edge
      obtain ⟨channel, awaited, overtaken⟩ : ∃ channel, s.awaited = some channel ∧
          (s.leaderOf channel).any Pc.entering = true := by
        cases awaited : s.awaited with
        | none => simp [awaited] at refused
        | some channel => exact ⟨channel, rfl, by simpa [awaited] using refused⟩
      obtain ⟨⟨f, watching⟩, silent⟩ := (awaited_iff h).mp awaited
      obtain ⟨lpc, leads, enters⟩ := (Option.any_eq_true _ _).mp overtaken
      obtain ⟨c, found, ltask⟩ := Option.bind_eq_some_iff.mp leads
      have other : f ≠ id := by
        rintro rfl
        rw [task] at watching
        cases watching
      have notLeader : c.leader ≠ id := by
        intro same
        rw [same, task, Option.some.injEq] at ltask
        subst ltask
        cases enters
      refine ⟨f, channel, .of_leader (by simp [other, watching]) silent found rfl
        (by simpa [notLeader] using ltask) (fun _ => ⟨enters, ?_⟩)⟩
      exact (clearing_iff ht).mpr ⟨id, .clearRead cause, Function.update_self .., rfl⟩
    | _ => cases refused

/-- In a run with a step that is not calm some follower waits in every state after it. -/
theorem run_refused_strands {decode : RefreshDecoder} {s t : Store} {labels : List Label}
    {label : Label} (run : Run (Steps (poll decode)) {} labels s)
    (edge : poll decode s label = some t) (refused : calm decode s label = false) :
    ∃ f, ∀ later u, Run (Steps (poll decode)) t later u → Waits u f := by
  have order := run_inOrder run
  have own := run_leadsOwn run
  obtain ⟨f, channel, stranded⟩ := stranded_of_refused order own edge refused
  refine ⟨f, fun later u after => ?_⟩
  have keeps : ∀ s label t, (InOrder none s ∧ LeadsOwn s ∧ Stranded s f channel) →
      Steps (poll decode) s label t → InOrder none t ∧ LeadsOwn t ∧ Stranded t f channel :=
    fun _ _ _ h step => ⟨inOrder_poll h.1 step, leadsOwn_poll h.2.1 step,
      stranded_poll h.2.2 h.1 h.2.1 step⟩
  obtain ⟨_, _, left⟩ :=
    after.invariant ⟨inOrder_poll order edge, leadsOwn_poll own edge, stranded⟩ keeps
  exact ⟨_, left.watching, by simp [Pc.need, Store.ready, left.silent]⟩

end Polykit.Auth.Machine
