/- Module: Polykit/Auth/Deadlock
   generality: I
   source: crates/polybase/src/auth.rs
   digest: When followers, leaders and sign-outs can lock each other out, and when they cannot. -/

import Polykit.Auth.Locks
import Polykit.Lib.Runs

set_option autoImplicit false
set_option relaxedAutoImplicit false

namespace Polykit.Auth.Machine

open Errors Lib.Runs Lib.Waiting

def Waits (s : Store) (id : Nat) : Prop :=
  ∃ pc, s.tasks id = some pc ∧ s.ready pc.need = false

/-- `u` holds the guard that `t` needs, or leads the refresh whose result it needs. -/
def Frees (s : Store) (u t : Nat) : Prop :=
  ∃ pc, s.tasks t = some pc ∧
    match pc.need with
    | .lock lock => s.guards lock = some u
    | .value channel => ∃ leading lead, s.tasks u = some leading ∧ leading.lead = some lead ∧
        lead.channel = channel
    | .nothing => False

theorem resume_isSome {decode : RefreshDecoder} {s : Store} {id : Nat} {env : Env} {pc : Pc}
    (ready : s.ready pc.need = true) (running : ∀ returned, pc ≠ .done returned) :
    (resume decode s id env pc).isSome = true := by
  cases pc with
  | watching channel =>
    obtain ⟨outcome, found⟩ := Option.isSome_iff_exists.mp ready
    simp [resume, found]
  | done returned => exact absurd rfl (running returned)
  | _ =>
    simp only [resume]
    repeat' split
    all_goals rfl

theorem waits_iff {decode : RefreshDecoder} {s : Store} {id : Nat} {pc : Pc} (env : Env)
    (task : s.tasks id = some pc) (running : ∀ returned, pc ≠ .done returned) :
    Waits s id ↔ poll decode s (.advance id env) = none := by
  cases ready : s.ready pc.need with
  | true =>
    have goes : (resume decode s id env pc).isSome = true := resume_isSome ready running
    simp [Waits, poll, task, ready, Option.isSome_iff_ne_none.mp goes]
  | false => simp [Waits, poll, task, ready]

/-- The channel a call publishes on unless it has to sign out first. -/
def Pc.heading : Pc → Option Nat
  | .clearLock _ | .clearRead _ | .clearWrite _ _ | .clearState _ _ | .clearSlot _ _ => none
  | pc => pc.lead.map Lead.channel

theorem lead_of_heading {pc : Pc} {channel : Nat} (h : pc.heading = some channel) :
    ∃ lead, pc.lead = some lead ∧ lead.channel = channel := by
  unfold Pc.heading at h
  split at h
  all_goals first
    | cases h
    | exact Option.map_eq_some_iff.mp h

theorem away_of_none {pc : Pc} {channel : Nat} (away : pc.heading = none) :
    pc.heading ≠ some channel := by
  rw [away]
  exact (Option.some_ne_none channel).symm

theorem heads_of_none {pc next : Pc} {channel : Nat} (away : pc.heading = none)
    (heads : pc.heading = some channel) : next.heading = some channel :=
  absurd heads (away_of_none away)

theorem clears_of_false {pc next : Pc} (quiet : next.clearing = false)
    (signs : next.clearing = true) : pc.clearing = true := by
  rw [quiet] at signs
  cases signs

def Pc.entering : Pc → Bool
  | .setLock _ _ => true
  | _ => false

/-- Some `clear_session` is under the mutation lock. -/
def Store.clearing (s : Store) : Bool :=
  match s.guards .mutation with
  | some m => (s.tasks m).any Pc.clearing
  | none => false

def Store.leaderOf (s : Store) (channel : Nat) : Option Pc :=
  s.channels[channel]?.bind (fun c => s.tasks c.leader)

/-- The leader of the channel gets to publish on it while the slot stays taken. -/
def Store.willPublish (s : Store) (channel : Nat) : Bool :=
  (s.leaderOf channel).any (fun pc =>
    pc.heading == some channel && !(pc.entering && s.clearing))

/-- The channel whose value the follower on the slot still awaits. -/
def Store.awaited (s : Store) : Option Nat :=
  ((s.guards .refreshInFlight).bind (fun f => (s.tasks f).bind Pc.watched)).filter
    (fun channel => (s.published channel).isNone)

/-- A follower parks only if its leader gets to publish. With a follower parked, the leader's
reply is no permanent failure, nor a success while a `clear_session` is under the mutation lock,
and no `clear_session` overtakes the leader on its way to that lock. -/
def calm (decode : RefreshDecoder) (s : Store) : Label → Bool
  | .call _ _ => true
  | .advance id env =>
      match s.tasks id with
      | some (.inFlightCheck _) =>
          s.refreshInFlight.all (fun channel =>
            (s.published channel).isSome || s.willPublish channel)
      | some (.request lead) =>
          s.awaited != some lead.channel ||
            match refreshPayload decode env.unixNow lead.current env.reply with
            | .ok _ => !s.clearing
            | .error error => !isPermanentRefreshFailure error.display
      | some (.clearLock _) =>
          s.awaited.all (fun channel => !(s.leaderOf channel).any Pc.entering)
      | _ => true

def Open (s : Store) : Prop :=
  ∀ channel, s.awaited = some channel → s.willPublish channel = true

theorem clearing_iff {s : Store} (h : InOrder none s) :
    s.clearing = true ↔ ∃ m pc, s.tasks m = some pc ∧ pc.clearing = true := by
  constructor
  · intro clearing
    unfold Store.clearing at clearing
    split at clearing
    · rename_i m held
      obtain ⟨pc, found, clears⟩ := (Option.any_eq_true _ _).mp clearing
      exact ⟨m, pc, found, clears⟩
    · cases clearing
  · rintro ⟨m, pc, found, clears⟩
    have held := h.holder m pc nofun found (by simp [Pc.mutating, clears])
    simp [Store.clearing, held, found, clears]

theorem awaited_iff {s : Store} (h : InOrder none s) {channel : Nat} :
    s.awaited = some channel ↔
      (∃ f, s.tasks f = some (.watching channel)) ∧ s.published channel = none := by
  constructor
  · intro awaited
    simp only [Store.awaited, Option.filter_eq_some_iff, Option.bind_eq_some_iff,
      Option.isNone_iff_eq_none] at awaited
    obtain ⟨⟨f, _, pc, found, watched⟩, silent⟩ := awaited
    exact ⟨⟨f, watched_eq_some.mp watched ▸ found⟩, silent⟩
  · rintro ⟨⟨f, watching⟩, silent⟩
    have held := (h.watcher f channel nofun watching).1
    simp [Store.awaited, held, watching, Pc.watched, silent]

theorem ChannelsKept.silent {s t : Store} (kept : ChannelsKept s t) {channel : Nat}
    (silent : t.published channel = none) : s.published channel = none := by
  cases found : s.channels[channel]? with
  | none => simp [Store.published, found]
  | some c =>
    obtain ⟨c', found', _, value⟩ := kept channel c found
    simp only [Store.published, found', Option.bind_some] at silent
    simpa [Store.published, found] using value silent

theorem ChannelsKept.leaderOf {s t : Store} (kept : ChannelsKept s t) {channel : Nat} {pc : Pc}
    (leader : s.leaderOf channel = some pc) :
    ∃ l, s.tasks l = some pc ∧ t.leaderOf channel = t.tasks l := by
  obtain ⟨c, found, task⟩ := Option.bind_eq_some_iff.mp leader
  obtain ⟨c', found', same, _⟩ := kept channel c found
  exact ⟨c.leader, task, by simp [Store.leaderOf, found', same]⟩

theorem awaited_of_step {s t : Store} {id channel : Nat} {next : Pc} (h : InOrder none s)
    (ht : InOrder none t) (tasks : t.tasks = Function.update s.tasks id (some next))
    (kept : ChannelsKept s t) (unparked : next.watched = none)
    (awaited : t.awaited = some channel) : s.awaited = some channel := by
  obtain ⟨⟨f, watching⟩, silent⟩ := (awaited_iff ht).mp awaited
  have other : f ≠ id := by
    rintro rfl
    rw [tasks, Function.update_self, Option.some.injEq] at watching
    rw [watching] at unparked
    cases unparked
  rw [tasks, Function.update_of_ne other] at watching
  exact (awaited_iff h).mpr ⟨⟨f, watching⟩, kept.silent silent⟩

theorem clearing_of_step {s t : Store} {id : Nat} {next : Pc} (h : InOrder none s)
    (ht : InOrder none t) (tasks : t.tasks = Function.update s.tasks id (some next))
    (clears : t.clearing = true) : s.clearing = true ∨ next.clearing = true := by
  obtain ⟨m, pc, found, signs⟩ := (clearing_iff ht).mp clears
  rcases update_some_cases (tasks ▸ found) with ⟨rfl, rfl⟩ | ⟨_, found⟩
  · exact .inr signs
  · exact .inl ((clearing_iff h).mpr ⟨m, pc, found, signs⟩)

theorem willPublish_iff {s : Store} {channel : Nat} {pc : Pc}
    (leader : s.leaderOf channel = some pc) :
    s.willPublish channel = true ↔
      pc.heading = some channel ∧ (pc.entering = true → s.clearing = false) := by
  simp only [Store.willPublish, leader, Option.any_some, Bool.and_eq_true, beq_iff_eq,
    Bool.not_eq_true', Bool.and_eq_false_imp]

/-- What keeps a leader on its way: its own step does, and nobody starts to sign out while it
stands before the mutation lock. -/
theorem willPublish_step {s t : Store} {id channel : Nat} {pc next : Pc} (h : InOrder none s)
    (ht : InOrder none t) (task : s.tasks id = some pc)
    (tasks : t.tasks = Function.update s.tasks id (some next)) (kept : ChannelsKept s t)
    (before : s.willPublish channel = true)
    (heading : pc.heading = some channel →
      next.heading = some channel ∧ (next.entering = true → s.clearing = false))
    (clearing : next.clearing = true →
      pc.clearing = true ∨ (s.leaderOf channel).any Pc.entering = false) :
    t.willPublish channel = true := by
  obtain ⟨lpc, leader, _⟩ := (Option.any_eq_true _ _).mp before
  obtain ⟨heads, clear⟩ := (willPublish_iff leader).mp before
  obtain ⟨l, found, after⟩ := kept.leaderOf leader
  by_cases same : l = id
  · subst same
    rw [task, Option.some.injEq] at found
    subst found
    obtain ⟨headsOn, quiet⟩ := heading heads
    rw [tasks, Function.update_self] at after
    refine (willPublish_iff after).mpr ⟨headsOn, fun enters => ?_⟩
    by_contra clears
    rw [Bool.not_eq_false] at clears
    rcases clearing_of_step h ht tasks clears with already | signs
    · rw [quiet enters] at already
      cases already
    · cases next <;> simp [Pc.entering, Pc.clearing] at enters signs
  · rw [tasks, Function.update_of_ne same, found] at after
    refine (willPublish_iff after).mpr ⟨heads, fun enters => ?_⟩
    by_contra clears
    rw [Bool.not_eq_false] at clears
    have signing : s.clearing = true := by
      rcases clearing_of_step h ht tasks clears with already | signs
      · exact already
      · rcases clearing signs with already | notEntering
        · exact (clearing_iff h).mpr ⟨id, pc, task, already⟩
        · simp [leader, enters] at notEntering
    rw [clear enters] at signing
    cases signing

theorem Open.step {s t : Store} {id : Nat} {pc next : Pc} (o : Open s) (h : InOrder none s)
    (ht : InOrder none t) (task : s.tasks id = some pc)
    (tasks : t.tasks = Function.update s.tasks id (some next)) (kept : ChannelsKept s t)
    (unparked : next.watched = none)
    (heading : ∀ channel, t.awaited = some channel → pc.heading = some channel →
      next.heading = some channel ∧ (next.entering = true → s.clearing = false))
    (clearing : next.clearing = true → pc.clearing = true ∨ ∀ channel, s.awaited = some channel →
      (s.leaderOf channel).any Pc.entering = false) : Open t := by
  intro channel awaited
  have before := awaited_of_step h ht tasks kept unparked awaited
  exact willPublish_step h ht task tasks kept (o channel before) (heading channel awaited)
    (fun signs => (clearing signs).imp_right (fun quiet => quiet channel before))

theorem open_park {s : Store} {id channel : Nat} {pc : Pc} (h : InOrder none s)
    (ht : InOrder none (((s.acquire .refreshInFlight id).subscribe channel).go id
      (.watching channel)))
    (task : s.tasks id = some pc) (idle : pc.heading = none)
    (quiet : (s.published channel).isSome = true ∨ s.willPublish channel = true) :
    Open (((s.acquire .refreshInFlight id).subscribe channel).go id (.watching channel)) := by
  have kept : ChannelsKept s
      (((s.acquire .refreshInFlight id).subscribe channel).go id (.watching channel)) :=
    channelsKept_modifyChannel (fun _ => rfl) (fun _ silent => silent)
  intro other awaited
  obtain ⟨⟨f, watching⟩, silent⟩ := (awaited_iff ht).mp awaited
  have mine : f = id := by
    have held := (ht.watcher f other (Option.some_ne_none f).symm watching).1
    simpa [Store.subscribe, eq_comm] using held
  subst mine
  simp only [Store.go_tasks, Function.update_self, Option.some.injEq, Pc.watching.injEq]
    at watching
  subst watching
  rcases quiet with told | willPublish
  · rw [kept.silent silent] at told
    cases told
  · exact willPublish_step h ht task rfl kept willPublish (fun heads => by simp [idle] at heads)
      (fun signs => .inl (clears_of_false rfl signs))

theorem Open.publish {s u : Store} {id : Nat} {pc : Pc} {lead : Lead} {result : RefreshResult}
    (o : Open s) (h : InOrder none s) (ht : InOrder none (u.publish id lead result))
    (task : s.tasks id = some pc) (tasks : u.tasks = s.tasks) (channels : u.channels = s.channels)
    (own : ∀ channel, pc.heading = some channel → channel = lead.channel) :
    Open (u.publish id lead result) := by
  have updated : (u.publish id lead result).tasks =
      Function.update s.tasks id (some (.release result)) := by
    rw [← tasks]
    rfl
  have kept : ChannelsKept s (u.publish id lead result) := channelsKept_publish lead result channels
  refine o.step h ht task updated kept rfl (fun channel awaited heads => ?_)
    (fun signs => .inl (clears_of_false rfl signs))
  obtain rfl := own channel heads
  have before := awaited_of_step h ht updated kept rfl awaited
  obtain ⟨⟨f, watching⟩, _⟩ := (awaited_iff h).mp before
  obtain ⟨c, found, positive⟩ := (h.watcher f lead.channel nofun watching).2
  have heard : (u.publish id lead result).published lead.channel =
      some (waitResult result) := by
    simp [Store.publish, Store.published, channels, found, Channel.send,
      Nat.pos_iff_ne_zero.mp positive]
  rw [((awaited_iff ht).mp awaited).2] at heard
  cases heard

/-- Most stretches leave the heading alone and enter no guarded region. -/
theorem Open.plain {s t : Store} {id : Nat} {pc next : Pc} (o : Open s) (h : InOrder none s)
    (ht : InOrder none t) (task : s.tasks id = some pc)
    (tasks : t.tasks = Function.update s.tasks id (some next)) (kept : ChannelsKept s t)
    (unparked : next.watched = none)
    (heading : ∀ channel, pc.heading = some channel → next.heading = some channel)
    (notEntering : next.entering = false)
    (clearing : next.clearing = true → pc.clearing = true) : Open t := by
  refine o.step h ht task tasks kept unparked (fun channel _ heads => ⟨heading channel heads, ?_⟩)
    (fun signs => .inl (clearing signs))
  intro enters
  rw [notEntering] at enters
  cases enters

theorem Open.idle {s t : Store} {id : Nat} {pc next : Pc} (o : Open s) (h : InOrder none s)
    (ht : InOrder none t) (task : s.tasks id = some pc)
    (tasks : t.tasks = Function.update s.tasks id (some next)) (kept : ChannelsKept s t)
    (unparked : next.watched = none) (away : pc.heading = none)
    (notEntering : next.entering = false) (notClearing : next.clearing = false) : Open t :=
  o.plain h ht task tasks kept unparked (fun _ => heads_of_none away) notEntering
    (clears_of_false notClearing)

section Stages

variable {decode : RefreshDecoder} {s t : Store} {id : Nat} {env : Env} (o : Open s)
  (h : InOrder none s) (ht : InOrder none t)

include o h ht

theorem open_inFlightCheck {query : Query} (task : s.tasks id = some (.inFlightCheck query))
    (quiet : calm decode s (.advance id env) = true)
    (edge : resume decode s id env (.inFlightCheck query) = some t) : Open t := by
  simp only [calm, task] at quiet
  simp only [resume] at edge
  split at edge
  · rename_i channel current
    cases edge
    refine open_park h ht task rfl ?_
    simpa [current] using quiet
  · cases edge
    exact o.idle h ht task rfl (.refl rfl) rfl rfl rfl rfl

theorem open_claim {query : Query} {current : SessionPayload} {signIn : Nat}
    (task : s.tasks id = some (.claim query current signIn))
    (edge : resume decode s id env (.claim query current signIn) = some t) : Open t := by
  simp only [resume] at edge
  split at edge
  · cases edge
    exact o.idle h ht task rfl (.refl rfl) rfl rfl rfl rfl
  · cases edge
    exact o.idle h ht task rfl channelsKept_openChannel rfl rfl rfl rfl

theorem open_request {lead : Lead} (task : s.tasks id = some (.request lead))
    (quiet : calm decode s (.advance id env) = true)
    (edge : resume decode s id env (.request lead) = some t) : Open t := by
  simp only [calm, task] at quiet
  simp only [resume] at edge
  split at edge
  · rename_i payload accepted
    cases edge
    refine o.step h ht task rfl (.refl rfl) rfl (fun channel awaited heads => ?_)
      (fun signs => .inl (clears_of_false rfl signs))
    have own : lead.channel = channel := by simpa [Pc.heading, Pc.lead] using heads
    have before := awaited_of_step h ht rfl (.refl rfl) rfl awaited
    have silent : s.clearing = false := by simpa [own, before, accepted] using quiet
    exact ⟨heads, fun _ => silent⟩
  · rename_i error rejected
    split at edge
    · rename_i permanent
      cases edge
      refine o.step h ht task rfl (.refl rfl) rfl (fun channel awaited heads => ?_)
        (fun signs => .inl (clears_of_false rfl signs))
      have own : lead.channel = channel := by simpa [Pc.heading, Pc.lead] using heads
      have before := awaited_of_step h ht rfl (.refl rfl) rfl awaited
      have transient : isPermanentRefreshFailure error.display = false := by
        simpa [own, before, rejected] using quiet
      rw [permanent] at transient
      cases transient
    · cases edge
      exact o.plain h ht task rfl (.refl rfl) rfl (fun _ heads => heads) rfl (clears_of_false rfl)

theorem open_setRead {payload : SessionPayload} {origin : Origin}
    (task : s.tasks id = some (.setRead payload origin))
    (edge : resume decode s id env (.setRead payload origin) = some t) : Open t := by
  simp only [resume] at edge
  split at edge
  · cases edge
    cases origin with
    | caller another => exact o.idle h ht task rfl (.refl rfl) rfl rfl rfl rfl
    | refresh lead =>
      exact o.plain h ht task rfl (.refl rfl) rfl (fun _ heads => heads) rfl (clears_of_false rfl)
  · cases edge
    exact o.plain h ht task rfl (.refl rfl) rfl (fun _ heads => heads) rfl (clears_of_false rfl)

end Stages

theorem open_resume {decode : RefreshDecoder} {s t : Store} {id : Nat} {env : Env} {pc : Pc}
    (o : Open s) (h : InOrder none s) (ht : InOrder none t) (task : s.tasks id = some pc)
    (quiet : calm decode s (.advance id env) = true)
    (edge : resume decode s id env pc = some t) : Open t := by
  cases pc with
  | inFlightCheck query => exact open_inFlightCheck o h ht task quiet edge
  | watching channel =>
    simp only [resume] at edge
    obtain ⟨outcome, _, rfl⟩ := Option.map_eq_some_iff.mp edge
    refine o.idle h ht task rfl ?_ rfl rfl rfl rfl
    exact channelsKept_modifyChannel (fun _ => rfl) (fun _ silent => silent)
  | sessionRead query | sessionReread query =>
    simp only [resume, Store.unlessFresh] at edge
    split at edge
    · cases edge
      exact o.idle h ht task rfl (.refl rfl) rfl rfl rfl rfl
    · split at edge <;> cases edge <;> exact o.idle h ht task rfl (.refl rfl) rfl rfl rfl rfl
  | cooldownCheck query =>
    simp only [resume] at edge
    split at edge <;> cases edge <;> exact o.idle h ht task rfl (.refl rfl) rfl rfl rfl rfl
  | claim query current signIn => exact open_claim o h ht task edge
  | request lead => exact open_request o h ht task quiet edge
  | setRead payload origin => exact open_setRead o h ht task edge
  | setWrite payload updatedAt kind origin =>
    cases edge
    cases origin with
    | caller another => exact o.idle h ht task rfl (.refl rfl) rfl rfl rfl rfl
    | refresh lead =>
      exact o.plain h ht task rfl (.refl rfl) rfl (fun _ heads => heads) rfl (clears_of_false rfl)
  | setLock payload origin | noteSuccess payload kind lead =>
    cases edge
    exact o.plain h ht task rfl (.refl rfl) rfl (fun _ heads => heads) rfl (clears_of_false rfl)
  | readBack payload kind lead | noteFailure error lead =>
    cases edge
    exact o.publish h ht task rfl rfl (fun channel heads => (Option.some.inj heads).symm)
  | clearLock cause =>
    simp only [calm, task] at quiet
    cases edge
    refine o.step h ht task rfl (.refl rfl) rfl
      (fun _ _ heads => absurd heads (away_of_none rfl)) (fun _ => .inr (fun channel awaited => ?_))
    simpa [awaited] using quiet
  | clearRead cause | clearWrite hadSession cause | clearState hadSession cause =>
    cases edge
    exact o.plain h ht task rfl (.refl rfl) rfl (fun _ => heads_of_none rfl) rfl (fun _ => rfl)
  | clearSlot hadSession cause =>
    cases edge
    cases cause with
    | none => exact o.idle h ht task rfl (.refl rfl) rfl rfl rfl rfl
    | some cause =>
      exact o.publish h ht task rfl rfl (fun _ heads => absurd heads (away_of_none rfl))
  | release result =>
    cases edge
    exact o.idle h ht task rfl (.refl rfl) rfl rfl rfl rfl
  | done returned => cases edge

theorem open_call {s : Store} {id : Nat} {call : Call} (o : Open s) (h : InOrder none s)
    (ht : InOrder none (s.go id call.start)) (absent : s.tasks id = none) :
    Open (s.go id call.start) := by
  intro channel awaited
  have unparked : call.start.watched = none := by cases call <;> rfl
  have before := o channel (awaited_of_step h ht rfl (.refl rfl) unparked awaited)
  obtain ⟨lpc, leader, _⟩ := (Option.any_eq_true _ _).mp before
  obtain ⟨heads, clear⟩ := (willPublish_iff leader).mp before
  have kept : ChannelsKept s (s.go id call.start) := .refl rfl
  obtain ⟨l, found, after⟩ := kept.leaderOf leader
  have other : l ≠ id := by
    rintro rfl
    rw [absent] at found
    cases found
  rw [Store.go_tasks, Function.update_of_ne other, found] at after
  refine (willPublish_iff after).mpr ⟨heads, fun enters => ?_⟩
  by_contra clears
  rw [Bool.not_eq_false] at clears
  rcases clearing_of_step h ht rfl clears with already | signs
  · rw [clear enters] at already
    cases already
  · cases call <;> cases signs

theorem open_poll {decode : RefreshDecoder} {s t : Store} {label : Label} (o : Open s)
    (h : InOrder none s) (quiet : calm decode s label = true)
    (edge : poll decode s label = some t) : Open t := by
  have ht := inOrder_poll h edge
  cases poll_cases edge with
  | begins id call absent =>
    exact open_call o h ht absent
  | resumes id env pc task ready edge =>
    exact open_resume o h ht task quiet edge

def rank (s : Store) (id : Nat) : Nat :=
  match (s.tasks id).map Pc.need with
  | some (.lock .mutation) => if s.clearing then 4 else 1
  | some (.lock .refreshInFlight) => 3
  | some (.value _) => 2
  | _ => 0

theorem need_of_waits {s : Store} (h : InOrder none s) {id : Nat} {pc : Pc}
    (task : s.tasks id = some pc) (waits : Waits s id) :
    pc.need = .lock .mutation ∨ pc.need = .lock .refreshInFlight ∨
      ∃ channel, pc.need = .value channel ∧ s.published channel = none := by
  obtain ⟨own, found, blocked⟩ := waits
  rw [task, Option.some.injEq] at found
  subst found
  cases need : pc.need with
  | lock lock =>
    rw [need] at blocked
    cases lock with
    | refreshInFlight => exact .inr (.inl rfl)
    | mutation => exact .inl rfl
    | session => simp [Store.ready, h.session] at blocked
    | refreshState => simp [Store.ready, h.refreshState] at blocked
  | value channel =>
    rw [need] at blocked
    exact .inr (.inr ⟨channel, rfl, by simpa [Store.ready] using blocked⟩)
  | nothing =>
    rw [need] at blocked
    cases blocked

theorem rank_slot {s : Store} (h : InOrder none s) {u : Nat}
    (held : s.guards .refreshInFlight = some u) : rank s u = 2 := by
  obtain ⟨channel, watching⟩ := h.slot u nofun held
  simp [rank, watching, Pc.need]

theorem rank_mutation {s : Store} (h : InOrder none s) {u : Nat}
    (held : s.guards .mutation = some u) (waits : Waits s u) :
    s.clearing = true ∧ rank s u = 3 := by
  obtain ⟨pc, found, mutating⟩ := h.mutation u nofun held
  have need := need_of_waits h found waits
  cases pc with
  | clearSlot hadSession cause =>
    exact ⟨(clearing_iff h).mpr ⟨u, _, found, rfl⟩, by simp [rank, found, Pc.need]⟩
  | setRead _ _ | setWrite _ _ _ _ | clearRead _ | clearWrite _ _ | clearState _ _ =>
    simp [Pc.need] at need
  | _ => cases mutating

theorem rank_leader {s : Store} (h : InOrder none s) {u channel : Nat} {pc : Pc}
    (found : s.tasks u = some pc) (heads : pc.heading = some channel)
    (clear : pc.entering = true → s.clearing = false) (waits : Waits s u) : rank s u < 2 := by
  have need := need_of_waits h found waits
  cases pc with
  | setLock payload origin => simp [rank, found, Pc.need, clear rfl]
  | request _ | setRead _ _ | setWrite _ _ _ _ | noteSuccess _ _ _ | readBack _ _ _
  | noteFailure _ _ => simp [Pc.need] at need
  | _ => cases heads

theorem rank_descends {s : Store} (h : InOrder none s) (o : Open s) (t : Nat) (waits : Waits s t) :
    ∃ u, Frees s u t ∧ (Waits s u → rank s u < rank s t) := by
  obtain ⟨pc, task, blocked⟩ := id waits
  rcases need_of_waits h task waits with need | need | ⟨channel, need, silent⟩
  · rw [need] at blocked
    obtain ⟨u, held⟩ := Option.isSome_iff_exists.mp (Option.isNone_eq_false_iff.mp blocked)
    refine ⟨u, ⟨pc, task, by rw [need]; exact held⟩, fun waiting => ?_⟩
    obtain ⟨clears, three⟩ := rank_mutation h held waiting
    have four : rank s t = 4 := by simp [rank, task, need, clears]
    omega
  · rw [need] at blocked
    obtain ⟨u, held⟩ := Option.isSome_iff_exists.mp (Option.isNone_eq_false_iff.mp blocked)
    refine ⟨u, ⟨pc, task, by rw [need]; exact held⟩, fun _ => ?_⟩
    have two := rank_slot h held
    have three : rank s t = 3 := by simp [rank, task, need]
    omega
  · have watching : pc = .watching channel := by
      cases pc <;> simp [Pc.need] at need
      rw [need]
    subst watching
    have willPublish := o channel ((awaited_iff h).mpr ⟨⟨t, task⟩, silent⟩)
    obtain ⟨lpc, leader, _⟩ := (Option.any_eq_true _ _).mp willPublish
    obtain ⟨heads, clear⟩ := (willPublish_iff leader).mp willPublish
    obtain ⟨c, _, found⟩ := Option.bind_eq_some_iff.mp leader
    obtain ⟨lead, leads, same⟩ := lead_of_heading heads
    refine ⟨c.leader, ⟨_, task, lpc, lead, found, leads, same⟩, fun waiting => ?_⟩
    simpa [rank, task, Pc.need] using rank_leader h found heads clear waiting

structure Calm (s : Store) : Prop where
  inOrder : InOrder none s
  isOpen : Open s

theorem calm_of_run {decode : RefreshDecoder} {s : Store} {labels : List Label}
    (run : Run (Guarded (fun s label => calm decode s label = true) (Steps (poll decode)))
      {} labels s) : Calm s := by
  have initial : Calm {} := ⟨inOrder_initial, fun _ awaited => by cases awaited⟩
  have keeps : ∀ s label t, Calm s →
      Guarded (fun s label => calm decode s label = true) (Steps (poll decode)) s label t →
        Calm t := fun _ _ _ h edge =>
    ⟨inOrder_poll h.inOrder edge.1, open_poll h.isOpen h.inOrder edge.2 edge.1⟩
  exact run.invariant initial keeps

/-- In a calm run no calls ever lock themselves out. -/
theorem run_not_deadlocked {decode : RefreshDecoder} {s : Store} {labels : List Label}
    (run : Run (Guarded (fun s label => calm decode s label = true) (Steps (poll decode)))
      {} labels s) (calls : Set Nat) : ¬ Deadlocked (Waits s) (Frees s) calls := by
  obtain ⟨order, isOpen⟩ := calm_of_run run
  exact not_deadlocked_of_rank (rank s) (rank_descends order isOpen) calls

/-- Call 2 follows the refresh of call 1. The refresh token turns out to be spent, and call 1
signs out under the eyes of its follower. -/
def lockedOut : List Label :=
  advances 1 4 turnedDown ++ advances 1 1 turnedDown ++ advances 2 1 renewed ++
    [.call 2 (ensureFresh 60)] ++ startsRefresh 1 ++ signsIn 0 "alice"

theorem deadlocked_lockedOut :
    ∃ s, Run (Steps (poll sampleDecode)) {} lockedOut s ∧
      Deadlocked (Waits s) (Frees s) {1, 2} := by
  have computed : ((execute (poll sampleDecode) {} lockedOut).map (fun s =>
      ((s.tasks 1).map Pc.need, (s.tasks 2).map Pc.need, s.guards .refreshInFlight,
        (s.published 0).isSome, s.channels[0]?.map Channel.leader))) =
      some (some (.lock .refreshInFlight), some (.value 0), some 2, false, some 1) := by decide
  obtain ⟨s, ran, facts⟩ := Option.map_eq_some_iff.mp computed
  have run := run_of_execute ran
  simp only [Prod.mk.injEq, Option.map_eq_some_iff] at facts
  obtain ⟨⟨first, task1, need1⟩, ⟨second, task2, need2⟩, slot, silent, c, channel, leader⟩ := facts
  refine ⟨s, run, ⟨⟨1, by simp⟩, ?_, ?_⟩⟩
  · rintro t (rfl | rfl)
    · exact ⟨first, task1, by simp [need1, Store.ready, slot]⟩
    · exact ⟨second, task2, by simp [need2, Store.ready, silent]⟩
  · rintro t (rfl | rfl) u ⟨pc, task, frees⟩
    · rw [task1, Option.some.injEq] at task
      subst task
      simp only [need1, slot, Option.some.injEq] at frees
      simp [← frees]
    · rw [task2, Option.some.injEq] at task
      subst task
      simp only [need2] at frees
      obtain ⟨leading, lead, found, leads, same⟩ := frees
      obtain ⟨c', channel', own⟩ := run_leadsOwn run u leading lead found leads
      rw [same, channel, Option.some.injEq] at channel'
      rw [← channel', leader] at own
      simp [← own]

/-- The same calls, but the refresh succeeds. -/
theorem run_not_deadlocked_renewed :
    ∃ s, Run (Steps (poll sampleDecode)) {} (advances 2 1 renewed ++ advances 1 6 renewed ++
        advances 2 1 renewed ++ [.call 2 (ensureFresh 60)] ++ startsRefresh 1 ++
          signsIn 0 "alice") s ∧
      s.session.map SessionPayload.accessToken = some "new" ∧
      ∀ calls : Set Nat, ¬ Deadlocked (Waits s) (Frees s) calls := by
  have computed : (execute (restrict (calm sampleDecode) (poll sampleDecode)) {}
      (advances 2 1 renewed ++ advances 1 6 renewed ++ advances 2 1 renewed ++
        [.call 2 (ensureFresh 60)] ++ startsRefresh 1 ++ signsIn 0 "alice")).map
          (fun s => s.session.map SessionPayload.accessToken) = some (some "new") := by decide
  obtain ⟨s, ran, token⟩ := Option.map_eq_some_iff.mp computed
  have guarded := guarded_of_execute ran
  exact ⟨s, guarded.mono (fun _ _ _ edge => edge.1), token, run_not_deadlocked guarded⟩

end Polykit.Auth.Machine
