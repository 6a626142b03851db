/- Module: Polykit/Auth/Locks
   generality: I
   source: crates/polybase/src/auth.rs
   digest: Who holds which guard of the session store, in every state that can be reached. -/

import Polykit.Auth.Machine

set_option autoImplicit false
set_option relaxedAutoImplicit false

namespace Polykit.Auth.Machine

open Errors Lib.Runs

/-- The stages of `clear_session` under the mutation lock, up to the slot. -/
def Pc.clearing : Pc → Bool
  | .clearRead _ | .clearWrite _ _ | .clearState _ _ | .clearSlot _ _ => true
  | _ => false

def Pc.setting : Pc → Bool
  | .setRead _ _ | .setWrite _ _ _ _ => true
  | _ => false

def Pc.mutating (pc : Pc) : Bool := pc.clearing || pc.setting

def Pc.watched : Pc → Option Nat
  | .watching channel => some channel
  | _ => none

def Store.hasReceiver (s : Store) (channel : Nat) : Prop :=
  ∃ c, s.channels[channel]? = some c ∧ 0 < c.receivers

/-- A follower that waits holds the slot, a mutation holds its lock, and no other guard is held
between two steps. The call `but` is in the middle of one and is left out. -/
structure InOrder (but : Option Nat) (s : Store) : Prop where
  session : s.guards .session = none
  refreshState : s.guards .refreshState = none
  slot : ∀ f, but ≠ some f → s.guards .refreshInFlight = some f →
    ∃ channel, s.tasks f = some (.watching channel)
  watcher : ∀ f channel, but ≠ some f → s.tasks f = some (.watching channel) →
    s.guards .refreshInFlight = some f ∧ s.hasReceiver channel
  mutation : ∀ m, but ≠ some m → s.guards .mutation = some m →
    ∃ pc, s.tasks m = some pc ∧ pc.mutating = true
  holder : ∀ m pc, but ≠ some m → s.tasks m = some pc → pc.mutating = true →
    s.guards .mutation = some m
  range : ∀ channel, s.refreshInFlight = some channel → channel < s.channels.length

/-- The guards that a call at `pc` holds are the ones it should. -/
structure Settled (s : Store) (id : Nat) (pc : Pc) : Prop where
  slot : s.guards .refreshInFlight = some id ↔ pc.watched.isSome = true
  receiver : ∀ channel, pc.watched = some channel → s.hasReceiver channel
  mutation : s.guards .mutation = some id ↔ pc.mutating = true

theorem watched_eq_some {pc : Pc} {channel : Nat} :
    pc.watched = some channel ↔ pc = .watching channel := by
  cases pc <;> simp [Pc.watched]

theorem InOrder.but {s : Store} (h : InOrder none s) (id : Nat) : InOrder (some id) s where
  session := h.session
  refreshState := h.refreshState
  slot f _ := h.slot f nofun
  watcher f channel _ := h.watcher f channel nofun
  mutation m _ := h.mutation m nofun
  holder m pc _ := h.holder m pc nofun
  range := h.range

theorem InOrder.settled {s : Store} (h : InOrder none s) {id : Nat} {pc : Pc}
    (task : s.tasks id = some pc) : Settled s id pc where
  slot := by
    constructor
    · intro held
      obtain ⟨channel, watching⟩ := h.slot id nofun held
      rw [task, Option.some.injEq] at watching
      rw [watching]
      rfl
    · intro watching
      obtain ⟨channel, watched⟩ := Option.isSome_iff_exists.mp watching
      rw [watched_eq_some.mp watched] at task
      exact (h.watcher id channel nofun task).1
  receiver channel watched := by
    rw [watched_eq_some.mp watched] at task
    exact (h.watcher id channel nofun task).2
  mutation := by
    constructor
    · intro held
      obtain ⟨other, found, mutating⟩ := h.mutation id nofun held
      rw [task, Option.some.injEq] at found
      rw [found]
      exact mutating
    · exact h.holder id pc nofun task

theorem Settled.slot_ne {s : Store} {id : Nat} {pc : Pc} (own : Settled s id pc)
    (active : pc.watched = none) : s.guards .refreshInFlight ≠ some id := by
  intro held
  simpa [active] using own.slot.mp held

theorem Settled.mutation_ne {s : Store} {id : Nat} {pc : Pc} (own : Settled s id pc)
    (idle : pc.mutating = false) : s.guards .mutation ≠ some id := by
  intro held
  simpa [idle] using own.mutation.mp held

theorem InOrder.go {s : Store} {id : Nat} {pc : Pc} (h : InOrder (some id) s)
    (own : Settled s id pc) : InOrder none (s.go id pc) where
  session := h.session
  refreshState := h.refreshState
  slot f _ held := by
    by_cases same : f = id
    · subst same
      obtain ⟨channel, watched⟩ := Option.isSome_iff_exists.mp (own.slot.mp held)
      exact ⟨channel, by simp [watched_eq_some.mp watched]⟩
    · simpa [same] using h.slot f (by simpa using Ne.symm same) held
  watcher f channel _ watching := by
    rcases update_some_cases watching with ⟨rfl, here⟩ | ⟨same, watching⟩
    · have watched := watched_eq_some.mpr here
      exact ⟨own.slot.mpr (by rw [watched]; rfl), own.receiver channel watched⟩
    · exact h.watcher f channel (by simpa using Ne.symm same) watching
  mutation m _ held := by
    by_cases same : m = id
    · subst same
      exact ⟨pc, by simp, own.mutation.mp held⟩
    · simpa [same] using h.mutation m (by simpa using Ne.symm same) held
  holder m other _ found mutating := by
    rcases update_some_cases found with ⟨rfl, rfl⟩ | ⟨same, found⟩
    · exact own.mutation.mpr mutating
    · exact h.holder m other (by simpa using Ne.symm same) found mutating
  range := h.range

/-! The operations of a step, seen by the other calls. -/

theorem InOrder.frame {s t : Store} {id : Nat} (h : InOrder (some id) s)
    (guards : t.guards = s.guards) (tasks : t.tasks = s.tasks)
    (receivers : ∀ channel, s.hasReceiver channel → t.hasReceiver channel)
    (range : ∀ channel, t.refreshInFlight = some channel → channel < t.channels.length) :
    InOrder (some id) t where
  session := guards ▸ h.session
  refreshState := guards ▸ h.refreshState
  slot f other held := by
    rw [guards] at held
    rw [tasks]
    exact h.slot f other held
  watcher f channel other watching := by
    rw [tasks] at watching
    rw [guards]
    exact (h.watcher f channel other watching).imp_right (receivers channel)
  mutation m other held := by
    rw [guards] at held
    rw [tasks]
    exact h.mutation m other held
  holder m pc other found mutating := by
    rw [tasks] at found
    rw [guards]
    exact h.holder m pc other found mutating
  range := range

theorem InOrder.acquireMutation {s : Store} {id : Nat} (h : InOrder (some id) s)
    (free : s.guards .mutation = none) : InOrder (some id) (s.acquire .mutation id) where
  session := by simp [h.session]
  refreshState := by simp [h.refreshState]
  slot f other held := h.slot f other (by simpa using held)
  watcher f channel other watching := by
    obtain ⟨held, receiver⟩ := h.watcher f channel other watching
    exact ⟨by simpa using held, receiver⟩
  mutation m other held := by
    simp only [Store.acquire_guards, Function.update_self, Option.some.injEq] at held
    exact absurd (congrArg some held) other
  holder m pc other found mutating := by
    have held := h.holder m pc other found mutating
    rw [free] at held
    cases held
  range := h.range

theorem InOrder.acquireSlot {s : Store} {id : Nat} (h : InOrder (some id) s)
    (free : s.guards .refreshInFlight = none) :
    InOrder (some id) (s.acquire .refreshInFlight id) where
  session := by simp [h.session]
  refreshState := by simp [h.refreshState]
  slot f other held := by
    simp only [Store.acquire_guards, Function.update_self, Option.some.injEq] at held
    exact absurd (congrArg some held) other
  watcher f channel other watching := by
    have held := (h.watcher f channel other watching).1
    rw [free] at held
    cases held
  mutation m other held := h.mutation m other (by simpa using held)
  holder m pc other found mutating := by simpa using h.holder m pc other found mutating
  range := h.range

theorem InOrder.unlockMutation {s : Store} {id : Nat} (h : InOrder (some id) s)
    (mine : s.guards .mutation = some id) : InOrder (some id) (s.unlock .mutation) where
  session := by simp [h.session]
  refreshState := by simp [h.refreshState]
  slot f other held := h.slot f other (by simpa using held)
  watcher f channel other watching := by
    obtain ⟨held, receiver⟩ := h.watcher f channel other watching
    exact ⟨by simpa using held, receiver⟩
  mutation m other held := by simp at held
  holder m pc other found mutating := by
    have held := h.holder m pc other found mutating
    rw [mine] at held
    exact absurd held other
  range := h.range

theorem InOrder.leave {s : Store} {id channel : Nat} (h : InOrder (some id) s)
    (mine : s.guards .refreshInFlight = some id) :
    InOrder (some id) ((s.unsubscribe channel).unlock .refreshInFlight) where
  session := by simp [Store.unsubscribe, h.session]
  refreshState := by simp [Store.unsubscribe, h.refreshState]
  slot f other held := by simp at held
  watcher f watched other watching := by
    have held := (h.watcher f watched other watching).1
    rw [mine] at held
    exact absurd held other
  mutation m other held := h.mutation m other (by simpa [Store.unsubscribe] using held)
  holder m pc other found mutating := by
    simpa [Store.unsubscribe] using h.holder m pc other found mutating
  range watched held := by simpa [Store.unsubscribe] using h.range watched held

theorem InOrder.move {s t : Store} {id : Nat} {pc next : Pc} (h : InOrder none s)
    (task : s.tasks id = some pc) (guards : t.guards = s.guards) (tasks : t.tasks = s.tasks)
    (receivers : ∀ channel, s.hasReceiver channel → t.hasReceiver channel)
    (range : ∀ channel, t.refreshInFlight = some channel → channel < t.channels.length)
    (active : pc.watched = none) (still : next.watched = none)
    (same : next.mutating = pc.mutating) : InOrder none (t.go id next) := by
  have own := h.settled task
  refine ((h.but id).frame guards tasks receivers range).go ⟨?_, ?_, ?_⟩
  · rw [guards, own.slot, active, still]
  · intro channel watched
    rw [still] at watched
    cases watched
  · rw [guards, own.mutation, same]

theorem hasReceiver_modifyChannel {s : Store} {target channel : Nat} {f : Channel → Channel}
    (keeps : ∀ c, 0 < c.receivers → 0 < (f c).receivers) (h : s.hasReceiver channel) :
    (s.modifyChannel target f).hasReceiver channel := by
  obtain ⟨c, found, receivers⟩ := h
  by_cases same : target = channel
  · subst same
    exact ⟨f c, by simp [found], keeps c receivers⟩
  · exact ⟨c, by simp [found, same], receivers⟩

theorem send_receivers (c : Channel) (value : RefreshWaitResult) :
    (c.send value).receivers = c.receivers := by
  unfold Channel.send
  split <;> rfl

theorem Settled.free {s : Store} {id : Nat} {pc : Pc} (slot : s.guards .refreshInFlight ≠ some id)
    (mutation : s.guards .mutation ≠ some id) (active : pc.watched = none)
    (idle : pc.mutating = false) : Settled s id pc where
  slot := by simp [slot, active]
  receiver channel watched := by
    rw [active] at watched
    cases watched
  mutation := by simp [mutation, idle]

theorem InOrder.publish {s : Store} {id : Nat} {lead : Lead} {result : RefreshResult}
    (h : InOrder (some id) s) (slot : s.guards .refreshInFlight ≠ some id)
    (mutation : s.guards .mutation ≠ some id) : InOrder none (s.publish id lead result) := by
  have told : InOrder (some id)
      (s.modifyChannel lead.channel (fun c => c.send (waitResult result))) := by
    refine h.frame rfl rfl (fun channel receiver => ?_) (fun channel current => ?_)
    · refine hasReceiver_modifyChannel (fun c positive => ?_) receiver
      rwa [send_receivers]
    · simpa using h.range channel current
  exact told.go (Settled.free slot mutation rfl rfl)

theorem InOrder.endSet {s : Store} {id : Nat} {payload : SessionPayload}
    {mutation : SessionMutation} {origin : Origin} (h : InOrder (some id) s)
    (slot : s.guards .refreshInFlight ≠ some id) (mine : s.guards .mutation = some id) :
    InOrder none (s.endSet id payload mutation origin) := by
  have dropped := h.unlockMutation mine
  have slotFree : (s.unlock .mutation).guards .refreshInFlight ≠ some id := by simpa using slot
  cases origin with
  | caller another => exact dropped.go (Settled.free slotFree (by simp) rfl rfl)
  | refresh lead => exact dropped.go (Settled.free slotFree (by simp) rfl rfl)

theorem InOrder.endClear {s : Store} {id : Nat} {mutation : SessionMutation}
    {cause : Option (PolyError × Lead)} (h : InOrder (some id) s)
    (slot : s.guards .refreshInFlight ≠ some id) (mine : s.guards .mutation = some id) :
    InOrder none (s.endClear id mutation cause) := by
  have dropped := h.unlockMutation mine
  have slotFree : (s.unlock .mutation).guards .refreshInFlight ≠ some id := by simpa using slot
  cases cause with
  | none => exact dropped.go (Settled.free slotFree (by simp) rfl rfl)
  | some cause => exact dropped.publish slotFree (by simp)

theorem InOrder.beginMutation {s : Store} {id : Nat} {pc next : Pc} (h : InOrder none s)
    (task : s.tasks id = some pc) (active : pc.watched = none)
    (free : s.guards .mutation = none) (still : next.watched = none)
    (mutating : next.mutating = true) : InOrder none ((s.acquire .mutation id).go id next) := by
  have slot := (h.settled task).slot_ne active
  refine ((h.but id).acquireMutation free).go ⟨?_, ?_, ?_⟩
  · simpa [still] using slot
  · intro channel watched
    rw [still] at watched
    cases watched
  · simp [mutating]

theorem InOrder.park {s : Store} {id channel : Nat} (h : InOrder none s)
    (free : s.guards .refreshInFlight = none) (noMutation : s.guards .mutation ≠ some id)
    (current : s.refreshInFlight = some channel) :
    InOrder none (((s.acquire .refreshInFlight id).subscribe channel).go id
      (.watching channel)) := by
  have counted : ∀ other, (s.acquire .refreshInFlight id).hasReceiver other →
      ((s.acquire .refreshInFlight id).subscribe channel).hasReceiver other := fun other =>
    hasReceiver_modifyChannel (fun c positive => Nat.lt_succ_of_lt positive)
  have inside := h.range channel current
  have subscribed : InOrder (some id) ((s.acquire .refreshInFlight id).subscribe channel) := by
    refine ((h.but id).acquireSlot free).frame rfl rfl counted (fun other found => ?_)
    simpa [Store.subscribe] using h.range other found
  refine subscribed.go ⟨?_, ?_, ?_⟩
  · simp [Store.subscribe, Pc.watched]
  · intro other watched
    cases watched
    exact ⟨{ s.channels[channel] with receivers := s.channels[channel].receivers + 1 },
      by simp [Store.subscribe, List.getElem?_eq_getElem inside], Nat.succ_pos _⟩
  · simpa [Store.subscribe, Pc.mutating, Pc.clearing, Pc.setting] using noMutation

theorem hasReceiver_openChannel {s : Store} {id channel : Nat} (h : s.hasReceiver channel) :
    (s.openChannel id).hasReceiver channel := by
  obtain ⟨c, found, receivers⟩ := h
  have inside := (List.getElem?_eq_some_iff.mp found).1
  exact ⟨c, by rw [Store.openChannel_channels, List.getElem?_append_left inside, found], receivers⟩

theorem InOrder.quietly {s u : Store} {id : Nat} {pc next : Pc} (h : InOrder none s)
    (task : s.tasks id = some pc) (guards : u.guards = s.guards) (tasks : u.tasks = s.tasks)
    (channels : u.channels = s.channels)
    (slot : u.refreshInFlight = s.refreshInFlight ∨ u.refreshInFlight = none)
    (active : pc.watched = none) (still : next.watched = none)
    (same : next.mutating = pc.mutating) : InOrder none (u.go id next) := by
  refine h.move task guards tasks (fun channel receiver => ?_) (fun channel current => ?_)
    active still same
  · simpa [Store.hasReceiver, channels] using receiver
  · rcases slot with unchanged | empty
    · exact channels ▸ h.range channel (unchanged ▸ current)
    · rw [empty] at current
      cases current

theorem InOrder.plain {s : Store} {id : Nat} {pc next : Pc} (h : InOrder none s)
    (task : s.tasks id = some pc) (active : pc.watched = none) (still : next.watched = none)
    (same : next.mutating = pc.mutating) : InOrder none (s.go id next) :=
  h.quietly task rfl rfl rfl (.inl rfl) active still same

section Stages

variable {decode : RefreshDecoder} {s t : Store} {id : Nat} {env : Env} (h : InOrder none s)

include h

theorem inOrder_inFlightCheck {query : Query} (task : s.tasks id = some (.inFlightCheck query))
    (free : s.guards .refreshInFlight = none)
    (edge : resume decode s id env (.inFlightCheck query) = some t) : InOrder none t := by
  simp only [resume] at edge
  split at edge
  · rename_i channel current
    cases edge
    exact h.park free ((h.settled task).mutation_ne rfl) current
  · cases edge
    exact h.plain task rfl rfl rfl

theorem inOrder_watching {channel : Nat} (task : s.tasks id = some (.watching channel))
    (edge : resume decode s id env (.watching channel) = some t) : InOrder none t := by
  have own := h.settled task
  simp only [resume] at edge
  obtain ⟨outcome, _, rfl⟩ := Option.map_eq_some_iff.mp edge
  have mine : s.guards .refreshInFlight = some id := own.slot.mpr rfl
  refine ((h.but id).leave mine).go (Settled.free (by simp) ?_ rfl rfl)
  simpa [Store.unsubscribe] using own.mutation_ne rfl

theorem inOrder_claim {query : Query} {current : SessionPayload} {signIn : Nat}
    (task : s.tasks id = some (.claim query current signIn))
    (edge : resume decode s id env (.claim query current signIn) = some t) : InOrder none t := by
  simp only [resume] at edge
  split at edge
  · cases edge
    exact h.plain task rfl rfl rfl
  · cases edge
    refine h.move task rfl rfl (fun _ => hasReceiver_openChannel) (fun channel slot => ?_)
      rfl rfl rfl
    simp only [Store.openChannel_refreshInFlight, Option.some.injEq] at slot
    simp [← slot]

theorem inOrder_setRead {payload : SessionPayload} {origin : Origin}
    (task : s.tasks id = some (.setRead payload origin))
    (edge : resume decode s id env (.setRead payload origin) = some t) : InOrder none t := by
  have own := h.settled task
  simp only [resume] at edge
  split at edge
  · cases edge
    exact (h.but id).endSet (own.slot_ne rfl) (own.mutation.mpr rfl)
  · cases edge
    exact h.quietly task rfl rfl rfl (.inl rfl) rfl rfl rfl

theorem inOrder_setWrite {payload : SessionPayload} {updatedAt : UInt64}
    {kind : SessionMutationKind} {origin : Origin}
    (task : s.tasks id = some (.setWrite payload updatedAt kind origin))
    (edge : resume decode s id env (.setWrite payload updatedAt kind origin) = some t) :
    InOrder none t := by
  have own := h.settled task
  cases edge
  have written : InOrder (some id)
      ((s.writeSession payload updatedAt kind origin).notify (some payload.userId) kind) :=
    (h.but id).frame rfl rfl (fun _ receiver => receiver) h.range
  exact written.endSet (own.slot_ne rfl) (own.mutation.mpr rfl)

theorem inOrder_noteFailure {error : PolyError} {lead : Lead}
    (task : s.tasks id = some (.noteFailure error lead))
    (edge : resume decode s id env (.noteFailure error lead) = some t) : InOrder none t := by
  have own := h.settled task
  cases edge
  have noted : InOrder (some id) (s.setLastFailure (some env.instant)) :=
    (h.but id).frame rfl rfl (fun _ receiver => receiver) h.range
  exact noted.publish (own.slot_ne rfl) (own.mutation_ne rfl)

theorem inOrder_clearSlot {hadSession : Bool} {cause : Option (PolyError × Lead)}
    (task : s.tasks id = some (.clearSlot hadSession cause))
    (edge : resume decode s id env (.clearSlot hadSession cause) = some t) : InOrder none t := by
  have own := h.settled task
  cases edge
  have emptied : InOrder (some id)
      (s.emptySlot.notify none (if hadSession then .cleared else .noop)) :=
    (h.but id).frame rfl rfl (fun _ receiver => receiver) nofun
  exact emptied.endClear (own.slot_ne rfl) (own.mutation.mpr rfl)

end Stages

theorem inOrder_resume {decode : RefreshDecoder} {s t : Store} {id : Nat} {env : Env} {pc : Pc}
    (h : InOrder none s) (task : s.tasks id = some pc) (ready : s.ready pc.need = true)
    (edge : resume decode s id env pc = some t) : InOrder none t := by
  cases pc with
  | inFlightCheck query =>
    have free : s.guards .refreshInFlight = none := by simpa [Pc.need, Store.ready] using ready
    exact inOrder_inFlightCheck h task free edge
  | watching channel => exact inOrder_watching h task edge
  | sessionRead query | sessionReread query =>
    simp only [resume, Store.unlessFresh] at edge
    split at edge
    · cases edge
      exact h.plain task rfl rfl rfl
    · split at edge <;> cases edge <;> exact h.plain task rfl rfl rfl
  | cooldownCheck query =>
    simp only [resume] at edge
    split at edge <;> cases edge <;> exact h.plain task rfl rfl rfl
  | claim query current signIn => exact inOrder_claim h task edge
  | request lead =>
    simp only [resume] at edge
    split at edge
    · cases edge
      exact h.plain task rfl rfl rfl
    · split at edge <;> cases edge <;> exact h.plain task rfl rfl rfl
  | setLock payload origin | clearLock cause =>
    have free : s.guards .mutation = none := by simpa [Pc.need, Store.ready] using ready
    cases edge
    exact h.beginMutation task rfl free rfl rfl
  | setRead payload origin => exact inOrder_setRead h task edge
  | setWrite payload updatedAt kind origin => exact inOrder_setWrite h task edge
  | readBack payload kind lead =>
    have own := h.settled task
    cases edge
    exact (h.but id).publish (own.slot_ne rfl) (own.mutation_ne rfl)
  | noteFailure error lead => exact inOrder_noteFailure h task edge
  | noteSuccess payload kind lead | clearRead cause | clearWrite hadSession cause
  | clearState hadSession cause =>
    cases edge
    exact h.quietly task rfl rfl rfl (.inl rfl) rfl rfl rfl
  | clearSlot hadSession cause => exact inOrder_clearSlot h task edge
  | release result =>
    cases edge
    exact h.quietly task rfl rfl rfl (.inr rfl) rfl rfl rfl
  | done returned => cases edge

theorem inOrder_poll {decode : RefreshDecoder} {s t : Store} {label : Label}
    (h : InOrder none s) (edge : poll decode s label = some t) : InOrder none t := by
  cases poll_cases edge with
  | begins id call absent =>
    have slot : s.guards .refreshInFlight ≠ some id := by
      intro held
      obtain ⟨channel, watching⟩ := h.slot id nofun held
      rw [absent] at watching
      cases watching
    have mutation : s.guards .mutation ≠ some id := by
      intro held
      obtain ⟨pc, found, _⟩ := h.mutation id nofun held
      rw [absent] at found
      cases found
    cases call <;> exact (h.but id).go (Settled.free slot mutation rfl rfl)
  | resumes id env pc task ready edge =>
    exact inOrder_resume h task ready edge

theorem inOrder_initial : InOrder none {} where
  session := rfl
  refreshState := rfl
  slot _ _ held := by cases held
  watcher _ _ _ watching := by cases watching
  mutation _ _ held := by cases held
  holder _ _ _ found := by cases found
  range _ current := by cases current

/-- The guards of every state of every run. -/
theorem run_inOrder {decode : RefreshDecoder} {s : Store} {labels : List Label}
    (run : Run (Steps (poll decode)) {} labels s) : InOrder none s :=
  run.invariant inOrder_initial (fun _ _ _ h edge => inOrder_poll h edge)

/-- Channels stay, with their leaders, and no value is taken back. -/
def ChannelsKept (s t : Store) : Prop :=
  ∀ (channel : Nat) (c : Channel), s.channels[channel]? = some c →
    ∃ kept : Channel, t.channels[channel]? = some kept ∧ kept.leader = c.leader ∧
      (kept.value = none → c.value = none)

theorem ChannelsKept.refl {s t : Store} (same : t.channels = s.channels) : ChannelsKept s t :=
  fun channel c found => ⟨c, by rw [same]; exact found, rfl, id⟩

theorem channelsKept_modifyChannel {s : Store} {target : Nat} {f : Channel → Channel}
    (leader : ∀ c, (f c).leader = c.leader) (value : ∀ c, (f c).value = none → c.value = none) :
    ChannelsKept s (s.modifyChannel target f) := by
  intro channel c found
  by_cases same : target = channel
  · subst same
    exact ⟨f c, by simp [found], leader c, value c⟩
  · exact ⟨c, by simp [found, same], rfl, id⟩

theorem send_leader (c : Channel) (value : RefreshWaitResult) :
    (c.send value).leader = c.leader := by
  unfold Channel.send
  split <;> rfl

theorem send_value {c : Channel} {value : RefreshWaitResult} (h : (c.send value).value = none) :
    c.value = none := by
  unfold Channel.send at h
  split at h
  · exact h
  · cases h

theorem channelsKept_publish {s u : Store} {id : Nat} (lead : Lead) (result : RefreshResult)
    (channels : u.channels = s.channels) : ChannelsKept s (u.publish id lead result) := by
  intro channel c found
  have kept : ChannelsKept u (u.publish id lead result) :=
    channelsKept_modifyChannel (fun c => send_leader c _) (fun _ => send_value)
  rw [← channels] at found
  exact kept channel c found

theorem channelsKept_openChannel {s : Store} {id : Nat} {next : Pc} :
    ChannelsKept s ((s.openChannel id).go id next) := by
  intro channel c found
  have inside := (List.getElem?_eq_some_iff.mp found).1
  refine ⟨c, ?_, rfl, fun silent => silent⟩
  rw [Store.go_channels, Store.openChannel_channels, List.getElem?_append_left inside, found]

/-- A call moves alone, channels stay, and whoever leads a refresh led it before, or has just
claimed it. -/
theorem resume_stretch {decode : RefreshDecoder} {s t : Store} {id : Nat} {env : Env} {pc : Pc}
    (edge : resume decode s id env pc = some t) :
    ∃ next, t.tasks = Function.update s.tasks id (some next) ∧ ChannelsKept s t ∧
      ∀ lead, next.lead = some lead → pc.lead = some lead ∨
        ∃ query current signIn, pc = .claim query current signIn ∧
          lead = ⟨s.channels.length, current, signIn⟩ ∧
          t.channels = s.channels ++ [{ leader := id }] := by
  cases pc with
  | inFlightCheck query =>
    simp only [resume] at edge
    split at edge
    · cases edge
      exact ⟨_, rfl, channelsKept_modifyChannel (fun _ => rfl) (fun _ silent => silent), nofun⟩
    · cases edge
      exact ⟨_, rfl, .refl rfl, nofun⟩
  | watching channel =>
    simp only [resume] at edge
    obtain ⟨outcome, _, rfl⟩ := Option.map_eq_some_iff.mp edge
    exact ⟨_, rfl, channelsKept_modifyChannel (fun _ => rfl) (fun _ silent => silent), nofun⟩
  | sessionRead query | sessionReread query =>
    simp only [resume, Store.unlessFresh] at edge
    split at edge
    · cases edge
      exact ⟨_, rfl, .refl rfl, nofun⟩
    · split at edge <;> cases edge <;> exact ⟨_, rfl, .refl rfl, nofun⟩
  | cooldownCheck query =>
    simp only [resume] at edge
    split at edge <;> cases edge <;> exact ⟨_, rfl, .refl rfl, nofun⟩
  | claim query current signIn =>
    simp only [resume] at edge
    split at edge
    · cases edge
      exact ⟨_, rfl, .refl rfl, nofun⟩
    · cases edge
      exact ⟨_, rfl, channelsKept_openChannel, fun lead leads =>
        .inr ⟨query, current, signIn, rfl, (Option.some.inj leads).symm, rfl⟩⟩
  | request lead =>
    simp only [resume] at edge
    split at edge
    · cases edge
      exact ⟨_, rfl, .refl rfl, fun _ leads => .inl leads⟩
    · split at edge <;> cases edge <;> exact ⟨_, rfl, .refl rfl, fun _ leads => .inl leads⟩
  | setRead payload origin =>
    simp only [resume] at edge
    split at edge
    · cases edge
      cases origin with
      | caller another => exact ⟨_, rfl, .refl rfl, nofun⟩
      | refresh lead => exact ⟨_, rfl, .refl rfl, fun _ leads => .inl leads⟩
    · cases edge
      exact ⟨_, rfl, .refl rfl, fun _ leads => .inl leads⟩
  | setWrite payload updatedAt kind origin =>
    cases edge
    cases origin with
    | caller another => exact ⟨_, rfl, .refl rfl, nofun⟩
    | refresh lead => exact ⟨_, rfl, .refl rfl, fun _ leads => .inl leads⟩
  | readBack payload kind lead | noteFailure error lead =>
    cases edge
    exact ⟨_, rfl, channelsKept_publish _ _ rfl, nofun⟩
  | clearSlot hadSession cause =>
    cases edge
    cases cause with
    | none => exact ⟨_, rfl, .refl rfl, nofun⟩
    | some cause => exact ⟨_, rfl, channelsKept_publish _ _ rfl, nofun⟩
  | setLock payload origin | noteSuccess payload kind lead | clearLock cause | clearRead cause
  | clearWrite hadSession cause | clearState hadSession cause =>
    cases edge
    exact ⟨_, rfl, .refl rfl, fun _ leads => .inl leads⟩
  | release result =>
    cases edge
    exact ⟨_, rfl, .refl rfl, nofun⟩
  | done returned => cases edge

def LeadsOwn (s : Store) : Prop :=
  ∀ id pc lead, s.tasks id = some pc → pc.lead = some lead →
    ∃ c : Channel, s.channels[lead.channel]? = some c ∧ c.leader = id

theorem leadsOwn_poll {decode : RefreshDecoder} {s t : Store} {label : Label} (h : LeadsOwn s)
    (edge : poll decode s label = some t) : LeadsOwn t := by
  cases poll_cases edge with
  | begins id call absent =>
    intro other pc lead found leads
    rcases update_some_cases found with ⟨rfl, rfl⟩ | ⟨_, found⟩
    · cases call <;> cases leads
    · exact h other pc lead found leads
  | resumes id env pc task ready edge =>
    obtain ⟨next, tasks, kept, leadsOn⟩ := resume_stretch edge
    have carry : ∀ other pc lead, s.tasks other = some pc → pc.lead = some lead →
        ∃ c : Channel, t.channels[lead.channel]? = some c ∧ c.leader = other := by
      intro other pc lead found leads
      obtain ⟨c, channel, leader⟩ := h other pc lead found leads
      obtain ⟨c', channel', same, _⟩ := kept lead.channel c channel
      exact ⟨c', channel', same.trans leader⟩
    intro other opc lead found leads
    rcases update_some_cases (tasks ▸ found) with ⟨rfl, rfl⟩ | ⟨_, found⟩
    · rcases leadsOn lead leads with before | ⟨_, _, _, _, rfl, channels⟩
      · exact carry other pc lead task before
      · exact ⟨{ leader := other }, by simp [channels], rfl⟩
    · exact carry other opc lead found leads

theorem run_leadsOwn {decode : RefreshDecoder} {s : Store} {labels : List Label}
    (run : Run (Steps (poll decode)) {} labels s) : LeadsOwn s := by
  have initial : LeadsOwn {} := fun _ _ _ found => by cases found
  exact run.invariant initial (fun _ _ _ h edge => leadsOwn_poll h edge)

end Polykit.Auth.Machine
