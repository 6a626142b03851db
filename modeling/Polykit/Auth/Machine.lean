/- Module: Polykit/Auth/Machine
   generality: I
   source: crates/polybase/src/auth.rs
   digest: The session store as a machine whose calls interleave at their awaits. -/

import Polykit.Auth.Session
import Polykit.Lib.Runs

set_option autoImplicit false
set_option relaxedAutoImplicit false

namespace Polykit.Auth.Machine

open Errors Wire.Http

inductive Lock
  | refreshInFlight | mutation | session | refreshState
  deriving DecidableEq

/-- The arguments of `refresh_if_needed`, the duration in whole seconds. -/
structure Query where
  minValidFor : UInt64
  force : Bool
  deriving DecidableEq

/-- A session handed in comes from another sign-in than the stored one or not, which only its
caller can tell when the user is the same. -/
inductive Call
  | refreshIfNeeded (query : Query)
  | setSession (payload : SessionPayload) (anotherSignIn : Bool)
  | clearSession
  deriving DecidableEq

def ensureFresh (minValidFor : UInt64) : Call := .refreshIfNeeded ⟨minValidFor, false⟩

def forceRefresh : Call := .refreshIfNeeded ⟨0, true⟩

abbrev RefreshResult := Except PolyError (Option EnsureFreshResult)

abbrev RefreshWaitResult := Except String (Option EnsureFreshResult)

/-- A watch channel, with the call that created it. -/
structure Channel where
  leader : Nat
  value : Option RefreshWaitResult := none
  receivers : Nat := 0

/-- A refresh under way: its channel, the session it started from, and the sign-in that
session belonged to. -/
structure Lead where
  channel : Nat
  current : SessionPayload
  signIn : Nat
  deriving DecidableEq

/-- Who calls `set_session`. -/
inductive Origin
  | caller (anotherSignIn : Bool)
  | refresh (lead : Lead)
  deriving DecidableEq

def Origin.lead : Origin → Option Lead
  | .caller _ => none
  | .refresh lead => some lead

inductive Returned
  | fresh (result : RefreshResult)
  | mutated (mutation : SessionMutation)

/-- Where a call stands. The stages of `set_session` and `clear_session` serve the calls of
those names and the refresh that calls them from inside, which then comes with its lead. -/
inductive Pc
  | inFlightCheck (query : Query)
  | watching (channel : Nat)
  | sessionRead (query : Query)
  | cooldownCheck (query : Query)
  | sessionReread (query : Query)
  | claim (query : Query) (current : SessionPayload) (signIn : Nat)
  | request (lead : Lead)
  | setLock (payload : SessionPayload) (origin : Origin)
  | setRead (payload : SessionPayload) (origin : Origin)
  | setWrite (payload : SessionPayload) (updatedAt : UInt64) (kind : SessionMutationKind)
      (origin : Origin)
  | noteSuccess (payload : SessionPayload) (kind : SessionMutationKind) (lead : Lead)
  | readBack (payload : SessionPayload) (kind : SessionMutationKind) (lead : Lead)
  | noteFailure (error : PolyError) (lead : Lead)
  | clearLock (cause : Option (PolyError × Lead))
  | clearRead (cause : Option (PolyError × Lead))
  | clearWrite (hadSession : Bool) (cause : Option (PolyError × Lead))
  | clearState (hadSession : Bool) (cause : Option (PolyError × Lead))
  | clearSlot (hadSession : Bool) (cause : Option (PolyError × Lead))
  | release (result : RefreshResult)
  | done (returned : Returned)

def Pc.lead : Pc → Option Lead
  | .request lead | .noteSuccess _ _ lead | .readBack _ _ lead | .noteFailure _ lead => some lead
  | .setLock _ origin | .setRead _ origin | .setWrite _ _ _ origin => origin.lead
  | .clearLock cause | .clearRead cause | .clearWrite _ cause | .clearState _ cause
  | .clearSlot _ cause => cause.map Prod.snd
  | _ => none

/-- The shared fields of the store and the calls under way. `signIns` counts the sign-outs and
the sign-ins that replaced the session so far, and no step acts on it. -/
structure Store where
  session : Option SessionPayload := none
  updateCounter : UInt64 := 1
  lastFailureAt : Option Nat := none
  refreshInFlight : Option Nat := none
  channels : List Channel := []
  guards : Lock → Option Nat := fun _ => none
  tasks : Nat → Option Pc := fun _ => none
  events : List SessionChanged := []
  hookCalls : List (Option String) := []
  signIns : Nat := 0

/-- What a step meets outside: the clocks, and the reply when it is the refresh request. -/
structure Env where
  unixNow : Int64
  instant : Nat
  reply : Reply

inductive Label
  | call (id : Nat) (call : Call)
  | advance (id : Nat) (env : Env)

@[simps] def Store.go (s : Store) (id : Nat) (pc : Pc) : Store :=
  { s with tasks := Function.update s.tasks id (some pc) }

theorem Store.eq_of_go {s : Store} {id : Nat} {pc next : Pc}
    (found : (s.go id pc).tasks id = some next) : pc = next := by
  simpa using found

@[simps] def Store.acquire (s : Store) (lock : Lock) (id : Nat) : Store :=
  { s with guards := Function.update s.guards lock (some id) }

@[simps] def Store.unlock (s : Store) (lock : Lock) : Store :=
  { s with guards := Function.update s.guards lock none }

@[simps] def Store.modifyChannel (s : Store) (channel : Nat) (f : Channel → Channel) : Store :=
  { s with channels := s.channels.modify channel f }

def Store.published (s : Store) (channel : Nat) : Option RefreshWaitResult :=
  s.channels[channel]?.bind Channel.value

/-- A new receiver counts what is in the channel as seen. -/
def Store.subscribe (s : Store) (channel : Nat) : Store :=
  s.modifyChannel channel (fun c => { c with receivers := c.receivers + 1 })

def Store.unsubscribe (s : Store) (channel : Nat) : Store :=
  s.modifyChannel channel (fun c => { c with receivers := c.receivers - 1 })

def waitResult : RefreshResult → RefreshWaitResult
  | .ok value => .ok value
  | .error error => .error error.display

/-- Without receivers nothing is sent, and nothing is stored. -/
def Channel.send (c : Channel) (value : RefreshWaitResult) : Channel :=
  if c.receivers = 0 then c else { c with value := some value }

/-- The leader tells its followers, and goes on to empty the slot. -/
def Store.publish (s : Store) (id : Nat) (lead : Lead) (result : RefreshResult) : Store :=
  (s.modifyChannel lead.channel (fun c => c.send (waitResult result))).go id (.release result)

@[simps] def Store.emptySlot (s : Store) : Store := { s with refreshInFlight := none }

@[simps] def Store.openChannel (s : Store) (id : Nat) : Store :=
  { s with
    refreshInFlight := some s.channels.length
    channels := s.channels ++ [{ leader := id }] }

@[simps] def Store.setLastFailure (s : Store) (instant : Option Nat) : Store :=
  { s with lastFailureAt := instant }

def endsSignIn (kind : SessionMutationKind) (origin : Origin) : Bool :=
  kind == .userChanged || origin == .caller true

@[simps] def Store.writeSession (s : Store) (payload : SessionPayload) (updatedAt : UInt64)
    (kind : SessionMutationKind) (origin : Origin) : Store :=
  { s with
    session := some { payload with updatedAt := updatedAt }
    signIns := if endsSignIn kind origin then s.signIns + 1 else s.signIns }

@[simps] def Store.eraseSession (s : Store) (hadSession : Bool) : Store :=
  { s with session := none, signIns := if hadSession then s.signIns + 1 else s.signIns }

/-- The user change hook and the event of a mutation, newest first. -/
@[simps] def Store.notify (s : Store) (userId : Option String) (kind : SessionMutationKind) : Store :=
  { s with
    hookCalls := if kind = .userChanged ∨ kind = .cleared then userId :: s.hookCalls
      else s.hookCalls
    events := (kind.intoEventKind.map (SessionChanged.mk userId)).toList ++ s.events }

/-- The end of `set_session`: its guard is dropped, and a refresh goes on. -/
def Store.endSet (s : Store) (id : Nat) (payload : SessionPayload) (mutation : SessionMutation)
    (origin : Origin) : Store :=
  match origin with
  | .refresh lead => (s.unlock .mutation).go id (.noteSuccess payload mutation.kind lead)
  | .caller _ => (s.unlock .mutation).go id (.done (.mutated mutation))

/-- The end of `clear_session`. A refresh that called it publishes its error. -/
def Store.endClear (s : Store) (id : Nat) (mutation : SessionMutation)
    (cause : Option (PolyError × Lead)) : Store :=
  match cause with
  | some (error, lead) => (s.unlock .mutation).publish id lead (.error error)
  | none => (s.unlock .mutation).go id (.done (.mutated mutation))

def mutationKind (current : Option SessionPayload) (payload : SessionPayload) :
    SessionMutationKind :=
  match current with
  | some current =>
      if current.userId = payload.userId then .credentialsRefreshed else .userChanged
  | none => .userChanged

inductive Need
  | lock (lock : Lock)
  | value (channel : Nat)
  | nothing
  deriving DecidableEq

def Pc.need : Pc → Need
  | .inFlightCheck _ | .claim _ _ _ | .clearSlot _ _ | .release _ => .lock .refreshInFlight
  | .watching channel => .value channel
  | .sessionRead _ | .sessionReread _ | .setRead _ _ | .setWrite _ _ _ _ | .readBack _ _ _
  | .clearRead _ | .clearWrite _ _ => .lock .session
  | .cooldownCheck _ | .noteSuccess _ _ _ | .noteFailure _ _ | .clearState _ _ =>
      .lock .refreshState
  | .setLock _ _ | .clearLock _ => .lock .mutation
  | .request _ | .done _ => .nothing

def Store.ready (s : Store) : Need → Bool
  | .lock lock => (s.guards lock).isNone
  | .value channel => (s.published channel).isSome
  | .nothing => true

variable (decode : RefreshDecoder)

/-- A stretch of `refresh_if_needed`, which returns a fresh enough session as it is. -/
def Store.unlessFresh (s : Store) (id : Nat) (query : Query) (env : Env)
    (session : SessionPayload) (stale : Pc) : Store :=
  if !query.force && !sessionExpiresWithin env.unixNow session query.minValidFor then
    s.go id (.done (.fresh (.ok (some ⟨session, false⟩))))
  else s.go id stale

/-- A call until its next await, once what it waited for is there. A guard that the source
drops before that await does not show, and the two that it keeps are those of a follower on the
slot and of a mutation. -/
def resume (s : Store) (id : Nat) (env : Env) : Pc → Option Store
  | .inFlightCheck query =>
      match s.refreshInFlight with
      | some channel =>
          -- the guard in the scrutinee lives as long as the body, which awaits
          some (((s.acquire .refreshInFlight id).subscribe channel).go id (.watching channel))
      | none => some (s.go id (.sessionRead query))
  | .watching channel =>
      (s.published channel).map (fun outcome =>
        ((s.unsubscribe channel).unlock .refreshInFlight).go id
          (.done (.fresh (outcome.mapError PolyError.other))))
  | .sessionRead query =>
      match s.session with
      | none => some (s.go id (.done (.fresh (.ok none))))
      | some session => some (s.unlessFresh id query env session (.cooldownCheck query))
  | .cooldownCheck query =>
      match coolingDown s.lastFailureAt env.instant with
      | some message => some (s.go id (.done (.fresh (.error (.other message)))))
      | none => some (s.go id (.sessionReread query))
  | .sessionReread query =>
      match s.session with
      | none => some (s.go id (.done (.fresh (.error .noSession))))
      | some current => some (s.unlessFresh id query env current (.claim query current s.signIns))
  | .claim query current signIn =>
      if s.refreshInFlight.isSome then some (s.go id (.inFlightCheck query))
      else
        some ((s.openChannel id).go id (.request ⟨s.channels.length, current, signIn⟩))
  | .request lead =>
      match refreshPayload decode env.unixNow lead.current env.reply with
      | .ok payload => some (s.go id (.setLock payload (.refresh lead)))
      | .error error =>
          if isPermanentRefreshFailure error.display then
            some (s.go id (.clearLock (some (error, lead))))
          else some (s.go id (.noteFailure error lead))
  | .setLock payload origin => some ((s.acquire .mutation id).go id (.setRead payload origin))
  | .setRead payload origin =>
      match s.session.filter (fun current => sessionMatches current payload) with
      | some current => some (s.endSet id payload ⟨.noop, current.updatedAt⟩ origin)
      | none =>
          some ({ s with updateCounter := s.updateCounter + 1 }.go id
            (.setWrite payload s.updateCounter (mutationKind s.session payload) origin))
  | .setWrite payload updatedAt kind origin =>
      some (((s.writeSession payload updatedAt kind origin).notify (some payload.userId) kind).endSet
        id payload ⟨kind, updatedAt⟩ origin)
  | .noteSuccess payload kind lead =>
      some ((s.setLastFailure none).go id (.readBack payload kind lead))
  | .readBack payload kind lead =>
      some (s.publish id lead
        (.ok (some ⟨s.session.getD payload, kind == .credentialsRefreshed⟩)))
  | .noteFailure error lead =>
      some ((s.setLastFailure (some env.instant)).publish id lead (.error error))
  | .clearLock cause => some ((s.acquire .mutation id).go id (.clearRead cause))
  | .clearRead cause => some (s.go id (.clearWrite s.session.isSome cause))
  | .clearWrite hadSession cause =>
      some ((s.eraseSession hadSession).go id (.clearState hadSession cause))
  | .clearState hadSession cause =>
      some ((s.setLastFailure none).go id (.clearSlot hadSession cause))
  | .clearSlot hadSession cause =>
      let kind : SessionMutationKind := if hadSession then .cleared else .noop
      some ((s.emptySlot.notify none kind).endClear id ⟨kind, 0⟩ cause)
  | .release result => some (s.emptySlot.go id (.done (.fresh result)))
  | .done _ => none

def Call.start : Call → Pc
  | .refreshIfNeeded query => .inFlightCheck query
  | .setSession payload anotherSignIn => .setLock payload (.caller anotherSignIn)
  | .clearSession => .clearLock none

/-- One step of the store: a call begins, or goes on when what it needs is there. -/
def poll (s : Store) : Label → Option Store
  | .call id call => if (s.tasks id).isSome then none else some (s.go id call.start)
  | .advance id env =>
      (s.tasks id).bind (fun pc => if s.ready pc.need then resume decode s id env pc else none)

/-- A step begins a call, or goes on with one that has what it needs. -/
inductive Polled (s : Store) : Label → Store → Prop
  | begins (id : Nat) (call : Call) (absent : s.tasks id = none) :
      Polled s (.call id call) (s.go id call.start)
  | resumes (id : Nat) (env : Env) (pc : Pc) {t : Store} (task : s.tasks id = some pc)
      (ready : s.ready pc.need = true) (edge : resume decode s id env pc = some t) :
      Polled s (.advance id env) t

theorem poll_cases {decode : RefreshDecoder} {s t : Store} {label : Label}
    (edge : poll decode s label = some t) : Polled decode s label t := by
  cases label with
  | call id call =>
    simp only [poll] at edge
    split at edge
    · cases edge
    · rename_i fresh
      cases edge
      exact .begins id call (by simpa using fresh)
  | advance id env =>
    simp only [poll] at edge
    obtain ⟨pc, task, edge⟩ := Option.bind_eq_some_iff.mp edge
    split at edge
    · rename_i ready
      exact .resumes id env pc task ready edge
    · cases edge

/-! Sessions that have expired, and a server that renews them or turns them down. -/

def sampleDecode : RefreshDecoder := fun body =>
  if body = "\x7b\"access_token\":\"new\"\x7d" then .ok ⟨"new", none, none, none, none⟩
  else .error "missing field"

def expiredSession (user : String) : SessionPayload := ⟨user, "old", "refresh", 0, 0⟩

def renewed : Env where
  unixNow := 1000
  instant := 0
  reply := .responded ⟨200, by decide⟩ (.ok "\x7b\"access_token\":\"new\"\x7d")

def turnedDown : Env where
  unixNow := 1000
  instant := 0
  reply := .responded ⟨400, by decide⟩ (.ok "invalid_grant")

def unavailable : Env where
  unixNow := 1000
  instant := 0
  reply := .responded ⟨503, by decide⟩ (.ok "")

/-- The next `n` stretches of a call. -/
def advances (id n : Nat) (env : Env) : List Label := List.replicate n (.advance id env)

def signsIn (id : Nat) (user : String) : List Label :=
  advances id 3 renewed ++ [.call id (.setSession (expiredSession user) true)]

def signsOut (id : Nat) : List Label := advances id 5 renewed ++ [.call id .clearSession]

def startsRefresh (id : Nat) : List Label :=
  advances id 5 renewed ++ [.call id (ensureFresh 60)]

end Polykit.Auth.Machine
