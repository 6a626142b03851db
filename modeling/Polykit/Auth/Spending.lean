/- Module: Polykit/Auth/Spending
   generality: I
   source: crates/polybase/src/auth.rs
   digest: How often a refresh token is sent, and the stale leader that sends a spent one. -/

import Polykit.Auth.Machine

set_option autoImplicit false
set_option relaxedAutoImplicit false

namespace Polykit.Auth.Machine

open Errors Lib.Runs Wire.Http

/-- What the auth server sees of a refresh: the token is sent, and the refresh succeeds. -/
inductive TokenEvent
  | sent (token : String)
  | succeeded (token : String)
  deriving DecidableEq

/-- The store with the log of its refreshes, newest first. No step acts on the log. -/
structure Ledger where
  store : Store
  events : List TokenEvent := []

/-- The request leaves in the stretch that claims the slot, and its reply comes in the next. -/
def tokenEvents (decode : RefreshDecoder) (s : Store) : Label → List TokenEvent
  | .call _ _ => []
  | .advance id env =>
      match s.tasks id with
      | some (.claim _ current _) =>
          if s.refreshInFlight.isSome then [] else [.sent current.refreshToken]
      | some (.request lead) =>
          match refreshPayload decode env.unixNow lead.current env.reply with
          | .ok _ => [.succeeded lead.current.refreshToken]
          | .error _ => []
      | _ => []

def pollLogged (decode : RefreshDecoder) (l : Ledger) (label : Label) : Option Ledger :=
  (poll decode l.store label).map (fun t => ⟨t, tokenEvents decode l.store label ++ l.events⟩)

theorem run_store {decode : RefreshDecoder} {start l : Ledger} {labels : List Label}
    (run : Run (Steps (pollLogged decode)) start labels l) :
    Run (Steps (poll decode)) start.store labels l.store := by
  induction run with
  | refl => exact .refl
  | tail _ edge ih =>
    obtain ⟨t, step, rfl⟩ := Option.map_eq_some_iff.mp edge
    exact ih.tail step

def spentTokens (events : List TokenEvent) : List String :=
  events.filterMap (fun event => match event with
    | .succeeded token => some token
    | .sent _ => none)

/-- No token is sent after a refresh with it has succeeded. -/
def SpentOnce (events : List TokenEvent) : Prop :=
  events.Pairwise (fun newer older => ∀ token, older = .succeeded token → newer ≠ .sent token)

def refreshesOnly (_ : Ledger) : Label → Bool
  | .call _ (.refreshIfNeeded _) => true
  | .call _ _ => false
  | .advance _ _ => true

def Store.token (s : Store) : Option String := s.session.map SessionPayload.refreshToken

/-- A call that becomes the leader still finds the refresh token it has read in the store. -/
def claimsStored (l : Ledger) : Label → Bool
  | .call _ _ => true
  | .advance id _ =>
      match l.store.tasks id with
      | some (.claim _ current _) =>
          l.store.refreshInFlight.isSome || l.store.token == some current.refreshToken
      | _ => true

/-- A refresh that succeeds brings a token that no refresh has succeeded with before. -/
def rotates (decode : RefreshDecoder) (l : Ledger) : Label → Bool
  | .call _ _ => true
  | .advance id env =>
      match l.store.tasks id with
      | some (.request lead) =>
          match refreshPayload decode env.unixNow lead.current env.reply with
          | .ok payload =>
              decide (payload.refreshToken ∉ lead.current.refreshToken :: spentTokens l.events)
          | .error _ => true
      | _ => true

/-! A call plays at most one part in a refresh at a time, and says what it did by how it moves
from one part to the next. -/

inductive Role
  | idle | asking | setting (token : String) | ending | clearing | cleared | releasing

def Pc.role : Pc → Role
  | .request _ => .asking
  | .setLock payload _ | .setRead payload _ | .setWrite payload _ _ _ =>
      .setting payload.refreshToken
  | .noteSuccess _ _ _ | .readBack _ _ _ | .noteFailure _ _ => .ending
  | .clearLock _ | .clearRead _ | .clearWrite _ _ => .clearing
  | .clearState _ _ | .clearSlot _ _ => .cleared
  | .release _ => .releasing
  | _ => .idle

def Store.role (s : Store) (id : Nat) : Role := (s.tasks id).elim .idle Pc.role

/-- The ways from one part to the next, with what becomes of slot and token and what is
logged. -/
inductive Moves (spent : List String) (s t : Store) : List TokenEvent → Role → Role → Prop
  | stay (role : Role) : t.refreshInFlight = s.refreshInFlight → t.token = s.token →
      Moves spent s t [] role role
  | claim (token : String) : s.refreshInFlight = none → s.token = some token →
      t.refreshInFlight.isSome = true → t.token = s.token →
      Moves spent s t [.sent token] .idle .asking
  | renew (old new : String) : new ∉ old :: spent → t.refreshInFlight = s.refreshInFlight →
      t.token = s.token → Moves spent s t [.succeeded old] .asking (.setting new)
  | fail (next : Role) : next = .ending ∨ next = .clearing →
      t.refreshInFlight = s.refreshInFlight → t.token = s.token →
      Moves spent s t [] .asking next
  | store (token : String) (next : Role) : next = .ending ∨ next = .idle →
      t.refreshInFlight = s.refreshInFlight → t.token = some token →
      Moves spent s t [] (.setting token) next
  | erase : t.refreshInFlight = s.refreshInFlight → t.token = none →
      Moves spent s t [] .clearing .cleared
  | empty (next : Role) : next = .releasing ∨ next = .idle → t.refreshInFlight = none →
      t.token = s.token → Moves spent s t [] .cleared next
  | publish : t.refreshInFlight = s.refreshInFlight → t.token = s.token →
      Moves spent s t [] .ending .releasing
  | release : t.refreshInFlight = none → t.token = s.token →
      Moves spent s t [] .releasing .idle

def Pc.logs : Pc → Bool
  | .claim _ _ _ | .request _ => true
  | _ => false

section Moves

variable {decode : RefreshDecoder} {l : Ledger} {t : Store} {id : Nat} {env : Env}

theorem claim_moves {query : Query} {current : SessionPayload} {signIn : Nat}
    (task : l.store.tasks id = some (.claim query current signIn))
    (stored : claimsStored l (.advance id env) = true)
    (edge : resume decode l.store id env (.claim query current signIn) = some t) :
    ∃ next, t.tasks = Function.update l.store.tasks id (some next) ∧
      Moves (spentTokens l.events) l.store t (tokenEvents decode l.store (.advance id env))
        .idle next.role := by
  simp only [claimsStored, tokenEvents, task] at stored ⊢
  simp only [resume] at edge
  cases slot : l.store.refreshInFlight with
  | some channel =>
    simp only [slot, Option.isSome_some, if_true] at edge ⊢
    cases edge
    exact ⟨_, rfl, .stay _ rfl rfl⟩
  | none =>
    simp only [slot, Option.isSome_none, Bool.false_eq_true, if_false, Bool.false_or,
      beq_iff_eq] at edge stored ⊢
    cases edge
    exact ⟨_, rfl, .claim _ slot stored rfl rfl⟩

theorem request_moves {lead : Lead} (task : l.store.tasks id = some (.request lead))
    (rotated : rotates decode l (.advance id env) = true)
    (edge : resume decode l.store id env (.request lead) = some t) :
    ∃ next, t.tasks = Function.update l.store.tasks id (some next) ∧
      Moves (spentTokens l.events) l.store t (tokenEvents decode l.store (.advance id env))
        .asking next.role := by
  simp only [rotates, tokenEvents, task] at rotated ⊢
  simp only [resume] at edge
  cases answer : refreshPayload decode env.unixNow lead.current env.reply with
  | ok payload =>
    simp only [answer, decide_eq_true_eq] at edge rotated ⊢
    cases edge
    exact ⟨_, rfl, .renew _ _ rotated rfl rfl⟩
  | error error =>
    simp only [answer] at edge ⊢
    split at edge <;> cases edge
    · exact ⟨_, rfl, .fail _ (.inr rfl) rfl rfl⟩
    · exact ⟨_, rfl, .fail _ (.inl rfl) rfl rfl⟩

theorem setRead_moves {payload : SessionPayload} {origin : Origin} {spent : List String}
    (edge : resume decode l.store id env (.setRead payload origin) = some t) :
    ∃ next, t.tasks = Function.update l.store.tasks id (some next) ∧
      Moves spent l.store t [] (Pc.role (.setRead payload origin)) next.role := by
  simp only [resume] at edge
  split at edge
  · rename_i current same
    have matching : l.store.token = some payload.refreshToken := by
      obtain ⟨present, same⟩ := Option.filter_eq_some_iff.mp same
      simp only [sessionMatches, Bool.and_eq_true, beq_iff_eq] at same
      simp [Store.token, present, same]
    cases edge
    cases origin with
    | caller another => exact ⟨_, rfl, .store _ _ (.inr rfl) rfl matching⟩
    | refresh lead => exact ⟨_, rfl, .store _ _ (.inl rfl) rfl matching⟩
  · cases edge
    exact ⟨_, rfl, .stay _ rfl rfl⟩

theorem quiet_moves {pc : Pc} {spent : List String} (quiet : pc.logs = false)
    (edge : resume decode l.store id env pc = some t) :
    ∃ next, t.tasks = Function.update l.store.tasks id (some next) ∧
      Moves spent l.store t [] pc.role next.role := by
  cases pc with
  | claim query current signIn | request lead => cases quiet
  | setRead payload origin => exact setRead_moves edge
  | inFlightCheck query =>
    simp only [resume] at edge
    split at edge <;> cases edge <;> exact ⟨_, rfl, .stay _ rfl rfl⟩
  | watching channel =>
    obtain ⟨outcome, _, rfl⟩ := Option.map_eq_some_iff.mp edge
    exact ⟨_, rfl, .stay _ rfl rfl⟩
  | sessionRead query | sessionReread query =>
    simp only [resume, Store.unlessFresh] at edge
    split at edge
    · cases edge
      exact ⟨_, rfl, .stay _ rfl rfl⟩
    · split at edge <;> cases edge <;> exact ⟨_, rfl, .stay _ rfl rfl⟩
  | cooldownCheck query =>
    simp only [resume] at edge
    split at edge <;> cases edge <;> exact ⟨_, rfl, .stay _ rfl rfl⟩
  | setLock payload origin | clearLock cause | clearRead cause =>
    cases edge
    exact ⟨_, rfl, .stay _ rfl rfl⟩
  | setWrite payload updatedAt kind origin =>
    cases edge
    cases origin with
    | caller another => exact ⟨_, rfl, .store _ _ (.inr rfl) rfl rfl⟩
    | refresh lead => exact ⟨_, rfl, .store _ _ (.inl rfl) rfl rfl⟩
  | noteSuccess payload kind lead | clearState hadSession cause =>
    cases edge
    exact ⟨_, rfl, .stay _ rfl rfl⟩
  | readBack payload kind lead | noteFailure error lead =>
    cases edge
    exact ⟨_, rfl, .publish rfl rfl⟩
  | clearWrite hadSession cause =>
    cases edge
    exact ⟨_, rfl, .erase rfl rfl⟩
  | clearSlot hadSession cause =>
    cases edge
    cases cause with
    | none => exact ⟨_, rfl, .empty _ (.inr rfl) rfl rfl⟩
    | some cause => exact ⟨_, rfl, .empty _ (.inl rfl) rfl rfl⟩
  | release result =>
    cases edge
    exact ⟨_, rfl, .release rfl rfl⟩
  | done returned => cases edge

theorem resume_moves {pc : Pc} (task : l.store.tasks id = some pc)
    (stored : claimsStored l (.advance id env) = true)
    (rotated : rotates decode l (.advance id env) = true)
    (edge : resume decode l.store id env pc = some t) :
    ∃ next, t.tasks = Function.update l.store.tasks id (some next) ∧
      Moves (spentTokens l.events) l.store t (tokenEvents decode l.store (.advance id env))
        pc.role next.role := by
  cases pc with
  | claim query current signIn => exact claim_moves task stored edge
  | request lead => exact request_moves task rotated edge
  | _ =>
    simp only [tokenEvents, task]
    exact quiet_moves rfl edge

end Moves

/-- What the part of the one call in a refresh says of slot, stored token and spent tokens. -/
def Fits (spent : List String) (s : Store) : Role → Prop
  | .idle => ∀ token, s.token = some token → token ∉ spent
  | .asking | .ending | .clearing =>
      s.refreshInFlight.isSome = true ∧ ∀ token, s.token = some token → token ∉ spent
  | .setting token => s.refreshInFlight.isSome = true ∧ token ∉ spent
  | .cleared => s.refreshInFlight.isSome = true ∧ s.token = none
  | .releasing => (s.refreshInFlight.isSome = true ∨ s.token = none) ∧
      ∀ token, s.token = some token → token ∉ spent

/-- At most one call is in a refresh, and no spent token was sent. -/
structure OneLeader (l : Ledger) : Prop where
  leader : ∃ id, (∀ other, other ≠ id → l.store.role other = .idle) ∧
    Fits (spentTokens l.events) l.store (l.store.role id)
  once : SpentOnce l.events

theorem spentTokens_append (newer older : List TokenEvent) :
    spentTokens (newer ++ older) = spentTokens newer ++ spentTokens older :=
  List.filterMap_append

theorem mem_spentTokens {events : List TokenEvent} {token : String} :
    token ∈ spentTokens events ↔ .succeeded token ∈ events := by
  unfold spentTokens
  rw [List.mem_filterMap]
  constructor
  · rintro ⟨event, member, named⟩
    cases event with
    | sent _ => cases named
    | succeeded _ =>
      cases named
      exact member
  · exact fun member => ⟨_, member, rfl⟩

section

variable {spent : List String} {s t : Store} {events : List TokenEvent} {role next : Role}

theorem Fits.frame (h : Fits spent s role) (slot : t.refreshInFlight = s.refreshInFlight)
    (token : t.token = s.token) : Fits spent t role := by
  cases role <;> simpa only [Fits, slot, token] using h

theorem Moves.fits (h : Moves spent s t events role next) (fits : Fits spent s role) :
    Fits (spentTokens events ++ spent) t next := by
  cases h with
  | stay role slot token => exact fits.frame slot token
  | claim token empty stored slot kept =>
    refine ⟨slot, fun other held => fits other ?_⟩
    rw [← kept]
    exact held
  | renew old new fresh slot kept =>
    refine ⟨?_, fresh⟩
    rw [slot]
    exact fits.1
  | fail next which slot kept =>
    have asking : Fits spent t .asking := Fits.frame fits slot kept
    rcases which with rfl | rfl <;> exact asking
  | store token next which slot kept =>
    have clean : ∀ other, t.token = some other → other ∉ spent := by
      intro other held
      rw [kept, Option.some.injEq] at held
      exact held ▸ fits.2
    rcases which with rfl | rfl
    · exact ⟨slot ▸ fits.1, clean⟩
    · exact clean
  | erase slot erased => exact ⟨slot ▸ fits.1, erased⟩
  | empty next which slot kept =>
    have erased : t.token = none := kept.trans fits.2
    have clean : ∀ other, t.token = some other → other ∉ spent := by
      intro other held
      rw [erased] at held
      cases held
    rcases which with rfl | rfl
    · exact ⟨.inr erased, clean⟩
    · exact clean
  | publish slot kept =>
    obtain ⟨held, clean⟩ := fits
    refine ⟨.inl (slot ▸ held), ?_⟩
    rw [kept]
    exact clean
  | release slot kept =>
    intro other held
    rw [kept] at held
    exact fits.2 other held

theorem Moves.once {log : List TokenEvent}
    (h : Moves (spentTokens log) s t events role next) (fits : Fits (spentTokens log) s role)
    (once : SpentOnce log) : SpentOnce (events ++ log) := by
  cases h with
  | claim token empty stored slot kept =>
    refine List.pairwise_cons.mpr ⟨?_, once⟩
    rintro older member spent rfl sent
    cases sent
    exact fits token stored (mem_spentTokens.mpr member)
  | renew old new fresh slot kept =>
    exact List.pairwise_cons.mpr ⟨fun _ _ _ _ => nofun, once⟩
  | _ => exact once

theorem Moves.outside {leading : Role} (h : Moves spent s t events .idle next)
    (fits : Fits spent s leading) (busy : leading ≠ .idle) :
    events = [] ∧ next = .idle ∧ t.refreshInFlight = s.refreshInFlight ∧ t.token = s.token := by
  cases h with
  | stay role slot token => exact ⟨rfl, rfl, slot, token⟩
  | claim token empty stored slot kept =>
    cases leading <;> simp_all [Fits]

end

theorem oneLeader_resume {decode : RefreshDecoder} {l : Ledger} {t : Store} {id : Nat}
    {env : Env} {pc : Pc} (h : OneLeader l) (task : l.store.tasks id = some pc)
    (stored : claimsStored l (.advance id env) = true)
    (rotated : rotates decode l (.advance id env) = true)
    (edge : resume decode l.store id env pc = some t) :
    OneLeader ⟨t, tokenEvents decode l.store (.advance id env) ++ l.events⟩ := by
  obtain ⟨next, tasks, moves⟩ := resume_moves task stored rotated edge
  have before : l.store.role id = pc.role := by simp [Store.role, task]
  have after : t.role id = next.role := by simp [Store.role, tasks]
  have others : ∀ other, other ≠ id → t.role other = l.store.role other := by
    intro other different
    simp [Store.role, tasks, different]
  obtain ⟨leader, idle, fits⟩ := h.leader
  by_cases alone : (∀ other, other ≠ id → l.store.role other = .idle) ∧
      Fits (spentTokens l.events) l.store (l.store.role id)
  · obtain ⟨idle, fits⟩ := alone
    rw [before] at fits
    refine ⟨⟨id, fun other different => (others other different).trans (idle other different), ?_⟩,
      moves.once fits h.once⟩
    rw [after, spentTokens_append]
    exact moves.fits fits
  · -- somebody else leads, so the call stays outside
    have different : id ≠ leader := by
      rintro rfl
      exact alone ⟨idle, fits⟩
    have outside : pc.role = .idle := before.symm.trans (idle id different)
    have busy : l.store.role leader ≠ .idle := by
      intro also
      refine alone ⟨fun other _ => ?_, ?_⟩
      · by_cases same : other = leader
        · rw [same]
          exact also
        · exact idle other same
      · rw [idle id different]
        rw [also] at fits
        exact fits
    rw [outside] at moves
    obtain ⟨quiet, still, slot, token⟩ := moves.outside fits busy
    rw [quiet]
    refine ⟨⟨leader, fun other elsewhere => ?_, ?_⟩, h.once⟩
    · by_cases same : other = id
      · rw [same, after, still]
      · exact (others other same).trans (idle other elsewhere)
    · rw [others leader different.symm]
      exact fits.frame slot token

theorem oneLeader_poll {decode : RefreshDecoder} {l m : Ledger} {label : Label}
    (h : OneLeader l) (inside : refreshesOnly l label = true)
    (stored : claimsStored l label = true) (rotated : rotates decode l label = true)
    (edge : pollLogged decode l label = some m) : OneLeader m := by
  obtain ⟨t, step, rfl⟩ := Option.map_eq_some_iff.mp edge
  cases poll_cases step with
  | begins id call absent =>
    have roles : ∀ other, (l.store.go id call.start).role other = l.store.role other := by
      intro other
      by_cases same : other = id
      · subst same
        cases call with
        | refreshIfNeeded query => simp [Store.role, absent, Call.start, Pc.role]
        | setSession payload another => cases inside
        | clearSession => cases inside
      · simp [Store.role, same]
    obtain ⟨leader, idle, fits⟩ := h.leader
    refine ⟨⟨leader, fun other elsewhere => (roles other).trans (idle other elsewhere), ?_⟩,
      h.once⟩
    rw [roles]
    exact fits.frame rfl rfl
  | resumes id env pc task ready step =>
    exact oneLeader_resume h task stored rotated step

def resting (session : Option SessionPayload) (updateCounter : UInt64)
    (lastFailureAt : Option Nat) : Store :=
  { session := session, updateCounter := updateCounter, lastFailureAt := lastFailureAt }

/-- In a run of refreshes whose leaders still find the token they have read in the store, and
whose server brings new tokens, no token is sent again once it is spent. -/
theorem run_spentOnce {decode : RefreshDecoder} {session : Option SessionPayload}
    {updateCounter : UInt64} {lastFailureAt : Option Nat} {labels : List Label} {l : Ledger}
    (run : Run (Guarded (fun l label => refreshesOnly l label = true ∧
      claimsStored l label = true ∧ rotates decode l label = true) (Steps (pollLogged decode)))
      ⟨resting session updateCounter lastFailureAt, []⟩ labels l) : SpentOnce l.events := by
  have initial : OneLeader ⟨resting session updateCounter lastFailureAt, []⟩ :=
    ⟨⟨0, fun _ _ => rfl, fun _ _ => List.not_mem_nil⟩, List.Pairwise.nil⟩
  have leads : OneLeader l := run.invariant initial
    (fun l label m h step => oneLeader_poll h step.2.1 step.2.2.1 step.2.2.2 step.1)
  exact leads.once

/-! A server that brings a new token with every refresh. -/

def rotatedBody : String :=
  "\x7b\"access_token\":\"new\",\"refresh_token\":\"refresh-2\"\x7d"

def rotatingDecode : RefreshDecoder := fun body =>
  if body = rotatedBody then .ok ⟨"new", some "refresh-2", none, none, none⟩
  else .error "missing field"

def rotatedReply : Env where
  unixNow := 1000
  instant := 0
  reply := .responded ⟨200, Wire.Http.valid_200⟩ (.ok rotatedBody)

def alreadyUsed : Env where
  unixNow := 1000
  instant := 0
  reply := .responded ⟨400, Wire.Http.valid_400⟩ (.ok "refresh_token_already_used")

def aliceSignedIn : Ledger := ⟨resting (some (expiredSession "alice")) 1 none, []⟩

def readsSession (id : Nat) : List Label :=
  advances id 4 rotatedReply ++ [.call id (ensureFresh 60)]

/-- One call refreshes after another, each from what the one before has stored. -/
theorem run_spentOnce_in_turn :
    ∃ l : Ledger, l.events = [.sent "refresh-2", .succeeded "refresh", .sent "refresh"] ∧
      SpentOnce l.events := by
  let labels : List Label :=
    advances 2 5 rotatedReply ++ [.call 2 forceRefresh] ++ advances 1 8 rotatedReply ++
      readsSession 1
  have logged : (execute (restrict (fun l label => decide (refreshesOnly l label = true ∧
      claimsStored l label = true ∧ rotates rotatingDecode l label = true))
      (pollLogged rotatingDecode)) aliceSignedIn labels).map Ledger.events =
        some [.sent "refresh-2", .succeeded "refresh", .sent "refresh"] := by decide
  obtain ⟨l, computed, events⟩ := Option.map_eq_some_iff.mp logged
  exact ⟨l, events, run_spentOnce (guarded_of_execute_decide computed)⟩

/-- Two calls read the session before either claims the slot. The second claims it when the
first is done, sends the spent token, and signs the user out. -/
theorem stale_leader_spends_again :
    ∃ labels, ∃ l : Ledger,
      Run (Guarded (fun l label => refreshesOnly l label = true)
        (Steps (pollLogged rotatingDecode))) aliceSignedIn labels l ∧
      l.events = [.sent "refresh", .succeeded "refresh", .sent "refresh"] ∧
      l.store.session = none ∧ ¬ SpentOnce l.events := by
  let labels : List Label :=
    advances 2 8 alreadyUsed ++ advances 1 8 rotatedReply ++ readsSession 2 ++ readsSession 1
  have logged : (execute (restrict refreshesOnly (pollLogged rotatingDecode)) aliceSignedIn
      labels).map (fun l => (l.events, l.store.session)) =
      some ([.sent "refresh", .succeeded "refresh", .sent "refresh"], none) := by decide
  obtain ⟨l, computed, outcome⟩ := Option.map_eq_some_iff.mp logged
  obtain ⟨events, session⟩ := Prod.mk.inj outcome
  refine ⟨labels, l, guarded_of_execute computed, events, session, ?_⟩
  intro once
  rw [events] at once
  have newest := (List.pairwise_cons.mp once).1
  exact newest (.succeeded "refresh") List.mem_cons_self "refresh" rfl rfl

end Polykit.Auth.Machine
