/- Module: Polykit/Realtime/Supervisor
   generality: I
   source: crates/polybase/src/realtime/mod.rs
   digest: The loop that keeps a realtime connection up, and what stops or hurries it. -/

import Mathlib.Data.Rat.Floor
import Polykit.Auth.Machine
import Polykit.Lib.Broadcast
import Polykit.Lib.History
import Polykit.OfflineQueue.Memory

set_option autoImplicit false
set_option relaxedAutoImplicit false

namespace Polykit.Realtime.Supervisor

open Auth.Machine Lib.History Lib.Latest Lib.Runs OfflineQueue.Memory

inductive DisconnectReason
  | channelClosed | websocketError | heartbeatTimeout | livenessTimeout | manual
  deriving DecidableEq

inductive LifecycleEvent
  | connected
  | disconnected (reason : DisconnectReason)
  | reconnected
  deriving DecidableEq

inductive RealtimeError
  | connectFailed (detail : String)
  | subscribeFailed (detail : String)
  | alreadySubscribed
  | closed
  | authRefreshFailed (detail : String)
  deriving DecidableEq

def millis (n : Nat) : Nat := n * 10 ^ 6

/-- Durations are in nanoseconds. The jitter is an `f64` that is a number. -/
structure TransportConfig where
  heartbeatInterval : Nat := millis 20000
  heartbeatReplyTimeout : Nat := millis 10000
  livenessTimeout : Nat := millis 30000
  livenessProbeTimeout : Nat := millis 5000
  initialReconnectDelay : Nat := millis 250
  backoffLadder : List Nat := [500, 1000, 2000, 5000, 10000, 30000].map millis
  backoffJitter : ℚ := 1 / 5

/-- What a random generator answers in the unit interval. -/
structure UnitSample where
  value : ℚ
  nonneg : 0 ≤ value
  below : value < 1

instance : Inhabited UnitSample := ⟨⟨0, le_refl 0, zero_lt_one⟩⟩

def genRange (sample : UnitSample) (low high : ℚ) : ℚ := low + (high - low) * sample.value

/-- The arithmetic is exact where the source rounds to an `f64`. The cast to `u64` drops the
fraction and stops at the largest value. -/
def applyJitter (sample : UnitSample) (base : Nat) (jitter : ℚ) : Nat :=
  if jitter ≤ 0 then base
  else
    let jitter := min (max jitter 0) 1
    let multiplier := 1 + genRange sample (-jitter) jitter
    let nanos := max ((base : ℚ) / 1000000000 * multiplier) 0 * 1000000000
    min ⌊nanos⌋₊ (2 ^ 64 - 1)

def computeBackoffDelay (config : TransportConfig) (sample : UnitSample)
    (consecutiveFailures : UInt32) : Nat :=
  let base :=
    if consecutiveFailures = 0 then config.initialReconnectDelay
    else
      let idx := (consecutiveFailures - 1).toNat
      let last := config.backoffLadder.length - 1
      let clamped := min idx last
      config.backoffLadder[clamped]?.getD (millis 30000)
  applyJitter sample base config.backoffJitter

theorem genRange_band (sample : UnitSample) {low high : ℚ} (h : low < high) :
    low ≤ genRange sample low high ∧ genRange sample low high < high := by
  have wide : 0 < high - low := sub_pos.mpr h
  have least : 0 ≤ (high - low) * sample.value := mul_nonneg wide.le sample.nonneg
  have most : (high - low) * sample.value < (high - low) * 1 :=
    mul_lt_mul_of_pos_left sample.below wide
  unfold genRange
  constructor <;> linarith

/-- The delay stays within the jitter's share of its base, up to the dropped fraction. -/
theorem applyJitter_band (sample : UnitSample) {base : Nat} (short : base * 2 < 2 ^ 64)
    (jitter : ℚ) :
    (base : ℚ) * (1 - min (max jitter 0) 1) - 1 < applyJitter sample base jitter ∧
      (applyJitter sample base jitter : ℚ) ≤ base * (1 + min (max jitter 0) 1) := by
  unfold applyJitter
  split
  · rename_i none
    rw [max_eq_right none, min_eq_left zero_le_one]
    constructor <;> linarith
  · rename_i some
    dsimp only
    have positive : 0 < min (max jitter 0) 1 :=
      lt_min (lt_max_of_lt_left (not_le.mp some)) zero_lt_one
    have atMost : min (max jitter 0) 1 ≤ 1 := min_le_right _ _
    generalize min (max jitter 0) 1 = share at positive atMost
    obtain ⟨least, most⟩ := genRange_band sample (neg_lt_self positive)
    generalize genRange sample (-share) share = draw at least most
    have base_nonneg : (0 : ℚ) ≤ base := Nat.cast_nonneg base
    have exact_nanos : max ((base : ℚ) / 1000000000 * (1 + draw)) 0 * 1000000000 =
        base * (1 + draw) := by
      rw [max_eq_left (mul_nonneg (by positivity) (by linarith))]
      ring
    have lower : (base : ℚ) * (1 - share) ≤ base * (1 + draw) :=
      mul_le_mul_of_nonneg_left (by linarith) base_nonneg
    have upper : (base : ℚ) * (1 + draw) ≤ base * (1 + share) :=
      mul_le_mul_of_nonneg_left (by linarith) base_nonneg
    have nonneg : (0 : ℚ) ≤ base * (1 + draw) := mul_nonneg base_nonneg (by linarith)
    have floor_le := Nat.floor_le nonneg
    have lt_floor := Nat.lt_floor_add_one ((base : ℚ) * (1 + draw))
    have doubled : (base : ℚ) * (1 + share) ≤ ((base * 2 : Nat) : ℚ) := by
      push_cast
      exact mul_le_mul_of_nonneg_left (by linarith) base_nonneg
    have fits : ⌊(base : ℚ) * (1 + draw)⌋₊ ≤ 2 ^ 64 - 1 := by
      have bounded : ⌊(base : ℚ) * (1 + draw)⌋₊ ≤ base * 2 := by
        exact_mod_cast floor_le.trans (upper.trans doubled)
      omega
    rw [exact_nanos, min_eq_left fits]
    constructor <;> linarith

/-- One connection as its supervisor sees it: how `connect` leaves it, what its tasks do, and
what its disconnect channel yields. A channel that all its senders have left yields `none`. -/
structure Connections (Conn Event : Type) where
  opened : (instant : Nat) → (accessToken : String) → Conn
  step : Conn → Event → Option Conn
  recv : Conn → Option (Option DisconnectReason)

inductive Phase (Conn : Type)
  | check
  | ensureFresh
  | connecting (accessToken : String)
  | session (conn : Conn) (seen : Nat)
  | sleeping (delay : Nat) (bump : Bool)
  | exited

/-- What happens in a run, for its log. A sleep also says whether its turn went without an
attempt. -/
inductive Happening (Event : Type)
  | attempt
  | failed
  | slept (delay : Nat) (skipped : Bool)
  | published (event : LifecycleEvent)
  | inner (event : Event)
  | signalled
  | dropped
  deriving DecidableEq

/-- The supervisor, its shutdown channel and the log of its run, newest first. -/
structure State (Conn Event : Type) where
  shutdown : Watch Bool := { value := false }
  seen : Nat := 0
  phase : Phase Conn := .check
  consecutiveFailures : UInt32 := 0
  hadPriorConnection : Bool := false
  log : List (Happening Event) := []

/-- The steps of the supervisor and of its connection's tasks, the signal of `unsubscribe`, and
the end of the sender, with that of `unsubscribe` or of the transport. -/
inductive Label (Event : Type)
  | check
  | refreshed (result : RefreshResult) (sample : UnitSample)
  | connected (result : Except RealtimeError Nat) (sample : UnitSample)
  | inner (event : Event)
  | disconnected (sample : UnitSample)
  | sessionChanged (sample : UnitSample)
  | slept
  | sleepChanged
  | signal
  | dropSender

variable {Conn Event : Type}

def State.record (s : State Conn Event) (happening : Happening Event) : State Conn Event :=
  { s with log := happening :: s.log }

def State.go (s : State Conn Event) (phase : Phase Conn) : State Conn Event :=
  { s with phase := phase }

def State.bump (s : State Conn Event) : State Conn Event :=
  { s with consecutiveFailures := saturatingSucc s.consecutiveFailures }

/-- `sleep_with_backoff` begins. `bump` says whether the failure is counted after the sleep. -/
def State.sleep (s : State Conn Event) (config : TransportConfig) (sample : UnitSample)
    (bump : Bool) : State Conn Event :=
  s.go (.sleeping (computeBackoffDelay config sample s.consecutiveFailures) bump)

def State.wake (s : State Conn Event) (bump : Bool) : State Conn Event :=
  if bump then s.bump.go .check else s.go .check

def State.ended (s : State Conn Event) (config : TransportConfig) (sample : UnitSample)
    (reason : DisconnectReason) : State Conn Event :=
  if reason = .manual then (s.record (.published (.disconnected reason))).go .exited
  else (s.record (.published (.disconnected reason))).sleep config sample false

/-- The shutdown arm of the connection's `run`. -/
def sessionReason (w : Watch Bool) : Changed → DisconnectReason
  | .seen _ => if w.value then .manual else .channelClosed
  | .senderDropped => .channelClosed

def State.established (s : State Conn Event) (conn : Conn) : State Conn Event :=
  { s with
    consecutiveFailures := 0
    hadPriorConnection := true
    phase := .session conn s.seen
    log := .published (if s.hadPriorConnection then .reconnected else .connected) :: s.log }

/-- One step. The stretch from a successful connect to the wait in its `run` has no await. -/
def poll (connections : Connections Conn Event) (config : TransportConfig) (s : State Conn Event)
    (label : Label Event) : Option (State Conn Event) :=
  match label, s.phase with
  | .check, .check =>
      if s.shutdown.value then some (s.go .exited) else some (s.go .ensureFresh)
  | .refreshed (.ok (some result)) _, .ensureFresh =>
      some ((s.record .attempt).go (.connecting result.session.accessToken))
  | .refreshed _ sample, .ensureFresh => some (s.sleep config sample true)
  | .connected (.ok instant) _, .connecting accessToken =>
      some (s.established (connections.opened instant accessToken))
  | .connected (.error _) sample, .connecting _ =>
      some ((s.record .failed).bump.sleep config sample false)
  | .inner event, .session conn seen =>
      (connections.step conn event).map (fun conn =>
        (s.record (.inner event)).go (.session conn seen))
  | .disconnected sample, .session conn _ =>
      (connections.recv conn).map (fun reason =>
        s.ended config sample (reason.getD .channelClosed))
  | .sessionChanged sample, .session _ seen =>
      (s.shutdown.changed seen).map (fun changed =>
        s.ended config sample (sessionReason s.shutdown changed))
  | .slept, .sleeping delay bump => some ((s.record (.slept delay bump)).wake bump)
  | .sleepChanged, .sleeping _ bump =>
      match s.shutdown.changed s.seen with
      | some (.seen version) =>
          if s.shutdown.value then some ({ s with seen := version }.go .exited)
          else some ({ s with seen := version }.wake bump)
      | some .senderDropped => some (s.wake bump)
      | none => none
  | .signal, _ =>
      if s.shutdown.value || s.shutdown.closed then none
      else some { s.record .signalled with shutdown := s.shutdown.send true }
  | .dropSender, _ =>
      if s.shutdown.closed then none
      else some { s.record .dropped with shutdown := s.shutdown.dropSender }
  | _, _ => none

/-! What one step does. -/

/-- The steps that `poll` allows, each with what it asks of the state. -/
inductive Moves (connections : Connections Conn Event) (config : TransportConfig)
    (s : State Conn Event) : Label Event → State Conn Event → Prop
  | stop (here : s.phase = .check) (told : s.shutdown.value = true) :
      Moves connections config s .check (s.go .exited)
  | proceed (here : s.phase = .check) (quiet : s.shutdown.value = false) :
      Moves connections config s .check (s.go .ensureFresh)
  | attempt (result : Auth.EnsureFreshResult) (sample : UnitSample) (here : s.phase = .ensureFresh) :
      Moves connections config s (.refreshed (.ok (some result)) sample)
        ((s.record .attempt).go (.connecting result.session.accessToken))
  | skip (result : RefreshResult) (sample : UnitSample) (here : s.phase = .ensureFresh) :
      Moves connections config s (.refreshed result sample) (s.sleep config sample true)
  | establish (instant : Nat) (sample : UnitSample) (accessToken : String)
      (here : s.phase = .connecting accessToken) :
      Moves connections config s (.connected (.ok instant) sample)
        (s.established (connections.opened instant accessToken))
  | fail (error : RealtimeError) (sample : UnitSample) (accessToken : String)
      (here : s.phase = .connecting accessToken) :
      Moves connections config s (.connected (.error error) sample)
        ((s.record .failed).bump.sleep config sample false)
  | inner (event : Event) (conn next : Conn) (seen : Nat) (here : s.phase = .session conn seen) :
      Moves connections config s (.inner event)
        ((s.record (.inner event)).go (.session next seen))
  | disconnected (conn : Conn) (seen : Nat) (sample : UnitSample) (reason : DisconnectReason)
      (here : s.phase = .session conn seen) :
      Moves connections config s (.disconnected sample) (s.ended config sample reason)
  | sessionChanged (conn : Conn) (seen : Nat) (sample : UnitSample) (reason : DisconnectReason)
      (here : s.phase = .session conn seen) :
      Moves connections config s (.sessionChanged sample) (s.ended config sample reason)
  | slept (delay : Nat) (bump : Bool) (here : s.phase = .sleeping delay bump) :
      Moves connections config s .slept ((s.record (.slept delay bump)).wake bump)
  | told (delay : Nat) (bump : Bool) (version : Nat) (here : s.phase = .sleeping delay bump)
      (value : s.shutdown.value = true) :
      Moves connections config s .sleepChanged ({ s with seen := version }.go .exited)
  | hurried (delay : Nat) (bump : Bool) (seen : Nat) (changed : Changed)
      (here : s.phase = .sleeping delay bump) (news : s.shutdown.changed s.seen = some changed)
      (value : s.shutdown.value = false ∨ changed = .senderDropped) :
      Moves connections config s .sleepChanged ({ s with seen := seen }.wake bump)
  | signal (quiet : s.shutdown.value = false) (opened : s.shutdown.closed = false) :
      Moves connections config s .signal
        { s.record .signalled with shutdown := s.shutdown.send true }
  | dropSender (opened : s.shutdown.closed = false) :
      Moves connections config s .dropSender
        { s.record .dropped with shutdown := s.shutdown.dropSender }

theorem moves_of_poll {connections : Connections Conn Event} {config : TransportConfig}
    {s t : State Conn Event} {label : Label Event}
    (edge : poll connections config s label = some t) : Moves connections config s label t := by
  unfold poll at edge
  split at edge
  · rename_i here
    split at edge
    · rename_i told
      cases edge
      exact .stop here told
    · rename_i quiet
      cases edge
      exact .proceed here (by simpa using quiet)
  · rename_i here
    cases edge
    exact .attempt _ _ here
  · rename_i here
    cases edge
    exact .skip _ _ here
  · rename_i here
    cases edge
    exact .establish _ _ _ here
  · rename_i here
    cases edge
    exact .fail _ _ _ here
  · rename_i here
    obtain ⟨conn, _, rfl⟩ := Option.map_eq_some_iff.mp edge
    exact .inner _ _ conn _ here
  · rename_i here
    obtain ⟨reason, _, rfl⟩ := Option.map_eq_some_iff.mp edge
    exact .disconnected _ _ _ _ here
  · rename_i here
    obtain ⟨changed, _, rfl⟩ := Option.map_eq_some_iff.mp edge
    exact .sessionChanged _ _ _ _ here
  · rename_i here
    cases edge
    exact .slept _ _ here
  · rename_i here
    split at edge
    · rename_i version news
      split at edge
      · rename_i value
        cases edge
        exact .told _ _ version here value
      · rename_i quiet
        cases edge
        exact .hurried _ _ version _ here news (.inl (by simpa using quiet))
    · rename_i news
      cases edge
      exact .hurried _ _ s.seen _ here news (.inr rfl)
    · cases edge
  · split at edge
    · cases edge
    · rename_i fresh
      simp only [Bool.or_eq_true, not_or, Bool.not_eq_true] at fresh
      cases edge
      exact .signal fresh.1 fresh.2
  · split at edge
    · cases edge
    · rename_i opened
      cases edge
      exact .dropSender (by simpa using opened)
  · cases edge

/-! What a run should come to. -/

def Happening.isAttempt : Happening Event → Bool
  | .attempt => true
  | _ => false

def Happening.isSleep : Happening Event → Bool
  | .slept _ _ => true
  | _ => false

/-- `unsubscribe` was called, or the sender went with the transport. -/
def Happening.isTold : Happening Event → Bool
  | .signalled | .dropped => true
  | _ => false

def Happening.isAlive : Happening Event → Bool
  | .published .connected | .published .reconnected => true
  | _ => false

/-- A turn of the loop came to no connection: the connect failed, or there was no session. -/
def Happening.isFailure : Happening Event → Bool
  | .failed => true
  | .slept _ skipped => skipped
  | _ => false

def failures (log : List (Happening Event)) : Nat :=
  countSince Happening.isFailure Happening.isAlive log

/-- The counter is 32 bits wide and stays at its end. -/
def Counted (log : List (Happening Event)) (consecutiveFailures : UInt32) : Prop :=
  consecutiveFailures.toNat = min (failures log) (2 ^ 32 - 1)

/-- A delay that is due after this log, whatever the random generator answers. -/
def IsBackoff (config : TransportConfig) (log : List (Happening Event)) (delay : Nat) : Prop :=
  ∃ sample consecutiveFailures, Counted log consecutiveFailures ∧
    delay = computeBackoffDelay config sample consecutiveFailures

/-- Between two attempts the supervisor sleeps the backoff delay of its failures to the end, and
once it was told to stop it starts at most one more. -/
structure Calm (config : TransportConfig) (log : List (Happening Event)) : Prop where
  spaced : Spaced Happening.isAttempt Happening.isSleep log
  delays : ∀ newer delay skipped older, log = newer ++ .slept delay skipped :: older →
    IsBackoff config older delay
  told : AtMostSince Happening.isAttempt Happening.isTold 1 log

/-- The sender goes only after `unsubscribe` has signalled. -/
def dropsSignalled (s : State Conn Event) : Label Event → Bool
  | .dropSender => s.shutdown.value
  | _ => true

def AtPhase (config : TransportConfig) (log : List (Happening Event)) : Phase Conn → Prop
  | .check => Rested Happening.isAttempt Happening.isSleep log
  | .ensureFresh => Rested Happening.isAttempt Happening.isSleep log ∧
      AtMostSince Happening.isAttempt Happening.isTold 0 log
  | .session _ seen => seen = 0
  | .sleeping delay _ => IsBackoff config log delay
  | .connecting _ | .exited => True

/-- The shutdown channel of a run: at most one value was sent, none was seen by a supervisor that
still runs, and without it nobody was told to stop. -/
structure Signals (s : State Conn Event) : Prop where
  version : s.shutdown.version = if s.shutdown.value then 1 else 0
  unseen : s.phase ≠ .exited → s.seen = 0
  closed : s.shutdown.closed = true → s.shutdown.value = true
  untold : s.shutdown.value = false → ∀ entry ∈ s.log, entry.isTold = false

structure Steady (config : TransportConfig) (s : State Conn Event) : Prop where
  signals : Signals s
  counted : Counted s.log s.consecutiveFailures
  phase : AtPhase config s.log s.phase
  calm : Calm config s.log

section

variable {connections : Connections Conn Event} {config : TransportConfig}
  {s t : State Conn Event} {entry : Happening Event} {log : List (Happening Event)}

theorem Counted.cons {count : UInt32} (h : Counted log count) (other : entry.isFailure = false)
    (quiet : entry.isAlive = false) : Counted (entry :: log) count := by
  rw [Counted, failures, countSince_cons, quiet, other]
  exact h

theorem Counted.failure {count : UInt32} (h : Counted log count) (failed : entry.isFailure = true)
    (quiet : entry.isAlive = false) : Counted (entry :: log) (saturatingSucc count) := by
  rw [Counted, failures, countSince_cons, quiet, failed]
  exact saturatingSucc_toNat h

theorem counted_alive (alive : entry.isAlive = true) : Counted (entry :: log) 0 := by
  rw [Counted, failures, countSince_cons, alive]
  rfl

theorem IsBackoff.cons {delay : Nat} (h : IsBackoff config log delay)
    (other : entry.isFailure = false) (quiet : entry.isAlive = false) :
    IsBackoff config (entry :: log) delay := by
  obtain ⟨sample, count, counted, rfl⟩ := h
  exact ⟨sample, count, counted.cons other quiet, rfl⟩

theorem Calm.cons (h : Calm config log) (other : entry.isAttempt = false)
    (delay : ∀ delay skipped, entry = .slept delay skipped → IsBackoff config log delay) :
    Calm config (entry :: log) where
  spaced := h.spaced.cons (fun attempt => by simp [other] at attempt)
  delays newer found skipped older split := by
    rcases split_cons split with ⟨rfl, same, rfl⟩ | ⟨rest, rfl, shorter⟩
    · exact delay found skipped same
    · exact h.delays rest found skipped older shorter
  told := h.told.cons other

theorem Calm.attempt (h : Calm config log)
    (rested : Rested Happening.isAttempt Happening.isSleep log)
    (first : AtMostSince Happening.isAttempt Happening.isTold 0 log) :
    Calm config (.attempt :: log) where
  spaced := h.spaced.cons (fun _ => rested)
  delays newer found skipped older split := by
    rcases split_cons split with ⟨rfl, same, rfl⟩ | ⟨rest, rfl, shorter⟩
    · cases same
    · exact h.delays rest found skipped older shorter
  told := first.cons_succ

theorem AtPhase.cons {phase : Phase Conn} (h : AtPhase config log phase)
    (other : entry.isAttempt = false) (fine : entry.isFailure = false)
    (quiet : entry.isAlive = false) : AtPhase config (entry :: log) phase := by
  cases phase with
  | check => exact Rested.cons h other
  | ensureFresh => exact ⟨h.1.cons other, h.2.cons other⟩
  | sleeping delay bump => exact IsBackoff.cons h fine quiet
  | _ => exact h

theorem Signals.advance (h : Signals s) (active : s.phase ≠ .exited)
    (shutdown : t.shutdown = s.shutdown) (seen : t.phase ≠ .exited → t.seen = s.seen)
    (log : ∀ entry ∈ t.log, entry ∈ s.log ∨ entry.isTold = false) : Signals t where
  version := by
    rw [shutdown]
    exact h.version
  unseen running := (seen running).trans (h.unseen active)
  closed := by
    rw [shutdown]
    exact h.closed
  untold := by
    rw [shutdown]
    intro quiet entry member
    rcases log entry member with old | untold
    · exact h.untold quiet entry old
    · exact untold

theorem Signals.changed_iff (h : Signals s) (changed : Changed) :
    s.shutdown.changed 0 = some changed ↔ s.shutdown.value = true ∧ changed = .seen 1 := by
  have version := h.version
  cases value : s.shutdown.value with
  | true =>
    rw [value, if_pos rfl] at version
    rw [changed_of_unseen (by omega), version]
    simp [eq_comm]
  | false =>
    rw [value] at version
    have opened : s.shutdown.closed = false := by
      by_contra also
      have told := h.closed (by simpa using also)
      simp [value] at told
    simp [Watch.changed, version, opened]

theorem Steady.quietly (h : Steady config s) (active : s.phase ≠ .exited)
    (shutdown : t.shutdown = s.shutdown) (seen : t.phase ≠ .exited → t.seen = s.seen)
    (log : t.log = s.log) (count : t.consecutiveFailures = s.consecutiveFailures)
    (phase : AtPhase config s.log t.phase) : Steady config t where
  signals := h.signals.advance active shutdown seen (fun entry member => .inl (log ▸ member))
  counted := by
    rw [log, count]
    exact h.counted
  phase := by
    rw [log]
    exact phase
  calm := by
    rw [log]
    exact h.calm

theorem Steady.logging (h : Steady config s) (active : s.phase ≠ .exited)
    (shutdown : t.shutdown = s.shutdown) (seen : t.phase ≠ .exited → t.seen = s.seen)
    (log : t.log = entry :: s.log) (untold : entry.isTold = false)
    (counted : Counted (entry :: s.log) t.consecutiveFailures)
    (calm : Calm config (entry :: s.log)) (phase : AtPhase config (entry :: s.log) t.phase) :
    Steady config t where
  signals := by
    refine h.signals.advance active shutdown seen (fun found member => ?_)
    rw [log] at member
    rcases List.mem_cons.mp member with rfl | old
    · exact .inr untold
    · exact .inl old
  counted := by
    rw [log]
    exact counted
  phase := by
    rw [log]
    exact phase
  calm := by
    rw [log]
    exact calm

theorem Counted.isBackoff {count : UInt32} (h : Counted log count) (config : TransportConfig)
    (sample : UnitSample) : IsBackoff config log (computeBackoffDelay config sample count) :=
  ⟨sample, count, h, rfl⟩

theorem Steady.ended (h : Steady config s) (active : s.phase ≠ .exited) (sample : UnitSample)
    (reason : DisconnectReason) : Steady config (s.ended config sample reason) := by
  have calm : Calm config (.published (.disconnected reason) :: s.log) :=
    h.calm.cons rfl (fun _ _ => nofun)
  have counted : Counted (.published (.disconnected reason) :: s.log) s.consecutiveFailures :=
    h.counted.cons rfl rfl
  unfold State.ended
  split
  · exact h.logging active rfl (fun running => absurd rfl running) rfl rfl counted calm trivial
  · exact h.logging active rfl (fun _ => rfl) rfl rfl counted calm (counted.isBackoff config sample)

theorem Steady.slept {delay : Nat} {bump : Bool} (h : Steady config s)
    (here : s.phase = .sleeping delay bump) :
    Steady config ((s.record (.slept delay bump)).wake bump) := by
  have active : s.phase ≠ .exited := by simp [here]
  have due : IsBackoff config s.log delay := by
    have phase := h.phase
    rw [here] at phase
    exact phase
  have calm : Calm config (.slept delay bump :: s.log) := by
    refine h.calm.cons rfl (fun found skipped same => ?_)
    cases same
    exact due
  have rested : Rested Happening.isAttempt Happening.isSleep (.slept delay bump :: s.log) :=
    rested_cons rfl rfl
  cases bump with
  | false =>
    exact h.logging active rfl (fun _ => rfl) rfl rfl (h.counted.cons rfl rfl) calm rested
  | true =>
    exact h.logging active rfl (fun _ => rfl) rfl rfl (h.counted.failure rfl rfl) calm rested

theorem steady_poll {label : Label Event} (h : Steady config s)
    (signalled : dropsSignalled s label = true)
    (edge : poll connections config s label = some t) : Steady config t := by
  obtain ⟨signals, counted, phase, calm⟩ := id h
  have active : ∀ phase : Phase Conn, s.phase = phase → phase ≠ .exited → s.phase ≠ .exited :=
    fun _ here running => here ▸ running
  cases moves_of_poll edge with
  | stop here told =>
    exact h.quietly (active _ here nofun) rfl (fun running => absurd rfl running) rfl rfl trivial
  | proceed here quiet =>
    rw [here] at phase
    have untold := signals.untold quiet
    exact h.quietly (active _ here nofun) rfl (fun _ => rfl) rfl rfl
      ⟨phase, atMostSince_of_none untold⟩
  | attempt result sample here =>
    rw [here] at phase
    exact h.logging (active _ here nofun) rfl (fun _ => rfl) rfl rfl (counted.cons rfl rfl)
      (calm.attempt phase.1 phase.2) trivial
  | skip result sample here =>
    exact h.quietly (active _ here nofun) rfl (fun _ => rfl) rfl rfl
      (counted.isBackoff config sample)
  | establish instant sample accessToken here =>
    have alive : ∀ prior : Bool, (Happening.published
        (if prior then .reconnected else .connected) : Happening Event).isAlive = true := by
      intro prior
      cases prior <;> rfl
    exact h.logging (active _ here nofun) rfl (fun _ => rfl) rfl rfl (counted_alive (alive _))
      (calm.cons rfl (fun _ _ => nofun)) (signals.unseen (active _ here nofun))
  | fail error sample accessToken here =>
    have failed : Counted (.failed :: s.log) (saturatingSucc s.consecutiveFailures) :=
      counted.failure rfl rfl
    exact h.logging (active _ here nofun) rfl (fun _ => rfl) rfl rfl failed
      (calm.cons rfl (fun _ _ => nofun)) (failed.isBackoff config sample)
  | inner event conn next seen here =>
    rw [here] at phase
    exact h.logging (active _ here nofun) rfl (fun _ => rfl) rfl rfl (counted.cons rfl rfl)
      (calm.cons rfl (fun _ _ => nofun)) phase
  | disconnected conn seen sample reason here => exact h.ended (active _ here nofun) sample reason
  | sessionChanged conn seen sample reason here =>
    exact h.ended (active _ here nofun) sample reason
  | slept delay bump here => exact h.slept here
  | told delay bump version here value =>
    exact h.quietly (active _ here nofun) rfl (fun running => absurd rfl running) rfl rfl trivial
  | hurried delay bump seen changed here news value =>
    -- the sender goes after the signal only, so the one thing to be heard is the signal
    rw [signals.unseen (active _ here nofun)] at news
    obtain ⟨told, rfl⟩ := (signals.changed_iff changed).mp news
    simp [told] at value
  | signal quiet opened =>
    have version := signals.version
    rw [quiet] at version
    have sent : Signals { s.record .signalled with shutdown := s.shutdown.send true } :=
      { version := congrArg (· + 1) version
        unseen := signals.unseen
        closed := fun _ => rfl
        untold := nofun }
    exact ⟨sent, counted.cons rfl rfl, phase.cons rfl rfl rfl, calm.cons rfl (fun _ _ => nofun)⟩
  | dropSender opened =>
    have told : s.shutdown.value = true := signalled
    have gone : Signals { s.record .dropped with shutdown := s.shutdown.dropSender } :=
      { version := signals.version
        unseen := signals.unseen
        closed := fun _ => told
        untold := fun quiet => by
          have contrary : s.shutdown.value = false := quiet
          rw [told] at contrary
          cases contrary }
    exact ⟨gone, counted.cons rfl rfl, phase.cons rfl rfl rfl, calm.cons rfl (fun _ _ => nofun)⟩

end

/-- As long as the sender goes only after its signal, every run is calm, whatever the sessions,
the connects and the disconnects do. -/
theorem run_calm {connections : Connections Conn Event} {config : TransportConfig}
    {labels : List (Label Event)} {s : State Conn Event}
    (run : Run (Guarded (fun s label => dropsSignalled s label = true)
      (Steps (poll connections config))) {} labels s) : Calm config s.log := by
  have initial : Steady config ({} : State Conn Event) := by
    refine ⟨⟨rfl, fun _ => rfl, nofun, fun _ _ => nofun⟩, rfl, rested_nil,
      ⟨spaced_nil, fun newer delay skipped older split => ?_, ?_⟩⟩
    · simp at split
    · exact atMostSince_of_none (fun _ => nofun)
  have steady : Steady config s := run.invariant initial
    (fun s label t h step => steady_poll h step.2 step.1)
  exact steady.calm

/-! What a step adds to the log, and which phases it opens. -/

def Happening.isInner : Happening Event → Bool
  | .inner _ => true
  | _ => false

def Label.isEstablished : Label Event → Bool
  | .connected (.ok _) _ => true
  | _ => false

def sinceAttempt (log : List (Happening Event)) : List (Happening Event) :=
  log.takeWhile (fun entry => !entry.isAttempt)

theorem mem_sinceAttempt_cons {entry found : Happening Event} {log : List (Happening Event)}
    (h : found ∈ sinceAttempt (entry :: log)) : found = entry ∨ found ∈ sinceAttempt log := by
  unfold sinceAttempt at h
  rw [List.takeWhile_cons] at h
  split at h
  · exact List.mem_cons.mp h
  · cases h

structure Effect (s : State Conn Event) (label : Label Event) (t : State Conn Event)
    (entry : Option (Happening Event)) : Prop where
  log : t.log = entry.toList ++ s.log
  alive : entry.any Happening.isAlive = label.isEstablished
  established : label.isEstablished = true → ∃ accessToken, s.phase = .connecting accessToken
  connecting : ∀ accessToken, t.phase = .connecting accessToken → entry = some .attempt ∨
    s.phase = .connecting accessToken ∧ entry.any Happening.isInner = false
  session : ∀ conn seen, t.phase = .session conn seen → label.isEstablished = true ∨
    ∃ conn seen, s.phase = .session conn seen

theorem effect_wake {s u : State Conn Event} {label : Label Event}
    {entry : Option (Happening Event)} (log : u.log = entry.toList ++ s.log)
    (quiet : entry.any Happening.isAlive = false) (other : label.isEstablished = false)
    (bump : Bool) : Effect s label (u.wake bump) entry := by
  cases bump <;>
    exact ⟨log, quiet.trans other.symm, by simp [other], fun _ => nofun, fun _ _ => nofun⟩

theorem effect_ended {s : State Conn Event} {config : TransportConfig} {label : Label Event}
    (other : label.isEstablished = false) (sample : UnitSample) (reason : DisconnectReason) :
    Effect s label (s.ended config sample reason)
      (some (.published (.disconnected reason))) := by
  unfold State.ended
  split <;> exact ⟨rfl, other.symm, by simp [other], fun _ => nofun, fun _ _ => nofun⟩

theorem poll_effect {connections : Connections Conn Event} {config : TransportConfig}
    {s t : State Conn Event} {label : Label Event}
    (edge : poll connections config s label = some t) : ∃ entry, Effect s label t entry := by
  cases moves_of_poll edge with
  | stop here told => exact ⟨none, rfl, rfl, nofun, fun _ => nofun, fun _ _ => nofun⟩
  | proceed here quiet => exact ⟨none, rfl, rfl, nofun, fun _ => nofun, fun _ _ => nofun⟩
  | attempt result sample here =>
    exact ⟨some .attempt, rfl, rfl, nofun, fun _ _ => .inl rfl, fun _ _ => nofun⟩
  | skip result sample here => exact ⟨none, rfl, rfl, nofun, fun _ => nofun, fun _ _ => nofun⟩
  | establish instant sample accessToken here =>
    refine ⟨some (.published (if s.hadPriorConnection then .reconnected else .connected)),
      rfl, ?_, fun _ => ⟨accessToken, here⟩, fun _ => nofun, fun _ _ _ => .inl rfl⟩
    cases s.hadPriorConnection <;> rfl
  | fail error sample accessToken here =>
    exact ⟨some .failed, rfl, rfl, nofun, fun _ => nofun, fun _ _ => nofun⟩
  | inner event conn next seen here =>
    exact ⟨some (.inner event), rfl, rfl, nofun, fun _ => nofun,
      fun _ _ _ => .inr ⟨conn, seen, here⟩⟩
  | disconnected conn seen sample reason here => exact ⟨_, effect_ended rfl sample reason⟩
  | sessionChanged conn seen sample reason here => exact ⟨_, effect_ended rfl sample reason⟩
  | slept delay bump here => exact ⟨some (.slept delay bump), effect_wake rfl rfl rfl bump⟩
  | told delay bump version here value =>
    exact ⟨none, rfl, rfl, nofun, fun _ => nofun, fun _ _ => nofun⟩
  | hurried delay bump seen changed here news value =>
    exact ⟨none, effect_wake rfl rfl rfl bump⟩
  | signal quiet opened =>
    exact ⟨some .signalled, rfl, rfl, nofun, fun _ here => .inr ⟨here, rfl⟩,
      fun conn seen here => .inr ⟨conn, seen, here⟩⟩
  | dropSender opened =>
    exact ⟨some .dropped, rfl, rfl, nofun, fun _ here => .inr ⟨here, rfl⟩,
      fun conn seen here => .inr ⟨conn, seen, here⟩⟩

/-- Whatever the connections are like, a supervisor announces each before one of its tasks has
done anything. -/
structure Announces (labels : List (Label Event)) (s : State Conn Event) : Prop where
  announced : ∀ newer event older, s.log = newer ++ event :: older → event.isAlive = true →
    ∀ entry ∈ sinceAttempt older, entry.isInner = false
  connecting : ∀ accessToken, s.phase = .connecting accessToken →
    ∀ entry ∈ sinceAttempt s.log, entry.isInner = false
  established : (∃ label ∈ labels, label.isEstablished = true) ↔
    ∃ entry ∈ s.log, entry.isAlive = true
  session : ∀ conn seen, s.phase = .session conn seen →
    ∃ label ∈ labels, label.isEstablished = true

theorem announces_poll {connections : Connections Conn Event} {config : TransportConfig}
    {s t : State Conn Event} {labels : List (Label Event)} {label : Label Event}
    (h : Announces labels s) (edge : poll connections config s label = some t) :
    Announces (label :: labels) t := by
  obtain ⟨entry, effect⟩ := poll_effect edge
  constructor
  · intro newer event older log alive
    rw [effect.log] at log
    cases entry with
    | none => exact h.announced newer event older log alive
    | some entry =>
      rcases split_cons log with ⟨_, rfl, rfl⟩ | ⟨rest, _, split⟩
      · have established : label.isEstablished = true := effect.alive ▸ alive
        obtain ⟨accessToken, here⟩ := effect.established established
        exact h.connecting accessToken here
      · exact h.announced rest event older split alive
  · intro accessToken here
    rcases effect.connecting accessToken here with rfl | ⟨before, quiet⟩
    · rw [effect.log]
      intro entry member
      cases member
    · rw [effect.log]
      have kept := h.connecting accessToken before
      cases entry with
      | none => exact kept
      | some entry =>
        intro found member
        rcases mem_sinceAttempt_cons member with rfl | older
        · exact quiet
        · exact kept found older
  · rw [effect.log]
    simp only [List.mem_cons, List.mem_append, or_and_right, exists_or, h.established]
    cases entry <;> simp [← effect.alive]
  · intro conn seen here
    rcases effect.session conn seen here with established | ⟨conn, seen, before⟩
    · exact ⟨label, List.mem_cons_self, established⟩
    · obtain ⟨older, member, established⟩ := h.session conn seen before
      exact ⟨older, List.mem_cons_of_mem _ member, established⟩

theorem run_announces {connections : Connections Conn Event} {config : TransportConfig}
    {labels : List (Label Event)} {s : State Conn Event}
    (run : Run (Steps (poll connections config)) {} labels s) : Announces labels s := by
  have initial : Announces [] ({} : State Conn Event) :=
    ⟨fun newer event older log => by simp at log, fun _ => nofun, by simp, fun _ _ => nofun⟩
  exact run.history_invariant initial (fun _ _ _ _ h edge => announces_poll h edge)

/-! Once the signal is given every step of the supervisor is one towards its exit. -/

def Phase.rank : Phase Conn → Nat
  | .exited => 0
  | .check => 1
  | .sleeping _ _ => 2
  | .session _ _ => 3
  | .connecting _ => 4
  | .ensureFresh => 5

def Label.isOwn : Label Event → Bool
  | .inner _ | .signal | .dropSender => false
  | _ => true

theorem rank_ended (s : State Conn Event) (config : TransportConfig) (sample : UnitSample)
    (reason : DisconnectReason) :
    (s.ended config sample reason).shutdown = s.shutdown ∧
      (s.ended config sample reason).phase.rank ≤ 2 := by
  unfold State.ended
  split
  · exact ⟨rfl, Nat.zero_le 2⟩
  · exact ⟨rfl, le_refl 2⟩

theorem rank_wake (s : State Conn Event) (bump : Bool) :
    (s.wake bump).shutdown = s.shutdown ∧ (s.wake bump).phase.rank = 1 := by
  cases bump <;> exact ⟨rfl, rfl⟩

theorem rank_step {connections : Connections Conn Event} {config : TransportConfig}
    {s t : State Conn Event} {label : Label Event} (told : s.shutdown.value = true)
    (edge : poll connections config s label = some t) :
    t.shutdown.value = true ∧
      t.phase.rank + (if label.isOwn then 1 else 0) ≤ s.phase.rank := by
  -- a step of its own takes the supervisor from a phase of rank `n` below it
  have own : ∀ (u : State Conn Event) (phase : Phase Conn), s.phase = phase →
      u.shutdown = s.shutdown → u.phase.rank < phase.rank →
        u.shutdown.value = true ∧ u.phase.rank + 1 ≤ s.phase.rank :=
    fun _ _ here same lower => ⟨same ▸ told, here ▸ lower⟩
  cases moves_of_poll edge with
  | stop here _ => exact own _ _ here rfl Nat.zero_lt_one
  | proceed _ quiet => simp [told] at quiet
  | attempt result sample here => exact own _ _ here rfl (Nat.lt_succ_self 4)
  | skip result sample here => exact own _ _ here rfl (by decide : 2 < 5)
  | establish instant sample accessToken here => exact own _ _ here rfl (Nat.lt_succ_self 3)
  | fail error sample accessToken here => exact own _ _ here rfl (by decide : 2 < 4)
  | inner event conn next seen here => exact ⟨told, by rw [here]; exact le_refl 3⟩
  | disconnected conn seen sample reason here =>
    obtain ⟨same, rank⟩ := rank_ended s config sample reason
    exact own _ _ here same (Nat.lt_succ_of_le rank)
  | sessionChanged conn seen sample reason here =>
    obtain ⟨same, rank⟩ := rank_ended s config sample reason
    exact own _ _ here same (Nat.lt_succ_of_le rank)
  | slept delay bump here =>
    obtain ⟨same, rank⟩ := rank_wake (s.record (.slept delay bump)) bump
    exact own _ _ here same (by rw [rank]; exact Nat.lt_succ_self 1)
  | told delay bump version here _ => exact own _ _ here rfl (Nat.zero_lt_succ 1)
  | hurried delay bump seen changed here _ _ =>
    obtain ⟨same, rank⟩ := rank_wake { s with seen := seen } bump
    exact own _ _ here same (by rw [rank]; exact Nat.lt_succ_self 1)
  | signal quiet _ => simp [told] at quiet
  | dropSender _ => exact ⟨told, le_refl _⟩

/-- A supervisor that was told to stop takes at most five more steps of its own. -/
theorem run_stops {connections : Connections Conn Event} {config : TransportConfig}
    {s t : State Conn Event} {labels : List (Label Event)} (told : s.shutdown.value = true)
    (run : Run (Steps (poll connections config)) s labels t) : labels.countP Label.isOwn ≤ 5 := by
  have bounded : t.shutdown.value = true ∧
      t.phase.rank + labels.countP Label.isOwn ≤ s.phase.rank := by
    refine run.history_invariant (I := fun labels t => t.shutdown.value = true ∧
      t.phase.rank + labels.countP Label.isOwn ≤ s.phase.rank) ⟨told, le_refl _⟩ ?_
    rintro older u label v ⟨still, spent⟩ edge
    obtain ⟨next, rank⟩ := rank_step still edge
    rw [List.countP_cons]
    exact ⟨next, by omega⟩
  have five : s.phase.rank ≤ 5 := by cases s.phase <;> simp [Phase.rank]
  omega

/-! A connection whose tasks say nothing, and one whole turn of the loop. -/

def silent : Connections Unit Unit where
  opened _ _ := ()
  step _ _ := none
  recv _ := none

def signedIn : RefreshResult := .ok (some ⟨expiredSession "alice", false⟩)

/-- From the check to the end of the session, which sees the shutdown channel change. -/
def turn : List (Label Unit) :=
  [.sessionChanged default, .connected (.ok 0) default, .refreshed signedIn default, .check]

/-- Without a signal the first session ends at the server, the second by `unsubscribe`. -/
theorem run_calm_unsubscribed :
    ∃ s : State Unit Unit, s.log.countP Happening.isAttempt = 2 ∧ Calm {} s.log := by
  let labels : List (Label Unit) := List.flatten [[.dropSender], turn.take 1, [.signal],
    turn.drop 1, [.slept, .connected (.error .closed) default,
      .refreshed signedIn default, .check]]
  have computed : (execute (restrict dropsSignalled (poll silent {})) {} labels).map
      (fun s => s.log.countP Happening.isAttempt) = some 2 := by decide
  obtain ⟨s, computed, attempts⟩ := Option.map_eq_some_iff.mp computed
  exact ⟨s, attempts, run_calm (guarded_of_execute computed)⟩

/-- When the transport is dropped, sessions and sleeps end at once, again and again. -/
theorem dropped_transport_storms :
    ∃ labels, ∃ s : State Unit Unit, Run (Steps (poll silent {})) {} labels s ∧
      s.log.countP Happening.isAttempt = 3 ∧ s.log.countP Happening.isSleep = 0 ∧
      ¬ Calm {} s.log := by
  let labels : List (Label Unit) :=
    List.flatten [turn, [.sleepChanged], turn, [.sleepChanged], turn, [.dropSender]]
  let session : List (Happening Unit) :=
    [.published (.disconnected .channelClosed), .published .reconnected, .attempt]
  let logged : List (Happening Unit) := List.flatten [session, session,
    [.published (.disconnected .channelClosed), .published .connected, .attempt]]
  have computed : (execute (poll silent {}) {} labels).map State.log =
      some (logged ++ .dropped :: []) := by decide
  obtain ⟨s, computed, log⟩ := Option.map_eq_some_iff.mp computed
  refine ⟨labels, s, run_of_execute computed, by rw [log]; decide, by rw [log]; decide, ?_⟩
  intro calm
  have few := calm.told logged .dropped [] log rfl
  exact absurd few (by decide)

end Polykit.Realtime.Supervisor
