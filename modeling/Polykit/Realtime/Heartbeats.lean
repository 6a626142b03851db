/- Module: Polykit/Realtime/Heartbeats
   generality: I
   source: crates/polybase/src/realtime/mod.rs
   digest: A connection is declared dead exactly when the reply to its last probe was not read. -/

import Polykit.Realtime.Phoenix

set_option autoImplicit false
set_option relaxedAutoImplicit false

namespace Polykit.Realtime.Heartbeats

open Lib.History Lib.Runs Realtime.Phoenix Realtime.Supervisor

inductive Prober
  | heartbeat | liveness
  deriving DecidableEq

def Prober.tag : Prober → String
  | .heartbeat => "hb-"
  | .liveness => "live-"

def Prober.first : Prober → UInt64
  | .heartbeat => 100
  | .liveness => 5000

def Prober.reason : Prober → DisconnectReason
  | .heartbeat => .heartbeatTimeout
  | .liveness => .livenessTimeout

def Prober.tick (p : Prober) (instant : Nat) : TaskEvent :=
  match p with
  | .heartbeat => .heartbeatTick instant
  | .liveness => .livenessTick instant

def Prober.check : Prober → TaskEvent
  | .heartbeat => .heartbeatCheck
  | .liveness => .livenessCheck

def Prober.probe (p : Prober) (c : Connection) : Probe :=
  match p with
  | .heartbeat => c.heartbeat
  | .liveness => c.liveness

def Prober.set (p : Prober) (c : Connection) (probe : Probe) : Connection :=
  match p with
  | .heartbeat => { c with heartbeat := probe }
  | .liveness => { c with liveness := probe }

/-- Whether a tick sends a probe, by the instant of the last message. -/
def Prober.due (config : TransportConfig) (p : Prober) (lastHeard instant : Nat) : Bool :=
  match p with
  | .heartbeat => true
  | .liveness => !decide (instant - lastHeard < config.livenessTimeout)

def Prober.refId (p : Prober) (n : UInt64) : String := p.tag ++ toString n

/-! What the events of a connection, newest first, say by themselves. -/

/-- The instant of the last text, ping or pong, or that of the connect. -/
def lastHeard (start : Nat) : List TaskEvent → Nat
  | [] => start
  | .inbound instant (.text _) :: _ => instant
  | .inbound instant .ping :: _ => instant
  | .inbound instant .pong :: _ => instant
  | _ :: older => lastHeard start older

def Prober.sends (config : TransportConfig) (start : Nat) (p : Prober) (older : List TaskEvent) :
    TaskEvent → Bool
  | .heartbeatTick _ => decide (p = .heartbeat)
  | .livenessTick instant => decide (p = .liveness) && p.due config (lastHeard start older) instant
  | _ => false

def Prober.sent (config : TransportConfig) (start : Nat) (p : Prober) : List TaskEvent → Nat
  | [] => 0
  | event :: older =>
      p.sent config start older + (if p.sends config start older event then 1 else 0)

def Prober.since (config : TransportConfig) (start : Nat) (p : Prober) :
    List TaskEvent → List TaskEvent
  | [] => []
  | event :: older =>
      if p.sends config start older event then [] else event :: p.since config start older

def answers (fromStr : FromStr) (refId : String) : TaskEvent → Bool
  | .inbound _ (.text text) =>
      match parsePhoenixMessage fromStr text with
      | some message =>
          decide (message.event = "phx_reply") && decide (message.refField = some refId)
      | none => false
  | _ => false

/-- The ref of the next probe. The counter wraps. -/
def Prober.next (config : TransportConfig) (start : Nat) (p : Prober) (events : List TaskEvent) :
    UInt64 :=
  p.first + UInt64.ofNat (p.sent config start events)

/-- The last probe of the task has gone without a reply. -/
def Prober.unanswered (fromStr : FromStr) (config : TransportConfig) (start : Nat) (p : Prober)
    (events : List TaskEvent) : Prop :=
  ∀ event ∈ p.since config start events,
    answers fromStr (p.refId (p.next config start events - 1)) event = false

/-- At some check of the task its last probe had gone without a reply. -/
def Prober.timedOut (fromStr : FromStr) (config : TransportConfig) (start : Nat) (p : Prober)
    (events : List TaskEvent) : Prop :=
  ∃ newer older, events = newer ++ p.check :: older ∧ p.unanswered fromStr config start older

/-! What the steps of a connection do to its two probing tasks. -/

section Steps

variable {fromStr : FromStr} {config : TransportConfig} {c d : Connection} {p q : Prober}

@[simp] theorem probe_set_self (probe : Probe) : p.probe (p.set c probe) = probe := by
  cases p <;> rfl

theorem probe_set_other (other : q ≠ p) (probe : Probe) : q.probe (p.set c probe) = q.probe c := by
  cases p <;> cases q <;> first
    | rfl
    | exact absurd rfl other

@[simp] theorem set_heartbeatTracker (probe : Probe) :
    (p.set c probe).heartbeatTracker = c.heartbeatTracker := by
  cases p <;> rfl

@[simp] theorem set_lastInboundAt (probe : Probe) :
    (p.set c probe).lastInboundAt = c.lastInboundAt := by
  cases p <;> rfl

@[simp] theorem set_disconnects (probe : Probe) : (p.set c probe).disconnects = c.disconnects := by
  cases p <;> rfl

theorem tick_cases {instant : Nat} (edge : c.step fromStr config (p.tick instant) = some d) :
    ∃ n, p.probe c = .ticking n ∧
      (p.due config c.lastInboundAt instant = false ∧ d = c ∨
        p.due config c.lastInboundAt instant = true ∧
          d = p.set (c.probe instant (p.refId n)) (c.probed (p.refId n) n)) := by
  cases p with
  | heartbeat =>
    simp only [Prober.tick, Connection.step] at edge
    split at edge
    · rename_i n ticking
      cases edge
      exact ⟨n, ticking, .inr ⟨rfl, rfl⟩⟩
    · cases edge
  | liveness =>
    simp only [Prober.tick, Connection.step] at edge
    split at edge
    · rename_i n ticking
      refine ⟨n, ticking, ?_⟩
      split at edge
      · rename_i recent
        cases edge
        exact .inl ⟨by simp [Prober.due, recent], rfl⟩
      · rename_i silent
        cases edge
        exact .inr ⟨by simp [Prober.due, silent], rfl⟩
    · cases edge

theorem check_cases (edge : c.step fromStr config p.check = some d) :
    ∃ r n, p.probe c = .waiting r n ∧
      (c.heartbeatTracker.contains r = true ∧ d = p.set (c.disconnect p.reason) .stopped ∨
        c.heartbeatTracker.contains r = false ∧ d = p.set c (.ticking n)) := by
  cases p with
  | heartbeat | liveness =>
    simp only [Prober.check, Connection.step] at edge
    split at edge
    · rename_i r n waiting
      refine ⟨r, n, waiting, ?_⟩
      split at edge
      · rename_i tracked
        cases edge
        exact .inl ⟨tracked, rfl⟩
      · rename_i settled
        cases edge
        exact .inr ⟨Bool.eq_false_iff.mpr settled, rfl⟩
    · cases edge

/-- A message leaves the probing tasks where they are, settles the ref it answers, and gives no
reason of theirs. -/
structure Hears (fromStr : FromStr) (c d : Connection) (event : TaskEvent) : Prop where
  probe : ∀ p : Prober, p.probe d = p.probe c
  tracker : ∀ r, d.heartbeatTracker.contains r =
    (c.heartbeatTracker.contains r && !answers fromStr r event)
  heard : d.lastInboundAt = lastHeard c.lastInboundAt [event]
  disconnects : ∀ p : Prober, p.reason ∈ d.disconnects ↔ p.reason ∈ c.disconnects

theorem reason_mem_endReading {reason : DisconnectReason} (other : p.reason ≠ reason) :
    p.reason ∈ (c.endReading reason).disconnects ↔ p.reason ∈ c.disconnects := by
  show p.reason ∈ c.disconnects ++ [reason] ↔ _
  simp [other]

theorem reason_ne (p : Prober) : p.reason ≠ .channelClosed ∧ p.reason ≠ .websocketError := by
  cases p <;> decide

theorem hears_endReading {event : TaskEvent} {reason : DisconnectReason}
    (other : ∀ p : Prober, p.reason ≠ reason) (same : ∀ p : Prober, p.probe d = p.probe c)
    (tracker : d.heartbeatTracker = c.heartbeatTracker)
    (disconnects : d.disconnects = c.disconnects)
    (heard : d.lastInboundAt = lastHeard c.lastInboundAt [event])
    (silent : ∀ r, answers fromStr r event = false) :
    Hears fromStr c (d.endReading reason) event where
  probe p := by
    have kept : p.probe (d.endReading reason) = p.probe d := by cases p <;> rfl
    exact kept.trans (same p)
  tracker r := by
    show d.heartbeatTracker.contains r = _
    rw [tracker, silent r, Bool.not_false, Bool.and_true]
  heard := heard
  disconnects p := by rw [reason_mem_endReading (other p), disconnects]

theorem hears_silent {event : TaskEvent} (same : ∀ p : Prober, p.probe d = p.probe c)
    (tracker : d.heartbeatTracker = c.heartbeatTracker)
    (disconnects : d.disconnects = c.disconnects)
    (heard : d.lastInboundAt = lastHeard c.lastInboundAt [event])
    (silent : ∀ r, answers fromStr r event = false) : Hears fromStr c d event where
  probe := same
  tracker r := by rw [tracker, silent r, Bool.not_false, Bool.and_true]
  heard := heard
  disconnects p := by rw [disconnects]

theorem hears_text {instant : Nat} (text : String) :
    Hears fromStr c (c.read fromStr instant (.text text)) (.inbound instant (.text text)) := by
  cases parsed : parsePhoenixMessage fromStr text with
  | none =>
    simp only [Connection.read, parsed]
    exact hears_silent (fun p => by cases p <;> rfl) rfl rfl rfl
      (fun r => by simp only [answers, parsed])
  | some message =>
    have answered : ∀ r, answers fromStr r (.inbound instant (.text text)) =
        (decide (message.event = "phx_reply") && decide (message.refField = some r)) := by
      intro r
      simp only [answers, parsed]
    simp only [Connection.read, parsed, Connection.handle]
    by_cases reply : message.event = "phx_reply"
    · rw [reply, if_neg (by decide), if_pos rfl]
      refine ⟨fun p => ?_, fun r => ?_, ?_, fun p => ?_⟩
      · cases ref : message.refField <;> cases p <;> rfl
      · rw [answered, reply, decide_eq_true rfl, Bool.true_and]
        cases ref : message.refField with
        | none => simp [Connection.settleRef]
        | some refId =>
          show (c.heartbeatTracker.erase refId).contains r = _
          rw [Std.ExtTreeMap.contains_erase, Bool.and_comm]
          congr 1
          by_cases same : refId = r <;> simp [same]
      · cases message.refField <;> rfl
      · cases message.refField <;> rfl
    · have silent : ∀ r, answers fromStr r (.inbound instant (.text text)) = false := by
        intro r
        rw [answered, decide_eq_false reply, Bool.false_and]
      rw [if_neg reply]
      let heard : Connection := { c with lastInboundAt := instant }
      have passed : Hears fromStr c heard (.inbound instant (.text text)) :=
        hears_silent (fun p => by cases p <;> rfl) rfl rfl rfl silent
      have closed : Hears fromStr c (heard.endReading .channelClosed)
          (.inbound instant (.text text)) :=
        hears_endReading (fun p => (reason_ne p).1) passed.probe rfl rfl rfl silent
      split_ifs
      · cases parsePostgresChanges message.payload with
        | none => exact passed
        | some change => exact hears_silent (fun p => by cases p <;> rfl) rfl rfl rfl silent
      · exact passed
      · exact closed
      · exact closed
      · exact passed

theorem hears_inbound {instant : Nat} {message : Inbound}
    (edge : c.step fromStr config (.inbound instant message) = some d) :
    Hears fromStr c d (.inbound instant message) := by
  simp only [Connection.step, Option.ite_none_right_eq_some, Option.some.injEq] at edge
  obtain ⟨_, rfl⟩ := edge
  cases message with
  | text text => exact hears_text text
  | ping | pong | other | ended =>
    exact ⟨fun p => by cases p <;> rfl, fun r => (Bool.and_true _).symm, rfl, fun _ => Iff.rfl⟩
  | close =>
    exact hears_endReading (fun p => (reason_ne p).1) (fun _ => rfl) rfl rfl rfl (fun _ => rfl)
  | error =>
    exact hears_endReading (fun p => (reason_ne p).2) (fun _ => rfl) rfl rfl rfl (fun _ => rfl)

end Steps

/-! The events of a connection tell where its probing tasks stand. -/

/-- The ref a task waits for is that of its last probe, and is tracked until it is answered. -/
structure Watches (fromStr : FromStr) (config : TransportConfig) (start : Nat)
    (events : List TaskEvent) (c : Connection) (p : Prober) : Prop where
  ticking : ∀ n, p.probe c = .ticking n → n = p.next config start events
  waiting : ∀ r n, p.probe c = .waiting r n → n = p.next config start events ∧
    r = p.refId (p.next config start events - 1) ∧
    (c.heartbeatTracker.contains r = true ↔ p.unanswered fromStr config start events)
  reasons : p.reason ∈ c.disconnects ↔ p.timedOut fromStr config start events

section Runs

variable {fromStr : FromStr} {config : TransportConfig} {start : Nat} {events : List TaskEvent}
variable {c d : Connection} {p q : Prober} {event : TaskEvent}

theorem timedOut_cons : p.timedOut fromStr config start (event :: events) ↔
    (event = p.check ∧ p.unanswered fromStr config start events) ∨
      p.timedOut fromStr config start events := by
  constructor
  · rintro ⟨newer, older, split, gone⟩
    rcases split_cons split with ⟨rfl, rfl, rfl⟩ | ⟨rest, rfl, shorter⟩
    · exact .inl ⟨rfl, gone⟩
    · exact .inr ⟨rest, older, shorter, gone⟩
  · rintro (⟨rfl, gone⟩ | ⟨newer, older, rfl, gone⟩)
    · exact ⟨[], events, rfl, gone⟩
    · exact ⟨event :: newer, older, rfl, gone⟩

theorem timedOut_cons_other (other : event ≠ p.check) :
    p.timedOut fromStr config start (event :: events) ↔ p.timedOut fromStr config start events := by
  rw [timedOut_cons]
  simp [other]

theorem next_quiet (quiet : p.sends config start events event = false) :
    p.next config start (event :: events) = p.next config start events := by
  unfold Prober.next
  rw [Prober.sent, quiet]
  rfl

theorem unanswered_quiet (quiet : p.sends config start events event = false) :
    p.unanswered fromStr config start (event :: events) ↔
      answers fromStr (p.refId (p.next config start events - 1)) event = false ∧
        p.unanswered fromStr config start events := by
  unfold Prober.unanswered
  rw [next_quiet quiet, Prober.since, quiet, if_neg Bool.false_ne_true, List.forall_mem_cons]

theorem next_sent (sends : p.sends config start events event = true) :
    p.next config start (event :: events) = p.next config start events + 1 := by
  unfold Prober.next
  rw [Prober.sent, sends, if_pos rfl, UInt64.ofNat_add, ← UInt64.add_assoc]
  rfl

theorem unanswered_sent (sends : p.sends config start events event = true) :
    p.unanswered fromStr config start (event :: events) := by
  unfold Prober.unanswered
  rw [Prober.since, sends, if_pos rfl]
  exact List.forall_mem_nil _

theorem refId_ne (other : q ≠ p) (m n : UInt64) : q.refId m ≠ p.refId n := by
  intro same
  have texts := congrArg String.toList same
  unfold Prober.refId at texts
  rw [String.toList_append, String.toList_append] at texts
  cases p <;> cases q <;> first
    | exact other rfl
    | (have heads := congrArg List.head? texts
       revert heads
       simp [Prober.tag])

theorem Watches.other (h : Watches fromStr config start events c p)
    (probe : p.probe d = p.probe c)
    (tracker : ∀ m, d.heartbeatTracker.contains (p.refId m) =
      (c.heartbeatTracker.contains (p.refId m) && !answers fromStr (p.refId m) event))
    (disconnects : p.reason ∈ d.disconnects ↔ p.reason ∈ c.disconnects)
    (quiet : p.sends config start events event = false) (other : event ≠ p.check) :
    Watches fromStr config start (event :: events) d p where
  ticking n ticks := by
    rw [next_quiet quiet]
    exact h.ticking n (probe ▸ ticks)
  waiting r n waits := by
    obtain ⟨next, rfl, tracked⟩ := h.waiting r n (probe ▸ waits)
    rw [next_quiet quiet]
    refine ⟨next, rfl, ?_⟩
    rw [tracker, unanswered_quiet quiet, Bool.and_eq_true, tracked, Bool.not_eq_true', and_comm]
  reasons := by rw [disconnects, h.reasons, timedOut_cons_other other]

theorem Watches.hears (h : Watches fromStr config start events c p)
    (hears : Hears fromStr c d event) (quiet : p.sends config start events event = false)
    (other : event ≠ p.check) : Watches fromStr config start (event :: events) d p :=
  h.other (hears.probe p) (fun _ => hears.tracker _) (hears.disconnects p) quiet other

theorem sends_tick (heard : c.lastInboundAt = lastHeard start events) (instant : Nat) :
    p.sends config start events (p.tick instant) = p.due config c.lastInboundAt instant := by
  rw [heard]
  cases p <;> rfl

theorem sends_tick_other (other : q ≠ p) (instant : Nat) :
    p.sends config start events (q.tick instant) = false := by
  cases p <;> cases q <;> first
    | rfl
    | exact absurd rfl other

theorem sends_check : p.sends config start events q.check = false := by
  cases q <;> rfl

theorem tick_ne_check (instant : Nat) : q.tick instant ≠ p.check := by
  cases p <;> cases q <;> exact TaskEvent.noConfusion

theorem check_ne_check (other : q ≠ p) : q.check ≠ p.check := by
  cases p <;> cases q <;> first
    | exact absurd rfl other
    | exact TaskEvent.noConfusion

theorem watches_tick (q : Prober) (h : ∀ p, Watches fromStr config start events c p)
    (heard : c.lastInboundAt = lastHeard start events) {instant : Nat}
    (edge : c.step fromStr config (q.tick instant) = some d) :
    Watches fromStr config start (q.tick instant :: events) d p := by
  obtain ⟨n, ticking, ⟨idle, rfl⟩ | ⟨due, rfl⟩⟩ := tick_cases edge
  · have quiet : p.sends config start events (q.tick instant) = false := by
      by_cases same : q = p
      · rw [← same, sends_tick heard, idle]
      · exact sends_tick_other same instant
    have silent : ∀ r, answers fromStr r (q.tick instant) = false := by
      intro r
      cases q <;> rfl
    exact (h p).hears (hears_silent (fun _ => rfl) rfl rfl (by cases q <;> rfl) silent) quiet
      (tick_ne_check instant)
  · by_cases same : q = p
    · subst same
      have sends : q.sends config start events (q.tick instant) = true := by
        rw [sends_tick heard, due]
      refine ⟨fun m ticks => ?_, fun r m waits => ?_, ?_⟩
      · rw [probe_set_self, Connection.probed] at ticks
        split at ticks <;> cases ticks
      · rw [probe_set_self, Connection.probed] at waits
        split at waits
        · cases waits
          have next := (h q).ticking n ticking
          rw [next_sent sends, ← next, UInt64.add_sub_cancel, set_heartbeatTracker]
          refine ⟨rfl, rfl, ?_⟩
          constructor
          · exact fun _ => unanswered_sent sends
          · exact fun _ => Std.ExtTreeMap.contains_insert_self
        · cases waits
      · rw [set_disconnects, timedOut_cons_other (tick_ne_check instant)]
        exact (h q).reasons
    · refine (h p).other ?_ (fun m => ?_) ?_ (sends_tick_other same instant) (tick_ne_check instant)
      · rw [probe_set_other (Ne.symm same)]
        cases p <;> rfl
      · have silent : answers fromStr (p.refId m) (q.tick instant) = false := by cases q <;> rfl
        rw [set_heartbeatTracker, silent, Bool.not_false, Bool.and_true]
        show (c.heartbeatTracker.insert _ _).contains _ = _
        rw [Std.ExtTreeMap.contains_insert]
        simp [refId_ne same n m]
      · rw [set_disconnects]
        rfl

theorem watches_check (q : Prober) (h : ∀ p, Watches fromStr config start events c p)
    (edge : c.step fromStr config q.check = some d) :
    Watches fromStr config start (q.check :: events) d p := by
  obtain ⟨r, n, waiting, ends⟩ := check_cases edge
  obtain ⟨next, rfl, tracked⟩ := (h q).waiting r n waiting
  have reasons := (h p).reasons
  by_cases same : q = p
  · subst same
    rcases ends with ⟨pending, rfl⟩ | ⟨settled, rfl⟩
    · refine ⟨fun m ticks => ?_, fun r m waits => ?_, ?_⟩
      · rw [probe_set_self] at ticks
        cases ticks
      · rw [probe_set_self] at waits
        cases waits
      · rw [set_disconnects, timedOut_cons]
        exact iff_of_true (List.mem_append_right _ (List.mem_singleton_self _))
          (.inl ⟨rfl, tracked.mp pending⟩)
    · refine ⟨fun m ticks => ?_, fun r m waits => ?_, ?_⟩
      · rw [probe_set_self] at ticks
        cases ticks
        rw [next_quiet sends_check, next]
      · rw [probe_set_self] at waits
        cases waits
      · have answered : ¬ q.unanswered fromStr config start events := by
          rw [← tracked, settled]
          exact Bool.false_ne_true
        rw [set_disconnects, timedOut_cons, reasons]
        simp [answered]
  · have silent : ∀ m, answers fromStr (p.refId m) q.check = false := fun m => by cases q <;> rfl
    rcases ends with ⟨pending, rfl⟩ | ⟨settled, rfl⟩
    · refine (h p).other ?_ (fun m => ?_) ?_ sends_check (check_ne_check same)
      · rw [probe_set_other (Ne.symm same)]
        cases p <;> rfl
      · rw [set_heartbeatTracker, silent, Bool.not_false, Bool.and_true]
        rfl
      · rw [set_disconnects]
        show p.reason ∈ c.disconnects ++ [q.reason] ↔ _
        have other : p.reason ≠ q.reason := by
          cases p <;> cases q <;> first
            | exact absurd rfl same
            | exact DisconnectReason.noConfusion
        simp [other]
    · refine (h p).other ?_ (fun m => ?_) ?_ sends_check (check_ne_check same)
      · exact probe_set_other (Ne.symm same) _
      · rw [set_heartbeatTracker, silent, Bool.not_false, Bool.and_true]
      · rw [set_disconnects]

theorem watches_step (h : ∀ p, Watches fromStr config start events c p)
    (heard : c.lastInboundAt = lastHeard start events)
    (edge : c.step fromStr config event = some d) :
    (∀ p, Watches fromStr config start (event :: events) d p) ∧
      d.lastInboundAt = lastHeard start (event :: events) := by
  have ticks : ∀ q : Prober, ∀ instant, event = q.tick instant →
      d.lastInboundAt = lastHeard start (event :: events) := by
    rintro q instant rfl
    have same : lastHeard start (q.tick instant :: events) = lastHeard start events := by
      cases q <;> rfl
    obtain ⟨n, _, ⟨_, rfl⟩ | ⟨_, rfl⟩⟩ := tick_cases edge
    · rw [same, heard]
    · rw [same, set_lastInboundAt, ← heard]
      rfl
  have checks : ∀ q : Prober, event = q.check →
      d.lastInboundAt = lastHeard start (event :: events) := by
    rintro q rfl
    have same : lastHeard start (q.check :: events) = lastHeard start events := by
      cases q <;> rfl
    obtain ⟨r, n, _, ⟨_, rfl⟩ | ⟨_, rfl⟩⟩ := check_cases edge
    · rw [same, set_lastInboundAt, ← heard]
      rfl
    · rw [same, set_lastInboundAt, heard]
  cases event with
  | inbound instant message =>
    have hears := hears_inbound edge
    refine ⟨fun p => (h p).hears hears rfl (by cases p <;> exact TaskEvent.noConfusion), ?_⟩
    rw [hears.heard, heard]
    cases message <;> rfl
  | heartbeatTick instant =>
    exact ⟨fun p => watches_tick .heartbeat h heard edge, ticks .heartbeat _ rfl⟩
  | livenessTick instant =>
    exact ⟨fun p => watches_tick .liveness h heard edge, ticks .liveness _ rfl⟩
  | heartbeatCheck => exact ⟨fun p => watches_check .heartbeat h edge, checks .heartbeat rfl⟩
  | livenessCheck => exact ⟨fun p => watches_check .liveness h edge, checks .liveness rfl⟩
  | writeEnded =>
    cases edge
    refine ⟨fun p => (h p).hears ?_ rfl (by cases p <;> exact TaskEvent.noConfusion), heard⟩
    exact hears_silent (fun p => by cases p <;> rfl) rfl rfl rfl (fun _ => rfl)

theorem run_watches {tables : List String} {accessToken : String}
    (run : Run (Steps (Connection.step fromStr config)) (opened tables start accessToken)
      events c) :
    (∀ p, Watches fromStr config start events c p) ∧ c.lastInboundAt = lastHeard start events := by
  refine run.history_invariant (I := fun events c =>
    (∀ p, Watches fromStr config start events c p) ∧ c.lastInboundAt = lastHeard start events)
    ⟨fun p => ?_, rfl⟩ ?_
  · refine ⟨fun n ticks => ?_, fun r n waits => ?_, ?_⟩
    · cases p <;> cases ticks <;> rfl
    · cases p <;> cases waits
    · constructor
      · exact fun member => absurd member List.not_mem_nil
      · rintro ⟨newer, older, split, _⟩
        simp at split
  · rintro older c event d ⟨watches, heard⟩ edge
    exact watches_step watches heard edge

/-- A probing task declares its connection dead when, and only when, it comes to check on a
probe, and no reply to its ref was read after that probe was sent. Replies to other refs, to the
other task and to the join do not count, and neither does anything else that is read. -/
theorem timeout_iff {tables : List String} {accessToken : String}
    (run : Run (Steps (Connection.step fromStr config)) (opened tables start accessToken) events c)
    (p : Prober) : p.reason ∈ c.disconnects ↔ p.timedOut fromStr config start events :=
  ((run_watches run).1 p).reasons

end Runs

/-- The heartbeat is answered, the probe of the silence before it is not. -/
theorem timeout_of_probe : ∃ events c, Run (Steps (Connection.step sampleFromStr {}))
    (opened ["messages"] 0 "token") events c ∧
    Prober.liveness.timedOut sampleFromStr {} 0 events ∧
    ¬ Prober.heartbeat.timedOut sampleFromStr {} 0 events := by
  let events : List TaskEvent := [.livenessCheck, .heartbeatCheck,
    .inbound (millis 32000) (.text "heartbeat answered"), .livenessTick (millis 31000),
    .heartbeatTick (millis 20000), .livenessTick (millis 15000)]
  have computed : (execute (Connection.step sampleFromStr {}) (opened ["messages"] 0 "token")
      events).map Connection.disconnects = some [.livenessTimeout] := by decide
  obtain ⟨c, computed, reasons⟩ := Option.map_eq_some_iff.mp computed
  have run := run_of_execute computed
  refine ⟨events, c, run, (timeout_iff run .liveness).mp ?_, fun timedOut => ?_⟩
  · rw [reasons]
    exact List.mem_singleton_self _
  · have reason := (timeout_iff run .heartbeat).mpr timedOut
    rw [reasons] at reason
    cases List.mem_singleton.mp reason

end Polykit.Realtime.Heartbeats
