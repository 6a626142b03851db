/- Module: Polykit/Kvs/Subscription
   generality: I
   source: crates/polybase/src/kvs.rs, crates/polybase/src/events.rs
   digest: The relay behind a subscription of the store, and the changes it loses untold. -/

import Polykit.Kvs.Announcements
import Polykit.Lib.Broadcast
import Polykit.Lib.Runs

set_option autoImplicit false
set_option relaxedAutoImplicit false

namespace Polykit.Kvs.Subscription

open Announcements Lib.Broadcast Lib.Runs Sync

/-- Of the event bus. -/
def channelCapacity : Nat := 256

/-- Of the channel that `subscribe` opens. -/
def changeCapacity : Nat := 64

/-- The task that `subscribe` spawns, between the bus and the receiver it returns. `listening`
says whether that receiver is still there, `open_` whether the bus has a sender. -/
structure Relay where
  busRx : Subscriber PolyEvent channelCapacity
  rx : Subscriber KvsChange changeCapacity := .new
  running : Bool := true
  listening : Bool := true
  open_ : Bool := true

/-- `subscribe` at a bus that has seen the events of the log. -/
def subscribe (bus : Channel PolyEvent channelCapacity) (log : List PolyEvent)
    (holds : bus.Holds log) : Relay where
  busRx := .attach bus log holds

inductive Turn
  | publish (event : PolyEvent)
  | relay
  | recv
  | dropReceiver
  | dropBus

/-- The task takes what the bus tells it. A lag is passed over like any event of another kind. -/
def Relay.take (s : Relay) : Option (Report PolyEvent) → Option Relay
  | some (.value event) =>
      match relay event with
      | some change =>
          if s.listening then some { s with busRx := s.busRx.recv, rx := s.rx.send change }
          else some { s with busRx := s.busRx.recv, running := false }
      | none => some { s with busRx := s.busRx.recv }
  | some (.lagged _) => some { s with busRx := s.busRx.recv }
  | none => if s.open_ then none else some { s with running := false }

def turn (s : Relay) : Turn → Option Relay
  | .publish event => if s.open_ then some { s with busRx := s.busRx.send event } else none
  | .relay => if s.running then s.take s.busRx.told else none
  | .recv => if s.listening ∧ s.rx.told.isSome then some { s with rx := s.rx.recv } else none
  | .dropReceiver => if s.listening then some { s with listening := false } else none
  | .dropBus => if s.open_ then some { s with open_ := false } else none

def publishedIn : Turn → Option PolyEvent
  | .publish event => some event
  | _ => none

/-- The events of a run since `subscribe`, oldest first. -/
def published (turns : List Turn) : List PolyEvent := turns.reverse.filterMap publishedIn

/-- The changes of the store that stood in the stretches the task was too late for. -/
def Relay.untold (s : Relay) : List KvsChange :=
  (lost (s.busRx.sent.take s.busRx.passed) s.busRx.reports).filterMap relay

/-- The task has passed on what it was given. It stops when it finds nobody listening. -/
structure Relays (turns : List Turn) (s : Relay) : Prop where
  sent : s.busRx.sent = published turns
  relayed : s.rx.sent <+: s.busRx.received.filterMap relay
  whole : s.listening = true → s.rx.sent = s.busRx.received.filterMap relay

section

variable {s t : Relay} {label : Turn} {turns : List Turn}

theorem published_cons (label : Turn) (turns : List Turn) :
    published (label :: turns) = published turns ++ (publishedIn label).toList := by
  unfold published
  rw [List.reverse_cons, List.filterMap_append]
  cases event : publishedIn label <;> simp [event]

theorem published_silent (turns : List Turn) (silent : publishedIn label = none) :
    published (label :: turns) = published turns := by
  rw [published_cons, silent, Option.toList_none, List.append_nil]

theorem relays_take (h : Relays turns s) (edge : s.take s.busRx.told = some t) :
    Relays turns t := by
  cases s.busRx.asks with
  | lagged gap lost told behind received =>
    rw [told] at edge
    cases edge
    refine ⟨h.sent, ?_, fun listening => ?_⟩
    · rw [received]
      exact h.relayed
    · rw [received]
      exact h.whole listening
  | value event told close here passed received =>
    rw [told, Relay.take] at edge
    have longer : s.busRx.recv.received.filterMap relay =
        s.busRx.received.filterMap relay ++ (relay event).toList := by
      rw [received, List.filterMap_append]
      cases change : relay event <;> simp [change]
    cases change : relay event with
    | none =>
      rw [change] at edge
      cases edge
      rw [change, Option.toList_none, List.append_nil] at longer
      exact ⟨h.sent, longer ▸ h.relayed, fun listening => longer ▸ h.whole listening⟩
    | some change' =>
      rw [change] at edge longer
      dsimp only at edge
      split at edge
      · rename_i listening
        cases edge
        have same : (s.rx.send change').sent = s.busRx.recv.received.filterMap relay := by
          rw [send_sent, h.whole listening, longer, Option.toList_some]
        exact ⟨h.sent, same ▸ List.prefix_rfl, fun _ => same⟩
      · rename_i deaf
        cases edge
        refine ⟨h.sent, ?_, fun listening => absurd listening deaf⟩
        rw [longer]
        exact h.relayed.trans (List.prefix_append _ _)
  | pending told caught received =>
    rw [told, Relay.take] at edge
    simp only [Option.ite_none_left_eq_some, Option.some.injEq] at edge
    obtain ⟨_, rfl⟩ := edge
    exact ⟨h.sent, h.relayed, h.whole⟩

theorem relays_turn (h : Relays turns s) (edge : turn s label = some t) :
    Relays (label :: turns) t := by
  cases label with
  | publish event =>
    simp only [turn, Option.ite_none_right_eq_some, Option.some.injEq] at edge
    obtain ⟨_, rfl⟩ := edge
    refine ⟨?_, ?_, fun listening => ?_⟩
    · rw [send_sent, h.sent, published_cons]
      rfl
    · rw [send_received]
      exact h.relayed
    · rw [send_received]
      exact h.whole listening
  | relay =>
    simp only [turn, Option.ite_none_right_eq_some] at edge
    obtain ⟨sent, relayed, whole⟩ := relays_take h edge.2
    exact ⟨sent.trans (published_silent turns rfl).symm, relayed, whole⟩
  | recv =>
    simp only [turn, Option.ite_none_right_eq_some, Option.some.injEq] at edge
    obtain ⟨_, rfl⟩ := edge
    exact ⟨h.sent.trans (published_silent turns rfl).symm, h.relayed, h.whole⟩
  | dropReceiver =>
    simp only [turn, Option.ite_none_right_eq_some, Option.some.injEq] at edge
    obtain ⟨_, rfl⟩ := edge
    exact ⟨h.sent.trans (published_silent turns rfl).symm, h.relayed,
      fun listening => absurd listening Bool.false_ne_true⟩
  | dropBus =>
    simp only [turn, Option.ite_none_right_eq_some, Option.some.injEq] at edge
    obtain ⟨_, rfl⟩ := edge
    exact ⟨h.sent.trans (published_silent turns rfl).symm, h.relayed, h.whole⟩

theorem run_relays {bus : Channel PolyEvent channelCapacity} {log : List PolyEvent}
    {holds : bus.Holds log} (run : Run (Steps turn) (subscribe bus log holds) turns s) :
    Relays turns s := by
  refine run.history_invariant (I := Relays) ⟨?_, List.prefix_rfl, fun _ => rfl⟩ ?_
  · exact List.drop_length
  · intro older s label t holds edge
    exact relays_turn holds edge

theorem Relays.perm (h : Relays turns s) :
    (((published turns).take s.busRx.passed).filterMap relay).Perm
      (s.busRx.received.filterMap relay ++ s.untold) := by
  have covered := s.busRx.accounts.perm.filterMap relay
  rw [List.filterMap_append] at covered
  rw [← h.sent]
  exact covered

theorem taken_of_unread {α : Type} {n : Nat} {rx : Subscriber α n} (caught : rx.unread = 0) :
    rx.sent.take rx.passed = rx.sent := by
  have within := rx.passed_le
  rw [rx.unread_eq] at caught
  exact List.take_of_length_le (by omega)

theorem Relays.accounts_iff (h : Relays turns s) (listening : s.listening = true)
    (relayed : s.busRx.unread = 0) (read : s.rx.unread = 0) :
    Accounts ((published turns).filterMap relay) s.rx.reports ↔ s.untold = [] := by
  have covered := s.rx.accounts
  rw [taken_of_unread read, h.whole listening] at covered
  have whole : (published turns).take s.busRx.passed = published turns := by
    rw [← h.sent]
    exact taken_of_unread relayed
  constructor
  · intro accounts
    have told := accounts.length.trans covered.length.symm
    have size := h.perm.length_eq
    rw [whole, List.length_append] at size
    exact List.eq_nil_of_length_eq_zero (by omega)
  · intro none
    have same := s.busRx.accounts.filterMap_values none
    rw [h.sent, whole] at same
    rw [← same]
    exact covered

/-- The task asks the bus before more is unread than it holds. -/
def relayKeepsUp (s : Relay) : Turn → Bool
  | .relay => decide (s.busRx.unread ≤ channelCapacity)
  | _ => true

theorem unlagged_take (unlagged : ∀ report ∈ s.busRx.reports, report.isLag = false)
    (close : s.busRx.unread ≤ channelCapacity) (edge : s.take s.busRx.told = some t) :
    ∀ report ∈ t.busRx.reports, report.isLag = false := by
  cases s.busRx.asks with
  | lagged gap lost told behind received => omega
  | value event told close here passed received =>
    have read : ∀ report ∈ s.busRx.recv.reports, report.isLag = false := by
      intro report member
      rw [recv_reports, told, List.mem_append] at member
      rcases member with older | newest
      · exact unlagged report older
      · rw [List.mem_singleton.mp newest]
        rfl
    rw [told, Relay.take] at edge
    split at edge
    · split at edge <;> cases edge <;> exact read
    · cases edge
      exact read
  | pending told caught received =>
    rw [told, Relay.take] at edge
    simp only [Option.ite_none_left_eq_some, Option.some.injEq] at edge
    obtain ⟨_, rfl⟩ := edge
    exact unlagged

theorem unlagged_turn (unlagged : ∀ report ∈ s.busRx.reports, report.isLag = false)
    (keeps : relayKeepsUp s label = true) (edge : turn s label = some t) :
    ∀ report ∈ t.busRx.reports, report.isLag = false := by
  cases label with
  | relay =>
    simp only [turn, Option.ite_none_right_eq_some] at edge
    exact unlagged_take unlagged (of_decide_eq_true keeps) edge.2
  | publish event =>
    simp only [turn, Option.ite_none_right_eq_some, Option.some.injEq] at edge
    obtain ⟨_, rfl⟩ := edge
    rwa [send_reports]
  | _ =>
    simp only [turn, Option.ite_none_right_eq_some, Option.some.injEq] at edge
    obtain ⟨_, rfl⟩ := edge
    exact unlagged

/-- What a receiver gets stands among the changes that were published, in order. Of those that
the task came past, it can still read, was given or was told to have missed all but the untold
ones. It learns of every change once all is read when, and only when, none is untold, and none
is as long as the task keeps up with the bus. -/
theorem subscription_accounts {bus : Channel PolyEvent channelCapacity} {log : List PolyEvent}
    {holds : bus.Holds log} (run : Run (Steps turn) (subscribe bus log holds) turns s) :
    s.rx.received.Sublist ((published turns).filterMap relay) ∧
      (s.listening = true →
        (s.rx.reports.map Report.span).sum + s.rx.unread + s.untold.length =
          (((published turns).take s.busRx.passed).filterMap relay).length ∧
        (s.busRx.unread = 0 → s.rx.unread = 0 →
          (Accounts ((published turns).filterMap relay) s.rx.reports ↔ s.untold = []))) ∧
      (Run (Guarded (fun s label => relayKeepsUp s label = true) (Steps turn))
        (subscribe bus log holds) turns s → s.untold = []) := by
  have relays := run_relays run
  refine ⟨?_, fun listening => ⟨?_, relays.accounts_iff listening⟩, fun guarded => ?_⟩
  · have received := s.busRx.received_sublist.filterMap relay
    rw [relays.sent] at received
    exact s.rx.received_sublist.trans (relays.relayed.sublist.trans received)
  · have told := s.rx.accounts.length
    have within := s.rx.passed_le
    rw [List.length_take, Nat.min_eq_left within] at told
    rw [relays.perm.length_eq, List.length_append, ← relays.whole listening, s.rx.unread_eq]
    omega
  · have unlagged : ∀ report ∈ s.busRx.reports, report.isLag = false := by
      refine guarded.invariant (I := fun s => ∀ report ∈ s.busRx.reports, report.isLag = false)
        (fun report member => absurd member List.not_mem_nil) ?_
      intro s label t holds edge
      exact unlagged_turn holds edge.2 edge.1
    rw [Relay.untold, lost_eq_nil s.busRx.accounts unlagged]
    rfl

end

def fresh : Relay := subscribe .empty [] holds_empty

/-- A change and as many other events as the bus holds, before the task gets its first turn. -/
def burst : List Turn :=
  List.replicate 257 .relay ++ List.replicate 256 (.publish (.offlineQueueChanged 0 false)) ++
    [.publish (.kvsChanged "prefs" "theme" false)]

/-- The receiver has read all there is, was told of no lag, and does not know of the change. -/
theorem burst_untold : ∃ s, Run (Steps turn) fresh burst s ∧ s.rx.reports = [] ∧
    s.untold = [⟨"prefs", "theme", false⟩] ∧
    ¬ Accounts ((published burst).filterMap relay) s.rx.reports := by
  have computed : (execute turn fresh burst).map
      (fun s => (s.untold, s.rx.reports, s.busRx.unread, s.rx.unread, s.listening)) =
      some ([⟨"prefs", "theme", false⟩], [], 0, 0, true) := by decide +kernel
  obtain ⟨s, computed, facts⟩ := Option.map_eq_some_iff.mp computed
  simp only [Prod.mk.injEq] at facts
  obtain ⟨untold, reports, relayed, read, listening⟩ := facts
  have run : Run (Steps turn) fresh burst s := run_of_execute computed
  refine ⟨s, run, reports, untold, fun accounts => ?_⟩
  have none := (((subscription_accounts run).2.1 listening).2 relayed read).mp accounts
  rw [untold] at none
  cases none

end Polykit.Kvs.Subscription
