/- Module: Polykit/Tauri/Forwarder
   generality: I
   source: crates/tauri-plugin-polybase/src/events.rs
   digest: The forwarder emits what it is given up to its first lag, and then nothing more. -/

import Polykit.Lib.Broadcast
import Polykit.Lib.Runs

set_option autoImplicit false
set_option relaxedAutoImplicit false

namespace Polykit.Tauri.Forwarder

open Lib.Broadcast Lib.Runs

inductive EventKind
  | sessionChanged | realtimeChanged | offlineQueueChanged | reconcileProgress | pullProgress
  | kvsChanged | versionRegressionDetected
  deriving DecidableEq

def topicFor : EventKind → String
  | .sessionChanged => "polybase:session_changed"
  | .realtimeChanged => "polybase:realtime_changed"
  | .offlineQueueChanged => "polybase:offline_queue_changed"
  | .reconcileProgress => "polybase:reconcile_progress"
  | .pullProgress => "polybase:pull_progress"
  | .kvsChanged => "polybase:kvs_changed"
  | .versionRegressionDetected => "polybase:version_regression_detected"

theorem topicFor_injective : Function.Injective topicFor := by
  intro first second same
  cases first <;> cases second <;> first
    | rfl
    | exact absurd same (by decide)

/-- Of the event bus. -/
def channelCapacity : Nat := 256

/-- The spawned task. `emitted` is what it has emitted, oldest first, under the topics. -/
structure EventForwarder (Event : Type) where
  rx : Subscriber Event channelCapacity
  running : Bool := true
  open_ : Bool := true
  emitted : List (String × Event) := []

inductive Turn (Event : Type)
  | publish (event : Event)
  | forward
  | dropBus

section

variable {Event : Type} (kind : Event → EventKind)

def spawn (bus : Channel Event channelCapacity) (log : List Event) (holds : bus.Holds log) :
    EventForwarder Event where
  rx := .attach bus log holds

def message (event : Event) : String × Event := (topicFor (kind event), event)

/-- The loop goes on while it is given an event. A lag ends it like the end of the bus. -/
def turn (s : EventForwarder Event) : Turn Event → Option (EventForwarder Event)
  | .publish event => if s.open_ then some { s with rx := s.rx.send event } else none
  | .forward =>
      if s.running then
        match s.rx.told with
        | some (.value event) =>
            some { s with rx := s.rx.recv, emitted := s.emitted ++ [message kind event] }
        | some (.lagged _) => some { s with rx := s.rx.recv, running := false }
        | none => if s.open_ then none else some { s with running := false }
      else none
  | .dropBus => if s.open_ then some { s with open_ := false } else none

def publishedIn : Turn Event → Option Event
  | .publish event => some event
  | _ => none

/-- The events of a run since `spawn`, oldest first. -/
def published (turns : List (Turn Event)) : List Event := turns.reverse.filterMap publishedIn

/-- Whether the forwarder's turn finds no more unread than the bus holds. -/
def keepsUp (s : EventForwarder Event) : Turn Event → Bool
  | .forward => decide (s.rx.unread ≤ channelCapacity)
  | _ => true

/-- A running forwarder has emitted all it came past; one that stopped, a part from the front. -/
structure Forwards (turns : List (Turn Event)) (s : EventForwarder Event) : Prop where
  sent : s.rx.sent = published turns
  emitted : s.emitted = s.rx.received.map (message kind)
  whole : s.running = true → s.rx.received = s.rx.sent.take s.rx.passed
  front : s.rx.received <+: s.rx.sent

variable {kind} {s t : EventForwarder Event} {label : Turn Event} {turns : List (Turn Event)}

theorem published_cons (label : Turn Event) (turns : List (Turn Event)) :
    published (label :: turns) = published turns ++ (publishedIn label).toList := by
  unfold published
  rw [List.reverse_cons, List.filterMap_append]
  cases event : publishedIn label <;> simp [event]

theorem published_silent (turns : List (Turn Event)) (silent : publishedIn label = none) :
    published (label :: turns) = published turns := by
  rw [published_cons, silent, Option.toList_none, List.append_nil]

theorem forwards_turn (h : Forwards kind turns s) (edge : turn kind s label = some t) :
    Forwards kind (label :: turns) t := by
  cases label with
  | publish event =>
    simp only [turn, Option.ite_none_right_eq_some, Option.some.injEq] at edge
    obtain ⟨_, rfl⟩ := edge
    refine ⟨?_, ?_, fun running => ?_, ?_⟩
    · rw [send_sent, h.sent, published_cons]
      rfl
    · rw [send_received]
      exact h.emitted
    · rw [send_received, send_sent, send_passed, List.take_append_of_le_length s.rx.passed_le]
      exact h.whole running
    · rw [send_received, send_sent]
      exact h.front.trans (List.prefix_append _ _)
  | dropBus =>
    simp only [turn, Option.ite_none_right_eq_some, Option.some.injEq] at edge
    obtain ⟨_, rfl⟩ := edge
    exact ⟨h.sent.trans (published_silent turns rfl).symm, h.emitted, h.whole, h.front⟩
  | forward =>
    have sent : s.rx.sent = published (.forward :: turns) :=
      h.sent.trans (published_silent turns rfl).symm
    simp only [turn, Option.ite_none_right_eq_some] at edge
    obtain ⟨running, edge⟩ := edge
    cases s.rx.asks with
    | lagged gap lost told behind received =>
      rw [told] at edge
      cases edge
      refine ⟨sent, ?_, fun going => absurd going Bool.false_ne_true, ?_⟩
      · rw [received]
        exact h.emitted
      · rw [received]
        exact h.front
    | value event told close here passed received =>
      rw [told] at edge
      cases edge
      have inside : s.rx.passed < s.rx.sent.length := (List.getElem?_eq_some_iff.mp here).1
      have further : s.rx.recv.received = s.rx.sent.take s.rx.recv.passed := by
        rw [received, passed, h.whole running, List.take_add_one, here, Option.toList_some]
      refine ⟨sent, ?_, fun _ => further, ?_⟩
      · rw [received, List.map_append, ← h.emitted]
        rfl
      · rw [further]
        exact List.take_prefix _ _
    | pending told caught received =>
      rw [told] at edge
      simp only [Option.ite_none_left_eq_some, Option.some.injEq] at edge
      obtain ⟨_, rfl⟩ := edge
      exact ⟨sent, h.emitted, fun going => absurd going Bool.false_ne_true, h.front⟩

theorem run_forwards {bus : Channel Event channelCapacity} {log : List Event}
    {holds : bus.Holds log} (run : Run (Steps (turn kind)) (spawn bus log holds) turns s) :
    Forwards kind turns s := by
  have sent : (spawn bus log holds).rx.sent = [] := List.drop_length
  refine run.history_invariant (I := Forwards kind) ⟨sent, rfl, fun _ => ?_, List.nil_prefix⟩ ?_
  · rw [sent, List.take_nil]
    rfl
  · intro older s label t holds edge
    exact forwards_turn holds edge

theorem stopped_turn (stopped : s.running = false) (edge : turn kind s label = some t) :
    t.running = false ∧ t.emitted = s.emitted := by
  cases label with
  | forward =>
    simp only [turn, stopped, Bool.false_eq_true, if_false] at edge
    cases edge
  | publish event | dropBus =>
    simp only [turn, Option.ite_none_right_eq_some, Option.some.injEq] at edge
    obtain ⟨_, rfl⟩ := edge
    exact ⟨stopped, rfl⟩

theorem running_turn (running : s.open_ = true → s.running = true)
    (keeps : keepsUp s label = true) (edge : turn kind s label = some t) :
    t.open_ = true → t.running = true := by
  cases label with
  | publish event =>
    simp only [turn, Option.ite_none_right_eq_some, Option.some.injEq] at edge
    obtain ⟨_, rfl⟩ := edge
    exact running
  | dropBus =>
    simp only [turn, Option.ite_none_right_eq_some, Option.some.injEq] at edge
    obtain ⟨_, rfl⟩ := edge
    exact fun still => absurd still Bool.false_ne_true
  | forward =>
    have close : s.rx.unread ≤ channelCapacity := of_decide_eq_true keeps
    simp only [turn, Option.ite_none_right_eq_some] at edge
    cases s.rx.asks with
    | lagged gap lost told behind received => omega
    | value event told close here passed received =>
      rw [told] at edge
      obtain ⟨going, same⟩ := edge
      cases same
      exact fun _ => going
    | pending told caught received =>
      rw [told] at edge
      simp only [Option.ite_none_left_eq_some, Option.some.injEq] at edge
      obtain ⟨_, shut, rfl⟩ := edge
      exact fun still => absurd still shut

/-- What is emitted is what was published, from the front and without a gap. The first turn that
finds more unread than the bus holds ends the forwarder, and nothing is emitted after that. As
long as it keeps up, it goes on until the bus is gone. -/
theorem forwarder_emits {bus : Channel Event channelCapacity} {log : List Event}
    {holds : bus.Holds log} (run : Run (Steps (turn kind)) (spawn bus log holds) turns s) :
    s.emitted <+: (published turns).map (message kind) ∧
      (s.running = true →
        s.emitted = ((published turns).take s.rx.passed).map (message kind)) ∧
      (∀ t, channelCapacity < s.rx.unread → turn kind s .forward = some t →
        t.running = false ∧ t.emitted = s.emitted) ∧
      (s.running = false → ∀ later u, Run (Steps (turn kind)) s later u →
        u.emitted = s.emitted) ∧
      (Run (Guarded (fun s label => keepsUp s label = true) (Steps (turn kind)))
        (spawn bus log holds) turns s → s.open_ = true → s.running = true) := by
  have forwards := run_forwards run
  refine ⟨?_, fun running => ?_, fun t far edge => ?_, fun stopped later u after => ?_,
    fun guarded => ?_⟩
  · rw [forwards.emitted, ← forwards.sent]
    exact forwards.front.map _
  · rw [forwards.emitted, forwards.whole running, forwards.sent]
  · simp only [turn, Option.ite_none_right_eq_some] at edge
    cases s.rx.asks with
    | lagged gap lost told behind received =>
      rw [told] at edge
      obtain ⟨_, same⟩ := edge
      cases same
      exact ⟨rfl, rfl⟩
    | value event told close here passed received => omega
    | pending told caught received =>
      rw [s.rx.unread_eq] at far
      omega
  · refine (after.invariant (I := fun u => u.running = false ∧ u.emitted = s.emitted)
      ⟨stopped, rfl⟩ ?_).2
    intro u label v holds edge
    obtain ⟨still, same⟩ := stopped_turn holds.1 edge
    exact ⟨still, same.trans holds.2⟩
  · refine guarded.invariant (I := fun s => s.open_ = true → s.running = true) (fun _ => rfl) ?_
    intro s label t holds edge
    exact running_turn holds edge.2 edge.1

end

/-- One event is forwarded, and then more are published than the bus holds. -/
def burst : List (Turn Nat) :=
  .forward :: (List.range 257).map Turn.publish ++ [.forward, .publish 0]

theorem burst_stops : ∃ s, Run (Steps (turn (fun _ => .kvsChanged)))
    (spawn .empty [] holds_empty) burst s ∧ s.emitted = [("polybase:kvs_changed", 0)] ∧
    ∀ later u, Run (Steps (turn (fun _ => .kvsChanged))) s later u → u.emitted = s.emitted := by
  have computed : (execute (turn (fun _ => .kvsChanged)) (spawn .empty [] holds_empty) burst).map
      (fun s => (s.running, s.emitted)) = some (false, [("polybase:kvs_changed", 0)]) := by
    decide +kernel
  obtain ⟨s, computed, facts⟩ := Option.map_eq_some_iff.mp computed
  simp only [Prod.mk.injEq] at facts
  have run := run_of_execute computed
  exact ⟨s, run, facts.2, (forwarder_emits run).2.2.2.1 facts.1⟩

end Polykit.Tauri.Forwarder
