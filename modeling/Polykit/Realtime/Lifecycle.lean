/- Module: Polykit/Realtime/Lifecycle
   generality: I
   source: crates/polybase/src/realtime/mod.rs
   digest: The lifecycle events of a supervisor alternate, and its exit leaves it disconnected. -/

import Polykit.Realtime.Supervisor

set_option autoImplicit false
set_option relaxedAutoImplicit false

namespace Polykit.Realtime.Lifecycle

open Lib.Runs Realtime.Supervisor

variable {Conn Event : Type}

def published : Happening Event → Option LifecycleEvent
  | .published event => some event
  | _ => none

def lifecycle (log : List (Happening Event)) : List LifecycleEvent :=
  log.reverse.filterMap published

theorem lifecycle_cons (entry : Happening Event) (log : List (Happening Event)) :
    lifecycle (entry :: log) = lifecycle log ++ (published entry).toList := by
  unfold lifecycle
  rw [List.reverse_cons, List.filterMap_append]
  cases same : published entry <;> simp [same]

theorem lifecycle_pos {entry : Happening Event} {log : List (Happening Event)}
    (member : entry ∈ log) (alive : entry.isAlive = true) : 0 < (lifecycle log).length := by
  obtain ⟨event, same⟩ : ∃ event, published entry = some event := by
    cases entry with
    | published event => exact ⟨event, rfl⟩
    | _ => cases alive
  have published : event ∈ lifecycle log :=
    List.mem_filterMap.mpr ⟨entry, List.mem_reverse.mpr member, same⟩
  exact List.length_pos_of_mem published

/-- What stands at a position of Connected, Disconnected, Reconnected, Disconnected, .... -/
def Fits (position : Nat) (event : LifecycleEvent) : Prop :=
  if position % 2 = 1 then ∃ reason, event = .disconnected reason
  else event = if position = 0 then .connected else .reconnected

def Alternating (events : List LifecycleEvent) : Prop :=
  ∀ position event, events[position]? = some event → Fits position event

section

variable {events : List LifecycleEvent} {position : Nat} {reason other : DisconnectReason}

theorem alternating_nil : Alternating [] := by
  intro position event found
  simp at found

theorem Alternating.append (h : Alternating events) {event : LifecycleEvent}
    (next : Fits events.length event) : Alternating (events ++ [event]) := by
  intro position found at_
  rcases lt_trichotomy position events.length with inside | rfl | outside
  · rw [List.getElem?_append_left inside] at at_
    exact h position found at_
  · rw [List.getElem?_append_right le_rfl, Nat.sub_self] at at_
    cases at_
    exact next
  · have none : (events ++ [event])[position]? = none := by simp; omega
    rw [none] at at_
    cases at_

theorem fits_connected : Fits position .connected ↔ position = 0 := by
  unfold Fits
  split
  · simp; omega
  · simp

theorem fits_disconnected : Fits position (.disconnected reason) ↔ position % 2 = 1 := by
  unfold Fits
  split
  · simp [*]
  · split <;> simp [*]

theorem fits_reconnected : Fits position .reconnected ↔ position % 2 = 0 ∧ position ≠ 0 := by
  unfold Fits
  split <;> simp <;> omega

theorem Alternating.connected (h : Alternating events)
    (found : events[position]? = some .connected) : position = 0 :=
  fits_connected.mp (h position _ found)

theorem Alternating.disconnected (h : Alternating events)
    (found : events[position]? = some (.disconnected reason)) :
    events[position + 1]? ≠ some (.disconnected other) := by
  intro again
  have odd := fits_disconnected.mp (h position _ found)
  have next := fits_disconnected.mp (h (position + 1) _ again)
  omega

theorem Alternating.odd (h : Alternating events) (inside : position < events.length)
    (odd : position % 2 = 1) : ∃ reason, events[position]? = some (.disconnected reason) := by
  have fits := h position _ (List.getElem?_eq_getElem inside)
  unfold Fits at fits
  rw [if_pos odd] at fits
  obtain ⟨reason, same⟩ := fits
  exact ⟨reason, by rw [List.getElem?_eq_getElem inside, same]⟩

theorem Alternating.reconnected (h : Alternating events)
    (found : events[position]? = some .reconnected) : ∃ before reason,
    position = before + 1 ∧ events[before]? = some (.disconnected reason) := by
  obtain ⟨even, positive⟩ := fits_reconnected.mp (h position _ found)
  obtain ⟨inside, _⟩ := List.getElem?_eq_some_iff.mp found
  have before : position - 1 < events.length := by omega
  obtain ⟨reason, earlier⟩ := h.odd before (by omega)
  exact ⟨position - 1, reason, by omega, earlier⟩

end

def inSession : Phase Conn → Bool
  | .session _ _ => true
  | _ => false

/-- Within a session the last event was of its connection, outside of one it was of the end of the
session before, and `had_prior_connection` tells whether there was any. -/
structure Told (s : State Conn Event) : Prop where
  alternating : Alternating (lifecycle s.log)
  parity : (lifecycle s.log).length % 2 = (inSession s.phase).toNat
  prior : s.hadPriorConnection = true ↔ lifecycle s.log ≠ []

section

variable {connections : Connections Conn Event} {config : TransportConfig} {s t : State Conn Event}

theorem Told.quietly (h : Told s) (log : lifecycle t.log = lifecycle s.log)
    (phase : inSession t.phase = inSession s.phase)
    (prior : t.hadPriorConnection = s.hadPriorConnection) : Told t where
  alternating := by
    rw [log]
    exact h.alternating
  parity := by
    rw [log, phase]
    exact h.parity
  prior := by
    rw [log, prior]
    exact h.prior

theorem Told.record (h : Told s) {entry : Happening Event} (quiet : published entry = none) :
    Told (s.record entry) := by
  have log : lifecycle (entry :: s.log) = lifecycle s.log := by
    rw [lifecycle_cons, quiet, Option.toList_none, List.append_nil]
  exact h.quietly log rfl rfl

theorem Told.go (h : Told s) {phase : Phase Conn} (same : inSession phase = inSession s.phase) :
    Told (s.go phase) :=
  h.quietly rfl same rfl

theorem Told.wake (h : Told s) (outside : inSession s.phase = false) (bump : Bool) :
    Told (s.wake bump) := by
  cases bump <;> exact h.quietly rfl outside.symm rfl

theorem Told.established (h : Told s) (outside : inSession s.phase = false) (conn : Conn) :
    Told (s.established conn) := by
  have parity : (lifecycle s.log).length % 2 = 0 := by
    rw [h.parity, outside, Bool.toNat_false]
  have fits : Fits (lifecycle s.log).length
      (if s.hadPriorConnection then .reconnected else .connected) := by
    cases prior : s.hadPriorConnection with
    | true =>
      have some : lifecycle s.log ≠ [] := h.prior.mp prior
      exact fits_reconnected.mpr ⟨parity, fun empty => some (List.eq_nil_of_length_eq_zero empty)⟩
    | false =>
      have none : ¬ lifecycle s.log ≠ [] := fun some => by simp [h.prior.mpr some] at prior
      exact fits_connected.mpr (by simpa using none)
  constructor
  · simp only [State.established, lifecycle_cons]
    exact h.alternating.append fits
  · simp only [State.established, lifecycle_cons, inSession, published, Option.toList_some,
      List.length_append, List.length_singleton, Bool.toNat_true]
    omega
  · simp [State.established, lifecycle_cons, published]

theorem Told.ended (h : Told s) (inside : inSession s.phase = true) (sample : UnitSample)
    (reason : DisconnectReason) : Told (s.ended config sample reason) := by
  have parity : (lifecycle s.log).length % 2 = 1 := by
    rw [h.parity, inside, Bool.toNat_true]
  have some : lifecycle s.log ≠ [] := by
    intro empty
    simp [empty] at parity
  have ends : ∀ phase : Phase Conn, inSession phase = false →
      Told ((s.record (.published (.disconnected reason))).go phase) := by
    intro phase outside
    constructor
    · simp only [State.go, State.record, lifecycle_cons]
      exact h.alternating.append (fits_disconnected.mpr parity)
    · simp only [State.go, State.record, lifecycle_cons, outside, published, Option.toList_some,
        List.length_append, List.length_singleton, Bool.toNat_false]
      omega
    · simpa [State.go, State.record, lifecycle_cons, published] using h.prior.mpr some
  unfold State.ended
  split <;> exact ends _ rfl

theorem told_poll {label : Label Event} (h : Told s)
    (edge : poll connections config s label = some t) : Told t := by
  cases moves_of_poll edge with
  | stop here told => exact h.go (by rw [here]; rfl)
  | proceed here quiet => exact h.go (by rw [here]; rfl)
  | attempt result sample here => exact (h.record rfl).go (by simp only [State.record, here]; rfl)
  | skip result sample here => exact h.go (by rw [here]; rfl)
  | establish instant sample accessToken here => exact h.established (by rw [here]; rfl) _
  | fail error sample accessToken here =>
    exact (h.record rfl).quietly rfl (by simp only [State.record, here]; rfl) rfl
  | inner event conn next seen here =>
    exact (h.record rfl).go (by simp only [State.record, here]; rfl)
  | disconnected conn seen sample reason here => exact h.ended (by rw [here]; rfl) sample reason
  | sessionChanged conn seen sample reason here => exact h.ended (by rw [here]; rfl) sample reason
  | slept delay bump here =>
    exact (h.record rfl).wake (by simp only [State.record, here]; rfl) bump
  | told delay bump version here value => exact h.quietly rfl (by rw [here]; rfl) rfl
  | hurried delay bump seen changed here news value =>
    have heard : Told { s with seen := seen } := h.quietly rfl rfl rfl
    exact heard.wake (by simp only [here]; rfl) bump
  | signal quiet opened =>
    have recorded : Told (s.record .signalled) := h.record rfl
    exact recorded.quietly rfl rfl rfl
  | dropSender opened =>
    have recorded : Told (s.record .dropped) := h.record rfl
    exact recorded.quietly rfl rfl rfl

end

theorem run_told {connections : Connections Conn Event} {config : TransportConfig}
    {labels : List (Label Event)} {s : State Conn Event}
    (run : Run (Steps (poll connections config)) {} labels s) : Told s := by
  have initial : Told ({} : State Conn Event) := ⟨alternating_nil, rfl, by simp [lifecycle]⟩
  exact run.invariant initial (fun _ _ _ h edge => told_poll h edge)

/-- The published events of any run are the first ones of Connected, Disconnected, Reconnected,
Disconnected, .... A supervisor that exits after a connection leaves with a Disconnected. -/
theorem run_lifecycle {connections : Connections Conn Event} {config : TransportConfig}
    {labels : List (Label Event)} {s : State Conn Event}
    (run : Run (Steps (poll connections config)) {} labels s) :
    Alternating (lifecycle s.log) ∧
      (∀ position, (lifecycle s.log)[position]? = some .connected → position = 0) ∧
      (∀ position reason other, (lifecycle s.log)[position]? = some (.disconnected reason) →
        (lifecycle s.log)[position + 1]? ≠ some (.disconnected other)) ∧
      (∀ position, (lifecycle s.log)[position]? = some .reconnected → ∃ before reason,
        position = before + 1 ∧ (lifecycle s.log)[before]? = some (.disconnected reason)) ∧
      (s.phase = .exited → (∃ label ∈ labels, label.isEstablished = true) →
        ∃ reason, (lifecycle s.log).getLast? = some (.disconnected reason)) := by
  have told := run_told run
  have alternating := told.alternating
  refine ⟨alternating, fun _ => alternating.connected, fun _ _ _ => alternating.disconnected,
    fun _ => alternating.reconnected, fun exited connected => ?_⟩
  obtain ⟨entry, member, alive⟩ := (run_announces run).established.mp connected
  have some : 0 < (lifecycle s.log).length := lifecycle_pos member alive
  have even : (lifecycle s.log).length % 2 = 0 := by
    rw [told.parity, exited]
    rfl
  have last : (lifecycle s.log).length - 1 < (lifecycle s.log).length := by omega
  obtain ⟨reason, found⟩ := alternating.odd last (by omega)
  exact ⟨reason, by rw [List.getLast?_eq_getElem?, found]⟩

/-- A subscriber that unsubscribes during its first session. -/
theorem run_lifecycle_unsubscribed :
    ∃ s : State Unit Unit, lifecycle s.log = [.connected, .disconnected .manual] ∧
      Alternating (lifecycle s.log) ∧
      ∃ reason, (lifecycle s.log).getLast? = some (.disconnected reason) := by
  let labels : List (Label Unit) := List.flatten [turn.take 1, [.signal], turn.drop 1]
  obtain ⟨s, run, exited, log⟩ : ∃ s, Run (Steps (poll silent {})) {} labels s ∧
      s.phase = .exited ∧ lifecycle s.log = [.connected, .disconnected .manual] :=
    ⟨_, run_of_execute rfl, rfl, rfl⟩
  obtain ⟨alternating, _, _, _, last⟩ := run_lifecycle run
  exact ⟨s, log, alternating, last exited ⟨.connected (.ok 0) default, by simp [labels, turn], rfl⟩⟩

end Polykit.Realtime.Lifecycle
