/- Module: Polykit/Sync/Reducer
   generality: I
   source: crates/polybase/src/sync/reducer.rs
   digest: The reducer wakes the runtime behind open gates only, and pending work has a wake-up. -/

import Polykit.OfflineQueue.Memory

set_option autoImplicit false
set_option relaxedAutoImplicit false

namespace Polykit.Sync.Reducer

open Contract Lib.Runs OfflineQueue.Memory

structure ReducerState where
  isConnected : Bool
  isSignedIn : Bool
  isProcessing : Bool
  hasPending : Bool
  consecutiveFailures : UInt32
  deriving DecidableEq

/-- Optimistic: connected and signed in until the runtime says otherwise. -/
def ReducerState.initial : ReducerState := ⟨true, true, false, false, 0⟩

inductive ReducerEvent
  | appLaunched (hasPending : Bool)
  | connectivityChanged (isConnected : Bool)
  | authStateChanged (isSignedIn : Bool)
  | offlineOperationEnqueued
  | offlineQueueProcessingStarted
  | offlineQueueProcessed (processedCount : Nat) (stillHasPending : Bool)
  deriving DecidableEq

/-- A delay is counted in milliseconds. -/
inductive ReducerEffect
  | schedule (delayMs : Nat)
  | processNow
  deriving DecidableEq

def step (state : ReducerState) : ReducerEvent → ReducerState × List ReducerEffect
  | .appLaunched hasPending =>
      let next := { state with hasPending := hasPending }
      if !hasPending || !next.isConnected || !next.isSignedIn || next.isProcessing then (next, [])
      else (next, [.schedule 0])
  | .connectivityChanged isConnected =>
      let wasConnected := state.isConnected
      let next := { state with isConnected := isConnected }
      if !isConnected || wasConnected then (next, [])
      else if !next.hasPending || !next.isSignedIn || next.isProcessing then (next, [])
      else (next, [.schedule (reconnectDebounceSecs * 1000)])
  | .authStateChanged isSignedIn =>
      let wasSignedIn := state.isSignedIn
      let next := { state with isSignedIn := isSignedIn }
      if !isSignedIn || wasSignedIn then (next, [])
      else if !next.hasPending || !next.isConnected || next.isProcessing then (next, [])
      else (next, [.schedule 0])
  | .offlineOperationEnqueued =>
      let next := { state with hasPending := true }
      if !next.isConnected || !next.isSignedIn || next.isProcessing then (next, [])
      else (next, [.schedule enqueueCoalesceMs])
  | .offlineQueueProcessingStarted => ({ state with isProcessing := true }, [])
  | .offlineQueueProcessed processedCount stillHasPending =>
      let next := { state with isProcessing := false, hasPending := stillHasPending }
      if !stillHasPending then ({ next with consecutiveFailures := 0 }, [])
      else
        let next := { next with
          consecutiveFailures :=
            if processedCount > 0 then 0 else saturatingSucc next.consecutiveFailures }
        if !next.isConnected || !next.isSignedIn then (next, [])
        else if processedCount > 0 then (next, [.schedule forwardProgressRetryMs])
        else (next, [.schedule (reconnectBackoffSeconds next.consecutiveFailures * 1000)])

def ReducerState.gatesOpen (state : ReducerState) : Bool :=
  state.hasPending && state.isConnected && state.isSignedIn && !state.isProcessing

/-! What one event does to the gates and to the effects. -/

/-- A step wakes the runtime, or leaves a closed gate, or found the gates open already. -/
inductive StepCase (state : ReducerState) (next : ReducerState × List ReducerEffect) : Prop
  | wakes (effects : next.2 ≠ []) (isOpen : next.1.gatesOpen = true)
  | closed (silent : next.2 = []) (isClosed : next.1.gatesOpen = false)
  | stillOpen (silent : next.2 = []) (wasOpen : state.gatesOpen = true)

theorem step_cases (state : ReducerState) (event : ReducerEvent) :
    StepCase state (step state event) := by
  cases event with
  | appLaunched hasPending =>
    simp only [step]
    split
    · exact .closed rfl (by grind [ReducerState.gatesOpen])
    · exact .wakes (List.cons_ne_nil _ _) (by grind [ReducerState.gatesOpen])
  | connectivityChanged isConnected =>
    simp only [step]
    split
    · rename_i unchanged
      cases isConnected with
      | false => exact .closed rfl (by simp [ReducerState.gatesOpen])
      | true =>
        have was : state.isConnected = true := by simpa using unchanged
        have same : { state with isConnected := true } = state := by rw [← was]
        rw [same]
        cases gates : state.gatesOpen with
        | false => exact .closed rfl gates
        | true => exact .stillOpen rfl gates
    · split
      · exact .closed rfl (by grind [ReducerState.gatesOpen])
      · exact .wakes (List.cons_ne_nil _ _) (by grind [ReducerState.gatesOpen])
  | authStateChanged isSignedIn =>
    simp only [step]
    split
    · rename_i unchanged
      cases isSignedIn with
      | false => exact .closed rfl (by simp [ReducerState.gatesOpen])
      | true =>
        have was : state.isSignedIn = true := by simpa using unchanged
        have same : { state with isSignedIn := true } = state := by rw [← was]
        rw [same]
        cases gates : state.gatesOpen with
        | false => exact .closed rfl gates
        | true => exact .stillOpen rfl gates
    · split
      · exact .closed rfl (by grind [ReducerState.gatesOpen])
      · exact .wakes (List.cons_ne_nil _ _) (by grind [ReducerState.gatesOpen])
  | offlineOperationEnqueued =>
    simp only [step]
    split
    · exact .closed rfl (by grind [ReducerState.gatesOpen])
    · exact .wakes (List.cons_ne_nil _ _) (by grind [ReducerState.gatesOpen])
  | offlineQueueProcessingStarted => exact .closed rfl (by simp [step, ReducerState.gatesOpen])
  | offlineQueueProcessed processedCount stillHasPending =>
    simp only [step]
    split
    · exact .closed rfl (by grind [ReducerState.gatesOpen])
    · split
      · exact .closed rfl (by grind [ReducerState.gatesOpen])
      · split
        · exact .wakes (List.cons_ne_nil _ _) (by grind [ReducerState.gatesOpen])
        · exact .wakes (List.cons_ne_nil _ _) (by grind [ReducerState.gatesOpen])

/-- One event of a run, with the effects it emitted and the state it led to. -/
structure Transition where
  event : ReducerEvent
  effects : List ReducerEffect
  next : ReducerState
  deriving DecidableEq

def Reduces (state : ReducerState) (transition : Transition) (next : ReducerState) : Prop :=
  step state transition.event = (next, transition.effects) ∧ transition.next = next

/-- The part of a run, newest first, after its last start of a replay. -/
def sinceStarted (run : List Transition) : List Transition :=
  run.takeWhile (fun transition => transition.event != .offlineQueueProcessingStarted)

/-- Effects came behind open gates, and open gates have one since the last start. -/
structure Awake (run : List Transition) (state : ReducerState) : Prop where
  behindOpenGates : ∀ transition ∈ run, transition.effects ≠ [] →
    transition.next.gatesOpen = true
  scheduled : state.gatesOpen = true →
    ∃ transition ∈ sinceStarted run, transition.effects ≠ []

theorem awake_step {older : List Transition} {state next : ReducerState}
    {transition : Transition} (awake : Awake older state)
    (edge : Reduces state transition next) : Awake (transition :: older) next := by
  obtain ⟨stepped, rfl⟩ := edge
  have outcome := step_cases state transition.event
  rw [stepped] at outcome
  constructor
  · intro emitted member effects
    rcases List.mem_cons.mp member with rfl | earlier
    · cases outcome with
      | wakes _ isOpen => exact isOpen
      | closed silent _ => exact absurd silent effects
      | stillOpen silent _ => exact absurd silent effects
    · exact awake.behindOpenGates emitted earlier effects
  · intro gates
    have running : transition.event ≠ .offlineQueueProcessingStarted := by
      intro started
      rw [started] at stepped
      have processing : transition.next.isProcessing = true :=
        (congrArg (fun result => result.1.isProcessing) stepped).symm
      simp [ReducerState.gatesOpen, processing] at gates
    have extends_ : sinceStarted (transition :: older) = transition :: sinceStarted older := by
      simp [sinceStarted, running]
    rw [extends_]
    cases outcome with
    | wakes effects _ => exact ⟨transition, List.mem_cons_self, effects⟩
    | closed _ isClosed => simp [isClosed] at gates
    | stillOpen _ wasOpen =>
      obtain ⟨earlier, member, effects⟩ := awake.scheduled wasOpen
      exact ⟨earlier, List.mem_cons_of_mem _ member, effects⟩

/-- The reducer wakes the runtime behind open gates only, and never leaves pending work behind
open gates without a wake-up. -/
theorem reducer_awake {run : List Transition} {state : ReducerState}
    (runs : Run Reduces .initial run state) : Awake run state :=
  runs.history_invariant ⟨by simp, by simp [ReducerState.gatesOpen, ReducerState.initial]⟩
    (fun _ _ _ _ => awake_step)

/-- A write queued offline is scheduled when the connection returns. -/
theorem reducer_awake_reconnected :
    let offline : ReducerState := ⟨false, true, false, false, 0⟩
    let pending : ReducerState := ⟨false, true, false, true, 0⟩
    let online : ReducerState := ⟨true, true, false, true, 0⟩
    Awake [⟨.connectivityChanged true, [.schedule 2000], online⟩,
      ⟨.offlineOperationEnqueued, [], pending⟩,
      ⟨.connectivityChanged false, [], offline⟩] online :=
  reducer_awake (.tail (.tail (.tail .refl ⟨rfl, rfl⟩) ⟨rfl, rfl⟩) ⟨rfl, rfl⟩)

end Polykit.Sync.Reducer
