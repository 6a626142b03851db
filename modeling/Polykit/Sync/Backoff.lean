/- Module: Polykit/Sync/Backoff
   generality: I
   source: crates/polybase/src/sync/reducer.rs, crates/polybase/src/contract.rs
   digest: The reducer counts the failures of a streak, and waits the ladder's step for them. -/

import Polykit.Lib.History
import Polykit.Sync.Reducer

set_option autoImplicit false
set_option relaxedAutoImplicit false

namespace Polykit.Sync.Backoff

open Contract Lib.History Lib.Runs OfflineQueue.Memory Reducer

def stalled (transition : Transition) : Bool :=
  match transition.event with
  | .offlineQueueProcessed processedCount stillHasPending => processedCount == 0 && stillHasPending
  | _ => false

def recovered (transition : Transition) : Bool :=
  match transition.event with
  | .offlineQueueProcessed processedCount stillHasPending => processedCount > 0 || !stillHasPending
  | _ => false

theorem recovered_of_stalled {transition : Transition} (h : stalled transition = true) :
    recovered transition = false := by
  obtain ⟨event, effects, next⟩ := transition
  cases event with
  | offlineQueueProcessed processedCount stillHasPending =>
    cases stillHasPending <;> simp_all [stalled, recovered]
  | _ => rfl

/-- The stalled replays of a run, newest first, since the last one that recovered. -/
def streak (run : List Transition) : Nat := countSince stalled recovered run

/-- The ladder's entries are counted from one. -/
def ladderEntryMs (number : Nat) : Nat := reconnectBackoffLadderSecs.getD (number - 1) 0 * 1000

theorem ladderEntryMs_mono {m n : Nat} (h : m ≤ n) :
    ladderEntryMs (min m 6) ≤ ladderEntryMs (min n 6) := by
  have steps : ∀ a ≤ 6, ∀ b ≤ 6, a ≤ b → ladderEntryMs a ≤ ladderEntryMs b := by decide
  exact steps _ (min_le_right m 6) _ (min_le_right n 6) (min_le_min_right 6 h)

theorem ladderEntryMs_le (n : Nat) : ladderEntryMs (min n 6) ≤ 120000 := by
  have steps : ∀ a ≤ 6, ladderEntryMs a ≤ 120000 := by decide
  exact steps _ (min_le_right n 6)

theorem reconnectBackoffSeconds_eq {count : UInt32} {n : Nat}
    (counted : count.toNat = min n (2 ^ 32 - 1)) :
    reconnectBackoffSeconds count * 1000 = ladderEntryMs (min n 6) := by
  have index : min (count.toNat - 1) 5 = min n 6 - 1 := by omega
  unfold reconnectBackoffSeconds ladderEntryMs
  rw [← index]
  rfl

def countAfter (count : UInt32) (transition : Transition) : UInt32 :=
  if recovered transition then 0 else if stalled transition then saturatingSucc count else count

theorem step_backoff {state next : ReducerState} {transition : Transition}
    (edge : Reduces state transition next) :
    next.consecutiveFailures = countAfter state.consecutiveFailures transition ∧
      (stalled transition = true → ∀ effect ∈ transition.effects,
        effect = .schedule (reconnectBackoffSeconds next.consecutiveFailures * 1000)) := by
  obtain ⟨event, effects, after⟩ := transition
  obtain ⟨stepped, same⟩ := edge
  have reached : after = next := same
  subst reached
  cases event with
  | offlineQueueProcessed processedCount stillHasPending =>
    cases stillHasPending with
    | false =>
      cases stepped
      exact ⟨by simp [countAfter, recovered], by simp [stalled]⟩
    | true =>
      cases processedCount with
      | zero =>
        simp only [step, Bool.not_true, Bool.false_eq_true, if_false, gt_iff_lt,
          Nat.lt_irrefl] at stepped
        split at stepped
        · cases stepped
          exact ⟨rfl, fun _ _ member => absurd member List.not_mem_nil⟩
        · cases stepped
          exact ⟨rfl, fun _ _ member => List.mem_singleton.mp member⟩
      | succ drained =>
        simp only [step, Bool.not_true, Bool.false_eq_true, if_false, gt_iff_lt,
          Nat.succ_pos, if_true] at stepped
        split at stepped <;> cases stepped <;>
          exact ⟨by simp [countAfter, recovered], fun stalls => absurd stalls Bool.false_ne_true⟩
  | offlineQueueProcessingStarted =>
    cases stepped
    exact ⟨rfl, fun stalls => absurd stalls Bool.false_ne_true⟩
  | _ =>
    simp only [step] at stepped
    repeat' split at stepped
    all_goals
      cases stepped
      exact ⟨rfl, fun stalls => absurd stalls Bool.false_ne_true⟩

/-- The count is the streak's, and every stalled replay waited for the streak it ended. -/
structure BacksOff (run : List Transition) (state : ReducerState) : Prop where
  counted : state.consecutiveFailures.toNat = min (streak run) (2 ^ 32 - 1)
  delays : ∀ newer transition older, run = newer ++ transition :: older →
    stalled transition = true → ∀ effect ∈ transition.effects,
      effect = .schedule (ladderEntryMs (min (streak (transition :: older)) 6))

theorem backsOff_step {older : List Transition} {state next : ReducerState}
    {transition : Transition} (h : BacksOff older state)
    (edge : Reduces state transition next) : BacksOff (transition :: older) next := by
  obtain ⟨count, waits⟩ := step_backoff edge
  have counted : next.consecutiveFailures.toNat =
      min (streak (transition :: older)) (2 ^ 32 - 1) := by
    rw [count, streak, countSince_cons]
    unfold countAfter
    split
    · rfl
    · split
      · exact saturatingSucc_toNat h.counted
      · exact h.counted
  refine ⟨counted, fun newer found rest split idle effect member => ?_⟩
  rcases split_cons split with ⟨rfl, rfl, rfl⟩ | ⟨between, rfl, earlier⟩
  · rw [waits idle effect member, reconnectBackoffSeconds_eq counted]
  · exact h.delays between found rest earlier idle effect member

theorem run_backsOff {run : List Transition} {state : ReducerState}
    (runs : Run Reduces .initial run state) : BacksOff run state :=
  runs.history_invariant ⟨rfl, by simp⟩ (fun _ _ _ _ => backsOff_step)

/-- The count of failures is the streak's length as far as it fits. A stalled replay schedules
nothing, or the next one after the ladder's step for the streak. Within a streak the delays never
go down, and none is above two minutes. -/
theorem reducer_backs_off {run : List Transition} {state : ReducerState}
    (runs : Run Reduces .initial run state) :
    state.consecutiveFailures.toNat = min (streak run) (2 ^ 32 - 1) ∧
      (∀ newer transition older, run = newer ++ transition :: older →
        stalled transition = true → ∀ effect ∈ transition.effects,
          ∃ delay, effect = .schedule delay ∧
            delay = ladderEntryMs (min (streak (transition :: older)) 6) ∧ delay ≤ 120000) ∧
      ∀ newest later between earlier oldest,
        run = newest ++ later :: (between ++ earlier :: oldest) →
        stalled later = true → stalled earlier = true →
        (∀ transition ∈ between, recovered transition = false) →
        ∀ before after, .schedule before ∈ earlier.effects → .schedule after ∈ later.effects →
          before ≤ after := by
  have h := run_backsOff runs
  refine ⟨h.counted, ?_, ?_⟩
  · intro newer transition older split idle effect member
    exact ⟨_, h.delays newer transition older split idle effect member, rfl, ladderEntryMs_le _⟩
  · intro newest later between earlier oldest split laterIdle earlierIdle quiet before after
      first second
    have beforeIs := h.delays (newest ++ later :: between) earlier oldest (by simp [split])
      earlierIdle _ first
    have afterIs := h.delays newest later _ split laterIdle _ second
    rw [ReducerEffect.schedule.injEq] at beforeIs afterIs
    rw [beforeIs, afterIs]
    have noReset : ∀ transition ∈ later :: between, recovered transition = false := by
      intro transition member
      rcases List.mem_cons.mp member with rfl | member
      · exact recovered_of_stalled laterIdle
      · exact quiet transition member
    exact ladderEntryMs_mono (countSince_le_append (later :: between) noReset)

/-- Replays fail three times, the second time while signed out, and each wait is longer. -/
theorem reducer_backs_off_offline :
    let last : Transition :=
      ⟨.offlineQueueProcessed 0 true, [.schedule 10000], ⟨true, true, false, true, 3⟩⟩
    let first : Transition :=
      ⟨.offlineQueueProcessed 0 true, [.schedule 2000], ⟨true, true, false, true, 1⟩⟩
    let between : List Transition :=
      [⟨.authStateChanged true, [.schedule 0], ⟨true, true, false, true, 2⟩⟩,
        ⟨.offlineQueueProcessed 0 true, [], ⟨true, false, false, true, 2⟩⟩,
        ⟨.authStateChanged false, [], ⟨true, false, false, true, 1⟩⟩]
    (3 : UInt32).toNat = min (streak (last :: (between ++ [first]))) (2 ^ 32 - 1) ∧
      2000 ≤ 10000 := by
  intro last first between
  have runs : Run Reduces .initial (last :: (between ++ [first])) last.next :=
    .tail (.tail (.tail (.tail (.tail .refl ⟨rfl, rfl⟩) ⟨rfl, rfl⟩) ⟨rfl, rfl⟩) ⟨rfl, rfl⟩)
      ⟨rfl, rfl⟩
  obtain ⟨counted, _, grow⟩ := reducer_backs_off runs
  exact ⟨counted, grow [] last between first [] rfl rfl rfl (by decide) 2000 10000 (by decide)
    (by decide)⟩

end Polykit.Sync.Backoff
