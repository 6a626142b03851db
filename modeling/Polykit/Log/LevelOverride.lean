/- Module: Polykit/Log/LevelOverride
   generality: I
   source: crates/polylog/src/level_override.rs, crates/polylog/src/init.rs
   digest: Overrides of the global level, and the runs after which the old level is in force. -/

import Mathlib.Tactic
import Polykit.Lib.Runs
import Polykit.Log.Level

set_option autoImplicit false
set_option relaxedAutoImplicit false

namespace Polykit.Log.LevelOverride

open Polykit.Lib.Runs

/-- A guard on its way: its creation reads the level in force and then sets its own. -/
inductive Guard
  | creating (previous level : Level)
  | held (previous : Level)
  | dropped
  deriving DecidableEq

/-- The process-wide slot, and the guards under the numbers they are told apart by. -/
structure Process where
  minLevel : UInt8
  guards : Nat → Option Guard

namespace Process

def currentMinLevel (p : Process) : Level := (Level.fromU8 p.minLevel).getD .info

def setMinLevel (p : Process) (level : Level) : Process := { p with minLevel := level.asU8 }

def setGuard (p : Process) (id : Nat) (guard : Guard) : Process :=
  { p with guards := Function.update p.guards id (some guard) }

def start (level : Level) : Process := ⟨level.asU8, fun _ => none⟩

variable (p : Process) (id : Nat) (level : Level) (guard : Guard)

@[simp] theorem currentMinLevel_setMinLevel : (p.setMinLevel level).currentMinLevel = level := by
  simp [currentMinLevel, setMinLevel]

@[simp] theorem currentMinLevel_setGuard :
    (p.setGuard id guard).currentMinLevel = p.currentMinLevel := rfl

@[simp] theorem currentMinLevel_start : (start level).currentMinLevel = level := by
  simp [currentMinLevel, start]

@[simp] theorem guards_setMinLevel : (p.setMinLevel level).guards = p.guards := rfl

@[simp] theorem guards_setGuard :
    (p.setGuard id guard).guards = Function.update p.guards id (some guard) := rfl

end Process

/-- What a thread does with a guard. Between the two halves of a creation others may run. -/
inductive Action
  | load (id : Nat) (level : Level)
  | store (id : Nat)
  | drop (id : Nat)
  deriving DecidableEq

def step (p : Process) : Action → Option Process
  | .load id level =>
      match p.guards id with
      | none => some (p.setGuard id (.creating p.currentMinLevel level))
      | some _ => none
  | .store id =>
      match p.guards id with
      | some (.creating previous level) =>
          some ((p.setMinLevel level).setGuard id (.held previous))
      | _ => none
  | .drop id =>
      match p.guards id with
      | some (.held previous) => some ((p.setMinLevel previous).setGuard id .dropped)
      | _ => none

theorem step_cases {p q : Process} {action : Action} (h : step p action = some q) :
    (∃ id level, action = .load id level ∧ p.guards id = none ∧
      q = p.setGuard id (.creating p.currentMinLevel level)) ∨
    (∃ id previous level, action = .store id ∧ p.guards id = some (.creating previous level) ∧
      q = (p.setMinLevel level).setGuard id (.held previous)) ∨
    ∃ id previous, action = .drop id ∧ p.guards id = some (.held previous) ∧
      q = (p.setMinLevel previous).setGuard id .dropped := by
  cases action with
  | load id level =>
    simp only [step] at h
    split at h
    · rename_i fresh
      exact .inl ⟨id, level, rfl, fresh, (Option.some.inj h).symm⟩
    · cases h
  | store id =>
    simp only [step] at h
    split at h
    · rename_i previous level found
      exact .inr (.inl ⟨id, previous, level, rfl, found, (Option.some.inj h).symm⟩)
    · cases h
  | drop id =>
    simp only [step] at h
    split at h
    · rename_i previous found
      exact .inr (.inr ⟨id, previous, rfl, found, (Option.some.inj h).symm⟩)
    · cases h

/-! Which level is in force, read off the history, newest action first. -/

def requested (id : Nat) : List Action → Option Level
  | [] => none
  | .load other level :: older => if other = id then some level else requested id older
  | _ :: older => requested id older

def beforeLoad (id : Nat) : List Action → List Action
  | [] => []
  | .load other _ :: older => if other = id then older else beforeLoad id older
  | _ :: older => beforeLoad id older

/-- A moment at which the level that was in force at the start is in force: nothing has been
set, or a guard has asked for that very level, or a guard has been dropped that was created at
such a moment. -/
inductive Clean (start : Level) : List Action → Prop
  | begin : Clean start []
  | load {older : List Action} (id : Nat) (level : Level) (h : Clean start older) :
      Clean start (.load id level :: older)
  | store {older : List Action} {id : Nat} (h : requested id older = some start) :
      Clean start (.store id :: older)
  | drop {older : List Action} {id : Nat} (h : Clean start (beforeLoad id older)) :
      Clean start (.drop id :: older)

/-- The state of a process and its history agree on which levels are the one of the start. -/
structure Traced (start : Level) (history : List Action) (p : Process) : Prop where
  current : p.currentMinLevel = start ↔ Clean start history
  creating : ∀ id previous level, p.guards id = some (.creating previous level) →
    requested id history = some level ∧ (previous = start ↔ Clean start (beforeLoad id history))
  held : ∀ id previous, p.guards id = some (.held previous) →
    (previous = start ↔ Clean start (beforeLoad id history))

theorem traced_start (level : Level) : Traced level [] (Process.start level) where
  current := by simp [Clean.begin]
  creating id previous level h := by cases h
  held id previous h := by cases h

theorem Traced.after {start : Level} {history : List Action} {p q : Process} {action : Action}
    (h : Traced start history p) (taken : step p action = some q) :
    Traced start (action :: history) q := by
  rcases step_cases taken with ⟨id, level, rfl, fresh, rfl⟩ |
    ⟨id, previous, level, rfl, creating, rfl⟩ | ⟨id, previous, rfl, held, rfl⟩
  · refine ⟨?_, ?_, ?_⟩
    · rw [Process.currentMinLevel_setGuard, h.current]
      exact ⟨.load id level, fun clean => by cases clean; assumption⟩
    · intro other previous asked found
      rcases update_some_cases found with ⟨rfl, same⟩ | ⟨different, before⟩
      · cases same
        simp only [requested, beforeLoad, if_true]
        exact ⟨trivial, h.current⟩
      · simp only [requested, beforeLoad, Ne.symm different, if_false]
        exact h.creating other previous asked before
    · intro other previous found
      rcases update_some_cases found with ⟨rfl, same⟩ | ⟨different, before⟩
      · cases same
      · simp only [beforeLoad, Ne.symm different, if_false]
        exact h.held other previous before
  · have asked := h.creating id previous level creating
    refine ⟨?_, ?_, ?_⟩
    · rw [Process.currentMinLevel_setGuard, Process.currentMinLevel_setMinLevel]
      constructor
      · rintro rfl
        exact .store asked.1
      · rintro (_ | _ | same)
        exact Option.some.inj (asked.1.symm.trans same)
    · intro other previous' asked' found
      rcases update_some_cases found with ⟨rfl, same⟩ | ⟨different, before⟩
      · cases same
      · exact h.creating other previous' asked' before
    · intro other previous' found
      rcases update_some_cases found with ⟨rfl, same⟩ | ⟨different, before⟩
      · cases same
        exact asked.2
      · exact h.held other previous' before
  · refine ⟨?_, ?_, ?_⟩
    · rw [Process.currentMinLevel_setGuard, Process.currentMinLevel_setMinLevel,
        h.held id previous held]
      exact ⟨.drop, fun clean => by cases clean; assumption⟩
    · intro other previous' asked' found
      rcases update_some_cases found with ⟨rfl, same⟩ | ⟨different, before⟩
      · cases same
      · exact h.creating other previous' asked' before
    · intro other previous' found
      rcases update_some_cases found with ⟨rfl, same⟩ | ⟨different, before⟩
      · cases same
      · exact h.held other previous' before

section Runs

variable {start : Level} {history : List Action} {p : Process}

theorem Traced.of_run (run : Run (Steps step) (Process.start start) history p) :
    Traced start history p :=
  run.history_invariant (traced_start start) fun _ _ _ _ traced taken => traced.after taken

theorem last_is_drop (run : Run (Steps step) (Process.start start) history p)
    (ended : ∀ id guard, p.guards id = some guard → guard = .dropped) :
    history = [] ∨ ∃ id older, history = .drop id :: older := by
  cases run with
  | refl => exact .inl rfl
  | tail _ taken =>
    rcases step_cases taken with ⟨id, level, rfl, _, rfl⟩ | ⟨id, previous, level, rfl, _, rfl⟩ |
      ⟨id, previous, rfl, _, rfl⟩
    · cases ended id _ (Function.update_self ..)
    · cases ended id _ (Function.update_self ..)
    · exact .inr ⟨id, _, rfl⟩

/-- The level of the start is back exactly if the guard dropped last was created at a moment
when it was in force. -/
theorem restored_iff (run : Run (Steps step) (Process.start start) history p)
    (ended : ∀ id guard, p.guards id = some guard → guard = .dropped) :
    p.currentMinLevel = start ↔
      ∀ id older, history = .drop id :: older → Clean start (beforeLoad id older) := by
  rw [(Traced.of_run run).current]
  rcases last_is_drop run ended with rfl | ⟨id, older, rfl⟩
  · exact iff_of_true .begin (by simp)
  · constructor
    · rintro (_ | _ | _ | clean) other older' ⟨rfl, rfl⟩
      exact clean
    · exact fun clean => .drop (clean id older rfl)

/-- Guards that are dropped in the reverse order of their creation, no creation and no drop of
another one within a creation. -/
inductive Nested : List Action → Prop
  | nil : Nested []
  | guard {outer inner : List Action} (id : Nat) (level : Level) (before : Nested outer)
      (within : Nested inner) (fresh : ∀ level, .load id level ∉ inner) :
      Nested (.drop id :: (inner ++ .store id :: .load id level :: outer))

theorem beforeLoad_append {id : Nat} {inner : List Action} (fresh : ∀ level, .load id level ∉ inner)
    (older : List Action) : beforeLoad id (inner ++ older) = beforeLoad id older := by
  induction inner with
  | nil => rfl
  | cons action inner ih =>
    have later := ih fun level member => fresh level (List.mem_cons_of_mem _ member)
    cases action with
    | load other level =>
      have different : other ≠ id := by
        rintro rfl
        exact fresh level List.mem_cons_self
      rw [List.cons_append, beforeLoad, if_neg different, later]
    | store other => exact later
    | drop other => exact later

theorem Nested.clean {nested : List Action} (h : Nested nested) (start : Level) :
    Clean start nested := by
  induction h with
  | nil => exact .begin
  | @guard outside _ id level _ _ fresh outer _ =>
    have found : beforeLoad id (.store id :: .load id level :: outside) = outside := if_pos rfl
    apply Clean.drop
    rw [beforeLoad_append fresh, found]
    exact outer

/-- Nested overrides unwind in the reverse order. -/
theorem nested_restores (run : Run (Steps step) (Process.start start) history p)
    (nested : Nested history) : p.currentMinLevel = start :=
  (Traced.of_run run).current.mpr (nested.clean start)

end Runs

/-- Two guards, `debug` and then `warn`, dropped in the order of their creation, newest first. -/
def firstDroppedFirst : List Action :=
  [.drop 1, .drop 0, .store 1, .load 1 .warn, .store 0, .load 0 .debug]

def lastDroppedFirst : List Action :=
  [.drop 0, .drop 1, .store 1, .load 1 .warn, .store 0, .load 0 .debug]

theorem two_guards_dropped {history : List Action} {p : Process}
    (either : history = lastDroppedFirst ∨ history = firstDroppedFirst)
    (h : execute step (Process.start .info) history = some p) (id : Nat) (guard : Guard)
    (found : p.guards id = some guard) : guard = .dropped := by
  rcases either with rfl | rfl <;>
  · cases h
    rcases update_some_cases found with ⟨_, rfl⟩ | ⟨first, found⟩
    · rfl
    rcases update_some_cases found with ⟨_, rfl⟩ | ⟨second, found⟩
    · rfl
    simp [Process.start, first, second] at found

theorem lastDroppedFirst_restored : ∃ p,
    Run (Steps step) (Process.start .info) lastDroppedFirst p ∧ p.currentMinLevel = .info := by
  have result : ∃ p, execute step (Process.start .info) lastDroppedFirst = some p := ⟨_, rfl⟩
  obtain ⟨p, computed⟩ := result
  have run := run_of_execute computed
  refine ⟨p, run, (restored_iff run (two_guards_dropped (.inl rfl) computed)).mpr ?_⟩
  rintro id older ⟨rfl, rfl⟩
  exact .begin

/-- Both guards are gone, and the level that the first one asked for stays. -/
theorem firstDroppedFirst_keeps : ∃ p,
    Run (Steps step) (Process.start .info) firstDroppedFirst p ∧
      (∀ id guard, p.guards id = some guard → guard = .dropped) ∧
      p.currentMinLevel = .debug := by
  have result : ∃ p, execute step (Process.start .info) firstDroppedFirst = some p ∧
      p.currentMinLevel = .debug := ⟨_, rfl, rfl⟩
  obtain ⟨p, computed, level⟩ := result
  exact ⟨p, run_of_execute computed, two_guards_dropped (.inr rfl) computed, level⟩

end Polykit.Log.LevelOverride
