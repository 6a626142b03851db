/- Module: Polykit/Lib/Runs
   generality: G
   source: none(general)
   digest: Finite runs of a labelled step relation, the invariant rule, and what excludes deadlocks. -/

import Mathlib.Tactic

set_option autoImplicit false
set_option relaxedAutoImplicit false

namespace Polykit.Lib.Runs

variable {State Label : Type*}

/-- A finite run from `start`. The newest label stands first. -/
inductive Run (step : State → Label → State → Prop) (start : State) :
    List Label → State → Prop where
  | refl : Run step start [] start
  | tail {older : List Label} {middle finish : State} {label : Label} :
      Run step start older middle → step middle label finish →
      Run step start (label :: older) finish

/-- The steps of a relation whose label the guard admits in the state it is taken. -/
def Guarded (guard : State → Label → Prop) (step : State → Label → State → Prop) :
    State → Label → State → Prop :=
  fun s label t => step s label t ∧ guard s label

variable {step : State → Label → State → Prop} {start finish : State} {labels : List Label}

theorem Run.invariant {I : State → Prop} (initial : I start)
    (keeps : ∀ s label t, I s → step s label t → I t)
    (run : Run step start labels finish) : I finish := by
  induction run with
  | refl => exact initial
  | tail _ edge ih => exact keeps _ _ _ ih edge

theorem Run.history_invariant {I : List Label → State → Prop} (initial : I [] start)
    (keeps : ∀ older s label t, I older s → step s label t → I (label :: older) t)
    (run : Run step start labels finish) : I labels finish := by
  induction run with
  | refl => exact initial
  | tail _ edge ih => exact keeps _ _ _ _ ih edge

theorem Run.mono {other : State → Label → State → Prop}
    (weaker : ∀ s label t, step s label t → other s label t)
    (run : Run step start labels finish) : Run other start labels finish := by
  induction run with
  | refl => exact .refl
  | tail _ edge ih => exact ih.tail (weaker _ _ _ edge)

/-! A step function is the relation of its defined results, and runs of it compute. -/

def Steps (poll : State → Label → Option State) : State → Label → State → Prop :=
  fun s label t => poll s label = some t

def execute (poll : State → Label → Option State) (start : State) : List Label → Option State
  | [] => some start
  | label :: older => (execute poll start older).bind (fun s => poll s label)

theorem run_of_execute {poll : State → Label → Option State}
    (h : execute poll start labels = some finish) :
    Run (Steps poll) start labels finish := by
  induction labels generalizing finish with
  | nil =>
    cases h
    exact .refl
  | cons label older ih =>
    obtain ⟨middle, before, edge⟩ := Option.bind_eq_some_iff.mp h
    exact (ih before).tail edge

/-- A step function cut down to the labels that a test admits. -/
def restrict (test : State → Label → Bool) (poll : State → Label → Option State) :
    State → Label → Option State :=
  fun s label => if test s label then poll s label else none

theorem guarded_of_execute {test : State → Label → Bool} {poll : State → Label → Option State}
    (h : execute (restrict test poll) start labels = some finish) :
    Run (Guarded (fun s label => test s label = true) (Steps poll)) start labels finish := by
  refine (run_of_execute h).mono (fun s label t edge => ?_)
  simp only [Steps, restrict, Option.ite_none_right_eq_some] at edge
  exact ⟨edge.2, edge.1⟩

theorem guarded_of_execute_decide {guard : State → Label → Prop}
    [∀ s label, Decidable (guard s label)] {poll : State → Label → Option State}
    (h : execute (restrict (fun s label => decide (guard s label)) poll) start labels =
      some finish) : Run (Guarded guard (Steps poll)) start labels finish :=
  (guarded_of_execute h).mono (fun _ _ _ step => ⟨step.1, of_decide_eq_true step.2⟩)

/-! The table of the calls that are under way. -/

theorem update_some_cases {Id Entry : Type*} [DecidableEq Id] {table : Id → Option Entry}
    {id other : Id} {entry found : Entry}
    (h : Function.update table id (some entry) other = some found) :
    (other = id ∧ entry = found) ∨ (other ≠ id ∧ table other = some found) := by
  by_cases same : other = id
  · rw [same, Function.update_self, Option.some.injEq] at h
    exact .inl ⟨same, h⟩
  · rw [Function.update_of_ne same] at h
    exact .inr ⟨same, h⟩

end Polykit.Lib.Runs

/-! Sets of tasks that can only be freed by each other, and the ranks that exclude them. -/

namespace Polykit.Lib.Waiting

variable {Task : Type*} {waits : Task → Prop} {frees : Task → Task → Prop}

/-- A set of waiting tasks outside of which no task could free one of them. `frees u t` says
that `u` could end the wait of `t`. -/
structure Deadlocked (waits : Task → Prop) (frees : Task → Task → Prop) (tasks : Set Task) :
    Prop where
  nonempty : tasks.Nonempty
  waiting : ∀ t ∈ tasks, waits t
  closed : ∀ t ∈ tasks, ∀ u, frees u t → u ∈ tasks

/-- Follow the wait of some task of least rank: its freer is in the set and ranks lower. -/
theorem not_deadlocked_of_rank (rank : Task → Nat)
    (descends : ∀ t, waits t → ∃ u, frees u t ∧ (waits u → rank u < rank t)) (tasks : Set Task) :
    ¬ Deadlocked waits frees tasks := by
  intro dead
  have escape : ∀ n, ∀ t ∈ tasks, rank t = n → False := by
    intro n
    induction n using Nat.strong_induction_on with
    | _ n ih =>
      intro t member size
      obtain ⟨u, free, lower⟩ := descends t (dead.waiting t member)
      have inside := dead.closed t member u free
      exact ih (rank u) (size ▸ lower (dead.waiting u inside)) u inside rfl
  obtain ⟨t, member⟩ := dead.nonempty
  exact escape (rank t) t member rfl

end Polykit.Lib.Waiting
