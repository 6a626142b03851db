/- Module: Polykit/Lib/Lockstep
   generality: G
   source: none(general)
   digest: Components driven by the same operations, and relations under which they answer alike. -/

import Mathlib.Tactic

set_option autoImplicit false
set_option relaxedAutoImplicit false

namespace Polykit.Lib.Lockstep

abbrev Component (State Op Answer : Type) := State → Op → State × Answer

variable {S T Op Answer : Type}

def Component.answers (c : Component S Op Answer) : S → List Op → List Answer
  | _, [] => []
  | s, op :: later => (c s op).2 :: Component.answers c (c s op).1 later

def Component.final (c : Component S Op Answer) : S → List Op → S
  | s, [] => s
  | s, op :: later => Component.final c (c s op).1 later

def Component.states (c : Component S Op Answer) : S → List Op → List S
  | s, [] => [s]
  | s, op :: later => s :: Component.states c (c s op).1 later

def Component.Admits (c : Component S Op Answer) (test : S → Op → Prop) : S → List Op → Prop
  | _, [] => True
  | s, op :: later => test s op ∧ Component.Admits c test (c s op).1 later

theorem Component.mem_states (c : Component S Op Answer) (s : S) (ops : List Op) :
    s ∈ c.states s ops := by
  cases ops <;> exact List.mem_cons_self

theorem Component.states_append (c : Component S Op Answer) (s : S) (ops : List Op) (op : Op) :
    c.states s (ops ++ [op]) = c.states s ops ++ [(c (c.final s ops) op).1] := by
  induction ops generalizing s with
  | nil => rfl
  | cons first later ih => exact congrArg (s :: ·) (ih _)

/-- Related components give the same answers. The relation may speak of the operations still
to come. -/
theorem answers_eq {a : Component S Op Answer} {b : Component T Op Answer}
    {R : List Op → S → T → Prop}
    (step : ∀ op later s t, R (op :: later) s t →
      (a s op).2 = (b t op).2 ∧ R later (a s op).1 (b t op).1) :
    ∀ ops s t, R ops s t → a.answers s ops = b.answers t ops := by
  intro ops
  induction ops with
  | nil => exact fun _ _ _ => rfl
  | cons op later ih =>
    intro s t related
    obtain ⟨same, next⟩ := step op later s t related
    have rest := ih _ _ next
    simp only [Component.answers, same, rest]

theorem Component.final_invariant {c : Component S Op Answer} {R : List Op → S → Prop}
    (step : ∀ op later s, R (op :: later) s → R later (c s op).1) :
    ∀ ops s, R ops s → R [] (c.final s ops) := by
  intro ops
  induction ops with
  | nil => exact fun _ holds => holds
  | cons op later ih => exact fun s holds => ih _ (step op later s holds)

end Polykit.Lib.Lockstep
