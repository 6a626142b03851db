/- Module: Polykit/Lib/Interleaving
   generality: G
   source: none(general)
   digest: Two interleaved sequences of actions that commute act as one after the other. -/

import Mathlib.Tactic

set_option autoImplicit false
set_option relaxedAutoImplicit false

namespace Polykit.Lib.Interleaving

variable {State Left Right : Type}

def lefts (events : List (Left ⊕ Right)) : List Left := events.filterMap Sum.getLeft?

def rights (events : List (Left ⊕ Right)) : List Right := events.filterMap Sum.getRight?

def runAll (left : State → Left → State) (right : State → Right → State) (start : State)
    (events : List (Left ⊕ Right)) : State :=
  events.foldl (fun s event => event.elim (left s) (right s)) start

theorem foldl_after {left : State → Left → State} {right : State → Right → State} {b : Right}
    (actions : List Left) (start : State)
    (commutes : ∀ a ∈ actions, ∀ s, left (right s b) a = right (left s a) b) :
    actions.foldl left (right start b) = right (actions.foldl left start) b := by
  induction actions generalizing start with
  | nil => rfl
  | cons head tail ih =>
    have first := commutes head List.mem_cons_self start
    rw [List.foldl_cons, first, ih _ (fun a member => commutes a (List.mem_cons_of_mem _ member)),
      List.foldl_cons]

theorem runAll_eq {left : State → Left → State} {right : State → Right → State}
    (events : List (Left ⊕ Right)) (start : State)
    (commutes : ∀ a ∈ lefts events, ∀ b ∈ rights events, ∀ s,
      left (right s b) a = right (left s a) b) :
    runAll left right start events =
      (rights events).foldl right ((lefts events).foldl left start) := by
  induction events generalizing start with
  | nil => rfl
  | cons event rest ih =>
    cases event with
    | inl a =>
      have later : ∀ x ∈ lefts rest, ∀ b ∈ rights rest, ∀ s,
          left (right s b) x = right (left s x) b := fun x hx b hb =>
        commutes x (List.mem_cons_of_mem a hx) b hb
      exact ih (left start a) later
    | inr b =>
      have later : ∀ x ∈ lefts rest, ∀ y ∈ rights rest, ∀ s,
          left (right s y) x = right (left s x) y := fun x hx y hy =>
        commutes x hx y (List.mem_cons_of_mem b hy)
      have moved := foldl_after (lefts rest) start
        (fun x hx => commutes x hx b List.mem_cons_self)
      have whole := ih (right start b) later
      rw [moved] at whole
      exact whole

end Polykit.Lib.Interleaving
