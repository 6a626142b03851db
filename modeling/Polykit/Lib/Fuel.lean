/- Module: Polykit/Lib/Fuel
   generality: G
   source: none(general)
   digest: Fallible computations that may run dry, ordered by how far they come. -/

import Mathlib.Tactic
import Polykit.Lib.Fallible

set_option autoImplicit false
set_option relaxedAutoImplicit false

namespace Polykit.Lib.Fuel

open Polykit.Lib.Fallible

variable {ε α β : Type} {dry : ε} {x y z : Except ε α}

/-- `y` answers as `x` does, unless `x` has run dry. -/
def Below (dry : ε) (x y : Except ε α) : Prop := x = .error dry ∨ x = y

@[simp] theorem Below.refl : Below dry x x := .inr rfl

@[simp] theorem Below.of_dry : Below dry (.error dry) x := .inl rfl

theorem Below.trans (first : Below dry x y) (second : Below dry y z) : Below dry x z := by
  rcases first with out | rfl
  · exact .inl out
  · exact second

theorem Below.eq_ok (h : Below dry x y) {a : α} (result : x = .ok a) : y = .ok a := by
  rcases h with out | rfl
  · rw [out] at result
    cases result
  · exact result

theorem Below.bind {f g : α → Except ε β} (h : Below dry x y) (later : ∀ a, Below dry (f a) (g a)) :
    Below dry (x >>= f) (y >>= g) := by
  rcases h with rfl | rfl
  · exact .inl rfl
  · cases x with
    | error e => exact .inr rfl
    | ok a => exact later a

theorem Below.ite {c : Prop} [Decidable c] {x' y' : Except ε α} (yes : Below dry x x')
    (no : Below dry y y') : Below dry (if c then x else y) (if c then x' else y') := by
  split
  · exact yes
  · exact no

theorem below_of_le {f : Nat → Except ε α} (step : ∀ n, Below dry (f n) (f (n + 1))) {n m : Nat}
    (more : n ≤ m) : Below dry (f n) (f m) := by
  induction m, more using Nat.le_induction with
  | base => exact .refl
  | succ m _ ih => exact ih.trans (step m)

end Polykit.Lib.Fuel
