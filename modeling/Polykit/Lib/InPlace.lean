/- Module: Polykit/Lib/InPlace
   generality: G
   source: none(general)
   digest: Loops that write into their state and return at the first error. -/

import Polykit.Lib.Fallible

set_option autoImplicit false
set_option relaxedAutoImplicit false

namespace Polykit.Lib.InPlace

open Lib.Fallible

variable {σ α ε : Type}

/-- The loop over a list. An error leaves what the turns before it wrote. -/
def run (f : σ → α → Except ε σ) : List α → σ → σ × Except ε Unit
  | [], s => (s, .ok ())
  | a :: rest, s =>
      match f s a with
      | .ok next => run f rest next
      | .error e => (s, .error e)

variable {f : σ → α → Except ε σ}

theorem run_cons_ok {a : α} {s next : σ} (turn : f s a = .ok next) (rest : List α) :
    run f (a :: rest) s = run f rest next := by
  simp [run, turn]

theorem run_cons_error {a : α} {s : σ} {e : ε} (turn : f s a = .error e) (rest : List α) :
    run f (a :: rest) s = (s, .error e) := by
  simp [run, turn]

/-- A loop that ends well wrote what the same loop over a copy returns. -/
theorem run_eq_ok_iff {l : List α} {s final : σ} :
    run f l s = (final, .ok ()) ↔ l.foldlM f s = .ok final := by
  induction l generalizing s with
  | nil => exact ⟨by rintro ⟨⟩; rfl, by rintro ⟨⟩; rfl⟩
  | cons a rest ih =>
    rw [List.foldlM_cons]
    cases turn : f s a with
    | error e => simp [run_cons_error turn, bind, Except.bind]
    | ok next => rw [run_cons_ok turn, ih, ok_bind]

/-- Turns that write nothing are passed over. -/
theorem run_idle {front : List α} {s : σ} (idle : ∀ a ∈ front, f s a = .ok s) (back : List α) :
    run f (front ++ back) s = run f back s := by
  induction front with
  | nil => rfl
  | cons a rest ih =>
    rw [List.cons_append, run_cons_ok (idle a List.mem_cons_self)]
    exact ih (fun b member => idle b (List.mem_cons_of_mem _ member))

/-- What relates the states around each turn relates the states around the loop, whichever way
it ends. -/
theorem run_relates {R : σ → σ → Prop} (refl : ∀ s, R s s)
    (trans : ∀ {a b c}, R a b → R b c → R a c)
    (turn : ∀ {s a next}, f s a = .ok next → R s next) (l : List α) (s : σ) :
    R s (run f l s).1 := by
  induction l generalizing s with
  | nil => exact refl s
  | cons a rest ih =>
    cases first : f s a with
    | error e =>
      rw [run_cons_error first]
      exact refl s
    | ok next =>
      rw [run_cons_ok first]
      exact trans (turn first) (ih next)

end Polykit.Lib.InPlace
