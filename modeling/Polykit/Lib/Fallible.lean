/- Module: Polykit/Lib/Fallible
   generality: G
   source: none(general)
   digest: Reading a successful fallible computation back step by step. -/

import Mathlib.Tactic

set_option autoImplicit false
set_option relaxedAutoImplicit false

namespace Polykit.Lib.Fallible

variable {ε ε' α β : Type}

theorem bind_eq_ok {x : Except ε α} {f : α → Except ε β} {b : β} :
    (x >>= f) = .ok b ↔ ∃ a, x = .ok a ∧ f a = .ok b := by
  cases x <;> simp [bind, Except.bind]

@[simp] theorem ok_bind (a : α) (f : α → Except ε β) : (Except.ok a >>= f) = f a := rfl

@[simp] theorem mapError_ok (a : α) (f : ε → ε') :
    (Except.ok a : Except ε α).mapError f = .ok a := rfl

theorem mapError_eq_ok {x : Except ε α} {f : ε → ε'} {a : α} :
    x.mapError f = .ok a ↔ x = .ok a := by
  cases x <;> simp [Except.mapError]

theorem mapError_eq_error {x : Except ε α} {f : ε → ε'} {e' : ε'}
    (h : x.mapError f = .error e') : ∃ e, x = .error e := by
  cases x with
  | error e => exact ⟨e, rfl⟩
  | ok a => cases h

theorem map_eq_ok {x : Except ε α} {f : α → β} {b : β} :
    x.map f = .ok b ↔ ∃ a, x = .ok a ∧ f a = b := by
  cases x <;> simp [Except.map]

theorem foldlM_keeps {σ : Type} {f : σ → α → Except ε σ} {I : σ → Prop} {l : List α}
    (turn : ∀ a ∈ l, ∀ s, I s → ∃ s', f s a = .ok s' ∧ I s') {s : σ} (start : I s) :
    ∃ s', l.foldlM f s = .ok s' ∧ I s' := by
  induction l generalizing s with
  | nil => exact ⟨s, rfl, start⟩
  | cons head tail ih =>
    obtain ⟨next, first, kept⟩ := turn head List.mem_cons_self s start
    obtain ⟨final, rest, held⟩ :=
      ih (fun a member => turn a (List.mem_cons_of_mem _ member)) kept
    exact ⟨final, bind_eq_ok.mpr ⟨next, first, rest⟩, held⟩

theorem foldlM_invariant {σ : Type} {f : σ → α → Except ε σ} {I : σ → Prop} {l : List α}
    (turn : ∀ a ∈ l, ∀ s s', I s → f s a = .ok s' → I s') {s final : σ} (start : I s)
    (h : l.foldlM f s = .ok final) : I final := by
  induction l generalizing s with
  | nil =>
    cases h
    exact start
  | cons head tail ih =>
    rw [List.foldlM_cons] at h
    obtain ⟨next, first, rest⟩ := bind_eq_ok.mp h
    have kept := turn head List.mem_cons_self s next start first
    exact ih (fun a member => turn a (List.mem_cons_of_mem _ member)) kept rest

theorem foldlM_simulates {σ τ : Type} {f : σ → α → Except ε σ} {g : τ → α → Except ε' τ}
    {R : σ → τ → Prop} {l : List α}
    (turn : ∀ a ∈ l, ∀ s t s', R s t → f s a = .ok s' → ∃ t', g t a = .ok t' ∧ R s' t')
    {s final : σ} {t : τ} (start : R s t) (h : l.foldlM f s = .ok final) :
    ∃ final', l.foldlM g t = .ok final' ∧ R final final' := by
  induction l generalizing s t with
  | nil =>
    cases h
    exact ⟨t, rfl, start⟩
  | cons head tail ih =>
    rw [List.foldlM_cons] at h
    obtain ⟨next, first, rest⟩ := bind_eq_ok.mp h
    obtain ⟨next', first', related⟩ := turn head List.mem_cons_self s t next start first
    obtain ⟨final', rest', held⟩ :=
      ih (fun a member => turn a (List.mem_cons_of_mem _ member)) related rest
    exact ⟨final', bind_eq_ok.mpr ⟨next', first', rest'⟩, held⟩

theorem mapM_eq_ok {f : α → Except ε β} {g : α → β} {l : List α}
    (each : ∀ a ∈ l, f a = .ok (g a)) : l.mapM f = .ok (l.map g) := by
  induction l with
  | nil => rfl
  | cons a rest ih =>
    have later := ih (fun b member => each b (List.mem_cons_of_mem _ member))
    rw [List.mapM_cons, each a List.mem_cons_self, ok_bind, later]
    rfl

theorem exists_of_mapM_eq_ok {f : α → Except ε β} {l : List α} {bs : List β}
    (h : l.mapM f = .ok bs) : ∀ a ∈ l, ∃ b, f a = .ok b := by
  induction l generalizing bs with
  | nil => simp
  | cons a rest ih =>
    rw [List.mapM_cons] at h
    obtain ⟨b, first, h⟩ := bind_eq_ok.mp h
    obtain ⟨later, others, _⟩ := bind_eq_ok.mp h
    intro x member
    rcases List.mem_cons.mp member with rfl | member
    · exact ⟨b, first⟩
    · exact ih others x member

end Polykit.Lib.Fallible
