/- Module: Polykit/Lib/History
   generality: G
   source: none(general)
   digest: What a log says of the order of its entries, newest first, and how one more keeps it. -/

import Mathlib.Tactic

set_option autoImplicit false
set_option relaxedAutoImplicit false

namespace Polykit.Lib.History

variable {α : Type*} (p q : α → Bool)

/-- Since the last `p` there has been a `q`. -/
def Rested (log : List α) : Prop :=
  ∀ newer entry older, log = newer ++ entry :: older → p entry = true →
    ∃ between ∈ newer, q between = true

/-- Between any two `p` there is a `q`. -/
def Spaced (log : List α) : Prop :=
  ∀ newer entry older, log = newer ++ entry :: older → p entry = true → Rested p q older

/-- After any `q` there are at most `n` entries that are `p`. -/
def AtMostSince (n : Nat) (log : List α) : Prop :=
  ∀ newer entry older, log = newer ++ entry :: older → q entry = true → newer.countP p ≤ n

/-- How many `p` there are after the last `q`. -/
def countSince (log : List α) : Nat := (log.takeWhile (fun entry => !q entry)).countP p

variable {p q} {log : List α} {entry : α} {n : Nat}

theorem split_cons {newer older : List α} {first other : α}
    (h : first :: log = newer ++ other :: older) :
    (newer = [] ∧ first = other ∧ log = older) ∨
      ∃ rest, newer = first :: rest ∧ log = rest ++ other :: older := by
  rcases List.cons_eq_append_iff.mp h with ⟨empty, same⟩ | ⟨rest, longer, split⟩
  · obtain ⟨head, tail⟩ := List.cons.inj same
    exact .inl ⟨empty, head.symm, tail.symm⟩
  · exact .inr ⟨rest, longer, split⟩

theorem rested_nil : Rested p q [] := by
  intro newer entry older split
  simp at split

theorem Rested.cons (h : Rested p q log) (other : p entry = false) : Rested p q (entry :: log) := by
  intro newer found older split marked
  rcases split_cons split with ⟨rfl, rfl, rfl⟩ | ⟨rest, rfl, shorter⟩
  · simp [other] at marked
  · obtain ⟨between, member, met⟩ := h rest found older shorter marked
    exact ⟨between, List.mem_cons_of_mem _ member, met⟩

theorem rested_cons (met : q entry = true) (other : p entry = false) :
    Rested p q (entry :: log) := by
  intro newer found older split marked
  rcases split_cons split with ⟨rfl, rfl, rfl⟩ | ⟨rest, rfl, shorter⟩
  · simp [other] at marked
  · exact ⟨entry, List.mem_cons_self, met⟩

theorem spaced_nil : Spaced p q [] := by
  intro newer entry older split
  simp at split

theorem Spaced.cons (h : Spaced p q log) (rested : p entry = true → Rested p q log) :
    Spaced p q (entry :: log) := by
  intro newer found older split marked
  rcases split_cons split with ⟨rfl, rfl, rfl⟩ | ⟨rest, rfl, shorter⟩
  · exact rested marked
  · exact h rest found older shorter marked

theorem atMostSince_of_none (none : ∀ entry ∈ log, q entry = false) : AtMostSince p q n log := by
  intro newer entry older split marked
  have member : entry ∈ log := split ▸ List.mem_append_right _ List.mem_cons_self
  simp [none entry member] at marked

theorem AtMostSince.cons (h : AtMostSince p q n log) (other : p entry = false) :
    AtMostSince p q n (entry :: log) := by
  intro newer found older split marked
  rcases split_cons split with ⟨rfl, rfl, rfl⟩ | ⟨rest, rfl, shorter⟩
  · exact Nat.zero_le _
  · rw [List.countP_cons_of_neg (by simp [other])]
    exact h rest found older shorter marked

theorem AtMostSince.cons_succ (h : AtMostSince p q n log) :
    AtMostSince p q (n + 1) (entry :: log) := by
  intro newer found older split marked
  rcases split_cons split with ⟨rfl, rfl, rfl⟩ | ⟨rest, rfl, shorter⟩
  · exact Nat.zero_le _
  · have before := h rest found older shorter marked
    rw [List.countP_cons]
    split <;> omega

theorem countSince_cons (entry : α) (log : List α) :
    countSince p q (entry :: log) =
      if q entry = true then 0 else countSince p q log + if p entry = true then 1 else 0 := by
  unfold countSince
  cases met : q entry <;> simp [met, List.countP_cons]

theorem countSince_le_append (newer : List α) (quiet : ∀ entry ∈ newer, q entry = false) :
    countSince p q log ≤ countSince p q (newer ++ log) := by
  induction newer with
  | nil => exact Nat.le_refl _
  | cons entry newer ih =>
    have before := ih (fun other member => quiet other (List.mem_cons_of_mem _ member))
    have here := quiet entry List.mem_cons_self
    rw [List.cons_append, countSince_cons, here, if_neg nofun]
    exact before.trans (Nat.le_add_right _ _)

end Polykit.Lib.History
