/- Module: Polykit/Lib/Overlay
   generality: G
   source: none(general)
   digest: Partial updates that overwrite the keys they carry, and when the last one is enough. -/

import Mathlib.Tactic

set_option autoImplicit false
set_option relaxedAutoImplicit false

namespace Polykit.Lib.Overlay

variable {Key Val : Type*}

/-- The update's own values, and the old ones of all other keys. -/
def overlay (update base : Key → Option Val) : Key → Option Val :=
  fun key => (update key).or (base key)

/-- Several updates over one base. The newest stands first. -/
def overlayAll (updates : List (Key → Option Val)) (base : Key → Option Val) :
    Key → Option Val :=
  updates.foldr overlay base

@[simp] theorem overlayAll_cons (newest : Key → Option Val) (older : List (Key → Option Val))
    (base : Key → Option Val) :
    overlayAll (newest :: older) base = overlay newest (overlayAll older base) := rfl

theorem overlayAll_isSome_iff (updates : List (Key → Option Val)) (base : Key → Option Val)
    (key : Key) :
    (overlayAll updates base key).isSome ↔
      (∃ update ∈ updates, (update key).isSome) ∨ (base key).isSome := by
  induction updates with
  | nil => simp [overlayAll]
  | cons newest older ih =>
    rw [overlayAll_cons, overlay, Option.isSome_or, Bool.or_eq_true, ih]
    simp [or_assoc]

theorem overlayAll_of_absent {updates : List (Key → Option Val)} {key : Key}
    (absent : ∀ update ∈ updates, update key = none) (base : Key → Option Val) :
    overlayAll updates base key = base key := by
  induction updates with
  | nil => rfl
  | cons newest older ih =>
    rw [overlayAll_cons, overlay, absent newest List.mem_cons_self, Option.none_or]
    exact ih (fun update member => absent update (List.mem_cons_of_mem _ member))

theorem overlay_absorbs_iff (newest : Key → Option Val) (older : List (Key → Option Val)) :
    (∀ base, overlay newest base = overlayAll (newest :: older) base) ↔
      ∀ update ∈ older, ∀ key, (update key).isSome → (newest key).isSome := by
  constructor
  · intro absorbs update member key carried
    have same := congrFun (absorbs (fun _ => none)) key
    cases own : newest key with
    | some value => rfl
    | none =>
      have present := (overlayAll_isSome_iff older (fun _ => none) key).mpr
        (.inl ⟨update, member, carried⟩)
      simp only [overlayAll_cons, overlay, own, Option.none_or] at same
      rw [← same] at present
      cases present
  · intro covers base
    funext key
    rw [overlayAll_cons, overlay, overlay]
    cases own : newest key with
    | some value => rfl
    | none =>
      have absent : ∀ update ∈ older, update key = none := by
        intro update member
        by_contra carried
        have covered := covers update member key (Option.isSome_iff_ne_none.mpr carried)
        rw [own] at covered
        cases covered
      rw [overlayAll_of_absent absent]

end Polykit.Lib.Overlay
