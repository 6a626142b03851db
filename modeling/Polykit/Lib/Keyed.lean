/- Module: Polykit/Lib/Keyed
   generality: G
   source: none(general)
   digest: What a list of entries finds under a key, from its first entry or from its last. -/

import Mathlib.Tactic

set_option autoImplicit false
set_option relaxedAutoImplicit false

namespace Polykit.Lib.Keyed

variable {Entry Key : Type*} [BEq Key] [LawfulBEq Key] {keyOf : Entry → Key}
variable {entries : List Entry} {entry : Entry} {key : Key}

theorem mem_of_find (h : entries.find? (fun other => keyOf other == key) = some entry) :
    entry ∈ entries ∧ keyOf entry = key :=
  ⟨List.mem_of_find?_eq_some h, by simpa using List.find?_some h⟩

theorem find_eq_none_iff :
    entries.find? (fun other => keyOf other == key) = none ↔ key ∉ entries.map keyOf := by
  simp

theorem exists_find (keyOf : Entry → Key) (member : entry ∈ entries) : ∃ found,
    entries.find? (fun other => keyOf other == keyOf entry) = some found := by
  refine Option.isSome_iff_exists.mp (List.find?_isSome.mpr ⟨entry, member, ?_⟩)
  exact beq_self_eq_true _

theorem find_eq_some_iff (distinct : (entries.map keyOf).Nodup) :
    entries.find? (fun other => keyOf other == key) = some entry ↔
      entry ∈ entries ∧ keyOf entry = key := by
  constructor
  · exact mem_of_find
  · rintro ⟨member, rfl⟩
    obtain ⟨found, there⟩ := exists_find keyOf member
    obtain ⟨among, same⟩ := mem_of_find there
    rw [there, List.inj_on_of_nodup_map distinct among member same]

theorem find_reverse_eq_some_iff (distinct : (entries.map keyOf).Nodup) :
    entries.reverse.find? (fun other => keyOf other == key) = some entry ↔
      entry ∈ entries ∧ keyOf entry = key := by
  have reversed : (entries.reverse.map keyOf).Nodup := by
    rw [List.map_reverse]
    exact List.nodup_reverse.mpr distinct
  rw [find_eq_some_iff reversed, List.mem_reverse]

theorem find_reverse_append {Entry : Type*} (test : Entry → Bool) (entries : List Entry)
    (entry : Entry) : (entries ++ [entry]).reverse.find? test =
      if test entry then some entry else entries.reverse.find? test := by
  rw [List.reverse_append, List.reverse_singleton, List.singleton_append, List.find?_cons]
  cases test entry <;> rfl

/-! A stable sort. -/

theorem find_reverse_mergeSort {Entry Key : Type*} [LinearOrder Key] (keyOf : Entry → Key)
    (entries : List Entry) (key : Key) :
    (entries.mergeSort (fun a b => decide (keyOf a ≤ keyOf b))).reverse.find?
        (fun entry => keyOf entry == key) =
      entries.reverse.find? (fun entry => keyOf entry == key) := by
  have trans : ∀ a b c : Entry, decide (keyOf a ≤ keyOf b) = true →
      decide (keyOf b ≤ keyOf c) = true → decide (keyOf a ≤ keyOf c) = true := by
    intro a b c first second
    exact decide_eq_true ((of_decide_eq_true first).trans (of_decide_eq_true second))
  have total : ∀ a b : Entry,
      (decide (keyOf a ≤ keyOf b) || decide (keyOf b ≤ keyOf a)) = true := by
    intro a b
    simpa using le_total (keyOf a) (keyOf b)
  have level : (entries.filter (fun entry => keyOf entry == key)).Pairwise
      (fun a b => decide (keyOf a ≤ keyOf b) = true) := by
    rw [List.pairwise_filter]
    apply List.pairwise_of_forall
    intro a b ha hb
    rw [eq_of_beq ha, eq_of_beq hb]
    exact decide_eq_true le_rfl
  have same : (entries.mergeSort (fun a b => decide (keyOf a ≤ keyOf b))).filter
      (fun entry => keyOf entry == key) = entries.filter (fun entry => keyOf entry == key) := by
    have kept := (List.sublist_mergeSort trans total level List.filter_sublist).filter
      (fun entry => keyOf entry == key)
    rw [List.filter_filter] at kept
    simp only [Bool.and_self] at kept
    have size := ((List.mergeSort_perm entries (fun a b => decide (keyOf a ≤ keyOf b))).filter
      (fun entry => keyOf entry == key)).length_eq
    exact (kept.eq_of_length size.symm).symm
  rw [← List.head?_filter, ← List.head?_filter, List.filter_reverse, List.filter_reverse, same]

end Polykit.Lib.Keyed
