/- Module: Polykit/Lib/Renaming
   generality: G
   source: none(general)
   digest: Maps copied under other keys, and the way back. -/

import Mathlib.Tactic
import Std.Data.ExtTreeMap.Lemmas

set_option autoImplicit false
set_option relaxedAutoImplicit false

namespace Polykit.Lib.Renaming

variable {Key Val : Type} {cmp : Key → Key → Ordering} [Std.TransCmp cmp]

/-- One pair: the value under its first key, if there is one, goes under the second. -/
def moveOne (source target : Std.ExtTreeMap Key Val cmp) (pair : Key × Key) :
    Std.ExtTreeMap Key Val cmp :=
  match source[pair.1]? with
  | some value => target.insert pair.2 value
  | none => target

/-- The values under the first keys, each under the second key of its pair. -/
def move (pairs : List (Key × Key)) (source : Std.ExtTreeMap Key Val cmp) :
    Std.ExtTreeMap Key Val cmp :=
  pairs.foldl (moveOne source) ∅

variable [Std.LawfulEqCmp cmp] [DecidableEq Key] {source target : Std.ExtTreeMap Key Val cmp}
variable {pairs : List (Key × Key)}

theorem getElem?_moveOne (pair : Key × Key) (key : Key) :
    (moveOne source target pair)[key]? =
      if pair.2 = key then source[pair.1]?.or target[key]? else target[key]? := by
  unfold moveOne
  cases found : source[pair.1]? with
  | none => simp
  | some value => simp [Std.ExtTreeMap.getElem?_insert]

theorem getElem?_foldl_moveOne (key : Key) (other : key ∉ pairs.map Prod.snd) :
    (pairs.foldl (moveOne source) target)[key]? = target[key]? := by
  induction pairs generalizing target with
  | nil => rfl
  | cons pair later ih =>
    rw [List.map_cons, List.mem_cons, not_or] at other
    rw [List.foldl_cons, ih other.2, getElem?_moveOne, if_neg (Ne.symm other.1)]

theorem getElem?_move_of_notMem {key : Key} (other : key ∉ pairs.map Prod.snd) :
    (move pairs source)[key]? = none := by
  rw [move, getElem?_foldl_moveOne key other]
  simp

theorem getElem?_move_of_mem {pair : Key × Key} (distinct : (pairs.map Prod.snd).Nodup)
    (member : pair ∈ pairs) : (move pairs source)[pair.2]? = source[pair.1]? := by
  have loop : ∀ target : Std.ExtTreeMap Key Val cmp, target[pair.2]? = none →
      (pairs.foldl (moveOne source) target)[pair.2]? = source[pair.1]? := by
    induction pairs with
    | nil => exact absurd member List.not_mem_nil
    | cons head later ih =>
      intro target fresh
      obtain ⟨first, rest⟩ := List.nodup_cons.mp distinct
      rw [List.foldl_cons]
      rcases List.mem_cons.mp member with rfl | member
      · rw [getElem?_foldl_moveOne pair.2 first, getElem?_moveOne, if_pos rfl, fresh,
          Option.or_none]
      · have different : head.2 ≠ pair.2 := fun same => first (same ▸ List.mem_map_of_mem member)
        exact ih rest member _ (by rw [getElem?_moveOne, if_neg different, fresh])
  exact loop ∅ (by simp)

theorem move_swap_move (sources : (pairs.map Prod.fst).Nodup)
    (targets : (pairs.map Prod.snd).Nodup) :
    move (pairs.map Prod.swap) (move pairs source) =
      source.filter (fun key _ => decide (key ∈ pairs.map Prod.fst)) := by
  have swapped : (pairs.map Prod.swap).map Prod.snd = pairs.map Prod.fst := by
    simp [Function.comp_def]
  refine Std.ExtTreeMap.ext_getElem? (fun key => ?_)
  rw [Std.ExtTreeMap.getElem?_filter']
  by_cases inside : key ∈ pairs.map Prod.fst
  · obtain ⟨pair, member, rfl⟩ := List.mem_map.mp inside
    have back : (move (pairs.map Prod.swap) (move pairs source))[pair.swap.2]? =
        (move pairs source)[pair.swap.1]? :=
      getElem?_move_of_mem (swapped ▸ sources) (List.mem_map_of_mem member)
    have there : (move pairs source)[pair.2]? = source[pair.1]? :=
      getElem?_move_of_mem targets member
    rw [Prod.snd_swap, Prod.fst_swap, there] at back
    rw [back]
    cases source[pair.1]? <;> simp [inside, Option.filter]
  · rw [getElem?_move_of_notMem (swapped ▸ inside)]
    simp [inside]

theorem move_move_swap (sources : (pairs.map Prod.fst).Nodup)
    (targets : (pairs.map Prod.snd).Nodup) :
    move pairs (move (pairs.map Prod.swap) source) =
      source.filter (fun key _ => decide (key ∈ pairs.map Prod.snd)) := by
  have firsts : (pairs.map Prod.swap).map Prod.fst = pairs.map Prod.snd := by
    simp [Function.comp_def]
  have seconds : (pairs.map Prod.swap).map Prod.snd = pairs.map Prod.fst := by
    simp [Function.comp_def]
  have back : move ((pairs.map Prod.swap).map Prod.swap) (move (pairs.map Prod.swap) source) =
      source.filter (fun key _ => decide (key ∈ (pairs.map Prod.swap).map Prod.fst)) :=
    move_swap_move (firsts ▸ targets) (seconds ▸ sources)
  simpa only [firsts, List.map_map, Prod.swap_swap_eq, List.map_id] using back

end Polykit.Lib.Renaming
