/- Module: Polykit/Lib/Paths
   generality: G
   source: none(general)
   digest: Absolute paths, joining a text to one, and the directories on the way to one. -/

import Mathlib.Tactic

set_option autoImplicit false
set_option relaxedAutoImplicit false

namespace Polykit.Lib.Paths

/-- An absolute path by its components from the top. There are no links. -/
abbrev Path := List String

def resolve (base : Path) (part : String) : Path :=
  if part = "" ∨ part = "." then base
  else if part = ".." then base.dropLast
  else base ++ [part]

def components (text : String) : List String := (text.toList.splitOn '/').map String.ofList

/-- A text that begins with a separator replaces the base. -/
def join (base : Path) (text : String) : Path :=
  (components text).foldl resolve (if text.toList.head? = some '/' then [] else base)

structure IsName (text : String) : Prop where
  nonempty : text ≠ ""
  notHere : text ≠ "."
  notParent : text ≠ ".."
  whole : '/' ∉ text.toList

theorem components_of_whole {text : String} (whole : '/' ∉ text.toList) :
    components text = [text] := by
  rw [components, List.splitOn_eq_singleton whole, List.map_singleton, String.ofList_toList]

theorem join_name {text : String} (h : IsName text) (base : Path) :
    join base text = base ++ [text] := by
  have relative : text.toList.head? ≠ some '/' := fun first =>
    h.whole (List.mem_of_mem_head? first)
  rw [join, components_of_whole h.whole, if_neg relative, List.foldl_cons, List.foldl_nil, resolve,
    if_neg (not_or.mpr ⟨h.nonempty, h.notHere⟩), if_neg h.notParent]

theorem isPrefixOf_child {root : Path} {name other : String} :
    (root ++ [name]).isPrefixOf (root ++ [other]) = true ↔ name = other := by
  rw [List.isPrefixOf_iff_prefix, List.prefix_append_right_inj, List.cons_prefix_cons,
    and_iff_left List.nil_prefix]

theorem no_child_above {root path : Path} {name : String} (above : path <+: root) :
    ¬ root ++ [name] <+: path := by
  intro below
  have length := (below.trans above).length_le
  rw [List.length_append, List.length_singleton] at length
  omega

/-- The directories on the way to a path that are missing. The top is always there. -/
def missing (dirs : List Path) (path : Path) : List Path :=
  path.inits.filter (fun dir => dir != [] && !dirs.contains dir)

theorem mem_missing {dirs : List Path} {path dir : Path} :
    dir ∈ missing dirs path ↔ dir <+: path ∧ dir ≠ [] ∧ dir ∉ dirs := by
  rw [missing, List.mem_filter, List.mem_inits]
  simp

theorem prefix_child_cases {root path : Path} {name : String} (h : path <+: root ++ [name]) :
    path = root ++ [name] ∨ path <+: root := by
  rcases List.prefix_concat_iff.mp h with whole | above
  · exact .inl (by simpa using whole)
  · exact .inr above

end Polykit.Lib.Paths
