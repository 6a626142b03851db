/- Module: Polykit/Lib/Files
   generality: G
   source: none(general)
   digest: The files of one directory: reading, writing and removing by name. -/

import Mathlib.Tactic

set_option autoImplicit false
set_option relaxedAutoImplicit false

namespace Polykit.Lib.Files

variable {B : Type}

structure Dir (B : Type) where
  files : List (String × B)

def Dir.empty : Dir B := ⟨[]⟩

def Dir.read (dir : Dir B) (file : String) : Option B :=
  (dir.files.find? (fun entry => entry.1 == file)).map Prod.snd

def Dir.write (dir : Dir B) (file : String) (content : B) : Dir B :=
  ⟨dir.files.filter (fun entry => entry.1 != file) ++ [(file, content)]⟩

/-- What is left when the files that do not pass the test are removed. -/
def Dir.keep (dir : Dir B) (test : String → Bool) : Dir B :=
  ⟨dir.files.filter (fun entry => test entry.1)⟩

@[simp] theorem read_empty (file : String) : (Dir.empty : Dir B).read file = none := rfl

theorem read_keep (dir : Dir B) (test : String → Bool) (file : String) :
    (dir.keep test).read file = if test file then dir.read file else none := by
  unfold Dir.read Dir.keep
  rw [List.find?_filter]
  by_cases passes : test file = true
  · rw [if_pos passes]
    congr 2
    funext entry
    by_cases same : entry.1 = file
    · simp [same, passes]
    · simp [same]
  · rw [if_neg passes, Option.map_eq_none_iff, List.find?_eq_none]
    intro entry _ both
    simp only [beq_iff_eq, decide_eq_true_eq] at both
    exact passes (both.2 ▸ both.1)

theorem read_write (dir : Dir B) (file : String) (content : B) (other : String) :
    (dir.write file content).read other =
      if other = file then some content else dir.read other := by
  have kept := read_keep dir (fun name => name != file) other
  unfold Dir.read Dir.keep at kept
  unfold Dir.read Dir.write
  rw [List.find?_append, Option.map_or, kept]
  by_cases same : other = file
  · subst same
    simp
  · have reversed : (file == other) = false := beq_eq_false_iff_ne.mpr (Ne.symm same)
    simp [same, reversed]

@[simp] theorem read_write_self (dir : Dir B) (file : String) (content : B) :
    (dir.write file content).read file = some content := by
  rw [read_write, if_pos rfl]

theorem read_write_of_ne (dir : Dir B) {file other : String} (h : other ≠ file) (content : B) :
    (dir.write file content).read other = dir.read other := by
  rw [read_write, if_neg h]

theorem isSome_write {dir : Dir B} {file : String} (h : (dir.read file).isSome) (target : String)
    (content : B) : ((dir.write target content).read file).isSome := by
  rw [read_write]
  split
  · rfl
  · exact h

theorem write_write (dir : Dir B) (file : String) (first second : B) :
    (dir.write file first).write file second = dir.write file second := by
  unfold Dir.write
  simp [List.filter_append, List.filter_filter]

def Dir.copyAll (source : Dir B) (files : List String) (target : Dir B) : Dir B :=
  files.foldl (fun dir file => ((source.read file).map (dir.write file)).getD dir) target

theorem read_copyAll (source : Dir B) (files : List String) (target : Dir B) (file : String) :
    (source.copyAll files target).read file =
      if file ∈ files then (source.read file).or (target.read file) else target.read file := by
  induction files generalizing target with
  | nil => rfl
  | cons head tail ih =>
    show (source.copyAll tail (((source.read head).map (target.write head)).getD target)).read file
      = _
    rw [ih]
    by_cases same : file = head
    · subst same
      cases found : source.read file with
      | none => simp
      | some content => simp
    · cases source.read head with
      | none => simp [same]
      | some content => simp [same, read_write_of_ne]

end Polykit.Lib.Files
