/- Module: Polykit/Lib/Search
   generality: G
   source: none(general)
   digest: The first occurrence of a pattern or of several in a text, and replacing them all. -/

import Polykit.Lib.Text

set_option autoImplicit false
set_option relaxedAutoImplicit false

namespace Polykit.Lib.Search

open Text

def firstLeast {α : Type*} (key : α → Nat) : List α → Option α
  | [] => none
  | a :: rest =>
      match firstLeast key rest with
      | some b => if key b < key a then some b else some a
      | none => some a

/-- What stands before and after the pattern that comes first. -/
structure Hit where
  pattern : List Char
  before : List Char
  after : List Char
  deriving DecidableEq

def hit (s pattern : List Char) : Option Hit :=
  (splitOnceChars pattern s).map (fun parts => ⟨pattern, parts.1, parts.2⟩)

/-- The pattern that occurs first, and of several the one that is listed first. -/
def earliest (patterns : List (List Char)) (s : List Char) : Option Hit :=
  firstLeast (fun h => h.before.length) (patterns.filterMap (hit s))

section FirstLeast

variable {α : Type*} {key : α → Nat}

theorem firstLeast_map {f : α → α} {n : Nat} (shifts : ∀ a, key (f a) = key a + n) (l : List α) :
    firstLeast key (l.map f) = (firstLeast key l).map f := by
  induction l with
  | nil => rfl
  | cons a rest ih =>
    rw [List.map_cons, firstLeast, firstLeast, ih]
    cases firstLeast key rest with
    | none => rfl
    | some b =>
      simp only [Option.map_some, shifts, Nat.add_lt_add_iff_right]
      split <;> rfl

theorem mem_firstLeast {l : List α} {a : α} (h : firstLeast key l = some a) : a ∈ l := by
  induction l generalizing a with
  | nil => cases h
  | cons b rest ih =>
    rw [firstLeast] at h
    split at h
    · rename_i c found
      split at h
      · cases h
        exact List.mem_cons_of_mem _ (ih found)
      · cases h
        exact List.mem_cons_self
    · cases h
      exact List.mem_cons_self

theorem firstLeast_eq_some {l : List α} {a : α} (member : a ∈ l)
    (least : ∀ b ∈ l, b = a ∨ key a < key b) : firstLeast key l = some a := by
  induction l with
  | nil => cases member
  | cons b rest ih =>
    rw [List.forall_mem_cons] at least
    rw [firstLeast]
    rcases least.1 with rfl | above
    · cases found : firstLeast key rest with
      | none => rfl
      | some c =>
        have notBelow : ¬ key c < key b := by
          rcases least.2 c (mem_firstLeast found) with rfl | above
          · exact Nat.lt_irrefl _
          · exact Nat.not_lt.mpr above.le
        simp only [if_neg notBelow]
    · have later : a ∈ rest := by
        rcases List.mem_cons.mp member with rfl | later
        · exact absurd above (Nat.lt_irrefl _)
        · exact later
      simp only [ih later least.2, if_pos above]

end FirstLeast

variable {patterns : List (List Char)} {pattern : List Char}

theorem earliest_nil (filled : ∀ p ∈ patterns, p ≠ []) : earliest patterns [] = none := by
  have none : patterns.filterMap (hit []) = [] := by
    rw [List.filterMap_eq_nil_iff]
    intro p among
    rw [hit, splitOnceChars, if_neg (filled p among)]
    rfl
  rw [earliest, none]
  rfl

theorem splitOnceChars_here {s : List Char} (filled : pattern ≠ []) :
    splitOnceChars pattern (pattern ++ s) = some ([], s) := by
  obtain ⟨c, rest, rfl⟩ := List.exists_cons_of_ne_nil filled
  have begins : c :: rest <+: c :: (rest ++ s) := List.prefix_append (c :: rest) s
  rw [List.cons_append, splitOnceChars, if_pos begins]
  simp

theorem earliest_here {s : List Char} (among : pattern ∈ patterns) (filled : pattern ≠ [])
    (only : ∀ p ∈ patterns, p <+: pattern ++ s → p = pattern) :
    earliest patterns (pattern ++ s) = some ⟨pattern, [], s⟩ := by
  have own : hit (pattern ++ s) pattern = some ⟨pattern, [], s⟩ := by
    rw [hit, splitOnceChars_here filled]
    rfl
  refine firstLeast_eq_some (List.mem_filterMap.mpr ⟨pattern, among, own⟩) fun h found => ?_
  obtain ⟨p, listed, isHit⟩ := List.mem_filterMap.mp found
  by_cases same : p = pattern
  · subst same
    exact .inl (Option.some.inj (isHit.symm.trans own))
  · refine .inr ?_
    obtain ⟨c, rest, text⟩ : ∃ c rest, pattern ++ s = c :: rest :=
      List.exists_cons_of_ne_nil (by simp [filled])
    have apart : ¬ p <+: c :: rest := fun begins => same (only p listed (text ▸ begins))
    rw [text, hit, splitOnceChars, if_neg apart, Option.map_map, Option.map_eq_some_iff] at isHit
    obtain ⟨parts, -, rfl⟩ := isHit
    exact Nat.succ_pos _

theorem splitOnceChars_append {front s : List Char}
    (none : ∀ back, back <:+ front → back ≠ [] → ¬ pattern <+: back ++ s) :
    splitOnceChars pattern (front ++ s) =
      (splitOnceChars pattern s).map (fun parts => (front ++ parts.1, parts.2)) := by
  induction front with
  | nil =>
    show _ = (splitOnceChars pattern s).map id
    rw [Option.map_id]
    rfl
  | cons c front ih =>
    have here := none (c :: front) List.suffix_rfl (List.cons_ne_nil _ _)
    rw [List.cons_append] at here
    rw [List.cons_append, splitOnceChars, if_neg here,
      ih fun back part => none back (part.trans (List.suffix_cons c front)), Option.map_map]
    rfl

theorem earliest_append {front s : List Char}
    (none : ∀ back, back <:+ front → back ≠ [] → ∀ p ∈ patterns, ¬ p <+: back ++ s) :
    earliest patterns (front ++ s) =
      (earliest patterns s).map (fun h => { h with before := front ++ h.before }) := by
  have later : patterns.filterMap (hit (front ++ s)) =
      (patterns.filterMap (hit s)).map (fun h => { h with before := front ++ h.before }) := by
    rw [List.map_filterMap]
    apply List.filterMap_congr
    intro p among
    rw [hit, splitOnceChars_append fun back part filled => none back part filled p among, hit,
      Option.map_map, Option.map_map]
    rfl
  have shifts : ∀ h : Hit, (front ++ h.before).length = h.before.length + front.length :=
    fun h => by rw [List.length_append, Nat.add_comm]
  rw [earliest, later, earliest]
  exact firstLeast_map (f := fun h : Hit => { h with before := front ++ h.before }) shifts _

theorem splitOnceChars_parts {s : List Char} {parts : List Char × List Char}
    (cut : splitOnceChars pattern s = some parts) : parts.1 ++ pattern ++ parts.2 = s := by
  induction s generalizing parts with
  | nil =>
    rw [splitOnceChars] at cut
    split at cut
    · rename_i empty
      cases cut
      rw [empty]
      rfl
    · cases cut
  | cons c rest ih =>
    rw [splitOnceChars] at cut
    split at cut
    · rename_i begins
      obtain ⟨back, same⟩ := begins
      cases cut
      rw [← same]
      simp
    · obtain ⟨inner, later, rfl⟩ := Option.map_eq_some_iff.mp cut
      rw [← ih later]
      rfl

theorem earliest_parts {s : List Char} {found : Hit} (h : earliest patterns s = some found) :
    found.pattern ∈ patterns ∧ found.before ++ found.pattern ++ found.after = s := by
  obtain ⟨p, listed, isHit⟩ := List.mem_filterMap.mp (mem_firstLeast h)
  obtain ⟨parts, cut, rfl⟩ := Option.map_eq_some_iff.mp isHit
  exact ⟨listed, splitOnceChars_parts cut⟩

/-! Replacing. -/

theorem splitOnceChars_eq_none_iff {s : List Char} :
    splitOnceChars pattern s = none ↔ ¬ pattern <:+: s := by
  induction s with
  | nil =>
    rw [splitOnceChars, List.infix_nil]
    split
    · rename_i empty
      simp [empty]
    · rename_i filled
      simp [filled]
  | cons c rest ih =>
    rw [splitOnceChars, List.infix_cons_iff, not_or]
    split
    · rename_i begins
      simp [begins]
    · rename_i apart
      rw [Option.map_eq_none_iff, ih]
      exact (and_iff_right apart).symm

theorem splitOnceChars_front {s : List Char} {parts : List Char × List Char}
    (filled : pattern ≠ []) (cut : splitOnceChars pattern s = some parts) :
    ¬ pattern <:+: parts.1 := by
  induction s generalizing parts with
  | nil =>
    rw [splitOnceChars, if_neg filled] at cut
    cases cut
  | cons c rest ih =>
    rw [splitOnceChars] at cut
    split at cut
    · cases cut
      exact fun occurs => filled (List.infix_nil.mp occurs)
    · rename_i apart
      obtain ⟨inner, later, rfl⟩ := Option.map_eq_some_iff.mp cut
      intro occurs
      rcases List.infix_cons_iff.mp occurs with begins | inside
      · refine apart (begins.trans ?_)
        rw [← splitOnceChars_parts later, List.append_assoc]
        exact List.prefix_append (c :: inner.1) _
      · exact ih later inside

/-- Every occurrence replaced, from the front. Fuel counts them. -/
def replaceAll (pattern new : List Char) : Nat → List Char → List Char
  | 0, s => s
  | fuel + 1, s =>
      match splitOnceChars pattern s with
      | none => s
      | some parts => parts.1 ++ (new ++ replaceAll pattern new fuel parts.2)

/-- No occurrence of the pattern can reach into the new text. -/
structure Clear (pattern new : List Char) : Prop where
  ends : ∀ front ∈ pattern.inits, front ≠ [] → ¬ front <:+ new
  begins : ∀ back ∈ pattern.tails, back ≠ [] → ¬ back <+: new
  inside : ¬ pattern <:+: new
  outside : ¬ new <:+: pattern

instance (pattern new : List Char) : Decidable (Clear pattern new) :=
  decidable_of_iff ((∀ front ∈ pattern.inits, front ≠ [] → ¬ front <:+ new) ∧
      (∀ back ∈ pattern.tails, back ≠ [] → ¬ back <+: new) ∧
      ¬ pattern <:+: new ∧ ¬ new <:+: pattern)
    ⟨fun h => ⟨h.1, h.2.1, h.2.2.1, h.2.2.2⟩, fun h => ⟨h.ends, h.begins, h.inside, h.outside⟩⟩

theorem Clear.apart {new front back : List Char} (clear : Clear pattern new)
    (occurs : pattern <:+: front ++ (new ++ back)) : pattern <:+: front ∨ pattern <:+: back := by
  rcases List.infix_append_iff.mp occurs with inFront | later | ⟨l, r, rfl, ends, begins⟩
  · exact .inl inFront
  · rcases List.infix_append_iff.mp later with inNew | inBack | ⟨l, r, rfl, ends, begins⟩
    · exact absurd inNew clear.inside
    · exact .inr inBack
    · by_cases empty : l = []
      · subst empty
        exact .inr begins.isInfix
      · exact absurd ends
          (clear.ends l ((List.mem_inits _ _).mpr (List.prefix_append l r)) empty)
  · by_cases empty : r = []
    · subst empty
      rw [List.append_nil]
      exact .inl ends.isInfix
    · rcases List.prefix_or_prefix_of_prefix begins (List.prefix_append new back) with
        short | long
      · exact absurd short
          (clear.begins r ((List.mem_tails _ _).mpr (List.suffix_append l r)) empty)
      · exact absurd (long.isInfix.trans (List.suffix_append l r).isInfix) clear.outside

theorem replaceAll_keeps {other new s : List Char} (clear : Clear other new)
    (free : ¬ other <:+: s) (fuel : Nat) : ¬ other <:+: replaceAll pattern new fuel s := by
  induction fuel generalizing s with
  | zero => exact free
  | succ fuel ih =>
    rw [replaceAll]
    cases cut : splitOnceChars pattern s with
    | none => exact free
    | some parts =>
      have whole := splitOnceChars_parts cut
      intro occurs
      rcases clear.apart occurs with inFront | inBack
      · refine free (inFront.trans ?_)
        rw [← whole, List.append_assoc]
        exact List.infix_append_left
      · refine ih (fun inRest => free (inRest.trans ?_)) inBack
        rw [← whole]
        exact List.infix_append_right

theorem replaceAll_free {new s : List Char} (filled : pattern ≠ []) (clear : Clear pattern new)
    {fuel : Nat} (enough : s.length ≤ fuel) : ¬ pattern <:+: replaceAll pattern new fuel s := by
  induction fuel generalizing s with
  | zero =>
    have empty : s = [] := List.length_eq_zero_iff.mp (Nat.le_zero.mp enough)
    subst empty
    exact fun occurs => filled (List.infix_nil.mp occurs)
  | succ fuel ih =>
    rw [replaceAll]
    cases cut : splitOnceChars pattern s with
    | none => exact splitOnceChars_eq_none_iff.mp cut
    | some parts =>
      have shorter : parts.2.length ≤ fuel := by
        have whole := congrArg List.length (splitOnceChars_parts cut)
        have positive := List.length_pos_iff.mpr filled
        rw [List.length_append, List.length_append] at whole
        omega
      intro occurs
      rcases clear.apart occurs with inFront | inBack
      · exact splitOnceChars_front filled cut inFront
      · exact ih shorter inBack

theorem replaceAll_idle {new s : List Char} (free : ¬ pattern <:+: s) (fuel : Nat) :
    replaceAll pattern new fuel s = s := by
  cases fuel with
  | zero => rfl
  | succ fuel => rw [replaceAll, splitOnceChars_eq_none_iff.mpr free]

def replaceEach (rules : List (List Char × List Char)) (s : List Char) : List Char :=
  rules.foldl (fun text rule => replaceAll rule.1 rule.2 text.length text) s

theorem replaceEach_keeps {rules : List (List Char × List Char)} {s : List Char}
    (clear : ∀ rule ∈ rules, Clear pattern rule.2) (free : ¬ pattern <:+: s) :
    ¬ pattern <:+: replaceEach rules s := by
  induction rules generalizing s with
  | nil => exact free
  | cons rule rest ih =>
    rw [List.forall_mem_cons] at clear
    exact ih clear.2 (replaceAll_keeps clear.1 free _)

theorem replaceEach_free {rules : List (List Char × List Char)} (s : List Char)
    (filled : ∀ rule ∈ rules, rule.1 ≠ [])
    (clear : ∀ rule ∈ rules, ∀ other ∈ rules, Clear rule.1 other.2) :
    ∀ rule ∈ rules, ¬ rule.1 <:+: replaceEach rules s := by
  induction rules generalizing s with
  | nil => exact fun _ member => absurd member List.not_mem_nil
  | cons first rest ih =>
    have later : ∀ rule ∈ rest, ∀ other ∈ rest, Clear rule.1 other.2 :=
      fun rule member other among =>
        clear rule (List.mem_cons_of_mem _ member) other (List.mem_cons_of_mem _ among)
    intro rule member
    rcases List.mem_cons.mp member with rfl | member
    · have removed := replaceAll_free (filled rule List.mem_cons_self)
        (clear rule List.mem_cons_self rule List.mem_cons_self) (Nat.le_refl s.length)
      show ¬ rule.1 <:+: replaceEach rest (replaceAll rule.1 rule.2 s.length s)
      exact replaceEach_keeps (fun other among =>
        clear rule List.mem_cons_self other (List.mem_cons_of_mem _ among)) removed
    · exact ih _ (fun rule member => filled rule (List.mem_cons_of_mem _ member)) later rule member

theorem replaceEach_idle {rules : List (List Char × List Char)} {s : List Char}
    (free : ∀ rule ∈ rules, ¬ rule.1 <:+: s) : replaceEach rules s = s := by
  induction rules with
  | nil => rfl
  | cons rule rest ih =>
    rw [List.forall_mem_cons] at free
    rw [replaceEach, List.foldl_cons, replaceAll_idle free.1]
    exact ih free.2

end Polykit.Lib.Search
