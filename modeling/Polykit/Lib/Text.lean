/- Module: Polykit/Lib/Text
   generality: G
   source: none(general)
   digest: Substring search, prefix tests and ASCII case folding on Unicode strings. -/

import Mathlib.Tactic

set_option autoImplicit false
set_option relaxedAutoImplicit false

namespace Polykit.Lib.Text

def toAsciiLowercase (s : String) : String := String.ofList (s.toList.map Char.toLower)

def toAsciiUppercase (s : String) : String := String.ofList (s.toList.map Char.toUpper)

/-- `pattern` occurs in `s` as a contiguous piece. -/
def contains (s pattern : String) : Bool := decide (pattern.toList <:+: s.toList)

/-- `s` begins with `pre`. -/
def startsWith (s pre : String) : Bool := decide (pre.toList <+: s.toList)

/-- What is left of `s` after its first `n` characters. -/
def dropChars (s : String) (n : Nat) : String := String.ofList (s.toList.drop n)

/-- The parts before and after the first occurrence of the pattern. -/
def splitOnceChars (pattern : List Char) : List Char → Option (List Char × List Char)
  | [] => if pattern = [] then some ([], []) else none
  | c :: rest =>
      if pattern <+: c :: rest then some ([], (c :: rest).drop pattern.length)
      else (splitOnceChars pattern rest).map (fun parts => (c :: parts.1, parts.2))

def splitOnce (s pattern : String) : Option (String × String) :=
  (splitOnceChars pattern.toList s.toList).map
    (fun parts => (String.ofList parts.1, String.ofList parts.2))

def eqIgnoreAsciiCase (a b : String) : Bool := toAsciiLowercase a == toAsciiLowercase b

/-- The characters with the Unicode property `White_Space`. -/
def isWhitespace (c : Char) : Bool :=
  let n := c.toNat
  (9 ≤ n && n ≤ 13) || n == 0x20 || n == 0x85 || n == 0xA0 || n == 0x1680 ||
    (0x2000 ≤ n && n ≤ 0x200A) || n == 0x2028 || n == 0x2029 || n == 0x202F || n == 0x205F ||
    n == 0x3000

/-- `s` without the white space at its two ends. -/
def trim (s : String) : String :=
  String.ofList ((s.toList.dropWhile isWhitespace).reverse.dropWhile isWhitespace).reverse

@[simp] theorem toList_toAsciiLowercase (s : String) :
    (toAsciiLowercase s).toList = s.toList.map Char.toLower := by
  simp [toAsciiLowercase]

theorem toAsciiLowercase_append (s t : String) :
    toAsciiLowercase (s ++ t) = toAsciiLowercase s ++ toAsciiLowercase t := by
  apply String.ext
  simp

theorem infix_append_iff {α : Type*} {c : α} {pattern front back : List α} (h : c ∉ front) :
    c :: pattern <:+: front ++ back ↔ c :: pattern <:+: back := by
  induction front with
  | nil => rfl
  | cons x front ih =>
    rw [List.mem_cons, not_or] at h
    rw [List.cons_append, List.infix_cons_iff, ih h.2, List.cons_prefix_cons]
    exact or_iff_right (fun begins => h.1 begins.1)

@[simp] theorem startsWith_append (pre s : String) : startsWith (pre ++ s) pre = true := by
  simp [startsWith]

@[simp] theorem dropChars_append (pre s : String) :
    dropChars (pre ++ s) pre.toList.length = s := by
  apply String.ext
  simp [dropChars]

theorem append_cons_inj {α : Type*} {c : α} {a b a' b' : List α} (h : c ∉ a) (h' : c ∉ a') :
    a ++ c :: b = a' ++ c :: b' ↔ a = a' ∧ b = b' := by
  constructor
  · intro same
    rcases List.append_eq_append_iff.mp same with ⟨middle, longer, rest⟩ | ⟨middle, longer, rest⟩
    all_goals
      cases middle with
      | nil => simp_all
      | cons x tail =>
        simp only [List.cons_append, List.cons.injEq] at rest
        simp [longer, rest.1] at h h'
  · rintro ⟨rfl, rfl⟩
    rfl

theorem splitOnceChars_char {c : Char} {front : List Char} (h : c ∉ front) (back : List Char) :
    splitOnceChars [c] (front ++ c :: back) = some (front, back) := by
  induction front with
  | nil => simp [splitOnceChars]
  | cons x front ih =>
    rw [List.mem_cons, not_or] at h
    have ahead : ¬ [c] <+: x :: (front ++ c :: back) := by
      rw [List.cons_prefix_cons]
      exact fun begins => h.1 begins.1
    rw [List.cons_append, splitOnceChars, if_neg ahead, ih h.2]
    rfl

theorem prefix_front {α : Type*} {c : α} {pre front back : List α} (h : c ∉ pre)
    (begins : pre <+: front ++ c :: back) : pre <+: front := by
  have split : front ++ c :: back = (front ++ [c]) ++ back := by simp
  rcases List.prefix_or_prefix_of_prefix begins (List.prefix_append front (c :: back)) with
    short | long
  · exact short
  · obtain ⟨rest, same⟩ := long
    cases rest with
    | nil => simp [← same]
    | cons d rest =>
      rw [← same, List.prefix_append_right_inj, List.cons_prefix_cons] at begins
      exact absurd (by rw [← same, begins.1]; simp) h

/-! Pairs joined by a doubled character: when two pairs give the same text, and when cutting at
the first separator gives the pair back. -/

/-- The second pair has more of the common text in front of its separator. -/
def Straddles {α : Type*} (c : α) (a b a' b' : List α) : Prop :=
  (a' = a ++ [c] ∧ b = c :: b') ∨ ∃ middle, a' = a ++ c :: c :: middle ∧ b = middle ++ c :: c :: b'

private theorem straddles_iff {α : Type*} {c : α} {a b a' b' : List α} :
    (a = a' ∧ b = b') ∨ Straddles c a b a' b' ↔
      ∃ middle, a' = a ++ middle ∧ c :: c :: b = middle ++ c :: c :: b' := by
  constructor
  · rintro (⟨rfl, rfl⟩ | ⟨rfl, rfl⟩ | ⟨middle, rfl, rfl⟩)
    · exact ⟨[], by simp, by simp⟩
    · exact ⟨[c], rfl, by simp⟩
    · exact ⟨c :: c :: middle, rfl, by simp⟩
  · rintro ⟨middle, rfl, same⟩
    match middle, same with
    | [], same => exact .inl ⟨by simp, by simpa using same⟩
    | [x], same =>
      obtain ⟨rfl, rfl⟩ : c = x ∧ b = c :: b' := by simpa using same
      exact .inr (.inl ⟨rfl, rfl⟩)
    | x :: y :: rest, same =>
      obtain ⟨rfl, rfl, rfl⟩ : c = x ∧ c = y ∧ b = rest ++ c :: c :: b' := by simpa using same
      exact .inr (.inr ⟨rest, rfl, rfl⟩)

theorem append_separator_eq_iff {α : Type*} {c : α} {a b a' b' : List α} :
    a ++ c :: c :: b = a' ++ c :: c :: b' ↔
      (a = a' ∧ b = b') ∨ Straddles c a b a' b' ∨ Straddles c a' b' a b := by
  rw [List.append_eq_append_iff]
  constructor
  · rintro (first | second)
    · rcases straddles_iff.mpr first with same | straddles
      · exact .inl same
      · exact .inr (.inl straddles)
    · rcases straddles_iff.mpr second with same | straddles
      · exact .inl ⟨same.1.symm, same.2.symm⟩
      · exact .inr (.inr straddles)
  · rintro (same | straddles | straddles)
    · exact .inl (straddles_iff.mp (.inl same))
    · exact .inl (straddles_iff.mp (.inr straddles))
    · exact .inr (straddles_iff.mp (.inr straddles))

theorem splitOnceChars_append_iff {c : Char} (a b : List Char) :
    splitOnceChars [c, c] (a ++ c :: c :: b) = some (a, b) ↔ ¬ [c, c] <:+: a ++ [c] := by
  induction a with
  | nil => simp [splitOnceChars, List.infix_cons_iff]
  | cons x rest ih =>
    have ahead : [c, c] <+: x :: (rest ++ c :: c :: b) ↔ [c, c] <+: x :: (rest ++ [c]) := by
      cases rest <;> simp
    rw [List.cons_append, List.cons_append, splitOnceChars, List.infix_cons_iff, ← ahead, not_or]
    split
    · rename_i here
      simp [here]
    · rename_i later
      simp only [later, not_false_eq_true, true_and, ← ih, Option.map_eq_some_iff, Prod.mk.injEq,
        List.cons.injEq, Prod.exists]
      constructor
      · rintro ⟨left, right, found, rfl, rfl⟩
        exact found
      · intro found
        exact ⟨rest, b, found, rfl, rfl⟩

end Polykit.Lib.Text
