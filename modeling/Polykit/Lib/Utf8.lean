/- Module: Polykit/Lib/Utf8
   generality: G
   source: none(general)
   digest: Texts as their characters, cut at offsets that count bytes. -/

import Mathlib.Tactic

set_option autoImplicit false
set_option relaxedAutoImplicit false

namespace Polykit.Lib.Utf8

def byteLen (s : List Char) : Nat := (s.map Char.utf8Size).sum

/-- What follows the first `n` bytes, unless the cut is past the end or inside a character. -/
def dropBytes : List Char → Nat → Option (List Char)
  | s, 0 => some s
  | [], _ + 1 => none
  | c :: rest, n + 1 =>
      if c.utf8Size ≤ n + 1 then dropBytes rest (n + 1 - c.utf8Size) else none

/-- The first `n` bytes, under the same proviso. -/
def takeBytes : List Char → Nat → Option (List Char)
  | _, 0 => some []
  | [], _ + 1 => none
  | c :: rest, n + 1 =>
      if c.utf8Size ≤ n + 1 then (takeBytes rest (n + 1 - c.utf8Size)).map (c :: ·) else none

theorem forall_of_all {s : List Char} {p : Char → Prop} [DecidablePred p]
    (checked : s.all (fun c => decide (p c)) = true) : ∀ c ∈ s, p c := by
  simpa only [List.all_eq_true, decide_eq_true_eq] using checked

@[simp] theorem byteLen_nil : byteLen [] = 0 := rfl

@[simp] theorem byteLen_cons (c : Char) (s : List Char) :
    byteLen (c :: s) = c.utf8Size + byteLen s := by
  simp [byteLen]

@[simp] theorem byteLen_append (s t : List Char) : byteLen (s ++ t) = byteLen s + byteLen t := by
  simp [byteLen]

theorem length_le_byteLen (s : List Char) : s.length ≤ byteLen s := by
  have each : ∀ size ∈ s.map Char.utf8Size, 1 ≤ size := by
    simp only [List.forall_mem_map]
    exact fun c _ => c.utf8Size_pos
  simpa [byteLen] using List.length_le_sum_of_one_le _ each

@[simp] theorem byteLen_eq_zero {s : List Char} : byteLen s = 0 ↔ s = [] := by
  constructor
  · intro h
    have bound := length_le_byteLen s
    exact List.length_eq_zero_iff.mp (by omega)
  · rintro rfl
    rfl

private theorem dropBytes_cons (c : Char) (s : List Char) (n : Nat) :
    dropBytes (c :: s) (c.utf8Size + n) = dropBytes s n := by
  have one : 0 < c.utf8Size := c.utf8Size_pos
  obtain ⟨m, size⟩ : ∃ m, c.utf8Size + n = m + 1 := ⟨c.utf8Size + n - 1, by omega⟩
  have rest : m + 1 - c.utf8Size = n := by omega
  have fits : c.utf8Size ≤ m + 1 := by omega
  rw [size, dropBytes, if_pos fits, rest]

private theorem takeBytes_cons (c : Char) (s : List Char) (n : Nat) :
    takeBytes (c :: s) (c.utf8Size + n) = (takeBytes s n).map (c :: ·) := by
  have one : 0 < c.utf8Size := c.utf8Size_pos
  obtain ⟨m, size⟩ : ∃ m, c.utf8Size + n = m + 1 := ⟨c.utf8Size + n - 1, by omega⟩
  have rest : m + 1 - c.utf8Size = n := by omega
  have fits : c.utf8Size ≤ m + 1 := by omega
  rw [size, takeBytes, if_pos fits, rest]

@[simp] theorem dropBytes_append (s t : List Char) : dropBytes (s ++ t) (byteLen s) = some t := by
  induction s with
  | nil => cases t <;> rfl
  | cons c s ih => rw [List.cons_append, byteLen_cons, dropBytes_cons, ih]

@[simp] theorem takeBytes_append (s t : List Char) : takeBytes (s ++ t) (byteLen s) = some s := by
  induction s with
  | nil => cases t <;> rfl
  | cons c s ih => rw [List.cons_append, byteLen_cons, takeBytes_cons, ih]; rfl

/-! Texts as their bytes. -/

def asBytes (s : List Char) : List UInt8 := s.flatMap String.utf8EncodeChar

/-- The elements from `start` up to `stop`, unless the range leaves the list. -/
def getRange {α : Type*} (l : List α) (start stop : Nat) : Option (List α) :=
  if start ≤ stop ∧ stop ≤ l.length then some ((l.drop start).take (stop - start)) else none

@[simp] theorem asBytes_nil : asBytes [] = [] := rfl

@[simp] theorem asBytes_append (s t : List Char) : asBytes (s ++ t) = asBytes s ++ asBytes t := by
  simp [asBytes]

@[simp] theorem length_asBytes (s : List Char) : (asBytes s).length = byteLen s := by
  simp [asBytes, byteLen, List.length_flatMap]

theorem asBytes_prefix_iff {s t : List Char} : asBytes s <+: asBytes t ↔ s <+: t := by
  constructor
  · rintro ⟨rest, joined⟩
    apply List.isPrefix_of_utf8Encode_append_eq_utf8Encode rest.toByteArray
    have whole := congrArg List.toByteArray joined
    simpa [asBytes, List.utf8Encode, List.toByteArray_append] using whole
  · rintro ⟨rest, rfl⟩
    rw [asBytes_append]
    exact List.prefix_append _ _

theorem eq_of_byteLen_eq {s t text : List Char} (first : s <+: text) (second : t <+: text)
    (same : byteLen s = byteLen t) : s = t := by
  rcases List.prefix_or_prefix_of_prefix first second with ⟨rest, rfl⟩ | ⟨rest, rfl⟩
  all_goals
    have nothing : byteLen rest = 0 := by
      rw [byteLen_append] at same
      omega
    rw [byteLen_eq_zero.mp nothing, List.append_nil]

end Polykit.Lib.Utf8
