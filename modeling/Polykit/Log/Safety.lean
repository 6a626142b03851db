/- Module: Polykit/Log/Safety
   generality: I
   source: crates/polylog/src/clean.rs
   digest: The cleaner comes to an end on every text, and no slice or counter of it fails. -/

import Mathlib.Tactic
import Polykit.Lib.Fuel
import Polykit.Log.Clean

set_option autoImplicit false
set_option relaxedAutoImplicit false

namespace Polykit.Log.Safety

open Polykit.Lib.Utf8
open Polykit.Lib.Fallible
open Polykit.Lib.Fuel
open Polykit.Log.Clean

/-! Some wrappers. -/

/-- The matcher on the characters from byte `i` on answers with nothing or with a closing
parenthesis among them. -/
def Finds (chars : Str) (i : Nat) (answer : Except Halt (Option Nat)) : Prop :=
  answer = .ok none ∨
    ∃ front back, chars = front ++ ')' :: back ∧ answer = .ok (some (i + byteLen front))

theorem Finds.cons {c : Char} {chars : Str} {i : Nat} {answer : Except Halt (Option Nat)}
    (h : Finds chars (i + c.utf8Size) answer) : Finds (c :: chars) i answer := by
  rcases h with none | ⟨front, back, rfl, found⟩
  · exact .inl none
  · refine .inr ⟨c :: front, back, rfl, ?_⟩
    rw [found, byteLen_cons, Nat.add_assoc]

mutual

theorem scan_finds : ∀ (chars : Str) (i depth : Nat), 1 ≤ depth →
    Finds chars i (scan chars i depth)
  | [], _, _, _ => .inl rfl
  | c :: chars, i, depth, positive => by
      rw [scan]
      split
      · exact (skipLiteral_finds chars _ depth positive).cons
      · split
        · exact (scan_finds chars _ (depth + 1) (by omega)).cons
        · split
          · rename_i closing
            rw [checkedSub, if_pos positive, ok_bind]
            split
            · exact .inr ⟨[], chars, by rw [closing]; rfl, rfl⟩
            · exact (scan_finds chars _ (depth - 1) (by omega)).cons
          · exact (scan_finds chars _ depth positive).cons

theorem skipLiteral_finds : ∀ (chars : Str) (i depth : Nat), 1 ≤ depth →
    Finds chars i (skipLiteral chars i depth)
  | [], _, _, _ => .inl rfl
  | [c], i, depth, positive => by
      rw [skipLiteral]
      split
      · exact .inl rfl
      · split <;> exact .inl rfl
  | c :: escaped :: chars, i, depth, positive => by
      rw [skipLiteral]
      split
      · exact (skipLiteral_finds chars _ depth positive).cons.cons
      · split
        · exact (scan_finds (escaped :: chars) _ depth positive).cons
        · exact (skipLiteral_finds (escaped :: chars) _ depth positive).cons

end

theorem tryStripSome_ok (s : Str) :
    ∃ answer, tryStripSome s = .ok answer ∧
      ∀ inner, answer = some inner → s = "Some(".toList ++ inner ++ [')'] := by
  unfold tryStripSome stripPrefix
  split
  · exact ⟨none, rfl, by simp⟩
  · rename_i inner stripped
    split at stripped
    · rename_i opens
      obtain ⟨rest, rfl⟩ := opens
      obtain rfl : rest = inner := by simpa using stripped
      rcases scan_finds rest 0 1 le_rfl with nothing | ⟨front, back, rfl, found⟩
      · exact ⟨none, by rw [findMatchingCloseParen, nothing]; rfl, by simp⟩
      · have size : (')' : Char).utf8Size = 1 := rfl
        have last : checkedSub (byteLen (front ++ ')' :: back)) 1 =
            .ok (byteLen front + byteLen back) := by
          have total : byteLen (front ++ ')' :: back) = byteLen front + (1 + byteLen back) := by
            rw [byteLen_append, byteLen_cons, size]
          rw [checkedSub, total, if_pos (by omega)]
          congr 1
          omega
        have cut : sliceTo (front ++ ')' :: back) (byteLen front) = .ok front := by
          rw [sliceTo, takeBytes_append]
          rfl
        rw [findMatchingCloseParen, found]
        simp only [ok_bind, Nat.zero_add, last, cut]
        split
        · rename_i whole
          have nothing : byteLen back = 0 := by omega
          obtain rfl := byteLen_eq_zero.mp nothing
          refine ⟨some front, rfl, ?_⟩
          rintro inner ⟨rfl⟩
          simp
        · exact ⟨none, rfl, by simp⟩
    · cases stripped

/-- `t` in `n` wrappers. -/
def wrapped (n : Nat) (t : Str) : Str :=
  (List.replicate n "Some(".toList).flatten ++ t ++ List.replicate n ')'

@[simp] theorem wrapped_zero (t : Str) : wrapped 0 t = t := by simp [wrapped]

theorem wrapped_succ (n : Nat) (t : Str) :
    wrapped (n + 1) t = "Some(".toList ++ wrapped n t ++ [')'] := by
  simp [wrapped, List.replicate_succ, ← List.replicate_succ']

theorem byteLen_wrapped (n : Nat) (t : Str) : byteLen (wrapped n t) = 6 * n + byteLen t := by
  induction n with
  | zero => simp
  | succ n ih =>
    have opening : byteLen "Some(".toList = 5 := by decide
    have closing : byteLen [')'] = 1 := by decide
    rw [wrapped_succ, byteLen_append, byteLen_append, ih, opening, closing]
    omega

theorem length_wrapped (n : Nat) (t : Str) : (wrapped n t).length = 6 * n + t.length := by
  induction n with
  | zero => simp
  | succ n ih =>
    have opening : "Some(".toList.length = 5 := rfl
    rw [wrapped_succ, List.length_append, List.length_append, ih, opening, List.length_singleton]
    omega

theorem stripSomeWrappers_ok (s : Str) {fuel : Nat} (enough : s.length < fuel) :
    ∃ n t, s = wrapped n t ∧ tryStripSome t = .ok none ∧ stripSomeWrappers fuel s = .ok t := by
  induction fuel generalizing s with
  | zero => omega
  | succ fuel ih =>
    obtain ⟨answer, stripped, shape⟩ := tryStripSome_ok s
    cases answer with
    | none => exact ⟨0, s, by simp, stripped, by rw [stripSomeWrappers, stripped]; rfl⟩
    | some inner =>
      have whole := shape inner rfl
      have shorter : inner.length < fuel := by
        rw [whole] at enough
        simp only [List.length_append] at enough
        simp at enough
        omega
      obtain ⟨n, t, rfl, bare, result⟩ := ih inner shorter
      refine ⟨n + 1, t, by rw [whole, wrapped_succ], bare, ?_⟩
      rw [stripSomeWrappers, stripped]
      exact result

/-! JSON values. -/

/-- A method called before `rest` reads a part of it and stops between two characters; where
it answers yes the part is not empty. -/
def Stops (before rest : Str) (result : Except Halt (Bool × JsonDebugParser × Str)) : Prop :=
  ∃ read front left out, rest = front ++ left ∧ (read = true → front ≠ []) ∧
    result = .ok (read, cursor (before ++ front) left, out)

/-- The method stops wherever less than `fuel` characters are left. -/
def Sound (fuel : Nat) (parse : Parse) : Prop :=
  ∀ before rest out, rest.length < fuel → Stops before rest (parse (cursor before rest) out)

theorem Stops.refused (before rest out : Str) :
    Stops before rest (.ok (false, cursor before rest, out)) :=
  ⟨false, [], rest, out, rfl, by simp, by simp⟩

theorem Stops.after {before front left : Str}
    {result : Except Halt (Bool × JsonDebugParser × Str)}
    (h : Stops (before ++ front) left result) : Stops before (front ++ left) result := by
  obtain ⟨read, next, last, out, rfl, used, rfl⟩ := h
  refine ⟨read, front ++ next, last, out, by simp, ?_, by simp⟩
  intro yes
  simp [used yes]

theorem Stops.afterChar {before left : Str} {c : Char}
    {result : Except Halt (Bool × JsonDebugParser × Str)}
    (h : Stops (before ++ [c]) left result) : Stops before (c :: left) result := by
  rw [← List.singleton_append]
  exact h.after

theorem Stops.char {before : Str} {c : Char} {left out : Str} :
    Stops before (c :: left) (.ok (true, cursor (before ++ [c]) left, out)) :=
  ⟨true, [c], left, out, rfl, by simp, rfl⟩

theorem literalLoop_sound (fuel : Nat) : Sound fuel (literalLoop fuel) := by
  induction fuel with
  | zero => intro before rest out enough; omega
  | succ fuel ih =>
    intro before rest out enough
    rw [literalLoop, peek_cursor, ok_bind]
    split
    · exact .refused before rest out
    · rename_i quote
      obtain ⟨left, rfl⟩ := List.head?_eq_some_iff.mp quote
      rw [advance_one before left rfl]
      exact .char
    · rename_i backslash
      obtain ⟨left, rfl⟩ := List.head?_eq_some_iff.mp backslash
      have past : (cursor before ('\\' :: left)).advance 1 = cursor (before ++ ['\\']) left :=
        advance_one before left rfl
      simp only [past, peek_cursor, ok_bind]
      apply Stops.afterChar
      cases left with
      | nil => exact .refused _ _ _
      | cons c left =>
        simp only [List.head?_cons, advance_char]
        simp only [List.length_cons] at enough
        exact .afterChar (ih _ left _ (by omega))
    · rename_i c _ _ other
      obtain ⟨left, rfl⟩ := List.head?_eq_some_iff.mp other
      rw [advance_char]
      exact .afterChar (ih _ left _ (by simpa using enough))

theorem eat_cases (before rest s : Str) :
    (∃ left, rest = s ++ left ∧
      (cursor before rest).eat s = .ok (true, cursor (before ++ s) left)) ∨
    (cursor before rest).eat s = .ok (false, cursor before rest) := by
  by_cases begins : s <+: rest
  · obtain ⟨left, rfl⟩ := begins
    exact .inl ⟨left, rfl, eat_cursor before s left⟩
  · exact .inr (eat_missing before s rest begins)

theorem parseRustString_sound (fuel : Nat) : Sound fuel (parseRustString fuel) := by
  intro before rest out enough
  rw [parseRustString, peek_cursor, ok_bind]
  split
  · exact .refused before rest out
  · rename_i quote
    obtain ⟨left, rfl⟩ := List.head?_eq_some_iff.mp (not_not.mp quote)
    rw [advance_one before left rfl]
    simp only [List.length_cons] at enough
    exact .afterChar (literalLoop_sound fuel _ left _ (by omega))

theorem closing_stops {closing : Char} (width : closing.utf8Size = 1) (next : Parse)
    {before rest out : Str} {fuel : Nat} (enough : rest.length < fuel)
    (sound : ∀ before left, left.length ≤ rest.length →
      Stops before left (next (cursor before left) out)) :
    Stops before rest (do
      let p ← skipWs fuel (cursor before rest)
      if (← p.peek) = some closing then return (true, p.advance 1, out ++ [closing])
      next p out) := by
  rw [skipWs_cursor before rest enough, ok_bind, peek_cursor, ok_bind]
  have whole := List.takeWhile_append_dropWhile (p := isAsciiWhitespace) (l := rest)
  have shorter : (rest.dropWhile isAsciiWhitespace).length ≤ rest.length :=
    (List.dropWhile_suffix _).length_le
  suffices behind : Stops (before ++ rest.takeWhile isAsciiWhitespace)
      (rest.dropWhile isAsciiWhitespace)
      (if (rest.dropWhile isAsciiWhitespace).head? = some closing then
        .ok (true, (cursor (before ++ rest.takeWhile isAsciiWhitespace)
          (rest.dropWhile isAsciiWhitespace)).advance 1, out ++ [closing])
      else next (cursor (before ++ rest.takeWhile isAsciiWhitespace)
        (rest.dropWhile isAsciiWhitespace)) out) by
    have joined := behind.after
    rw [whole] at joined
    exact joined
  split
  · rename_i closes
    obtain ⟨left, split⟩ := List.head?_eq_some_iff.mp closes
    rw [split, advance_one _ left width]
    exact .char
  · exact sound _ _ shorter

theorem memberLoop_stops {closing : Char} (width : closing.utf8Size = 1) {member : Parse}
    {bound : Nat} (sound : Sound bound member) {fuel : Nat} (within : fuel ≤ bound)
    (first : Bool) (before rest out : Str) (enough : rest.length < fuel) :
    Stops before rest (memberLoop closing member fuel first (cursor before rest) out) := by
  induction fuel generalizing first before rest out with
  | zero => omega
  | succ fuel ih =>
    have turn : ∀ before rest out, rest.length < fuel + 1 →
        Stops before rest (memberLoop closing member (fuel + 1) true (cursor before rest) out) := by
      intro before rest out enough
      obtain ⟨read, front, left, out, rfl, used, result⟩ := sound before rest out (by omega)
      rw [memberLoop, eatSeparator, if_pos rfl, ok_bind]
      simp only [Bool.not_true, Bool.false_eq_true, if_false, if_true]
      rw [result]
      cases read with
      | false => exact (Stops.refused _ _ _).after
      | true =>
        have some := List.length_pos_iff.mpr (used rfl)
        rw [List.length_append] at enough
        apply Stops.after
        apply closing_stops width (memberLoop closing member fuel false) (by omega)
        intro before later fewer
        exact ih (by omega) false before later out (by omega)
    rw [memberLoop]
    cases first with
    | true => exact turn before rest out enough
    | false =>
      rcases eat_cases before rest ", ".toList with ⟨left, rfl, eaten⟩ | missing
      · rw [eatSeparator, if_neg Bool.false_ne_true, eaten, ok_bind]
        rw [List.length_append] at enough
        exact (turn _ left _ (by omega)).after
      · rw [eatSeparator, if_neg Bool.false_ne_true, missing, ok_bind]
        exact .refused before rest out

theorem parseMembers_stops {tag : Str} {opening closing : Char} (width : closing.utf8Size = 1)
    {member : Parse} {fuel : Nat} (sound : Sound fuel member) (before left out : Str)
    (enough : left.length < fuel) :
    Stops before (tag ++ left)
      (parseMembers tag opening closing member fuel (cursor before (tag ++ left)) out) := by
  rw [parseMembers, advance_cursor]
  apply Stops.after
  rcases eat_cases (before ++ tag) left [opening] with ⟨rest, rfl, eaten⟩ | missing
  · rw [eaten]
    rw [List.length_append] at enough
    apply Stops.after
    apply closing_stops width (memberLoop closing member fuel true) (by omega)
    intro before later fewer
    exact memberLoop_stops width sound le_rfl true before later _ (by omega)
  · rw [missing]
    exact .refused _ _ _

theorem parseEntry_sound {parseValue : Parse} {fuel : Nat} (sound : Sound fuel parseValue) :
    Sound fuel (parseEntry parseValue fuel) := by
  intro before rest out enough
  rw [parseEntry]
  obtain ⟨read, key, left, out, rfl, used, result⟩ :=
    parseRustString_sound fuel before rest out enough
  rw [result]
  rw [List.length_append] at enough
  apply Stops.after
  cases read with
  | false => exact .refused _ _ _
  | true =>
    rcases eat_cases (before ++ key) left ": ".toList with ⟨value, rfl, eaten⟩ | missing
    · simp only [ok_bind, eaten]
      rw [List.length_append] at enough
      exact (sound _ value _ (by omega)).after
    · simp only [ok_bind, missing]
      exact .refused _ _ _

theorem closed_stops (before rest out closing : Str) (used : closing ≠ []) :
    Stops before rest (do
      let (closed, p) ← (cursor before rest).eat closing
      return (closed, p, out)) := by
  rcases eat_cases before rest closing with ⟨left, rfl, eaten⟩ | missing
  · rw [eaten]
    exact ⟨true, closing, left, out, rfl, fun _ => used, rfl⟩
  · rw [missing]
    exact .refused _ _ _

theorem parseString_stops (before left out : Str) {fuel : Nat} (enough : left.length < fuel) :
    Stops before ("String(".toList ++ left)
      (parseString fuel (cursor before ("String(".toList ++ left)) out) := by
  rw [parseString, advance_cursor]
  obtain ⟨read, literal, left, out, rfl, used, result⟩ :=
    parseRustString_sound fuel (before ++ "String(".toList) left out enough
  rw [result]
  apply Stops.after
  apply Stops.after
  cases read with
  | false => exact .refused _ _ _
  | true => exact closed_stops _ _ _ _ (by simp)

theorem slice_cursor (before digits left : Str) :
    slice (cursor (before ++ digits) left).input (cursor before (digits ++ left)).pos
      (cursor (before ++ digits) left).pos = .ok digits := by
  have start : byteLen before ≤ byteLen before + byteLen digits := by omega
  simp [slice, checkedSub, sliceFrom, sliceTo, cursor, start]

theorem parseNumber_stops (before left out : Str) {fuel : Nat} (enough : left.length < fuel) :
    Stops before ("Number(".toList ++ left)
      (parseNumber fuel (cursor before ("Number(".toList ++ left)) out) := by
  rw [parseNumber, advance_cursor, skipNumber_cursor _ _ enough, ok_bind]
  obtain ⟨digits, digitsEq⟩ : ∃ digits, left.takeWhile (fun c => c != ')') = digits := ⟨_, rfl⟩
  obtain ⟨rest, restEq⟩ : ∃ rest, left.dropWhile (fun c => c != ')') = rest := ⟨_, rfl⟩
  have whole : digits ++ rest = left := by
    rw [← digitsEq, ← restEq]
    exact List.takeWhile_append_dropWhile
  subst whole
  rw [digitsEq, restEq, slice_cursor, ok_bind]
  apply Stops.after
  apply Stops.after
  split
  · exact .refused _ _ _
  · exact closed_stops _ _ _ _ (by simp)

theorem parseUnit_stops (before variant left text out : Str) (used : variant ≠ []) :
    Stops before (variant ++ left)
      (parseUnit variant text (cursor before (variant ++ left)) out) := by
  rw [parseUnit, advance_cursor]
  exact ⟨true, variant, left, _, rfl, fun _ => used, rfl⟩

theorem parseValue_sound (fuel : Nat) : Sound fuel (parseValue fuel) := by
  induction fuel with
  | zero => intro before rest out enough; omega
  | succ fuel ih =>
    intro before rest out enough
    rw [parseValue, remaining_cursor, ok_bind]
    have behind : ∀ {tag : Str}, tag ≠ [] → ∀ {left : Str},
        (tag ++ left).length < fuel + 1 → left.length < fuel := by
      intro tag some left enough
      have positive := List.length_pos_iff.mpr some
      rw [List.length_append] at enough
      omega
    split
    · rename_i begins
      obtain ⟨left, rfl⟩ := begins
      have tag : "Object \x7b".toList ++ left = "Object ".toList ++ ('{' :: left) := by simp
      rw [tag] at enough ⊢
      exact parseMembers_stops rfl (parseEntry_sound ih) before _ out (behind (by simp) enough)
    split
    · rename_i begins
      obtain ⟨left, rfl⟩ := begins
      have tag : "Array [".toList ++ left = "Array ".toList ++ ('[' :: left) := by simp
      rw [tag] at enough ⊢
      exact parseMembers_stops rfl ih before _ out (behind (by simp) enough)
    split
    · rename_i begins
      obtain ⟨left, rfl⟩ := begins
      exact parseString_stops before left out (behind (by simp) enough)
    split
    · rename_i begins
      obtain ⟨left, rfl⟩ := begins
      exact parseNumber_stops before left out (behind (by simp) enough)
    split
    · rename_i begins
      obtain ⟨left, rfl⟩ := begins
      exact parseUnit_stops before _ left _ out (by simp)
    split
    · rename_i begins
      obtain ⟨left, rfl⟩ := begins
      exact parseUnit_stops before _ left _ out (by simp)
    split
    · rename_i begins
      obtain ⟨left, rfl⟩ := begins
      exact parseUnit_stops before _ left _ out (by simp)
    · exact .refused before rest out

theorem rewriteJsonDebug_ok (s : Str) {fuel : Nat} (enough : s.length < fuel) :
    ∃ rewritten, rewriteJsonDebug fuel s = .ok rewritten := by
  obtain ⟨read, front, left, out, _, _, result⟩ := parseValue_sound fuel [] s [] enough
  rw [rewriteJsonDebug, new_eq_cursor, result, ok_bind]
  dsimp only
  split
  · exact ⟨some out, rfl⟩
  · exact ⟨none, rfl⟩

/-! More fuel changes no answer. -/

/-- `g` answers wherever `f` does, in the same way. -/
def Extends (f g : Parse) : Prop := ∀ p out, Below .outOfFuel (f p out) (g p out)

theorem advanceWhile_below {test : Char → Bool} {step : Char → Nat} (fuel : Nat)
    (p : JsonDebugParser) :
    Below .outOfFuel (advanceWhile test step fuel p) (advanceWhile test step (fuel + 1) p) := by
  induction fuel generalizing p with
  | zero => exact .of_dry
  | succ fuel ih =>
    rw [advanceWhile, advanceWhile]
    apply Below.refl.bind
    rintro (_ | c)
    · exact .refl
    · exact (ih _).ite .refl

theorem literalLoop_extends (fuel : Nat) : Extends (literalLoop fuel) (literalLoop (fuel + 1)) := by
  induction fuel with
  | zero => intro p out; exact .of_dry
  | succ fuel ih =>
    intro p out
    rw [literalLoop, literalLoop]
    apply Below.refl.bind
    intro next
    split
    · exact .refl
    · exact .refl
    · apply Below.refl.bind
      rintro (_ | c)
      · exact .refl
      · exact ih _ _
    · exact ih _ _

theorem parseRustString_extends (fuel : Nat) :
    Extends (parseRustString fuel) (parseRustString (fuel + 1)) := by
  intro p out
  rw [parseRustString, parseRustString]
  apply Below.refl.bind
  intro next
  exact Below.refl.ite (literalLoop_extends fuel _ _)

theorem memberLoop_extends {closing : Char} {member member' : Parse}
    (more : Extends member member') (fuel : Nat) (first : Bool) :
    Extends (memberLoop closing member fuel first)
      (memberLoop closing member' (fuel + 1) first) := by
  induction fuel generalizing first with
  | zero => intro p out; exact .of_dry
  | succ fuel ih =>
    intro p out
    rw [memberLoop, memberLoop]
    apply Below.refl.bind
    rintro ⟨separated, p⟩
    apply Below.refl.ite
    apply (more _ _).bind
    rintro ⟨read, p, out⟩
    apply Below.refl.ite
    apply (advanceWhile_below fuel p).bind
    intro p
    apply Below.refl.bind
    intro next
    exact Below.refl.ite (ih false p out)

theorem parseMembers_extends {tag : Str} {opening closing : Char} {member member' : Parse}
    (more : Extends member member') (fuel : Nat) :
    Extends (parseMembers tag opening closing member fuel)
      (parseMembers tag opening closing member' (fuel + 1)) := by
  intro p out
  rw [parseMembers, parseMembers]
  apply Below.refl.bind
  rintro ⟨opened, p⟩
  apply Below.refl.ite
  apply (advanceWhile_below fuel p).bind
  intro p
  apply Below.refl.bind
  intro next
  exact Below.refl.ite (memberLoop_extends more fuel true p _)

theorem parseEntry_extends {value value' : Parse} (more : Extends value value') (fuel : Nat) :
    Extends (parseEntry value fuel) (parseEntry value' (fuel + 1)) := by
  intro p out
  apply (parseRustString_extends fuel p out).bind
  rintro ⟨read, p, out⟩
  apply Below.refl.ite
  apply Below.refl.bind
  rintro ⟨colon, p⟩
  exact Below.refl.ite (more p _)

theorem parseString_extends (fuel : Nat) :
    Extends (parseString fuel) (parseString (fuel + 1)) := by
  intro p out
  exact (parseRustString_extends fuel _ out).bind fun _ => .refl

theorem parseNumber_extends (fuel : Nat) :
    Extends (parseNumber fuel) (parseNumber (fuel + 1)) := by
  intro p out
  exact (advanceWhile_below fuel _).bind fun _ => .refl

theorem parseValue_extends (fuel : Nat) : Extends (parseValue fuel) (parseValue (fuel + 1)) := by
  induction fuel with
  | zero => intro p out; exact .of_dry
  | succ fuel ih =>
    intro p out
    rw [parseValue, parseValue]
    apply Below.refl.bind
    intro rem
    apply (parseMembers_extends (parseEntry_extends ih fuel) fuel p out).ite
    apply (parseMembers_extends ih fuel p out).ite
    apply (parseString_extends fuel p out).ite
    exact (parseNumber_extends fuel p out).ite .refl

theorem stripSomeWrappers_below (fuel : Nat) (s : Str) :
    Below .outOfFuel (stripSomeWrappers fuel s) (stripSomeWrappers (fuel + 1) s) := by
  induction fuel generalizing s with
  | zero => exact .of_dry
  | succ fuel ih =>
    rw [stripSomeWrappers, stripSomeWrappers]
    apply Below.refl.bind
    rintro (_ | inner)
    · exact .refl
    · exact ih inner

theorem cleanDebugValue_below (fuel : Nat) (s : Str) :
    Below .outOfFuel (cleanDebugValue fuel s) (cleanDebugValue (fuel + 1) s) := by
  apply (stripSomeWrappers_below fuel s).bind
  intro stripped
  refine Below.bind ?_ fun _ => .refl
  exact (parseValue_extends fuel _ _).bind fun _ => .refl

theorem rewriteJsonDebug_below (fuel : Nat) (s : Str) :
    Below .outOfFuel (rewriteJsonDebug fuel s) (rewriteJsonDebug (fuel + 1) s) :=
  (parseValue_extends fuel _ _).bind fun _ => .refl

theorem settled {α : Type} {f : Nat → Except Halt α} {size : Nat}
    (step : ∀ fuel, Below .outOfFuel (f fuel) (f (fuel + 1))) {a : α}
    (result : f (size + 1) = .ok a) : ∀ fuel, size < fuel → f fuel = .ok a :=
  fun _ enough => (below_of_le step enough).eq_ok result

/-- The cleaner comes to an end on every text without a failed check, and what it does not
rewrite is the text with the wrappers off. -/
theorem cleanDebugValue_safe (s : Str) :
    ∃ cow stripped rewritten, ∀ fuel, s.length < fuel →
      stripSomeWrappers fuel s = .ok stripped ∧
      rewriteJsonDebug fuel stripped = .ok rewritten ∧
      cleanDebugValue fuel s = .ok cow ∧
      (rewritten = none → ∃ n, s = wrapped n cow.text) := by
  obtain ⟨n, t, shape, _, stripped⟩ := stripSomeWrappers_ok s (Nat.lt_succ_self s.length)
  have shorter : t.length ≤ s.length := by
    rw [shape, length_wrapped]
    omega
  obtain ⟨rewritten, read⟩ := rewriteJsonDebug_ok t (Nat.lt_succ_of_le shorter)
  have cleaned : ∃ cow, cleanDebugValue (s.length + 1) s = .ok cow ∧
      (rewritten = none → cow.text = t) := by
    rw [cleanDebugValue, stripped, ok_bind, read, ok_bind]
    cases rewritten with
    | some out => exact ⟨.owned out, rfl, by simp⟩
    | none =>
      dsimp only
      split
      · exact ⟨.owned t, rfl, fun _ => rfl⟩
      · rename_i same
        refine ⟨.borrowed s, rfl, fun _ => ?_⟩
        have none : n = 0 := by
          rw [shape, byteLen_wrapped, ne_eq, not_not] at same
          omega
        rw [shape, none, wrapped_zero]
        rfl
  obtain ⟨cow, result, text⟩ := cleaned
  refine ⟨cow, t, rewritten, fun fuel enough => ⟨?_, ?_, ?_, ?_⟩⟩
  · exact settled (fun fuel => stripSomeWrappers_below fuel s) stripped fuel enough
  · exact settled (fun fuel => rewriteJsonDebug_below fuel t) read fuel (by omega)
  · exact settled (fun fuel => cleanDebugValue_below fuel s) result fuel enough
  · intro unread
    exact ⟨n, by rw [text unread, ← shape]⟩

end Polykit.Log.Safety
