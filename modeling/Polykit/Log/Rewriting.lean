/- Module: Polykit/Log/Rewriting
   generality: I
   source: crates/polylog/src/clean.rs
   digest: The Debug text of every JSON value, in any number of wrappers, comes out as JSON. -/

import Mathlib.Tactic
import Polykit.Log.DebugText
import Polykit.Log.Safety

set_option autoImplicit false
set_option relaxedAutoImplicit false

namespace Polykit.Log.Rewriting

open Polykit.Json
open Polykit.Lib.Utf8
open Polykit.Lib.Fallible
open Polykit.Log.Clean
open Polykit.Log.DebugText
open Polykit.Log.Safety

/-! String literals. -/

/-- What may stand between two quotation marks: no bare quotation mark, and something behind
every backslash. -/
inductive Content : Str → Prop
  | nil : Content []
  | plain {c : Char} {s : Str} (quote : c ≠ '"') (backslash : c ≠ '\\') (rest : Content s) :
      Content (c :: s)
  | escape {c : Char} {s : Str} (rest : Content s) : Content ('\\' :: c :: s)

theorem Content.append {s t : Str} (first : Content s) (second : Content t) :
    Content (s ++ t) := by
  induction first with
  | nil => exact second
  | plain quote backslash _ ih => exact .plain quote backslash ih
  | escape _ ih => exact .escape ih

theorem content_of_plain {s : Str} (h : ∀ c ∈ s, c ≠ '"' ∧ c ≠ '\\') : Content s := by
  induction s with
  | nil => exact .nil
  | cons c s ih =>
    rw [List.forall_mem_cons] at h
    exact .plain h.1.1 h.1.2 (ih h.2)

theorem digit_plain {b n : Nat} (base : 1 < b) {c : Char} (h : c ∈ Nat.toDigits b n) :
    c ≠ '"' ∧ c ≠ '\\' ∧ c ≠ '(' ∧ c ≠ ')' := by
  obtain ⟨d, rfl⟩ := exists_digitChar base h
  exact ⟨Nat.digitChar_ne _ rfl, Nat.digitChar_ne _ rfl, Nat.digitChar_ne _ rfl,
    Nat.digitChar_ne _ rfl⟩

theorem content_escapeDebug (format : Format) (c : Char) : Content (escapeDebug format c) := by
  unfold escapeDebug
  split
  · exact .escape .nil
  split
  · exact .escape .nil
  split
  · exact .escape .nil
  split
  · exact .escape .nil
  split
  · exact .escape .nil
  · rename_i special
    rw [not_or] at special
    split
    · have digits : ∀ c' ∈ Nat.toDigits 16 c.toNat, c' ≠ '"' ∧ c' ≠ '\\' := fun c' member =>
        have plain := digit_plain (by decide) member
        ⟨plain.1, plain.2.1⟩
      have braces : Content ('{' :: Nat.toDigits 16 c.toNat ++ ['}']) :=
        .plain (by decide) (by decide)
          ((content_of_plain digits).append (.plain (by decide) (by decide) .nil))
      exact .escape braces
    · exact .plain special.2 special.1 .nil

theorem content_escapeStr (format : Format) (s : String) : Content (escapeStr format s) := by
  unfold escapeStr
  induction s.toList with
  | nil => exact .nil
  | cons c rest ih => exact (content_escapeDebug format c).append ih

theorem skipLiteral_quote (chars : Str) (i depth : Nat) :
    skipLiteral ('"' :: chars) i depth = scan chars (i + ('"' : Char).utf8Size) depth := by
  cases chars <;> rfl

theorem skipLiteral_plain {c : Char} (quote : c ≠ '"') (backslash : c ≠ '\\') (chars : Str)
    (i depth : Nat) :
    skipLiteral (c :: chars) i depth = skipLiteral chars (i + c.utf8Size) depth := by
  cases chars with
  | nil => simp [skipLiteral, quote, backslash]
  | cons next chars => rw [skipLiteral, if_neg backslash, if_neg quote]

theorem skipLiteral_escape (c : Char) (chars : Str) (i depth : Nat) :
    skipLiteral ('\\' :: c :: chars) i depth =
      skipLiteral chars (i + ('\\' : Char).utf8Size + c.utf8Size) depth := by
  rw [skipLiteral, if_pos rfl]

theorem skipLiteral_content {s : Str} (h : Content s) (rest : Str) (i depth : Nat) :
    skipLiteral (s ++ '"' :: rest) i depth = scan rest (i + byteLen (s ++ ['"'])) depth := by
  induction h generalizing i with
  | nil => exact skipLiteral_quote rest i depth
  | plain quote backslash _ ih =>
    rw [List.cons_append, skipLiteral_plain quote backslash, ih]
    simp only [List.cons_append, byteLen_cons, Nat.add_assoc]
  | escape _ ih =>
    rw [List.cons_append, List.cons_append, skipLiteral_escape, ih]
    simp only [List.cons_append, byteLen_cons, Nat.add_assoc]

theorem literalLoop_content {s : Str} (h : Content s) {fuel : Nat} (before rest out : Str)
    (enough : s.length < fuel) :
    literalLoop fuel (cursor before (s ++ '"' :: rest)) out =
      .ok (true, cursor (before ++ (s ++ ['"'])) rest, out ++ (s ++ ['"'])) := by
  induction h generalizing fuel before out with
  | nil =>
    cases fuel with
    | zero => simp at enough
    | succ fuel =>
      rw [List.nil_append, literalLoop, peek_cursor, ok_bind]
      simp only [List.head?_cons]
      rw [advance_one before rest rfl]
      rfl
  | @plain c s quote backslash _ ih =>
    cases fuel with
    | zero => simp at enough
    | succ fuel =>
      rw [List.cons_append, literalLoop, peek_cursor, ok_bind]
      simp only [List.head?_cons]
      rw [advance_char, ih (before ++ [c]) (out ++ [c]) (by simpa using enough)]
      simp
  | @escape c s _ ih =>
    cases fuel with
    | zero => simp at enough
    | succ fuel =>
      rw [List.cons_append, List.cons_append, literalLoop, peek_cursor, ok_bind]
      simp only [List.head?_cons]
      rw [advance_one before _ rfl, peek_cursor, ok_bind]
      simp only [List.head?_cons, advance_char]
      simp only [List.length_cons] at enough
      rw [ih _ _ (by omega)]
      simp

theorem parseRustString_debugStr (format : Format) (s : String) {fuel : Nat}
    (before rest out : Str) (enough : (debugStr format s).length < fuel) :
    parseRustString fuel (cursor before (debugStr format s ++ rest)) out =
      .ok (true, cursor (before ++ debugStr format s) rest, out ++ debugStr format s) := by
  have content := content_escapeStr format s
  simp only [debugStr, List.cons_append, List.append_assoc, List.length_cons,
    List.length_append] at enough ⊢
  rw [parseRustString, peek_cursor, ok_bind, if_neg (by simp), advance_one before _ rfl,
    List.nil_append, literalLoop_content content _ _ _ (by omega)]
  simp

/-! Wrappers. -/

/-- A text that the matcher passes without a change of the depth. -/
def Neutral (text : Str) : Prop :=
  ∀ rest i depth, 1 ≤ depth → scan (text ++ rest) i depth = scan rest (i + byteLen text) depth

theorem neutral_nil : Neutral [] := fun _ _ _ _ => rfl

theorem Neutral.append {s t : Str} (first : Neutral s) (second : Neutral t) :
    Neutral (s ++ t) := by
  intro rest i depth positive
  rw [List.append_assoc, first _ _ _ positive, second _ _ _ positive, byteLen_append,
    Nat.add_assoc]

def Plain (c : Char) : Prop := c ≠ '"' ∧ c ≠ '(' ∧ c ≠ ')'

instance (c : Char) : Decidable (Plain c) := inferInstanceAs (Decidable (_ ∧ _ ∧ _))

theorem neutral_of_plain {text : Str} (h : ∀ c ∈ text, Plain c) : Neutral text := by
  induction text with
  | nil => exact neutral_nil
  | cons c text ih =>
    rw [List.forall_mem_cons] at h
    obtain ⟨⟨quote, opening, closing⟩, others⟩ := h
    intro rest i depth positive
    rw [List.cons_append, scan, if_neg quote, if_neg opening, if_neg closing,
      ih others _ _ _ positive, byteLen_cons, Nat.add_assoc]

theorem neutral_literal {content : Str} (h : Content content) :
    Neutral ('"' :: content ++ ['"']) := by
  intro rest i depth positive
  rw [List.append_assoc, List.cons_append, scan, if_pos rfl, List.singleton_append,
    skipLiteral_content h, List.cons_append, byteLen_cons, Nat.add_assoc]

theorem Neutral.parenthesized {text : Str} (h : Neutral text) : Neutral ('(' :: text ++ [')']) := by
  intro rest i depth positive
  have width : checkedSub (depth + 1) 1 = .ok depth := by simp [checkedSub]
  have above : depth ≠ 0 := by omega
  rw [List.append_assoc, List.cons_append, scan, if_neg (by decide), if_pos rfl,
    h _ _ _ (by omega), List.singleton_append, scan, if_neg (by decide), if_neg (by decide),
    if_pos rfl, width, ok_bind, if_neg above, List.cons_append, byteLen_cons, byteLen_append]
  simp [Nat.add_assoc]

theorem neutral_wrapped {text : Str} (h : Neutral text) (n : Nat) : Neutral (wrapped n text) := by
  induction n with
  | zero => rwa [wrapped_zero]
  | succ n ih =>
    have name : Neutral "Some".toList := neutral_of_plain (forall_of_all (by decide))
    have shape : wrapped (n + 1) text = "Some".toList ++ ('(' :: wrapped n text ++ [')']) := by
      rw [wrapped_succ]
      simp
    rw [shape]
    exact name.append ih.parenthesized

theorem tryStripSome_neutral {text : Str} (h : Neutral text) :
    tryStripSome ("Some(".toList ++ text ++ [')']) = .ok (some text) := by
  have stripped : stripPrefix ("Some(".toList ++ text ++ [')']) "Some(".toList =
      some (text ++ [')']) := by
    rw [stripPrefix, List.append_assoc, if_pos (List.prefix_append _ _), List.drop_left]
  have found : findMatchingCloseParen (text ++ [')']) = .ok (some (byteLen text)) := by
    rw [findMatchingCloseParen, h _ _ _ le_rfl, Nat.zero_add]
    rfl
  have last : checkedSub (byteLen (text ++ [')'])) 1 = .ok (byteLen text) := by
    have width : byteLen [')'] = 1 := rfl
    rw [byteLen_append, width, checkedSub, if_pos (by omega), Nat.add_sub_cancel]
  have cut : sliceTo (text ++ [')']) (byteLen text) = .ok text := by
    rw [sliceTo, takeBytes_append]
    rfl
  rw [tryStripSome, stripped]
  simp only [found, ok_bind, last, cut, if_true]
  rfl

theorem stripSomeWrappers_wrapped {text : Str} (h : Neutral text)
    (bare : ¬ "Some(".toList <+: text) (n : Nat) {fuel : Nat} (enough : n < fuel) :
    stripSomeWrappers fuel (wrapped n text) = .ok text := by
  induction n generalizing fuel with
  | zero =>
    cases fuel with
    | zero => omega
    | succ fuel =>
      have none : tryStripSome text = .ok none := by
        rw [tryStripSome, stripPrefix, if_neg bare]
        rfl
      rw [wrapped_zero, stripSomeWrappers, none]
      rfl
  | succ n ih =>
    cases fuel with
    | zero => omega
    | succ fuel =>
      rw [wrapped_succ, stripSomeWrappers, tryStripSome_neutral (neutral_wrapped h n)]
      exact ih (by omega)

/-! The Debug text of a value. -/

def FloatsAreNumbers (format : Format) : Prop :=
  ∀ x, format.float x ≠ [] ∧ ∀ c ∈ format.float x, c.isDigit ∨ c ∈ ['-', '+', '.', 'e', 'E']

variable {format : Format}

theorem plain_displayNumber (floats : FloatsAreNumbers format) (n : Number) :
    displayNumber format n ≠ [] ∧ ∀ c ∈ displayNumber format n, Plain c := by
  have digits : ∀ m : Nat, ∀ c ∈ Nat.toDigits 10 m, Plain c := fun m c member =>
    have plain := digit_plain (by decide) member
    ⟨plain.1, plain.2.2⟩
  cases n with
  | posInt n => exact ⟨Nat.toDigits_ne_nil, digits _⟩
  | negInt n negative =>
    exact ⟨List.cons_ne_nil _ _, List.forall_mem_cons.mpr ⟨by decide, digits _⟩⟩
  | float x =>
    refine ⟨(floats x).1, fun c member => ?_⟩
    rcases (floats x).2 c member with digit | sign
    · refine ⟨?_, ?_, ?_⟩ <;>
      · rintro rfl
        exact absurd digit (by decide)
    · simp only [List.mem_cons, List.not_mem_nil, or_false] at sign
      rcases sign with rfl | rfl | rfl | rfl | rfl <;> decide

theorem plain_boolStr (b : Bool) : ∀ c ∈ boolStr b, Plain c := by
  cases b <;> exact forall_of_all (by decide)

theorem neutral_debugStr (s : String) : Neutral (debugStr format s) :=
  neutral_literal (content_escapeStr format s)

theorem neutral_intercalate {texts : List Str} (h : ∀ text ∈ texts, Neutral text) :
    Neutral (List.intercalate ", ".toList texts) := by
  have separator : Neutral ", ".toList := neutral_of_plain (forall_of_all (by decide))
  induction texts with
  | nil => exact neutral_nil
  | cons text texts ih =>
    rw [List.forall_mem_cons] at h
    cases texts with
    | nil => simpa [List.intercalate] using h.1
    | cons next texts =>
      rw [List.intercalate_cons_cons]
      exact (h.1.append separator).append (ih h.2)

theorem neutral_debugText (floats : FloatsAreNumbers format) (value : Value) :
    Neutral (debugText format value) := by
  induction value using Value.induction with
  | null =>
    have name : Neutral "Null".toList := neutral_of_plain (forall_of_all (by decide))
    exact name
  | bool b =>
    have name : Neutral "Bool".toList := neutral_of_plain (forall_of_all (by decide))
    have joined := name.append (neutral_of_plain (plain_boolStr b)).parenthesized
    simpa [debugText, render, debugStyle] using joined
  | number n =>
    have name : Neutral "Number".toList := neutral_of_plain (forall_of_all (by decide))
    have digits := neutral_of_plain (plain_displayNumber floats n).2
    simpa [debugText, render, debugStyle] using name.append digits.parenthesized
  | string s =>
    have name : Neutral "String".toList := neutral_of_plain (forall_of_all (by decide))
    have literal : Neutral (debugStr format s) := neutral_debugStr s
    simpa [debugText, render, debugStyle] using name.append literal.parenthesized
  | array items ih =>
    have opening : Neutral "Array [".toList := neutral_of_plain (forall_of_all (by decide))
    have closing : Neutral [']'] := neutral_of_plain (forall_of_all (by decide))
    have members : ∀ text ∈ renderItems format debugStyle items, Neutral text := by
      rw [renderItems_eq_map]
      exact List.forall_mem_map.mpr ih
    have joined := (opening.append (neutral_intercalate members)).append closing
    simpa [debugText, render, debugStyle] using joined
  | object entries ih =>
    have opening : Neutral "Object \x7b".toList := neutral_of_plain (forall_of_all (by decide))
    have closing : Neutral ['}'] := neutral_of_plain (forall_of_all (by decide))
    have colon : Neutral ": ".toList := neutral_of_plain (forall_of_all (by decide))
    have members : ∀ text ∈ renderEntries format debugStyle entries, Neutral text := by
      rw [renderEntries_eq_map]
      exact List.forall_mem_map.mpr fun entry member =>
        ((neutral_debugStr entry.1).append colon).append (ih entry member)
    have joined := (opening.append (neutral_intercalate members)).append closing
    simpa [debugText, render, debugStyle] using joined

/-! The parser on it. -/

/-- With enough fuel for what is left, the method reads `text`, writes `written` and stops. -/
def Reads (fuel : Nat) (parse : Parse) (text written : Str) : Prop :=
  ∀ before rest out, (text ++ rest).length < fuel →
    parse (cursor before (text ++ rest)) out =
      .ok (true, cursor (before ++ text) rest, out ++ written)

theorem skipWs_char {c : Char} (h : isAsciiWhitespace c = false) (before rest : Str) {fuel : Nat}
    (enough : (c :: rest).length < fuel) :
    skipWs fuel (cursor before (c :: rest)) = .ok (cursor before (c :: rest)) := by
  rw [skipWs_cursor before _ enough]
  simp [h]

/-- A member as the loop meets it: what it reads, what it writes, and how it begins. -/
structure Member (bound : Nat) (closing : Char) (member : Parse) (texts : Str × Str) : Prop where
  reads : Reads bound member texts.1 texts.2
  begins : ∃ c rest, texts.1 = c :: rest ∧ isAsciiWhitespace c = false ∧ c ≠ closing

def separator (first : Bool) : Str := if first then [] else ", ".toList

theorem eatSeparator_cursor (first : Bool) (before rest : Str) :
    eatSeparator first (cursor before (separator first ++ rest)) =
      .ok (true, cursor (before ++ separator first) rest) := by
  cases first with
  | true => simp [eatSeparator, separator]
  | false => exact eat_cursor before ", ".toList rest

theorem push_separator (first : Bool) (out : Str) :
    (if first then out else out ++ ", ".toList) = out ++ separator first := by
  cases first <;> simp [separator]

variable {closing : Char} {member : Parse} {bound : Nat}

theorem memberLoop_turn (width : closing.utf8Size = 1) {texts : Str × Str}
    (h : Member bound closing member texts) (first : Bool) {fuel : Nat} (within : fuel < bound)
    {c : Char} (blank : isAsciiWhitespace c = false) (before rest out : Str)
    (enough : (separator first ++ (texts.1 ++ c :: rest)).length < fuel + 1) :
    memberLoop closing member (fuel + 1) first
        (cursor before (separator first ++ (texts.1 ++ c :: rest))) out =
      if c = closing then
        .ok (true, cursor (before ++ separator first ++ texts.1 ++ [c]) rest,
          out ++ separator first ++ texts.2 ++ [closing])
      else
        memberLoop closing member fuel false
          (cursor (before ++ separator first ++ texts.1) (c :: rest))
          (out ++ separator first ++ texts.2) := by
  obtain ⟨head, tail, begins, _⟩ := h.begins
  have some : 0 < texts.1.length := by simp [begins]
  simp only [List.length_append] at enough
  have read := h.reads (before ++ separator first) (c :: rest) (out ++ separator first)
    (by rw [List.length_append]; omega)
  have behind : (c :: rest).length < fuel := by omega
  have skipped := skipWs_char blank (before ++ separator first ++ texts.1) rest behind
  rw [memberLoop, eatSeparator_cursor, ok_bind]
  dsimp only
  rw [push_separator, read]
  simp only [ok_bind, skipped, peek_cursor, List.head?_cons, Option.some.injEq, Bool.not_true,
    Bool.false_eq_true, if_false]
  by_cases closes : c = closing
  · rw [if_pos closes, if_pos closes, advance_one _ rest (closes ▸ width)]
    rfl
  · rw [if_neg closes, if_neg closes]

/-- The induction is on the members that are left: the loop has at least one to read. -/
theorem memberLoop_reads (width : closing.utf8Size = 1) (blank : isAsciiWhitespace closing = false)
    (comma : closing ≠ ',') (texts : Str × Str) (members : List (Str × Str))
    (each : ∀ texts' ∈ texts :: members, Member bound closing member texts') (first : Bool)
    {fuel : Nat} (within : fuel ≤ bound) (before rest out : Str)
    (enough : (separator first ++ (List.intercalate ", ".toList
      ((texts :: members).map Prod.fst) ++ closing :: rest)).length < fuel) :
    memberLoop closing member fuel first (cursor before (separator first ++
        (List.intercalate ", ".toList ((texts :: members).map Prod.fst) ++ closing :: rest))) out =
      .ok (true, cursor (before ++ separator first ++
          List.intercalate ", ".toList ((texts :: members).map Prod.fst) ++ [closing]) rest,
        out ++ separator first ++
          List.intercalate ", ".toList ((texts :: members).map Prod.snd) ++ [closing]) := by
  induction members generalizing texts first fuel before out with
  | nil =>
    rw [List.forall_mem_cons] at each
    cases fuel with
    | zero => omega
    | succ fuel =>
      simp only [List.map_cons, List.map_nil, List.intercalate_singleton] at enough ⊢
      rw [memberLoop_turn width each.1 first (by omega) blank before rest out enough, if_pos rfl]
  | cons next members ih =>
    rw [List.forall_mem_cons] at each
    cases fuel with
    | zero => omega
    | succ fuel =>
      have joined : ∀ part : Str, ", ".toList ++ part = ',' :: (' ' :: part) := fun _ => rfl
      have separated : ∀ part : Str, separator false ++ part = ',' :: (' ' :: part) :=
        fun _ => rfl
      obtain ⟨head, tail, begins, _⟩ := each.1.begins
      have some : 0 < texts.1.length := by simp [begins]
      simp only [List.map_cons, List.intercalate_cons_cons, List.append_assoc] at enough ih ⊢
      rw [joined] at enough ⊢
      have room : fuel ≤ bound := by omega
      have left := ih next each.2 false room
        (before ++ (separator first ++ texts.1)) (out ++ (separator first ++ texts.2))
        (by rw [separated]; simp only [List.length_append] at enough ⊢; omega)
      rw [memberLoop_turn width each.1 first (by omega) (by decide) before _ out enough,
        if_neg (Ne.symm comma)]
      rw [separated] at left
      simp only [List.append_assoc] at left ⊢
      rw [left]
      simp [separator]

theorem parseMembers_reads (width : closing.utf8Size = 1)
    (blank : isAsciiWhitespace closing = false) (comma : closing ≠ ',') (tag : Str)
    (opening : Char) (members : List (Str × Str)) {fuel : Nat}
    (each : ∀ texts ∈ members, Member fuel closing member texts) :
    Reads (fuel + 1) (parseMembers tag opening closing member fuel)
      (tag ++ opening :: List.intercalate ", ".toList (members.map Prod.fst) ++ [closing])
      (opening :: List.intercalate ", ".toList (members.map Prod.snd) ++ [closing]) := by
  intro before rest out enough
  simp only [List.append_assoc, List.cons_append, List.nil_append] at enough ⊢
  rw [parseMembers, advance_cursor, ← List.singleton_append, eat_cursor, ok_bind]
  simp only [List.length_append, List.length_cons] at enough
  cases members with
  | nil =>
    have room : (closing :: rest).length < fuel := by
      rw [List.length_cons]
      omega
    have skipped := skipWs_char blank (before ++ tag ++ [opening]) rest room
    simp only [List.map_nil, List.intercalate_nil, List.nil_append, Bool.not_true,
      Bool.false_eq_true, if_false, skipped, ok_bind, peek_cursor, List.head?_cons, if_true,
      advance_one _ rest width]
    simp [pure, Except.pure]
  | cons texts members =>
    obtain ⟨head, tail, begins, visible, other⟩ := (each texts List.mem_cons_self).begins
    obtain ⟨more, text⟩ : ∃ more, List.intercalate ", ".toList
        ((texts :: members).map Prod.fst) ++ closing :: rest = head :: more := by
      cases members <;> simp [begins, List.intercalate_cons_cons]
    have room : (head :: more).length < fuel := by
      rw [← text]
      simp only [List.length_append, List.length_cons]
      omega
    have skipped := skipWs_char visible (before ++ tag ++ [opening]) more room
    have read := memberLoop_reads width blank comma texts members each true le_rfl
      (before ++ tag ++ [opening]) rest (out ++ [opening]) (by
        simp only [separator, if_true, List.nil_append, List.length_append, List.length_cons]
        omega)
    simp only [separator, if_true, List.nil_append, List.append_nil] at read
    simp only [text, Bool.not_true, Bool.false_eq_true, if_false, skipped, ok_bind, peek_cursor,
      List.head?_cons, Option.some.injEq, other]
    rw [← text, read]
    simp

theorem parseEntry_reads {parseValue : Parse} {fuel : Nat} {text written : Str}
    (value : Reads fuel parseValue text written) (key : String) :
    Reads fuel (parseEntry parseValue fuel) (debugStr format key ++ ": ".toList ++ text)
      (debugStr format key ++ ": ".toList ++ written) := by
  intro before rest out enough
  simp only [List.append_assoc, List.length_append] at enough ⊢
  rw [parseEntry, parseRustString_debugStr _ _ _ _ _ (by omega), ok_bind]
  dsimp only
  rw [if_neg (by simp), eat_cursor, ok_bind]
  dsimp only
  rw [if_neg (by simp), value _ _ _ (by rw [List.length_append]; omega)]
  simp

theorem parseString_reads (s : String) (fuel : Nat) :
    Reads (fuel + 1) (parseString fuel) (debugStyle.string (debugStr format s))
      (debugStr format s) := by
  intro before rest out enough
  have tag : "String(".toList.length = 7 := rfl
  simp only [debugStyle, List.append_assoc, List.length_append, tag] at enough ⊢
  rw [parseString, advance_cursor, parseRustString_debugStr _ _ _ _ _ (by omega), ok_bind]
  have closing : ")".toList = [')'] := rfl
  dsimp only
  rw [if_neg (by simp), closing, eat_cursor, ok_bind]
  simp [pure, Except.pure]

theorem parseNumber_reads (floats : FloatsAreNumbers format) (n : Number) (fuel : Nat) :
    Reads (fuel + 1) (parseNumber fuel) (debugStyle.number (displayNumber format n))
      (displayNumber format n) := by
  intro before rest out enough
  obtain ⟨some, plain⟩ := plain_displayNumber floats n
  have passes : ∀ c ∈ displayNumber format n, (c != ')') = true := fun c member => by
    simp [(plain c member).2.2]
  have digits : (displayNumber format n ++ ')' :: rest).takeWhile (fun c => c != ')') =
      displayNumber format n := by
    rw [List.takeWhile_append_of_pos passes]
    simp
  have left : (displayNumber format n ++ ')' :: rest).dropWhile (fun c => c != ')') =
      ')' :: rest := by
    rw [List.dropWhile_append_of_pos passes]
    simp
  have closing : ")".toList = [')'] := rfl
  have tag : "Number(".toList.length = 7 := rfl
  simp only [debugStyle, List.append_assoc, List.cons_append, List.nil_append,
    List.length_append, tag] at enough ⊢
  rw [parseNumber, advance_cursor, skipNumber_cursor _ _ (by rw [List.length_append]; omega),
    ok_bind, digits, left]
  dsimp only
  rw [slice_cursor, ok_bind, if_neg (by simpa using some), closing, ← List.singleton_append,
    eat_cursor, ok_bind]
  simp [pure, Except.pure]

theorem parseUnit_reads (variant written : Str) (fuel : Nat) :
    Reads fuel (parseUnit variant written) variant written := by
  intro before rest out _
  rw [parseUnit, advance_cursor]
  rfl

theorem other_tag {tag tag' : Str} (h : ¬ tag <+: tag' ∧ ¬ tag' <+: tag) (rest : Str) :
    ¬ tag <+: tag' ++ rest := by
  intro begins
  rcases List.prefix_or_prefix_of_prefix begins (List.prefix_append tag' rest) with first | second
  · exact h.1 first
  · exact h.2 second

section Branches

variable (fuel : Nat) (before rest out : Str)

theorem parseValue_object :
    parseValue (fuel + 1) (cursor before ("Object \x7b".toList ++ rest)) out =
      parseObject (parseValue fuel) fuel (cursor before ("Object \x7b".toList ++ rest)) out := by
  rw [parseValue, remaining_cursor, ok_bind, if_pos (List.prefix_append _ _)]

theorem parseValue_array :
    parseValue (fuel + 1) (cursor before ("Array [".toList ++ rest)) out =
      parseArray (parseValue fuel) fuel (cursor before ("Array [".toList ++ rest)) out := by
  rw [parseValue, remaining_cursor, ok_bind, if_neg (other_tag (by decide) rest),
    if_pos (List.prefix_append _ _)]

theorem parseValue_string :
    parseValue (fuel + 1) (cursor before ("String(".toList ++ rest)) out =
      parseString fuel (cursor before ("String(".toList ++ rest)) out := by
  rw [parseValue, remaining_cursor, ok_bind, if_neg (other_tag (by decide) rest),
    if_neg (other_tag (by decide) rest), if_pos (List.prefix_append _ _)]

theorem parseValue_number :
    parseValue (fuel + 1) (cursor before ("Number(".toList ++ rest)) out =
      parseNumber fuel (cursor before ("Number(".toList ++ rest)) out := by
  rw [parseValue, remaining_cursor, ok_bind, if_neg (other_tag (by decide) rest),
    if_neg (other_tag (by decide) rest), if_neg (other_tag (by decide) rest),
    if_pos (List.prefix_append _ _)]

theorem parseValue_true :
    parseValue (fuel + 1) (cursor before ("Bool(true)".toList ++ rest)) out =
      parseUnit "Bool(true)".toList "true".toList
        (cursor before ("Bool(true)".toList ++ rest)) out := by
  rw [parseValue, remaining_cursor, ok_bind, if_neg (other_tag (by decide) rest),
    if_neg (other_tag (by decide) rest), if_neg (other_tag (by decide) rest),
    if_neg (other_tag (by decide) rest), if_pos (List.prefix_append _ _)]

theorem parseValue_false :
    parseValue (fuel + 1) (cursor before ("Bool(false)".toList ++ rest)) out =
      parseUnit "Bool(false)".toList "false".toList
        (cursor before ("Bool(false)".toList ++ rest)) out := by
  rw [parseValue, remaining_cursor, ok_bind, if_neg (other_tag (by decide) rest),
    if_neg (other_tag (by decide) rest), if_neg (other_tag (by decide) rest),
    if_neg (other_tag (by decide) rest), if_neg (other_tag (by decide) rest),
    if_pos (List.prefix_append _ _)]

theorem parseValue_null :
    parseValue (fuel + 1) (cursor before ("Null".toList ++ rest)) out =
      parseUnit "Null".toList "null".toList (cursor before ("Null".toList ++ rest)) out := by
  rw [parseValue, remaining_cursor, ok_bind, if_neg (other_tag (by decide) rest),
    if_neg (other_tag (by decide) rest), if_neg (other_tag (by decide) rest),
    if_neg (other_tag (by decide) rest), if_neg (other_tag (by decide) rest),
    if_neg (other_tag (by decide) rest), if_pos (List.prefix_append _ _)]

end Branches

def tags : List Str :=
  ["Null".toList, "Bool".toList, "Number".toList, "String".toList, "Array".toList,
    "Object".toList]

theorem debugText_begins (format : Format) (value : Value) :
    ∃ tag rest, debugText format value = tag ++ rest ∧ tag ∈ tags := by
  cases value with
  | null => exact ⟨"Null".toList, [], rfl, by decide⟩
  | bool b => exact ⟨"Bool".toList, _, rfl, by decide⟩
  | number n => exact ⟨"Number".toList, _, rfl, by decide⟩
  | string s => exact ⟨"String".toList, _, rfl, by decide⟩
  | array items => exact ⟨"Array".toList, _, rfl, by decide⟩
  | object entries => exact ⟨"Object".toList, _, rfl, by decide⟩

theorem reads_of_branch {text written : Str} (branch : Nat → Parse)
    (taken : ∀ fuel before rest out, parseValue (fuel + 1) (cursor before (text ++ rest)) out =
      branch fuel (cursor before (text ++ rest)) out)
    (reads : ∀ fuel, Reads (fuel + 1) (branch fuel) text written) (fuel : Nat) :
    Reads fuel (parseValue fuel) text written := by
  intro before rest out enough
  cases fuel with
  | zero => omega
  | succ fuel => rw [taken, reads fuel before rest out enough]

theorem parseValue_reads (floats : FloatsAreNumbers format) (value : Value) (fuel : Nat) :
    Reads fuel (parseValue fuel) (debugText format value) (jsonText format value) := by
  induction value using Value.induction generalizing fuel with
  | null => exact reads_of_branch _ parseValue_null (fun _ => parseUnit_reads _ _ _) fuel
  | bool b =>
    cases b with
    | true => exact reads_of_branch _ parseValue_true (fun _ => parseUnit_reads _ _ _) fuel
    | false => exact reads_of_branch _ parseValue_false (fun _ => parseUnit_reads _ _ _) fuel
  | number n =>
    refine reads_of_branch _ (fun fuel before rest out => ?_) (parseNumber_reads floats n) fuel
    simp only [debugStyle, List.append_assoc]
    exact parseValue_number fuel before _ out
  | string s =>
    refine reads_of_branch _ (fun fuel before rest out => ?_) (parseString_reads s) fuel
    simp only [debugStyle, List.append_assoc]
    exact parseValue_string fuel before _ out
  | array items ih =>
    refine reads_of_branch (fun fuel => parseArray (parseValue fuel) fuel)
      (fun fuel before rest out => ?_) (fun fuel => ?_) fuel
    · have tag : debugText format (.array items) ++ rest = "Array [".toList ++
          (List.intercalate ", ".toList (renderItems format debugStyle items) ++ ']' :: rest) := by
        simp [debugText, render, debugStyle]
      rw [tag]
      exact parseValue_array fuel before _ out
    · have each : ∀ texts ∈ items.map (fun item => (debugText format item, jsonText format item)),
          Member fuel ']' (parseValue fuel) texts := by
        rw [List.forall_mem_map]
        intro item member
        refine ⟨ih item member fuel, ?_⟩
        obtain ⟨tag, rest, text, known⟩ := debugText_begins format item
        simp only [tags, List.mem_cons, List.not_mem_nil, or_false] at known
        rcases known with rfl | rfl | rfl | rfl | rfl | rfl <;>
        exact ⟨_, _, text, rfl, by decide⟩
      have read := parseMembers_reads rfl rfl (by decide) "Array ".toList '[' _ each
      simpa [debugText, jsonText, render, debugStyle, jsonStyle, renderItems_eq_map,
        Function.comp_def, parseArray] using read
  | object entries ih =>
    refine reads_of_branch (fun fuel => parseObject (parseValue fuel) fuel)
      (fun fuel before rest out => ?_) (fun fuel => ?_) fuel
    · have tag : debugText format (.object entries) ++ rest = "Object \x7b".toList ++
          (List.intercalate ", ".toList (renderEntries format debugStyle entries) ++
            '}' :: rest) := by
        simp [debugText, render, debugStyle]
      rw [tag]
      exact parseValue_object fuel before _ out
    · have each : ∀ texts ∈ entries.map (fun entry =>
          (debugStr format entry.1 ++ ": ".toList ++ debugText format entry.2,
            debugStr format entry.1 ++ ": ".toList ++ jsonText format entry.2)),
          Member fuel '}' (parseEntry (parseValue fuel) fuel) texts := by
        rw [List.forall_mem_map]
        intro entry member
        exact ⟨parseEntry_reads (ih entry member fuel) entry.1, '"', _, rfl, rfl, by decide⟩
      have read := parseMembers_reads rfl rfl (by decide) "Object ".toList '{' _ each
      simpa [debugText, jsonText, render, debugStyle, jsonStyle, renderEntries_eq_map,
        Function.comp_def, parseObject] using read

theorem rewriteJsonDebug_debugText (floats : FloatsAreNumbers format) (value : Value)
    {fuel : Nat} (enough : (debugText format value).length < fuel) :
    rewriteJsonDebug fuel (debugText format value) = .ok (some (jsonText format value)) := by
  have read := parseValue_reads floats value fuel [] [] [] (by simpa using enough)
  simp only [List.append_nil, List.nil_append] at read
  rw [rewriteJsonDebug, new_eq_cursor, read, ok_bind]
  simp [cursor, pure, Except.pure]

/-- The cleaner renders every value: its Debug text in `n` wrappers comes out as its JSON text. -/
theorem cleanDebugValue_debugText (floats : FloatsAreNumbers format) (value : Value) (n : Nat)
    {fuel : Nat} (enough : (wrapped n (debugText format value)).length < fuel) :
    cleanDebugValue fuel (wrapped n (debugText format value)) =
      .ok (.owned (jsonText format value)) := by
  have neutral := neutral_debugText floats value
  have bare : ¬ "Some(".toList <+: debugText format value := by
    obtain ⟨tag, rest, text, known⟩ := debugText_begins format value
    rw [text]
    apply other_tag
    simp only [tags, List.mem_cons, List.not_mem_nil, or_false] at known
    rcases known with rfl | rfl | rfl | rfl | rfl | rfl <;> decide
  have size := length_wrapped n (debugText format value)
  have turns : n < fuel := by omega
  have stripped := stripSomeWrappers_wrapped neutral bare n turns
  rw [cleanDebugValue, stripped, ok_bind, rewriteJsonDebug_debugText floats value (by omega)]
  rfl

/-- The tables on the text of the example: one and a half, and an accent of its own. -/
def sampleFormat : Format where
  isEscaped c := c == '\u0301'
  float x := if x.bits = 0x3FF8000000000000 then "1.5".toList else "0.0".toList

def sampleValue : Value :=
  .object [("a)", .array [.number (.float ⟨0x3FF8000000000000, by decide⟩), .null]),
    ("é", .string "\"(\u0301")]

theorem sample_cleaned :
    cleanDebugValue 100 (wrapped 2 (debugText sampleFormat sampleValue)) =
      .ok (.owned "\x7b\"a)\": [1.5, null], \"é\": \"\\\"(\\u\x7b301\x7d\"\x7d".toList) := by
  have floats : FloatsAreNumbers sampleFormat := by
    intro x
    simp only [sampleFormat]
    split <;> exact ⟨by decide, forall_of_all (by decide)⟩
  have text : jsonText sampleFormat sampleValue =
      "\x7b\"a)\": [1.5, null], \"é\": \"\\\"(\\u\x7b301\x7d\"\x7d".toList := by
    decide
  rw [← text]
  exact cleanDebugValue_debugText floats sampleValue 2 (by decide)

end Polykit.Log.Rewriting
