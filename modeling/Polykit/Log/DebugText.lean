/- Module: Polykit/Log/DebugText
   generality: I
   source: crates/polylog/src/clean.rs
   digest: The compact Debug text of a JSON value, and the JSON-like text of the same value. -/

import Mathlib.Tactic
import Polykit.Json
import Polykit.Log.Clean

set_option autoImplicit false
set_option relaxedAutoImplicit false

namespace Polykit.Log.DebugText

open Polykit.Json
open Polykit.Log.Clean (Str)

/-- What the language's tables and the serializer decide about a Debug text. -/
structure Format where
  /-- The characters beyond the common ones that are written by their number. -/
  isEscaped : Char → Bool
  float : FiniteF64 → Str

/-- `char::escape_debug_ext`, as it is called for the characters of a string. -/
def escapeDebug (format : Format) (c : Char) : Str :=
  if c = '\x00' then ['\\', '0']
  else if c = '\t' then ['\\', 't']
  else if c = '\r' then ['\\', 'r']
  else if c = '\n' then ['\\', 'n']
  else if c = '\\' ∨ c = '"' then ['\\', c]
  else if format.isEscaped c then
    '\\' :: 'u' :: '{' :: Nat.toDigits 16 c.toNat ++ ['}']
  else [c]

def escapeStr (format : Format) (s : String) : Str := s.toList.flatMap (escapeDebug format)

def debugStr (format : Format) (s : String) : Str := '"' :: escapeStr format s ++ ['"']

def displayNumber (format : Format) : Number → Str
  | .posInt n => Nat.toDigits 10 n.toNat
  | .negInt n _ => '-' :: Nat.toDigits 10 n.toInt.natAbs
  | .float x => format.float x

/-- What two texts of a value differ in: the tags of the variants. -/
structure Style where
  null : Str
  bool : Bool → Str
  number : Str → Str
  string : Str → Str
  arrayTag : Str
  objectTag : Str

def boolStr (b : Bool) : Str := if b then "true".toList else "false".toList

def debugStyle : Style where
  null := "Null".toList
  bool b := "Bool(".toList ++ boolStr b ++ [')']
  number digits := "Number(".toList ++ digits ++ [')']
  string literal := "String(".toList ++ literal ++ [')']
  arrayTag := "Array ".toList
  objectTag := "Object ".toList

def jsonStyle : Style where
  null := "null".toList
  bool := boolStr
  number digits := digits
  string literal := literal
  arrayTag := []
  objectTag := []

mutual

def render (format : Format) (style : Style) : Value → Str
  | .null => style.null
  | .bool b => style.bool b
  | .number n => style.number (displayNumber format n)
  | .string s => style.string (debugStr format s)
  | .array items =>
      style.arrayTag ++ '[' ::
        List.intercalate ", ".toList (renderItems format style items) ++ [']']
  | .object entries =>
      style.objectTag ++ '{' ::
        List.intercalate ", ".toList (renderEntries format style entries) ++ ['}']

def renderItems (format : Format) (style : Style) : List Value → List Str
  | [] => []
  | item :: items => render format style item :: renderItems format style items

def renderEntries (format : Format) (style : Style) : List (String × Value) → List Str
  | [] => []
  | (key, value) :: entries =>
      (debugStr format key ++ ": ".toList ++ render format style value) ::
        renderEntries format style entries

end

def debugText (format : Format) : Value → Str := render format debugStyle

def jsonText (format : Format) : Value → Str := render format jsonStyle

theorem renderItems_eq_map (format : Format) (style : Style) (items : List Value) :
    renderItems format style items = items.map (render format style) := by
  induction items with
  | nil => rfl
  | cons item items ih => rw [renderItems, ih, List.map_cons]

theorem renderEntries_eq_map (format : Format) (style : Style) (entries : List (String × Value)) :
    renderEntries format style entries = entries.map (fun entry =>
      debugStr format entry.1 ++ ": ".toList ++ render format style entry.2) := by
  induction entries with
  | nil => rfl
  | cons entry entries ih => rw [renderEntries, ih, List.map_cons]

theorem exists_digitChar {b n : Nat} (base : 1 < b) {c : Char} (h : c ∈ Nat.toDigits b n) :
    ∃ d : Nat, c = d.digitChar := by
  induction n using Nat.strong_induction_on with
  | _ n ih =>
    rw [Nat.toDigits_eq_if base] at h
    split at h
    · exact ⟨n, List.mem_singleton.mp h⟩
    · rcases List.mem_append.mp h with front | last
      · have smaller : n / b < n := Nat.div_lt_self (by omega) base
        exact ih (n / b) smaller front
      · exact ⟨n % b, List.mem_singleton.mp last⟩

theorem newline_escapeDebug (format : Format) (c : Char) : '\n' ∉ escapeDebug format c := by
  unfold escapeDebug
  split
  · decide
  split
  · decide
  split
  · decide
  split
  · decide
  · rename_i other
    split
    · simp [Ne.symm other]
    split
    · have digits : '\n' ∉ Nat.toDigits 16 c.toNat := by
        intro member
        obtain ⟨d, same⟩ := exists_digitChar (by decide) member
        exact Nat.digitChar_ne '\n' rfl same.symm
      simp [digits]
    · simp [Ne.symm other]

theorem newline_debugStr (format : Format) (s : String) : '\n' ∉ debugStr format s := by
  simp only [debugStr, escapeStr, List.mem_append, List.mem_cons, List.mem_flatMap,
    List.not_mem_nil, or_false]
  rintro ((no | ⟨c, _, there⟩) | no)
  · cases no
  · exact newline_escapeDebug format c there
  · cases no

end Polykit.Log.DebugText
