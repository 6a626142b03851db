/- Module: Polykit/Log/Clean
   generality: I
   source: crates/polylog/src/clean.rs
   digest: The cleaner of Debug texts: Some wrappers stripped, JSON values rewritten. -/

import Mathlib.Tactic
import Polykit.Lib.Utf8
import Polykit.Lib.Fallible

set_option autoImplicit false
set_option relaxedAutoImplicit false

namespace Polykit.Log.Clean

open Polykit.Lib.Utf8
open Polykit.Lib.Fallible

/-- A text as its characters; offsets into it count bytes. -/
abbrev Str := List Char

/-- What ends a run without a result: a failed check of the language, or too little fuel. -/
inductive Halt
  | panic
  | outOfFuel
  deriving DecidableEq

inductive Cow
  | borrowed (s : Str)
  | owned (s : Str)
  deriving DecidableEq

def Cow.text : Cow → Str
  | .borrowed s => s
  | .owned s => s

/-- `a - b`, which panics when it would go below zero. -/
def checkedSub (a b : Nat) : Except Halt Nat := if b ≤ a then .ok (a - b) else .error .panic

/-- `&s[n..]`. -/
def sliceFrom (s : Str) (n : Nat) : Except Halt Str := (dropBytes s n).elim (.error .panic) .ok

/-- `&s[..n]`. -/
def sliceTo (s : Str) (n : Nat) : Except Halt Str := (takeBytes s n).elim (.error .panic) .ok

/-- `&s[start..stop]`. -/
def slice (s : Str) (start stop : Nat) : Except Halt Str := do
  let length ← checkedSub stop start
  let rest ← sliceFrom s start
  sliceTo rest length

/-! Some wrappers. -/

mutual

/-- The outer loop, over the characters from byte `i` on. -/
def scan : Str → Nat → Nat → Except Halt (Option Nat)
  | [], _, _ => .ok none
  | c :: chars, i, depth =>
      if c = '"' then skipLiteral chars (i + c.utf8Size) depth
      else if c = '(' then scan chars (i + c.utf8Size) (depth + 1)
      else if c = ')' then do
        let depth ← checkedSub depth 1
        if depth = 0 then return some i else scan chars (i + c.utf8Size) depth
      else scan chars (i + c.utf8Size) depth

/-- The inner loop, and after the closing quote the outer one again. -/
def skipLiteral : Str → Nat → Nat → Except Halt (Option Nat)
  | [], _, _ => .ok none
  | c :: chars, i, depth =>
      if c = '\\' then
        match chars with
        | [] => .ok none
        | escaped :: chars => skipLiteral chars (i + c.utf8Size + escaped.utf8Size) depth
      else if c = '"' then scan chars (i + c.utf8Size) depth
      else skipLiteral chars (i + c.utf8Size) depth

end

def findMatchingCloseParen (s : Str) : Except Halt (Option Nat) := scan s 0 1

def stripPrefix (s pre : Str) : Option Str := if pre <+: s then some (s.drop pre.length) else none

def tryStripSome (s : Str) : Except Halt (Option Str) :=
  match stripPrefix s "Some(".toList with
  | none => return none
  | some inner => do
      match ← findMatchingCloseParen inner with
      | none => return none
      | some close => do
          let last ← checkedSub (byteLen inner) 1
          if close = last then return some (← sliceTo inner close) else return none

def stripSomeWrappers : Nat → Str → Except Halt Str
  | 0, _ => .error .outOfFuel
  | fuel + 1, current => do
      match ← tryStripSome current with
      | some inner => stripSomeWrappers fuel inner
      | none => return current

/-! JSON values. -/

structure JsonDebugParser where
  input : Str
  pos : Nat
  deriving DecidableEq

namespace JsonDebugParser

def new (input : Str) : JsonDebugParser := ⟨input, 0⟩

def remaining (p : JsonDebugParser) : Except Halt Str := sliceFrom p.input p.pos

def peek (p : JsonDebugParser) : Except Halt (Option Char) := do return (← p.remaining).head?

def advance (p : JsonDebugParser) (n : Nat) : JsonDebugParser := { p with pos := p.pos + n }

def eat (p : JsonDebugParser) (s : Str) : Except Halt (Bool × JsonDebugParser) := do
  if s <+: (← p.remaining) then return (true, p.advance (byteLen s)) else return (false, p)

end JsonDebugParser

/-- `char::is_ascii_whitespace`. -/
def isAsciiWhitespace (c : Char) : Bool :=
  c == ' ' || c == '\t' || c == '\n' || c == '\x0C' || c == '\r'

/-- A loop that looks at the next character, and advances while it passes a test. -/
def advanceWhile (test : Char → Bool) (step : Char → Nat) :
    Nat → JsonDebugParser → Except Halt JsonDebugParser
  | 0, _ => .error .outOfFuel
  | fuel + 1, p => do
      match ← p.peek with
      | some c => if test c then advanceWhile test step fuel (p.advance (step c)) else return p
      | none => return p

def skipWs : Nat → JsonDebugParser → Except Halt JsonDebugParser :=
  advanceWhile isAsciiWhitespace (fun _ => 1)

/-- The loop over the characters of a number: up to the next closing parenthesis. -/
def skipNumber : Nat → JsonDebugParser → Except Halt JsonDebugParser :=
  advanceWhile (fun c => c != ')') Char.utf8Size

/-- A method that may append to `out` and says whether it has read what it is for. -/
abbrev Parse := JsonDebugParser → Str → Except Halt (Bool × JsonDebugParser × Str)

def literalLoop : Nat → Parse
  | 0, _, _ => .error .outOfFuel
  | fuel + 1, p, out => do
      match ← p.peek with
      | none => return (false, p, out)
      | some '"' => return (true, p.advance 1, out ++ ['"'])
      | some '\\' => do
          let p := p.advance 1
          match ← p.peek with
          | some c => literalLoop fuel (p.advance c.utf8Size) (out ++ ['\\', c])
          | none => return (false, p, out ++ ['\\'])
      | some c => literalLoop fuel (p.advance c.utf8Size) (out ++ [c])

def parseRustString (fuel : Nat) : Parse := fun p out => do
  if (← p.peek) ≠ some '"' then return (false, p, out)
  literalLoop fuel (p.advance 1) (out ++ ['"'])

/-- What stands before a member: a comma, except before the first one. -/
def eatSeparator (first : Bool) (p : JsonDebugParser) : Except Halt (Bool × JsonDebugParser) :=
  if first then .ok (true, p) else p.eat ", ".toList

def memberLoop (closing : Char) (member : Parse) : Nat → Bool → Parse
  | 0, _, _, _ => .error .outOfFuel
  | fuel + 1, first, p, out => do
      let (separated, p) ← eatSeparator first p
      if !separated then return (false, p, out)
      let out := if first then out else out ++ ", ".toList
      let (read, p, out) ← member p out
      if !read then return (false, p, out)
      let p ← skipWs fuel p
      if (← p.peek) = some closing then return (true, p.advance 1, out ++ [closing])
      memberLoop closing member fuel false p out

/-- What `parse_object` and `parse_array` share: the tag, the brackets and the loop. -/
def parseMembers (tag : Str) (opening closing : Char) (member : Parse) (fuel : Nat) : Parse :=
  fun p out => do
    let (opened, p) ← (p.advance (byteLen tag)).eat [opening]
    if !opened then return (false, p, out)
    let out := out ++ [opening]
    let p ← skipWs fuel p
    if (← p.peek) = some closing then return (true, p.advance 1, out ++ [closing])
    memberLoop closing member fuel true p out

def parseEntry (parseValue : Parse) (fuel : Nat) : Parse := fun p out => do
  let (read, p, out) ← parseRustString fuel p out
  if !read then return (false, p, out)
  let (colon, p) ← p.eat ": ".toList
  if !colon then return (false, p, out)
  parseValue p (out ++ ": ".toList)

def parseObject (parseValue : Parse) (fuel : Nat) : Parse :=
  parseMembers "Object ".toList '{' '}' (parseEntry parseValue fuel) fuel

def parseArray (parseValue : Parse) (fuel : Nat) : Parse :=
  parseMembers "Array ".toList '[' ']' parseValue fuel

def parseString (fuel : Nat) : Parse := fun p out => do
  let (read, p, out) ← parseRustString fuel (p.advance (byteLen "String(".toList)) out
  if !read then return (false, p, out)
  let (closed, p) ← p.eat ")".toList
  return (closed, p, out)

def parseNumber (fuel : Nat) : Parse := fun p out => do
  let p := p.advance (byteLen "Number(".toList)
  let start := p.pos
  let p ← skipNumber fuel p
  let num ← slice p.input start p.pos
  if num.isEmpty then return (false, p, out)
  let (closed, p) ← p.eat ")".toList
  return (closed, p, out ++ num)

/-- A variant without data, printed as `text`. -/
def parseUnit (variant text : Str) : Parse := fun p out =>
  return (true, p.advance (byteLen variant), out ++ text)

def parseValue : Nat → Parse
  | 0, _, _ => .error .outOfFuel
  | fuel + 1, p, out => do
      let rem ← p.remaining
      if "Object \x7b".toList <+: rem then parseObject (parseValue fuel) fuel p out
      else if "Array [".toList <+: rem then parseArray (parseValue fuel) fuel p out
      else if "String(".toList <+: rem then parseString fuel p out
      else if "Number(".toList <+: rem then parseNumber fuel p out
      else if "Bool(true)".toList <+: rem then parseUnit "Bool(true)".toList "true".toList p out
      else if "Bool(false)".toList <+: rem then
        parseUnit "Bool(false)".toList "false".toList p out
      else if "Null".toList <+: rem then parseUnit "Null".toList "null".toList p out
      else return (false, p, out)

def rewriteJsonDebug (fuel : Nat) (s : Str) : Except Halt (Option Str) := do
  let (read, p, out) ← parseValue fuel (JsonDebugParser.new s) []
  if read ∧ p.pos = byteLen s then return some out else return none

/-- Every loop and every level of the recursion takes one unit of fuel a turn. -/
def cleanDebugValue (fuel : Nat) (s : Str) : Except Halt Cow := do
  let stripped ← stripSomeWrappers fuel s
  match ← rewriteJsonDebug fuel stripped with
  | some rewritten => return .owned rewritten
  | none => if byteLen stripped ≠ byteLen s then return .owned stripped else return .borrowed s

/-! A parser between two characters, and its operations there. -/

/-- The parser of `before ++ rest` that has read `before`. -/
def cursor (before rest : Str) : JsonDebugParser := ⟨before ++ rest, byteLen before⟩

variable (before front rest : Str)

theorem new_eq_cursor : JsonDebugParser.new rest = cursor [] rest := rfl

@[simp] theorem remaining_cursor : (cursor before rest).remaining = .ok rest := by
  simp [JsonDebugParser.remaining, cursor, sliceFrom]

@[simp] theorem peek_cursor : (cursor before rest).peek = .ok rest.head? := by
  simp [JsonDebugParser.peek, pure, Except.pure]

@[simp] theorem advance_cursor :
    (cursor before (front ++ rest)).advance (byteLen front) = cursor (before ++ front) rest := by
  simp [JsonDebugParser.advance, cursor]

@[simp] theorem advance_char (c : Char) :
    (cursor before (c :: rest)).advance c.utf8Size = cursor (before ++ [c]) rest := by
  simp [JsonDebugParser.advance, cursor]

theorem advance_one {c : Char} (size : c.utf8Size = 1) :
    (cursor before (c :: rest)).advance 1 = cursor (before ++ [c]) rest := by
  rw [← size, advance_char]

@[simp] theorem eat_cursor :
    (cursor before (front ++ rest)).eat front = .ok (true, cursor (before ++ front) rest) := by
  simp [JsonDebugParser.eat, pure, Except.pure]

theorem eat_missing (h : ¬ front <+: rest) :
    (cursor before rest).eat front = .ok (false, cursor before rest) := by
  simp [JsonDebugParser.eat, h, pure, Except.pure]

theorem utf8Size_of_isAsciiWhitespace {c : Char} (h : isAsciiWhitespace c = true) :
    c.utf8Size = 1 := by
  simp only [isAsciiWhitespace, Bool.or_eq_true, beq_iff_eq] at h
  rcases h with (((rfl | rfl) | rfl) | rfl) | rfl <;> rfl

theorem advanceWhile_cursor {test : Char → Bool} {step : Char → Nat}
    (width : ∀ c, test c = true → step c = c.utf8Size) {fuel : Nat}
    (enough : rest.length < fuel) :
    advanceWhile test step fuel (cursor before rest) =
      .ok (cursor (before ++ rest.takeWhile test) (rest.dropWhile test)) := by
  induction fuel generalizing before rest with
  | zero => omega
  | succ fuel ih =>
    rw [advanceWhile, peek_cursor, ok_bind]
    cases rest with
    | nil => simp [pure, Except.pure]
    | cons c rest =>
      simp only [List.head?_cons]
      split
      · rename_i passes
        have fewer : rest.length < fuel := by simpa using enough
        rw [width c passes, advance_char, ih (before ++ [c]) rest fewer]
        simp [passes]
      · rename_i stops
        simp [stops, pure, Except.pure]

theorem skipWs_cursor {fuel : Nat} (enough : rest.length < fuel) :
    skipWs fuel (cursor before rest) = .ok (cursor (before ++ rest.takeWhile isAsciiWhitespace)
      (rest.dropWhile isAsciiWhitespace)) :=
  advanceWhile_cursor before rest (fun _ blank => (utf8Size_of_isAsciiWhitespace blank).symm)
    enough

theorem skipNumber_cursor {fuel : Nat} (enough : rest.length < fuel) :
    skipNumber fuel (cursor before rest) = .ok (cursor
      (before ++ rest.takeWhile (fun c => c != ')')) (rest.dropWhile (fun c => c != ')'))) :=
  advanceWhile_cursor before rest (fun _ _ => rfl) enough

end Polykit.Log.Clean
