/- Module: Polykit/Icons/Generated
   generality: I
   source: crates/polysym-build/src/lib.rs
   digest: The source generated for a list of symbols, and the functions it declares. -/

import Mathlib.Tactic
import Polykit.Log.DebugText

set_option autoImplicit false
set_option relaxedAutoImplicit false

namespace Polykit.Icons

open Polykit.Log.Clean (Str)
open Polykit.Log.DebugText (Format debugStr newline_debugStr)

structure SymbolSpec where
  name : String

inductive SymbolResolution
  | sf
  | cached
  | lucide
  | missing
  deriving DecidableEq

/-- The Debug text of a displayed path, which is one line. -/
structure PathText where
  debug : String → Str
  oneLine : ∀ path, '\n' ∉ debug path

/-- `Path::join`. -/
def joinPath (dir file : String) : String :=
  if dir = "" ∨ dir.toList.getLast? = some '/' then dir ++ file else dir ++ "/" ++ file

def symbolToMethodName (name : String) : Str :=
  name.toList.map (fun c => if c = '.' ∨ c = '-' then '_' else c)

section Source

variable (format : Format) (paths : PathText) (symbolDir : String)

def symbolLines (spec : SymbolSpec) : List Str :=
  let method := symbolToMethodName spec.name
  let lightPath := joinPath symbolDir (spec.name ++ ".light.png")
  let darkPath := joinPath symbolDir (spec.name ++ ".dark.png")
  let svgPath := joinPath symbolDir (spec.name ++ ".svg")
  ["    pub fn ".toList ++ method ++ "() -> ::polysym::SfImage \x7b".toList,
    "        ::polysym::SfImage::new(".toList,
    "            include_bytes!(".toList ++ paths.debug lightPath ++ "),".toList,
    "            include_bytes!(".toList ++ paths.debug darkPath ++ "),".toList,
    "        )".toList,
    "    \x7d".toList,
    [],
    "    /// SVG for `".toList ++ spec.name.toList ++
      "` with `currentColor` fill — style via CSS `color`.".toList,
    "    pub fn ".toList ++ method ++ "_svg() -> &'static str \x7b".toList,
    "        include_str!(".toList ++ paths.debug svgPath ++ ")".toList,
    "    \x7d".toList,
    []]

/-- An arm of a lookup: the name, and the call of a function of the symbol. -/
def lookupArm (suffix : Str) (spec : SymbolSpec) : Str :=
  "            ".toList ++ debugStr format spec.name ++ " => Some(Self::".toList ++
    symbolToMethodName spec.name ++ suffix ++ "()),".toList

def lookupLines (resolved : List SymbolSpec) : List Str :=
  ["    /// Look up a symbol's PNG pair by SF Symbol name (e.g. `\"trash\"`).".toList,
    "/// Returns `None` if the name was not included in the build manifest".toList,
    "/// or had no available asset (sfsym, cache, or Lucide).".toList,
    "pub fn get(name: &str) -> Option<::polysym::SfImage> \x7b".toList,
    "match name \x7b".toList] ++
  resolved.map (lookupArm format []) ++
  ["            _ => None,".toList, "        \x7d".toList, "    \x7d".toList, []]

def svgLookupLines (resolved : List SymbolSpec) : List Str :=
  ["    /// Look up a symbol's SVG string by SF Symbol name (e.g. `\"trash\"`).".toList,
    "/// Returns `None` if the name was not included in the build manifest".toList,
    "/// or had no available asset (sfsym, cache, or Lucide).".toList,
    "/// The SVG uses `currentColor` fill — set the CSS `color` property to tint it.".toList,
    "pub fn get_svg(name: &str) -> Option<&'static str> \x7b".toList,
    "match name \x7b".toList] ++
  resolved.map (lookupArm format "_svg".toList) ++
  ["            _ => None,".toList, "        \x7d".toList, "    \x7d".toList]

def resolvedSpecs (resolutions : List (SymbolSpec × SymbolResolution)) : List SymbolSpec :=
  resolutions.filterMap (fun (spec, res) => if res = .missing then none else some spec)

def headerLines : List Str :=
  ["// Auto-generated by polysym-build. Do not edit.".toList,
    "#[allow(dead_code)]".toList,
    "pub struct SfIcons;".toList,
    [],
    "#[allow(dead_code)]".toList,
    "impl SfIcons \x7b".toList]

def generatedLines (resolutions : List (SymbolSpec × SymbolResolution)) : List Str :=
  let resolved := resolvedSpecs resolutions
  headerLines ++ resolved.flatMap (symbolLines paths symbolDir) ++
    lookupLines format resolved ++ svgLookupLines format resolved ++ ["\x7d".toList]

def buildGeneratedSource (resolutions : List (SymbolSpec × SymbolResolution)) : Str :=
  (generatedLines format paths symbolDir resolutions).flatMap (fun line => line ++ ['\n'])

end Source

/-! What a compiler finds declared. -/

def declaredFn (line : Str) : Option Str :=
  let code := line.dropWhile (· == ' ')
  if "pub fn ".toList.isPrefixOf code then some ((code.drop 7).takeWhile (· != '(')) else none

def declaredFns (source : Str) : List Str := (source.splitOn '\n').filterMap declaredFn

/-- The keywords of the language, those that are only reserved included. -/
def keywords : List String :=
  ["as", "break", "const", "continue", "crate", "else", "enum", "extern", "false", "fn", "for",
    "if", "impl", "in", "let", "loop", "match", "mod", "move", "mut", "pub", "ref", "return",
    "self", "Self", "static", "struct", "super", "trait", "true", "type", "unsafe", "use",
    "where", "while", "async", "await", "dyn", "abstract", "become", "box", "do", "final",
    "gen", "macro", "override", "priv", "try", "typeof", "unsized", "virtual", "yield"]

/-- A word of letters, digits and underscores that does not begin with a digit, and is not a
single underscore. -/
def isIdentifier (word : Str) : Bool :=
  match word with
  | [] => false
  | c :: rest =>
      (c.isAlpha || c == '_') && rest.all (fun c => c.isAlphanum || c == '_') && word != ['_']

/-- The declared names can stand together in one block. -/
structure Compiles (declared : List Str) : Prop where
  distinct : declared.Nodup
  identifiers : ∀ name ∈ declared, isIdentifier name = true
  words : ∀ name ∈ declared, name ∉ keywords.map String.toList

/-! The functions that the generated source declares. -/

structure IsSymbolName (name : String) : Prop where
  some : name.toList ≠ []
  chars : ∀ c ∈ name.toList, c.isAlphanum = true ∨ c = '.' ∨ c = '-'

theorem method_chars {name : String} (h : IsSymbolName name) {c : Char}
    (member : c ∈ symbolToMethodName name) : c.isAlphanum = true ∨ c = '_' := by
  obtain ⟨d, among, rfl⟩ := List.mem_map.mp member
  split
  · exact .inr rfl
  · rename_i other
    rcases h.chars d among with word | separator
    · exact .inl word
    · exact absurd separator other

theorem splitOn_lines {lines : List Str} (h : ∀ line ∈ lines, '\n' ∉ line) :
    (lines.flatMap (fun line => line ++ ['\n'])).splitOn '\n' = lines ++ [[]] := by
  have joined : lines.flatMap (fun line => line ++ ['\n']) =
      ['\n'].intercalate (lines ++ [[]]) := by
    induction lines with
    | nil => rfl
    | cons line lines ih =>
      rw [List.forall_mem_cons] at h
      rw [List.flatMap_cons, ih h.2, List.cons_append]
      exact (List.intercalate_cons_of_ne_nil (by simp)).symm
  rw [joined]
  apply List.splitOn_intercalate
  · simp only [List.mem_append, List.mem_singleton]
    rintro line (member | rfl)
    · exact h line member
    · exact List.not_mem_nil
  · simp

theorem declaredFn_of_first {line : Str} {c : Char}
    (first : (line.dropWhile (· == ' ')).head? = some c) (h : c ≠ 'p') :
    declaredFn line = none := by
  obtain ⟨rest, code⟩ := List.head?_eq_some_iff.mp first
  have tag : "pub fn ".toList = 'p' :: "ub fn ".toList := rfl
  simp [declaredFn, code, tag, Ne.symm h]

theorem declaredFn_fn {name : Str} (h : '(' ∉ name) (blanks : Nat) (rest : Str) :
    declaredFn (List.replicate blanks ' ' ++ ("pub fn ".toList ++ (name ++ '(' :: rest))) =
      some name := by
  have code : (List.replicate blanks ' ' ++ ("pub fn ".toList ++ (name ++ '(' :: rest))).dropWhile
      (· == ' ') = "pub fn ".toList ++ (name ++ '(' :: rest) := by
    rw [List.dropWhile_append_of_pos (by simp)]
    rfl
  have passes : ∀ c ∈ name, (c != '(') = true := fun c member => by
    simpa using fun same : c = '(' => h (same ▸ member)
  have behind : ("pub fn ".toList ++ (name ++ '(' :: rest)).drop 7 = name ++ '(' :: rest := rfl
  have begins : "pub fn ".toList.isPrefixOf ("pub fn ".toList ++ (name ++ '(' :: rest)) = true :=
    List.isPrefixOf_iff_prefix.mpr (List.prefix_append _ _)
  simp only [declaredFn, code, begins, if_true, behind]
  rw [List.takeWhile_append_of_pos passes]
  simp

section Declared

variable (format : Format) (paths : PathText) (symbolDir : String)

theorem declared_symbolLines {spec : SymbolSpec} (h : IsSymbolName spec.name) :
    (symbolLines paths symbolDir spec).filterMap declaredFn =
      [symbolToMethodName spec.name, symbolToMethodName spec.name ++ "_svg".toList] := by
  have open' : '(' ∉ symbolToMethodName spec.name := fun member => by
    rcases method_chars h member with word | underscore
    · exact absurd word (by decide)
    · cases underscore
  have openSvg : '(' ∉ symbolToMethodName spec.name ++ "_svg".toList := by
    rw [List.mem_append, not_or]
    exact ⟨open', by decide⟩
  have png : declaredFn ("    pub fn ".toList ++ symbolToMethodName spec.name ++
      "() -> ::polysym::SfImage \x7b".toList) = some (symbolToMethodName spec.name) :=
    declaredFn_fn open' 4 _
  have svg : declaredFn ("    pub fn ".toList ++ symbolToMethodName spec.name ++
      "_svg() -> &'static str \x7b".toList) =
        some (symbolToMethodName spec.name ++ "_svg".toList) := by
    have split : "_svg() -> &'static str \x7b".toList =
        "_svg".toList ++ "() -> &'static str \x7b".toList := rfl
    rw [split, ← List.append_assoc, List.append_assoc "    pub fn ".toList]
    exact declaredFn_fn openSvg 4 _
  have bytes : ∀ path, declaredFn ("            include_bytes!(".toList ++ paths.debug path ++
      "),".toList) = none := fun _ => declaredFn_of_first rfl (by decide : 'i' ≠ 'p')
  have text : ∀ path, declaredFn ("        include_str!(".toList ++ paths.debug path ++
      ")".toList) = none := fun _ => declaredFn_of_first rfl (by decide : 'i' ≠ 'p')
  have doc : declaredFn ("    /// SVG for `".toList ++ spec.name.toList ++
      "` with `currentColor` fill — style via CSS `color`.".toList) = none :=
    declaredFn_of_first rfl (by decide : '/' ≠ 'p')
  have new : declaredFn "        ::polysym::SfImage::new(".toList = none := rfl
  have parenthesis : declaredFn "        )".toList = none := rfl
  have brace : declaredFn "    \x7d".toList = none := rfl
  have empty : declaredFn [] = none := rfl
  simp only [symbolLines, List.filterMap_cons, List.filterMap_nil, png, svg, bytes, text, doc,
    new, parenthesis, brace, empty]

theorem declared_lookupArm (suffix : Str) (spec : SymbolSpec) :
    declaredFn (lookupArm format suffix spec) = none :=
  declaredFn_of_first rfl (by decide : '"' ≠ 'p')

theorem declared_arms (suffix : Str) (resolved : List SymbolSpec) :
    (resolved.map (lookupArm format suffix)).filterMap declaredFn = [] := by
  rw [List.filterMap_eq_nil_iff, List.forall_mem_map]
  exact fun spec _ => declared_lookupArm format suffix spec

theorem declared_lookupLines (resolved : List SymbolSpec) :
    (lookupLines format resolved).filterMap declaredFn = ["get".toList] := by
  rw [lookupLines, List.filterMap_append, List.filterMap_append, declared_arms]
  repeat rw [String.toList_ofList]
  rfl

theorem declared_svgLookupLines (resolved : List SymbolSpec) :
    (svgLookupLines format resolved).filterMap declaredFn = ["get_svg".toList] := by
  rw [svgLookupLines, List.filterMap_append, List.filterMap_append, declared_arms]
  repeat rw [String.toList_ofList]
  rfl

variable {resolutions : List (SymbolSpec × SymbolResolution)}

def methodNames (names : List String) : List Str :=
  names.flatMap (fun name => [symbolToMethodName name, symbolToMethodName name ++ "_svg".toList]) ++
    ["get".toList, "get_svg".toList]

def resolvedNames (resolutions : List (SymbolSpec × SymbolResolution)) : List String :=
  (resolvedSpecs resolutions).map SymbolSpec.name

theorem declared_generatedLines (h : ∀ name ∈ resolvedNames resolutions, IsSymbolName name) :
    (generatedLines format paths symbolDir resolutions).filterMap declaredFn =
      methodNames (resolvedNames resolutions) := by
  have each : ∀ specs : List SymbolSpec, (∀ spec ∈ specs, IsSymbolName spec.name) →
      (specs.flatMap (symbolLines paths symbolDir)).filterMap declaredFn =
        specs.flatMap (fun spec => [symbolToMethodName spec.name,
          symbolToMethodName spec.name ++ "_svg".toList]) := by
    intro specs names
    rw [List.filterMap_flatMap]
    exact List.flatMap_congr fun spec member =>
      declared_symbolLines paths symbolDir (names spec member)
  have header : headerLines.filterMap declaredFn = [] := by
    rw [headerLines]
    repeat rw [String.toList_ofList]
    rfl
  have brace : ["\x7d".toList].filterMap declaredFn = [] := rfl
  rw [resolvedNames, List.forall_mem_map] at h
  simp only [generatedLines, List.filterMap_append, header, brace, each _ h,
    declared_lookupLines, declared_svgLookupLines, methodNames, resolvedNames, List.flatMap_map,
    List.nil_append, List.append_nil, List.append_assoc, List.singleton_append]

/-! Lines. -/

theorem newline_append {s t : Str} (first : '\n' ∉ s) (second : '\n' ∉ t) : '\n' ∉ s ++ t := by
  rw [List.mem_append, not_or]
  exact ⟨first, second⟩

theorem newline_method {name : String} (h : IsSymbolName name) :
    '\n' ∉ symbolToMethodName name := by
  intro member
  rcases method_chars h member with word | underscore
  · exact absurd word (by decide)
  · cases underscore

theorem newline_symbolLines {spec : SymbolSpec} (h : IsSymbolName spec.name) :
    ∀ line ∈ symbolLines paths symbolDir spec, '\n' ∉ line := by
  have name : '\n' ∉ spec.name.toList := fun member => by
    rcases h.chars _ member with word | dot | hyphen
    · exact absurd word (by decide)
    · cases dot
    · cases hyphen
  have method := newline_method h
  simp only [symbolLines, List.forall_mem_cons, List.mem_append, not_or, method, name,
    paths.oneLine, not_false_eq_true, and_true]
  repeat rw [String.toList_ofList]
  decide

theorem newline_lookupArm {suffix : Str} (short : '\n' ∉ suffix) {spec : SymbolSpec}
    (h : IsSymbolName spec.name) : '\n' ∉ lookupArm format suffix spec := by
  have front : '\n' ∉ "            ".toList := by decide
  have middle : '\n' ∉ " => Some(Self::".toList := by decide
  have back : '\n' ∉ "()),".toList := by decide
  have named := newline_append front (newline_debugStr format spec.name)
  have called := newline_append (newline_append named middle) (newline_method h)
  exact newline_append (newline_append called short) back

theorem newline_generatedLines (h : ∀ name ∈ resolvedNames resolutions, IsSymbolName name) :
    ∀ line ∈ generatedLines format paths symbolDir resolutions, '\n' ∉ line := by
  rw [resolvedNames, List.forall_mem_map] at h
  have header : ∀ line ∈ headerLines, '\n' ∉ line := by
    rw [headerLines]
    repeat rw [String.toList_ofList]
    decide
  have arms : ∀ suffix, '\n' ∉ suffix →
      ∀ line ∈ (resolvedSpecs resolutions).map (lookupArm format suffix), '\n' ∉ line := by
    intro suffix short
    rw [List.forall_mem_map]
    exact fun spec member => newline_lookupArm format short (h spec member)
  have symbols : ∀ line ∈ (resolvedSpecs resolutions).flatMap (symbolLines paths symbolDir),
      '\n' ∉ line := by
    intro line member
    obtain ⟨spec, among, there⟩ := List.mem_flatMap.mp member
    exact newline_symbolLines paths symbolDir (h spec among) line there
  simp only [generatedLines, lookupLines, svgLookupLines, List.forall_mem_append]
  refine ⟨⟨⟨⟨header, symbols⟩, ⟨?_, arms _ (by decide)⟩, ?_⟩, ⟨?_, arms _ (by decide)⟩, ?_⟩, ?_⟩ <;>
  · repeat rw [String.toList_ofList]
    decide

theorem declaredFns_generated (h : ∀ name ∈ resolvedNames resolutions, IsSymbolName name) :
    declaredFns (buildGeneratedSource format paths symbolDir resolutions) =
      methodNames (resolvedNames resolutions) := by
  rw [declaredFns, buildGeneratedSource,
    splitOn_lines (newline_generatedLines format paths symbolDir h), List.filterMap_append,
    declared_generatedLines format paths symbolDir h]
  exact List.append_nil _

end Declared

end Polykit.Icons
