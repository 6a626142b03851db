/- Module: Polykit/Icons/Names
   generality: I
   source: crates/polysym-build/src/lib.rs
   digest: The lists of symbol names for which the generated declarations can stand together. -/

import Mathlib.Tactic
import Polykit.Icons.Generated

set_option autoImplicit false
set_option relaxedAutoImplicit false

namespace Polykit.Icons

open Polykit.Lib.Utf8
open Polykit.Log.Clean (Str)
open Polykit.Log.DebugText (Format debugStr newline_debugStr)

/-- A name with its hyphens read as dots: what is left of it in a method name. -/
def dotted (name : String) : Str := name.toList.map (fun c => if c = '-' then '.' else c)

def underscored (s : Str) : Str := s.map (fun c => if c = '.' then '_' else c)

theorem symbolToMethodName_eq (name : String) :
    symbolToMethodName name = underscored (dotted name) := by
  rw [symbolToMethodName, underscored, dotted, List.map_map]
  apply List.map_congr_left
  intro c _
  simp only [Function.comp_apply]
  by_cases hyphen : c = '-'
  · simp [hyphen]
  · simp [hyphen]

@[simp] theorem underscored_append (s t : Str) :
    underscored (s ++ t) = underscored s ++ underscored t := by
  simp [underscored]

theorem underscored_inj {s t : Str} (hs : '_' ∉ s) (ht : '_' ∉ t)
    (same : underscored s = underscored t) : s = t := by
  induction s generalizing t with
  | nil =>
    cases t with
    | nil => rfl
    | cons d t => cases same
  | cons c s ih =>
    cases t with
    | nil => cases same
    | cons d t =>
      rw [List.mem_cons, not_or] at hs ht
      obtain ⟨first, rest⟩ := List.cons.inj same
      have letter : c = d := by
        dsimp only at first
        split_ifs at first with dot dot' dot'
        · rw [dot, dot']
        · exact absurd first ht.1
        · exact absurd first.symm hs.1
        · exact first
      rw [letter, ih hs.2 ht.2 rest]

theorem dotted_chars {name : String} (h : IsSymbolName name) {c : Char}
    (member : c ∈ dotted name) : c.isAlphanum = true ∨ c = '.' := by
  obtain ⟨d, among, rfl⟩ := List.mem_map.mp member
  split
  · exact .inr rfl
  · rename_i other
    rcases h.chars d among with word | dot | hyphen
    · exact .inl word
    · exact .inr dot
    · exact absurd hyphen other

theorem underscore_dotted {name : String} (h : IsSymbolName name) : '_' ∉ dotted name := by
  intro member
  rcases dotted_chars h member with word | dot
  · exact absurd word (by decide)
  · cases dot

theorem method_eq_iff {name : String} (h : IsSymbolName name) {word : Str} (plain : '_' ∉ word) :
    symbolToMethodName name = underscored word ↔ dotted name = word := by
  rw [symbolToMethodName_eq]
  constructor
  · exact underscored_inj (underscore_dotted h) plain
  · rintro rfl
    rfl

/-- The names with which the generated source compiles: none begins with a digit, is a keyword
or a single separator, no two are the same up to hyphens and dots, none is another one followed
by `.svg`, and none is `get` or `get.svg`. -/
structure Nameable (names : List String) : Prop where
  noDigit : ∀ name ∈ names, ∀ c, name.toList.head? = some c → c.isDigit = false
  noKeyword : ∀ name ∈ names, name ∉ keywords
  noSeparator : ∀ name ∈ names, dotted name ≠ ['.']
  apart : ∀ a ∈ names, ∀ b ∈ names, dotted a = dotted b → a = b
  noSvg : ∀ a ∈ names, ∀ b ∈ names, dotted a ≠ dotted b ++ ".svg".toList
  noLookup : ∀ name ∈ names, dotted name ≠ "get".toList ∧ dotted name ≠ "get.svg".toList

/-! Method names as words of the language. -/

theorem not_digit_of_alpha {c : Char} (h : c.isAlpha = true) : c.isDigit = false := by
  rw [Bool.eq_false_iff]
  intro digit
  unfold Char.isAlpha Char.isUpper Char.isLower at h
  simp only [Char.isDigit, Bool.or_eq_true,
    Bool.and_eq_true, decide_eq_true_eq, UInt32.le_iff_toNat_le, ge_iff_le] at h digit
  have nine : ('9' : Char).val.toNat = 57 := rfl
  have upper : ('A' : Char).val.toNat = 65 := rfl
  have lower : ('a' : Char).val.toNat = 97 := rfl
  omega

theorem begins_word_iff {c : Char} (h : c.isAlphanum = true ∨ c = '.' ∨ c = '-') :
    ((if c = '.' ∨ c = '-' then '_' else c).isAlpha ||
      (if c = '.' ∨ c = '-' then '_' else c) == '_') = true ↔ c.isDigit = false := by
  rcases h with word | rfl | rfl
  · have letter : ¬ (c = '.' ∨ c = '-') := by
      rintro (rfl | rfl) <;> exact absurd word (by decide)
    have other : c ≠ '_' := by
      rintro rfl
      exact absurd word (by decide)
    rw [if_neg letter, beq_eq_false_iff_ne.mpr other, Bool.or_false]
    constructor
    · exact not_digit_of_alpha
    · intro noDigit
      simpa [Char.isAlphanum, noDigit] using word
  · decide
  · decide

/-- A word that begins with a method name is an identifier if its first character may begin one
and it is longer than an underscore. -/
theorem isIdentifier_append_iff {name : String} (h : IsSymbolName name) {suffix : Str}
    (plain : ∀ c ∈ suffix, c.isAlphanum = true ∨ c = '_') :
    isIdentifier (symbolToMethodName name ++ suffix) = true ↔
      (∀ c, name.toList.head? = some c → c.isDigit = false) ∧
        symbolToMethodName name ++ suffix ≠ ['_'] := by
  have chars : ∀ c ∈ symbolToMethodName name ++ suffix, c.isAlphanum = true ∨ c = '_' := by
    intro c member
    rcases List.mem_append.mp member with front | back
    · exact method_chars h front
    · exact plain c back
  cases text : name.toList with
  | nil => exact absurd text h.some
  | cons c rest =>
    have first := begins_word_iff (h.chars c (by simp [text]))
    rw [symbolToMethodName, text, List.map_cons, List.cons_append] at chars ⊢
    rw [List.forall_mem_cons] at chars
    have others : ((rest.map (fun c => if c = '.' ∨ c = '-' then '_' else c) ++ suffix).all
        (fun c => c.isAlphanum || c == '_')) = true :=
      List.all_eq_true.mpr fun c member => by simpa using chars.2 c member
    simp only [isIdentifier, others, Bool.and_true, Bool.and_eq_true, first, bne_iff_ne,
      List.head?_cons, Option.some.injEq, forall_eq']

theorem isIdentifier_method_iff {name : String} (h : IsSymbolName name) :
    isIdentifier (symbolToMethodName name) = true ↔
      (∀ c, name.toList.head? = some c → c.isDigit = false) ∧ dotted name ≠ ['.'] := by
  have word : isIdentifier (symbolToMethodName name ++ []) = true ↔ _ :=
    isIdentifier_append_iff h (by simp)
  rw [List.append_nil] at word
  rw [word, ne_eq, ne_eq, ← method_eq_iff h (by decide)]
  rfl

theorem isIdentifier_svg_iff {name : String} (h : IsSymbolName name) :
    isIdentifier (symbolToMethodName name ++ "_svg".toList) = true ↔
      ∀ c, name.toList.head? = some c → c.isDigit = false := by
  rw [isIdentifier_append_iff h (forall_of_all (by decide)), and_iff_left]
  intro same
  have size := congrArg List.length same
  simp at size

theorem keywords_alpha : ∀ word ∈ keywords, ∀ c ∈ word.toList, c.isAlpha = true := by
  have checked : (keywords.all fun word => word.toList.all Char.isAlpha) = true := by
    simp only [keywords, List.all_cons, List.all_nil]
    repeat rw [String.toList_ofList]
    rfl
  simpa only [List.all_eq_true] using checked

theorem replaced_of_notMem {s : Str} {a : Char} (absent : a ∉ s) (b : Char) :
    s.map (fun c => if c = a then b else c) = s := by
  calc
    s.map (fun c => if c = a then b else c) = s.map id := by
      apply List.map_congr_left
      rintro c member
      have other : c ≠ a := fun same => absent (same ▸ member)
      rw [if_neg other, id]
    _ = s := List.map_id s

theorem dotted_eq_iff {name word : String} (letters : ∀ c ∈ word.toList, c.isAlpha = true) :
    dotted name = word.toList ↔ name = word := by
  have noDot : '.' ∉ word.toList := fun member => absurd (letters _ member) (by decide)
  have noHyphen : '-' ∉ word.toList := fun member => absurd (letters _ member) (by decide)
  constructor
  · intro same
    have hyphen : '-' ∉ name.toList := by
      intro member
      have dot : '.' ∈ dotted name := List.mem_map.mpr ⟨'-', member, rfl⟩
      exact noDot (same ▸ dot)
    exact String.toList_injective ((replaced_of_notMem hyphen '.').symm.trans same)
  · rintro rfl
    exact replaced_of_notMem noHyphen '.'

theorem method_mem_keywords_iff {name : String} (h : IsSymbolName name) :
    symbolToMethodName name ∈ keywords.map String.toList ↔ name ∈ keywords := by
  have word : ∀ word ∈ keywords, (word.toList = symbolToMethodName name ↔ name = word) := by
    intro word known
    have letters := keywords_alpha word known
    have plain : '_' ∉ word.toList := fun member => absurd (letters _ member) (by decide)
    have dot : '.' ∉ word.toList := fun member => absurd (letters _ member) (by decide)
    have same : underscored word.toList = word.toList := replaced_of_notMem dot '_'
    rw [eq_comm, ← dotted_eq_iff letters, ← method_eq_iff h plain, same]
  constructor
  · intro member
    obtain ⟨found, known, same⟩ := List.mem_map.mp member
    rw [(word found known).mp same]
    exact known
  · intro known
    exact List.mem_map.mpr ⟨name, known, (word name known).mpr rfl⟩

theorem svg_notMem_keywords (method : Str) :
    method ++ "_svg".toList ∉ keywords.map String.toList := by
  intro member
  obtain ⟨found, known, same⟩ := List.mem_map.mp member
  have underscore : '_' ∈ found.toList := by
    rw [same, List.mem_append]
    exact .inr (by decide)
  exact absurd (keywords_alpha found known _ underscore) (by decide)

/-! Method names beside each other. -/

def methodWords (names : List String) : List Str :=
  names.flatMap (fun name => [dotted name, dotted name ++ ".svg".toList]) ++
    ["get".toList, "get.svg".toList]

theorem methodNames_eq (names : List String) :
    methodNames names = (methodWords names).map underscored := by
  have svg : underscored ".svg".toList = "_svg".toList := by decide
  have png : underscored "get".toList = "get".toList := by decide
  have lookup : underscored "get.svg".toList = "get_svg".toList := by decide
  simp only [methodNames, methodWords, List.map_append, List.map_flatMap, List.map_cons,
    List.map_nil, underscored_append, ← symbolToMethodName_eq, svg, png, lookup]

theorem underscore_methodWords {names : List String} (h : ∀ name ∈ names, IsSymbolName name) :
    ∀ word ∈ methodWords names, '_' ∉ word := by
  intro word member
  rcases List.mem_append.mp member with symbol | lookup
  · obtain ⟨name, among, either⟩ := List.mem_flatMap.mp symbol
    have plain := underscore_dotted (h name among)
    rcases List.mem_pair.mp either with rfl | rfl
    · exact plain
    · intro underscore
      rcases List.mem_append.mp underscore with front | back
      · exact plain front
      · exact absurd back (by decide)
  · rcases List.mem_pair.mp lookup with rfl | rfl
    · decide
    · decide

theorem methodNames_nodup_iff {names : List String} (h : ∀ name ∈ names, IsSymbolName name) :
    (methodNames names).Nodup ↔ (methodWords names).Nodup := by
  have plain := underscore_methodWords h
  rw [methodNames_eq]
  constructor
  · exact List.Nodup.of_map underscored
  · intro distinct
    apply distinct.map_on
    intro a amongA b amongB same
    exact underscored_inj (plain a amongA) (plain b amongB) same

theorem disjoint_words_iff (a b : String) :
    List.Disjoint [dotted a, dotted a ++ ".svg".toList] [dotted b, dotted b ++ ".svg".toList] ↔
      dotted a ≠ dotted b ∧ dotted a ≠ dotted b ++ ".svg".toList ∧
        dotted b ≠ dotted a ++ ".svg".toList := by
  simp only [List.disjoint_cons_left, List.disjoint_nil_left, List.mem_pair, not_or, and_true,
    List.append_left_inj]
  constructor
  · rintro ⟨⟨names, svg⟩, svg', -⟩
    exact ⟨names, svg, Ne.symm svg'⟩
  · rintro ⟨names, svg, svg'⟩
    exact ⟨⟨names, svg⟩, Ne.symm svg', names⟩

theorem disjoint_lookup_iff (name : String) :
    List.Disjoint [dotted name, dotted name ++ ".svg".toList]
        ["get".toList, "get.svg".toList] ↔
      dotted name ≠ "get".toList ∧ dotted name ≠ "get.svg".toList := by
  have short : dotted name ++ ".svg".toList ≠ "get".toList := by
    intro same
    have size := congrArg List.length same
    simp at size
  have split : "get.svg".toList = "get".toList ++ ".svg".toList := rfl
  have svg : dotted name ++ ".svg".toList = "get.svg".toList ↔ dotted name = "get".toList := by
    rw [split, List.append_left_inj]
  simp only [List.disjoint_cons_left, List.disjoint_nil_left, List.mem_pair, not_or, and_true,
    short, not_false_eq_true, true_and, svg]
  constructor
  · rintro ⟨both, -⟩
    exact both
  · intro both
    exact ⟨both, both.1⟩

theorem methodWords_nodup_iff {names : List String} (nodup : names.Nodup) :
    (methodWords names).Nodup ↔
      (∀ a ∈ names, ∀ b ∈ names, dotted a = dotted b → a = b) ∧
      (∀ a ∈ names, ∀ b ∈ names, dotted a ≠ dotted b ++ ".svg".toList) ∧
      (∀ name ∈ names, dotted name ≠ "get".toList ∧ dotted name ≠ "get.svg".toList) := by
  have longer : ∀ name, dotted name ≠ dotted name ++ ".svg".toList := by
    intro name same
    have size := congrArg List.length same
    simp at size
  have lookups : ["get".toList, "get.svg".toList].Nodup := by decide
  rw [methodWords, List.nodup_append', List.nodup_flatMap]
  constructor
  · rintro ⟨⟨-, symbols⟩, -, apart⟩
    have symmetric : Std.Symm (Function.onFun List.Disjoint
        (fun name => [dotted name, dotted name ++ ".svg".toList])) :=
      ⟨fun _ _ disjoint => disjoint.symm⟩
    have pairs : ∀ a ∈ names, ∀ b ∈ names, a ≠ b → dotted a ≠ dotted b ∧
        dotted a ≠ dotted b ++ ".svg".toList ∧ dotted b ≠ dotted a ++ ".svg".toList :=
      fun a amongA b amongB other =>
        (disjoint_words_iff a b).mp (symbols.forall amongA amongB other)
    refine ⟨?_, ?_, ?_⟩
    · intro a amongA b amongB same
      by_contra other
      exact (pairs a amongA b amongB other).1 same
    · intro a amongA b amongB
      by_cases same : a = b
      · rw [same]
        exact longer b
      · exact (pairs a amongA b amongB same).2.1
    · intro name among
      apply (disjoint_lookup_iff name).mp
      intro word member
      exact apart (List.mem_flatMap.mpr ⟨name, among, member⟩)
  · rintro ⟨apart, noSvg, noLookup⟩
    refine ⟨⟨?_, ?_⟩, lookups, ?_⟩
    · intro name _
      simp
    · apply nodup.pairwise_of_forall_ne
      intro a amongA b amongB other
      exact (disjoint_words_iff a b).mpr ⟨fun same => other (apart a amongA b amongB same),
        noSvg a amongA b amongB, noSvg b amongB a amongA⟩
    · intro word member
      obtain ⟨name, among, either⟩ := List.mem_flatMap.mp member
      exact (disjoint_lookup_iff name).mpr (noLookup name among) either

/-! The generated source. -/

theorem forall_methodNames_iff (names : List String) (P : Str → Prop) :
    (∀ method ∈ methodNames names, P method) ↔
      (∀ name ∈ names, P (symbolToMethodName name) ∧
        P (symbolToMethodName name ++ "_svg".toList)) ∧
      P "get".toList ∧ P "get_svg".toList := by
  simp only [methodNames, List.forall_mem_append, List.forall_mem_flatMap, List.forall_mem_cons,
    List.not_mem_nil, false_implies, implies_true, and_true]

theorem lookup_notMem_keywords :
    "get".toList ∉ keywords.map String.toList ∧ "get_svg".toList ∉ keywords.map String.toList := by
  constructor
  · intro member
    obtain ⟨found, known, same⟩ := List.mem_map.mp member
    have get : "get" ∉ keywords := by decide
    exact get (String.toList_injective same ▸ known)
  · exact svg_notMem_keywords "get".toList

section Compiling

variable (format : Format) (paths : PathText) (symbolDir : String)

/-- The functions that the generated source declares can stand together exactly if the resolved
symbols have names for it. -/
theorem generated_compiles_iff {resolutions : List (SymbolSpec × SymbolResolution)}
    (symbols : ∀ name ∈ resolvedNames resolutions, IsSymbolName name)
    (distinct : (resolvedNames resolutions).Nodup) :
    Compiles (declaredFns (buildGeneratedSource format paths symbolDir resolutions)) ↔
      Nameable (resolvedNames resolutions) := by
  rw [declaredFns_generated format paths symbolDir symbols]
  have nodup : (methodNames (resolvedNames resolutions)).Nodup ↔ _ :=
    (methodNames_nodup_iff symbols).trans (methodWords_nodup_iff distinct)
  have words := forall_methodNames_iff (resolvedNames resolutions)
  constructor
  · intro compiles
    obtain ⟨apart, noSvg, noLookup⟩ := nodup.mp compiles.distinct
    have identifiers := ((words _).mp compiles.identifiers).1
    have notKeywords := ((words _).mp compiles.words).1
    refine ⟨?_, ?_, ?_, apart, noSvg, noLookup⟩
    · intro name member
      exact (isIdentifier_svg_iff (symbols name member)).mp (identifiers name member).2
    · intro name member known
      exact (notKeywords name member).1 ((method_mem_keywords_iff (symbols name member)).mpr known)
    · intro name member
      exact ((isIdentifier_method_iff (symbols name member)).mp (identifiers name member).1).2
  · intro nameable
    refine ⟨?_, ?_, ?_⟩
    · exact nodup.mpr ⟨nameable.apart, nameable.noSvg, nameable.noLookup⟩
    · refine (words _).mpr ⟨?_, by decide, by decide⟩
      intro name member
      have first := nameable.noDigit name member
      exact ⟨(isIdentifier_method_iff (symbols name member)).mpr
          ⟨first, nameable.noSeparator name member⟩,
        (isIdentifier_svg_iff (symbols name member)).mpr first⟩
    · refine (words _).mpr ⟨?_, lookup_notMem_keywords⟩
      intro name member
      exact ⟨fun known => nameable.noKeyword name member
          ((method_mem_keywords_iff (symbols name member)).mp known),
        svg_notMem_keywords _⟩

end Compiling

/-- Debug text where nothing but the common characters is escaped. -/
def plainFormat : Format where
  isEscaped _ := false
  float _ := "0.0".toList

def plainPaths : PathText where
  debug := debugStr plainFormat
  oneLine := newline_debugStr plainFormat

def folderAndTrash : List (SymbolSpec × SymbolResolution) :=
  [(⟨"folder.badge-plus"⟩, .sf), (⟨"trash"⟩, .lucide), (⟨"1.circle"⟩, .missing)]

theorem folderAndTrash_compiles :
    Compiles
      (declaredFns (buildGeneratedSource plainFormat plainPaths "icons" folderAndTrash)) := by
  have names : resolvedNames folderAndTrash = ["folder.badge-plus", "trash"] := rfl
  apply (generated_compiles_iff plainFormat plainPaths "icons" ?_ ?_).mpr
  · rw [names]
    refine ⟨?_, by decide, by decide, by decide, by decide, by decide⟩
    intro name member c first
    rcases List.mem_pair.mp member with rfl | rfl
    · have letter : 'f' = c := Option.some.inj first
      exact letter ▸ rfl
    · have letter : 't' = c := Option.some.inj first
      exact letter ▸ rfl
  · rw [names]
    simp only [List.forall_mem_cons, List.not_mem_nil, false_implies, implies_true, and_true]
    exact ⟨⟨by decide, forall_of_all (by decide)⟩, ⟨by decide, forall_of_all (by decide)⟩⟩
  · rw [names]
    decide

def oneCircle : List (SymbolSpec × SymbolResolution) := [(⟨"1.circle"⟩, .sf)]

/-- Its functions are `1_circle` and `1_circle_svg`. -/
theorem oneCircle_fails :
    (∀ name ∈ resolvedNames oneCircle, IsSymbolName name) ∧ (resolvedNames oneCircle).Nodup ∧
      ¬ Compiles (declaredFns (buildGeneratedSource plainFormat plainPaths "icons" oneCircle)) := by
  have symbols : ∀ name ∈ resolvedNames oneCircle, IsSymbolName name := by
    have names : resolvedNames oneCircle = ["1.circle"] := rfl
    rw [names, List.forall_mem_singleton]
    exact ⟨by decide, forall_of_all (by decide)⟩
  refine ⟨symbols, by decide, ?_⟩
  rw [declaredFns_generated plainFormat plainPaths "icons" symbols]
  intro compiles
  have identifier : isIdentifier "1_circle".toList = true :=
    compiles.identifiers _ (by decide)
  exact absurd identifier (by decide)

end Polykit.Icons
