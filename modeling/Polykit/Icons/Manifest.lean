/- Module: Polykit/Icons/Manifest
   generality: I
   source: crates/polysym-build/src/lib.rs
   digest: The manifest of the committed icon cache, as it is written and as it is read. -/

import Mathlib.Data.String.Basic
import Polykit.Icons.Generated
import Polykit.Kvs.Store
import Polykit.Lib.Keyed

set_option autoImplicit false
set_option relaxedAutoImplicit false

namespace Polykit.Icons

open Polykit.Kvs.Store (parseDigits parseDigits_toDigits)
open Polykit.Lib.Keyed
open Polykit.Lib.Text (append_cons_inj isWhitespace prefix_front splitOnceChars splitOnceChars_char)
open Polykit.Log.Clean (Str stripPrefix)

/-- What a spec needs of floating point: the size left inside the padding, and the text with
four decimals, which has no blanks. -/
structure Floats (F32 : Type) where
  innerSize : UInt32 → F32 → UInt32
  fixed4 : F32 → Str
  written : ∀ x, fixed4 x ≠ []
  dense : ∀ x, ∀ c ∈ fixed4 x, isWhitespace c = false

structure RenderSpec (F32 : Type) extends SymbolSpec where
  size : UInt32
  weight : String
  padding : F32
  lucide : Option String

variable {F32 : Type}

def cacheFormatVersion : Nat := 2

/-- The settings that change the cached files. The fallback is none of them. -/
def specSignature (floats : Floats F32) (spec : RenderSpec F32) : Str :=
  "size=".toList ++ Nat.toDigits 10 spec.size.toNat ++ " weight=".toList ++ spec.weight.toList ++
    " padding=".toList ++ floats.fixed4 spec.padding

/-- The stored signatures. Of two entries of one name the later one counts. -/
abbrev Entries := List (String × Str)

def stored (entries : Entries) (name : String) : Option Str :=
  (entries.reverse.find? (fun entry => entry.1 == name)).map Prod.snd

inductive ManifestStatus
  | ok (entries : Entries)
  | missing
  | outdated (found : Nat)
  | malformed (message : Str)

/-! Reading. -/

/-- A line that a line feed ends loses a carriage return as well. -/
def stripCr (line : Str) : Str := if line.getLast? = some '\r' then line.dropLast else line

/-- `str::lines`: nothing follows a final line feed. -/
def lines (content : Str) : List Str :=
  let parts := content.splitOn '\n'
  parts.dropLast.map stripCr ++ parts.getLast?.toList.filter (fun line => !line.isEmpty)

/-- `str::trim`. -/
def trimmed (s : Str) : Str :=
  ((s.dropWhile isWhitespace).reverse.dropWhile isWhitespace).reverse

/-- `str::parse::<u32>`: an optional plus and at least one digit, within range. -/
def parseU32 (text : Str) : Option Nat :=
  let value := match text with
    | '+' :: digits => parseDigits digits
    | digits => parseDigits digits
  value.filter (fun n => decide (n < 2 ^ 32))

structure Reading where
  format : Option Nat
  entries : Entries

def readLine (reading : Reading) (raw : Str) : Except Str Reading :=
  let line := trimmed raw
  if line = [] ∨ line.head? = some '#' then .ok reading
  else
    match stripPrefix line "format=".toList with
    | some v =>
        match parseU32 v with
        | some n => .ok { reading with format := some n }
        | none => .error ("invalid format= value: ".toList ++ v)
    | none =>
        match splitOnceChars [' '] line with
        | some parts =>
            .ok { reading with
              entries := reading.entries ++ [(String.ofList parts.1, trimmed parts.2)] }
        | none => .error ("expected '<name> <key>=<value>...', got: ".toList ++ line)

def finishReading : Except Str Reading → ManifestStatus
  | .error message => .malformed message
  | .ok reading =>
      match reading.format with
      | none => .malformed "missing 'format=' header".toList
      | some found =>
          if found = cacheFormatVersion then .ok reading.entries else .outdated found

/-- There may be no file, or none that is text. -/
def readManifest : Option Str → ManifestStatus
  | none => .missing
  | some content => finishReading ((lines content).foldlM readLine ⟨none, []⟩)

/-! Writing. -/

def byName (a b : String × Str) : Bool := decide (a.1 ≤ b.1)

def entryLine (entry : String × Str) : Str := entry.1.toList ++ ' ' :: entry.2

def manifestLines (entries : Entries) : List Str :=
  ["# polysym cache manifest - regenerated by POLYSYM_REFRESH=1".toList,
    "# DO NOT EDIT BY HAND".toList,
    "format=".toList ++ Nat.toDigits 10 cacheFormatVersion] ++
  (entries.mergeSort byName).map entryLine

def manifestText (entries : Entries) : Str :=
  (manifestLines entries).flatMap (fun line => line ++ ['\n'])

theorem stored_sorted (entries : Entries) (name : String) :
    stored (entries.mergeSort byName) name = stored entries name :=
  congrArg (Option.map Prod.snd) (find_reverse_mergeSort Prod.fst entries name)

/-! Texts that reading leaves as they are. -/

structure Tidy (s : Str) : Prop where
  oneLine : '\n' ∉ s
  first : ∃ c ∈ s.head?, isWhitespace c = false
  last : ∃ c ∈ s.getLast?, isWhitespace c = false

theorem trimmed_tidy {s : Str} (h : Tidy s) : trimmed s = s := by
  obtain ⟨c, first, noBlank⟩ := h.first
  obtain ⟨d, last, noBlank'⟩ := h.last
  have front : s.dropWhile isWhitespace = s := by
    obtain ⟨rest, rfl⟩ := List.head?_eq_some_iff.mp first
    rw [List.dropWhile_cons_of_neg (by rw [noBlank]; exact Bool.false_ne_true)]
  have back : s.reverse.dropWhile isWhitespace = s.reverse := by
    rw [Option.mem_def, ← List.head?_reverse] at last
    obtain ⟨rest, ends⟩ := List.head?_eq_some_iff.mp last
    rw [ends, List.dropWhile_cons_of_neg (by rw [noBlank']; exact Bool.false_ne_true)]
  rw [trimmed, front, back, List.reverse_reverse]

theorem stripCr_tidy {s : Str} (h : Tidy s) : stripCr s = s := by
  obtain ⟨c, last, noBlank⟩ := h.last
  have other : s.getLast? ≠ some '\r' := by
    intro return'
    rw [Option.mem_def.mp last] at return'
    cases return'
    exact absurd noBlank (by decide)
  exact if_neg other

theorem lines_ended {ls : List Str} (h : ∀ line ∈ ls, '\n' ∉ line) :
    lines (ls.flatMap (fun line => line ++ ['\n'])) = ls.map stripCr := by
  simp [lines, splitOn_lines h]

theorem blank_symbolChar {c : Char} (h : c.isAlphanum = true ∨ c = '.' ∨ c = '-') :
    isWhitespace c = false := by
  rcases h with word | rfl | rfl
  · unfold Char.isAlphanum Char.isAlpha Char.isUpper Char.isLower Char.isDigit at word
    simp only [Bool.or_eq_true, Bool.and_eq_true, decide_eq_true_eq, UInt32.le_iff_toNat_le,
      ge_iff_le] at word
    have zero : ('0' : Char).val.toNat = 48 := rfl
    have nine : ('9' : Char).val.toNat = 57 := rfl
    have upper : ('A' : Char).val.toNat = 65 := rfl
    have upper' : ('Z' : Char).val.toNat = 90 := rfl
    have lower : ('a' : Char).val.toNat = 97 := rfl
    have lower' : ('z' : Char).val.toNat = 122 := rfl
    have code : c.toNat = c.val.toNat := rfl
    simp only [isWhitespace, Bool.or_eq_false_iff, Bool.and_eq_false_iff, decide_eq_false_iff_not,
      beq_eq_false_iff_ne]
    omega
  · rfl
  · rfl

/-! The lines of a written manifest. -/

structure Listed (entry : String × Str) : Prop where
  name : IsSymbolName entry.1
  signature : Tidy entry.2

variable {entry : String × Str}

theorem Listed.notMem (h : Listed entry) {c : Char} (other : c.isAlphanum = false)
    (dot : c ≠ '.') (hyphen : c ≠ '-') : c ∉ entry.1.toList := by
  intro member
  rcases h.name.chars c member with word | same | same
  · exact Bool.false_ne_true (other.symm.trans word)
  · exact dot same
  · exact hyphen same

theorem tidy_entryLine (h : Listed entry) : Tidy (entryLine entry) where
  oneLine := by
    have name := h.notMem (c := '\n') (by decide) (by decide) (by decide)
    simp only [entryLine, List.mem_append, List.mem_cons, not_or]
    exact ⟨name, by decide, h.signature.oneLine⟩
  first := by
    obtain ⟨c, rest, text⟩ := List.exists_cons_of_ne_nil h.name.some
    refine ⟨c, by rw [entryLine, text]; rfl, ?_⟩
    exact blank_symbolChar (h.name.chars c (by rw [text]; exact List.mem_cons_self))
  last := by
    obtain ⟨c, last, noBlank⟩ := h.signature.last
    refine ⟨c, ?_, noBlank⟩
    obtain ⟨front, text⟩ := List.getLast?_eq_some_iff.mp last
    have ends : entryLine entry = (entry.1.toList ++ ' ' :: front) ++ [c] := by
      simp [entryLine, text]
    rw [ends, List.getLast?_concat]
    rfl

theorem readLine_entry (h : Listed entry) (reading : Reading) :
    readLine reading (entryLine entry) =
      .ok { reading with entries := reading.entries ++ [entry] } := by
  have tidy := tidy_entryLine h
  obtain ⟨c, rest, text⟩ := List.exists_cons_of_ne_nil h.name.some
  have code : ¬ (entryLine entry = [] ∨ (entryLine entry).head? = some '#') := by
    have noHash := h.notMem (c := '#') (by decide) (by decide) (by decide)
    rw [text, List.mem_cons, not_or] at noHash
    rw [entryLine, text]
    simp [Ne.symm noHash.1]
  have noHeader : stripPrefix (entryLine entry) "format=".toList = none := by
    have noEquals := h.notMem (c := '=') (by decide) (by decide) (by decide)
    rw [stripPrefix, if_neg]
    intro begins
    have inName := prefix_front (by decide) begins
    exact noEquals (inName.subset (by decide))
  have cut : splitOnceChars [' '] (entryLine entry) = some (entry.1.toList, entry.2) :=
    splitOnceChars_char (h.notMem (by decide) (by decide) (by decide)) entry.2
  simp only [readLine, trimmed_tidy tidy, if_neg code, noHeader, cut, trimmed_tidy h.signature,
    String.ofList_toList]

theorem read_entries {entries : Entries} (h : ∀ entry ∈ entries, Listed entry)
    (reading : Reading) :
    (entries.map entryLine).foldlM readLine reading =
      .ok { reading with entries := reading.entries ++ entries } := by
  induction entries generalizing reading with
  | nil => simp [pure, Except.pure]
  | cons entry entries ih =>
    rw [List.forall_mem_cons] at h
    rw [List.map_cons, List.foldlM_cons, readLine_entry h.1]
    exact (ih h.2 _).trans (by simp)

theorem readManifest_manifestText {entries : Entries} (h : ∀ entry ∈ entries, Listed entry) :
    readManifest (some (manifestText entries)) = .ok (entries.mergeSort byName) := by
  have sorted : ∀ entry ∈ entries.mergeSort byName, Listed entry := fun entry member =>
    h entry (List.mem_mergeSort.mp member)
  have tidy : ∀ line ∈ manifestLines entries, Tidy line := by
    intro line member
    rcases List.mem_append.mp member with header | symbol
    · simp only [List.mem_cons, List.not_mem_nil, or_false] at header
      rcases header with rfl | rfl | rfl
      · exact ⟨by decide, ⟨'#', rfl, rfl⟩, ⟨'1', rfl, rfl⟩⟩
      · exact ⟨by decide, ⟨'#', rfl, rfl⟩, ⟨'D', rfl, rfl⟩⟩
      · exact ⟨by decide, ⟨'f', rfl, rfl⟩, ⟨'2', rfl, rfl⟩⟩
    · obtain ⟨entry, among, rfl⟩ := List.mem_map.mp symbol
      exact tidy_entryLine (sorted entry among)
  have kept : (manifestLines entries).map stripCr = manifestLines entries :=
    (List.map_congr_left fun line member => stripCr_tidy (tidy line member)).trans
      (List.map_id _)
  have header : (["# polysym cache manifest - regenerated by POLYSYM_REFRESH=1".toList,
      "# DO NOT EDIT BY HAND".toList,
      "format=".toList ++ Nat.toDigits 10 cacheFormatVersion]).foldlM readLine ⟨none, []⟩ =
        .ok ⟨some cacheFormatVersion, []⟩ := by
    rfl
  rw [readManifest, manifestText, lines_ended (fun line member => (tidy line member).oneLine),
    kept, manifestLines, List.foldlM_append, header]
  show finishReading (((entries.mergeSort byName).map entryLine).foldlM readLine _) = _
  rw [read_entries sorted]
  rfl

/-! Signatures. -/

variable (floats : Floats F32)

theorem notMem_digits {c : Char} (blank : isWhitespace c = true) (n : Nat) :
    c ∉ Nat.toDigits 10 n := by
  intro member
  have digit := Nat.isDigit_of_mem_toDigits (by decide) (by decide) member
  have dense := blank_symbolChar (c := c) (.inl (by simp [Char.isAlphanum, digit]))
  exact Bool.false_ne_true (dense.symm.trans blank)

theorem notMem_fixed4 {c : Char} (blank : isWhitespace c = true) (x : F32) :
    c ∉ floats.fixed4 x := fun member =>
  Bool.false_ne_true ((floats.dense x c member).symm.trans blank)

theorem specSignature_parts (spec : RenderSpec F32) :
    specSignature floats spec = "size=".toList ++
      (Nat.toDigits 10 spec.size.toNat ++ ' ' :: ("weight=".toList ++
        (spec.weight.toList ++ ' ' :: ("padding=".toList ++ floats.fixed4 spec.padding)))) := by
  have weight : " weight=".toList = ' ' :: "weight=".toList := rfl
  have padding : " padding=".toList = ' ' :: "padding=".toList := rfl
  show "size=".toList ++ Nat.toDigits 10 spec.size.toNat ++ " weight=".toList ++
    spec.weight.toList ++ " padding=".toList ++ floats.fixed4 spec.padding = _
  simp only [weight, padding, List.append_assoc, List.cons_append]

theorem tidy_specSignature {spec : RenderSpec F32} (oneLine : '\n' ∉ spec.weight.toList) :
    Tidy (specSignature floats spec) where
  oneLine := by
    have digits := notMem_digits (c := '\n') rfl spec.size.toNat
    have decimals := notMem_fixed4 floats (c := '\n') rfl spec.padding
    simp only [specSignature_parts, List.mem_append, List.mem_cons, not_or]
    exact ⟨by decide, digits, by decide, by decide, oneLine, by decide, by decide, decimals⟩
  first := by
    have label : "size=".toList = 's' :: "ize=".toList := rfl
    refine ⟨'s', ?_, rfl⟩
    rw [specSignature_parts, label, List.cons_append, List.head?_cons]
    exact Option.mem_some_self 's'
  last := by
    refine ⟨(floats.fixed4 spec.padding).getLast (floats.written _), ?_,
      floats.dense _ _ (List.getLast_mem _)⟩
    obtain ⟨front, ends⟩ : ∃ front, specSignature floats spec =
        front ++ floats.fixed4 spec.padding := ⟨_, rfl⟩
    rw [ends, List.getLast?_append, List.getLast?_eq_some_getLast (floats.written _),
      Option.some_or]
    exact Option.mem_some_self _

theorem specSignature_inj {a b : RenderSpec F32} :
    specSignature floats a = specSignature floats b ↔
      a.size = b.size ∧ a.weight = b.weight ∧
        floats.fixed4 a.padding = floats.fixed4 b.padding := by
  constructor
  · intro same
    have blank : ∀ spec : RenderSpec F32, ' ' ∉ Nat.toDigits 10 spec.size.toNat :=
      fun spec => notMem_digits rfl spec.size.toNat
    have dense : ∀ spec : RenderSpec F32,
        ' ' ∉ ("padding=".toList ++ floats.fixed4 spec.padding).reverse := by
      intro spec member
      rw [List.mem_reverse, List.mem_append] at member
      rcases member with label | decimals
      · exact absurd label (by decide)
      · exact notMem_fixed4 floats rfl spec.padding decimals
    rw [specSignature_parts, specSignature_parts, List.append_cancel_left_eq,
      append_cons_inj (blank a) (blank b), List.append_cancel_left_eq] at same
    obtain ⟨sizes, rest⟩ := same
    have backwards := congrArg List.reverse rest
    rw [List.reverse_append, List.reverse_append, List.reverse_cons, List.reverse_cons,
      List.append_assoc, List.append_assoc, List.singleton_append, List.singleton_append,
      append_cons_inj (dense a) (dense b)] at backwards
    obtain ⟨paddings, weights⟩ := backwards
    refine ⟨?_, String.toList_injective (List.reverse_injective weights), ?_⟩
    · have numbers := congrArg parseDigits sizes
      rw [parseDigits_toDigits, parseDigits_toDigits] at numbers
      exact UInt32.toNat_inj.mp (Option.some.inj numbers)
    · exact List.append_cancel_left (List.reverse_injective paddings)
  · rintro ⟨size, weight, padding⟩
    rw [specSignature_parts, specSignature_parts, size, weight, padding]

def manifestEntry (spec : RenderSpec F32) : String × Str := (spec.name, specSignature floats spec)

def specOf (specs : List (RenderSpec F32)) (name : String) : Option (RenderSpec F32) :=
  specs.reverse.find? (fun spec => spec.name == name)

theorem stored_manifestEntries (specs : List (RenderSpec F32)) (name : String) :
    stored (specs.map (manifestEntry floats)) name =
      (specOf specs name).map (specSignature floats) := by
  rw [stored, specOf, ← List.map_reverse, List.find?_map, Option.map_map]
  rfl

theorem listed_manifestEntry {spec : RenderSpec F32} (named : IsSymbolName spec.name)
    (oneLine : '\n' ∉ spec.weight.toList) : Listed (manifestEntry floats spec) :=
  ⟨named, tidy_specSignature floats oneLine⟩

/-- A written manifest is read back, and finds a spec's own signature under its name exactly if
the last spec recorded under that name has the same settings. -/
theorem manifest_roundTrip {specs : List (RenderSpec F32)}
    (named : ∀ spec ∈ specs, IsSymbolName spec.name)
    (oneLine : ∀ spec ∈ specs, '\n' ∉ spec.weight.toList) :
    ∃ entries,
      readManifest (some (manifestText (specs.map (manifestEntry floats)))) = .ok entries ∧
      ∀ spec : RenderSpec F32,
        (stored entries spec.name = none ↔ ∀ other ∈ specs, other.name ≠ spec.name) ∧
        (stored entries spec.name = some (specSignature floats spec) ↔
          ∃ recorded, specOf specs spec.name = some recorded ∧ recorded.size = spec.size ∧
            recorded.weight = spec.weight ∧
            floats.fixed4 recorded.padding = floats.fixed4 spec.padding) := by
  have listed : ∀ entry ∈ specs.map (manifestEntry floats), Listed entry := by
    rw [List.forall_mem_map]
    exact fun spec member => listed_manifestEntry floats (named spec member) (oneLine spec member)
  refine ⟨_, readManifest_manifestText listed, ?_⟩
  intro spec
  rw [stored_sorted, stored_manifestEntries]
  constructor
  · rw [Option.map_eq_none_iff, specOf, List.find?_eq_none]
    simp
  · simp only [Option.map_eq_some_iff, specSignature_inj]

def tenThousandths : Floats Nat where
  innerSize size x := UInt32.ofNat (max 1 ((size.toNat * (10000 - 2 * x) + 5000) / 10000))
  fixed4 x := Nat.toDigits 10 (x / 10000) ++ '.' ::
    [x / 1000 % 10, x / 100 % 10, x / 10 % 10, x % 10].map Nat.digitChar
  written x := by simp
  dense x c member := by
    have decimal : ∀ n < 10, isWhitespace (Nat.digitChar n) = false := by decide
    simp only [List.mem_append, List.mem_cons, List.mem_map, List.not_mem_nil, or_false] at member
    rcases member with whole | rfl | ⟨n, place, rfl⟩
    · rw [Bool.eq_false_iff]
      exact fun blank => notMem_digits blank _ whole
    · rfl
    · exact decimal n (by omega)

/-- Of two specs of one name the later one is recorded. -/
theorem manifest_roundTrip_repeated :
    let specs : List (RenderSpec Nat) :=
      [⟨⟨"trash"⟩, 20, "regular", 1200, none⟩, ⟨⟨"bell.slash"⟩, 20, "regular", 1200, none⟩,
        ⟨⟨"trash"⟩, 24, "bold", 1200, none⟩]
    ∃ entries, readManifest (some (manifestText (specs.map (manifestEntry tenThousandths)))) =
        .ok entries ∧
      stored entries "trash" =
        some (specSignature tenThousandths ⟨⟨"trash"⟩, 24, "bold", 1200, none⟩) := by
  intro specs
  have trash : IsSymbolName "trash" := ⟨by decide, Lib.Utf8.forall_of_all (by decide)⟩
  have bell : IsSymbolName "bell.slash" := ⟨by decide, Lib.Utf8.forall_of_all (by decide)⟩
  have named : ∀ spec ∈ specs, IsSymbolName spec.name := by
    simp only [specs, List.forall_mem_cons]
    exact ⟨trash, bell, trash, fun _ => (absurd · List.not_mem_nil)⟩
  have oneLine : ∀ spec ∈ specs, '\n' ∉ spec.weight.toList := by
    simp only [specs, List.forall_mem_cons]
    exact ⟨by decide, by decide, by decide, fun _ => (absurd · List.not_mem_nil)⟩
  obtain ⟨entries, read, found⟩ := manifest_roundTrip tenThousandths named oneLine
  exact ⟨entries, read, (found ⟨⟨"trash"⟩, 24, "bold", 1200, none⟩).2.mpr
    ⟨⟨⟨"trash"⟩, 24, "bold", 1200, none⟩, rfl, rfl, rfl, rfl⟩⟩

end Polykit.Icons
