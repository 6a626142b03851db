/- Module: Polykit/Icons/Tiers
   generality: I
   source: crates/polysym-build/src/lib.rs
   digest: The three tiers, and what one turn of the loop over the symbols can do. -/

import Polykit.Icons.Build

set_option autoImplicit false
set_option relaxedAutoImplicit false

namespace Polykit.Icons

open Polykit.Lib.Fallible
open Polykit.Lib.Files
open Polykit.Log.Clean (Str)

variable {F32 B : Type}

/-! Files of symbols. -/

theorem stripSuffix_append (s suffix : Str) : stripSuffix (s ++ suffix) suffix = some s := by
  rw [stripSuffix, if_pos (List.suffix_append s suffix)]
  simp

theorem stripSuffix_other {suffix other : Str} (h : ¬ suffix <:+ other) (h' : ¬ other <:+ suffix)
    (s : Str) : stripSuffix (s ++ other) suffix = none := by
  apply if_neg
  intro ends
  rcases List.suffix_or_suffix_of_suffix ends (List.suffix_append s other) with inside | inside
  · exact h inside
  · exact h' inside

theorem fileStem_fileName (name : String) {ext : String} (member : ext ∈ parts) :
    fileStem (fileName name ext) = some name.toList := by
  simp only [parts, List.mem_cons, List.not_mem_nil, or_false] at member
  rcases member with rfl | rfl | rfl
  · have text : (fileName name "light.png").toList = name.toList ++ ".light.png".toList := by
      simp [fileName, String.toList_append]
    rw [fileStem, text, stripSuffix_append, Option.some_or]
  · have text : (fileName name "dark.png").toList = name.toList ++ ".dark.png".toList := by
      simp [fileName, String.toList_append]
    rw [fileStem, text, stripSuffix_other (by decide) (by decide), stripSuffix_append,
      Option.none_or, Option.some_or]
  · have text : (fileName name "svg").toList = name.toList ++ ".svg".toList := by
      simp [fileName, String.toList_append]
    rw [fileStem, text, stripSuffix_other (by decide) (by decide),
      stripSuffix_other (by decide) (by decide), stripSuffix_append, Option.none_or,
      Option.none_or]

def filesOf (name : String) : List String := parts.map (fileName name)

theorem fileStem_of_mem {name file : String} (member : file ∈ filesOf name) :
    fileStem file = some name.toList := by
  obtain ⟨ext, part, rfl⟩ := List.mem_map.mp member
  exact fileStem_fileName name part

theorem mem_filesOf_ne {name file : String} (other : fileStem file ≠ some name.toList) :
    file ∉ filesOf name := fun member => other (fileStem_of_mem member)

theorem manifest_notMem_filesOf (name : String) : "manifest.txt" ∉ filesOf name := by
  have none' : fileStem "manifest.txt" = none := by decide
  exact mem_filesOf_ne (by rw [none']; exact (Option.some_ne_none _).symm)

theorem name_eq_of_mem {name other file : String} (member : file ∈ filesOf name)
    (member' : file ∈ filesOf other) : name = other := by
  have stems := (fileStem_of_mem member).symm.trans (fileStem_of_mem member')
  exact String.toList_injective (Option.some.inj stems)

theorem file_mem (spec : RenderSpec F32) {ext : String} (part : ext ∈ parts) :
    spec.file ext ∈ filesOf spec.name := List.mem_map_of_mem part

def SameOutside (name : String) (a b : Dir B) : Prop :=
  ∀ file ∉ filesOf name, b.read file = a.read file

theorem SameOutside.trans {name : String} {a b c : Dir B} (first : SameOutside name a b)
    (second : SameOutside name b c) : SameOutside name a c := fun file other =>
  (second file other).trans (first file other)

theorem sameOutside_write (dir : Dir B) {name file : String} (member : file ∈ filesOf name)
    (content : B) : SameOutside name dir (dir.write file content) := by
  intro other outside
  apply read_write_of_ne
  rintro rfl
  exact outside member

theorem sameOutside_copyAll (source target : Dir B) (name : String) :
    SameOutside name target (source.copyAll (filesOf name) target) := by
  intro other outside
  rw [read_copyAll, if_neg outside]

def Present (name : String) (dir : Dir B) : Prop :=
  ∀ file ∈ filesOf name, (dir.read file).isSome

theorem read_copyAll_of_present {name : String} {source : Dir B} (present : Present name source)
    (target : Dir B) {file : String} (member : file ∈ filesOf name) :
    (source.copyAll (filesOf name) target).read file = source.read file := by
  obtain ⟨content, found⟩ := Option.isSome_iff_exists.mp (present file member)
  rw [read_copyAll, if_pos member, found, Option.some_or]

theorem isCommitted_iff (spec : RenderSpec F32) (assets : Dir B) :
    isCommitted spec assets = true ↔ Present spec.name assets := by
  simp only [isCommitted, Present, filesOf, List.all_eq_true, List.forall_mem_map]
  rfl

/-! Tier 1. -/

section Tiers

variable {libraries : Libraries F32 B} {machine : Machine F32 B} {spec : RenderSpec F32}

theorem rewriteFile_ok {f : B → Option B} {source target : String} {dir dir' : Dir B}
    (h : rewriteFile f source target dir = .ok dir') :
    (dir.read source).isSome ∧ ∃ content, dir' = dir.write target content := by
  unfold rewriteFile at h
  split at h
  · rename_i content found
    obtain ⟨old, read, -⟩ := Option.bind_eq_some_iff.mp found
    cases h
    exact ⟨by rw [read]; rfl, content, rfl⟩
  · cases h

theorem applyPadding_ok {file : String} {dir dir' : Dir B}
    (h : applyPadding libraries spec file dir = .ok dir') :
    dir' = dir ∨ ∃ content, dir' = dir.write file content := by
  unfold applyPadding at h
  split at h
  · cases h
    exact .inl rfl
  · exact .inr (rewriteFile_ok h).2

theorem finalizeSfsymAssets_ok {sfsym : Sfsym F32 B} {dir dir' : Dir B}
    (h : finalizeSfsymAssets libraries sfsym spec dir = .ok dir') :
    SameOutside spec.name dir dir' ∧ Present spec.name dir' := by
  have light : spec.file "light.png" ∈ filesOf spec.name := file_mem spec (by decide)
  have dark : spec.file "dark.png" ∈ filesOf spec.name := file_mem spec (by decide)
  have svg : spec.file "svg" ∈ filesOf spec.name := file_mem spec (by decide)
  obtain ⟨padded, first, h⟩ := bind_eq_ok.mp h
  obtain ⟨inverted, second, third⟩ := bind_eq_ok.mp h
  obtain ⟨hasLight, darkContent, rfl⟩ := rewriteFile_ok second
  obtain ⟨hasSvg, svgContent, rfl⟩ := rewriteFile_ok third
  have start : SameOutside spec.name dir padded := by
    rcases applyPadding_ok first with rfl | ⟨content, rfl⟩
    · exact fun _ _ => rfl
    · exact sameOutside_write dir light content
  refine ⟨(start.trans (sameOutside_write _ dark _)).trans (sameOutside_write _ svg _), ?_⟩
  intro file member
  simp only [filesOf, parts, List.map_cons, List.map_nil, List.mem_cons, List.not_mem_nil,
    or_false] at member
  rcases member with rfl | rfl | rfl
  · exact isSome_write (isSome_write hasLight _ _) _ _
  · refine isSome_write ?_ _ _
    show ((padded.write (spec.file "dark.png") darkContent).read (spec.file "dark.png")).isSome
    rw [read_write_self]
    rfl
  · show ((Dir.write _ (spec.file "svg") svgContent).read (spec.file "svg")).isSome
    rw [read_write_self]
    rfl

/-! Copies between the directories, where the file system lets all of them through. -/

structure Machine.Sound (machine : Machine F32 B) : Prop where
  createsAssets : machine.createsAssets = true
  copies : ∀ file, machine.copies file = true

theorem copyFile_eq (sound : machine.Sound) (file : String) (source target : Dir B) :
    copyFile machine file source target = (source.read file).map (target.write file) := by
  rw [copyFile, if_pos (sound.copies file)]

theorem copyToAssetsDir_eq (sound : machine.Sound) {p : Progress F32 B}
    (present : Present spec.name p.symbolDir) :
    copyToAssetsDir machine spec p =
      { p with assetsDir := p.symbolDir.copyAll (filesOf spec.name) p.assetsDir } := by
  rw [copyToAssetsDir, if_pos sound.createsAssets]
  have each : ∀ exts : List String, (∀ ext ∈ exts, (p.symbolDir.read (spec.file ext)).isSome) →
      ∀ assets : Dir B,
        exts.foldl (mirrorPart machine spec) { p with assetsDir := assets } =
        { p with assetsDir := p.symbolDir.copyAll (exts.map spec.file) assets } := by
    intro exts
    induction exts with
    | nil => exact fun _ _ => rfl
    | cons ext exts ih =>
      intro found assets
      rw [List.forall_mem_cons] at found
      obtain ⟨content, read⟩ := Option.isSome_iff_exists.mp found.1
      rw [List.foldl_cons, mirrorPart, copyFile_eq sound]
      simp only [read, Option.map_some]
      rw [ih found.2]
      simp [Dir.copyAll, read]
  exact each parts (fun ext part => present _ (file_mem spec part)) p.assetsDir

theorem copyParts_eq (sound : machine.Sound) (exts : List String) {p : Progress F32 B}
    (present : ∀ ext ∈ exts, (p.assetsDir.read (spec.file ext)).isSome) :
    copyParts machine spec exts p =
      (true, { p with symbolDir := p.assetsDir.copyAll (exts.map spec.file) p.symbolDir }) := by
  induction exts generalizing p with
  | nil => rfl
  | cons ext exts ih =>
    rw [List.forall_mem_cons] at present
    obtain ⟨content, read⟩ := Option.isSome_iff_exists.mp present.1
    rw [copyParts, copyFile_eq sound]
    simp only [read, Option.map_some]
    rw [ih (p := { p with symbolDir := p.symbolDir.write (spec.file ext) content }) present.2]
    simp [Dir.copyAll, read]

theorem tryCopyFromAssets_eq (sound : machine.Sound) {p : Progress F32 B}
    (present : Present spec.name p.assetsDir) :
    tryCopyFromAssets machine spec p =
      (true, { p with symbolDir := p.assetsDir.copyAll (filesOf spec.name) p.symbolDir }) := by
  rw [tryCopyFromAssets, if_pos ((isCommitted_iff spec p.assetsDir).mpr present)]
  exact copyParts_eq sound parts (fun ext part => present _ (file_mem spec part))

theorem tryCopyFromAssets_absent {p : Progress F32 B} (absent : ¬ Present spec.name p.assetsDir) :
    tryCopyFromAssets machine spec p = (false, p) := by
  rw [tryCopyFromAssets, if_neg (fun committed => absent ((isCommitted_iff _ _).mp committed))]

/-! Tier 3. -/

/-- Whether an image of a fallback can be made, and what it holds, is settled by the symbol and
the icon alone. -/
theorem writeLucidePng_cases (libraries : Libraries F32 B) (spec : RenderSpec F32) (svg : Str)
    (file color : String) :
    (∃ panic, ∀ dir, writeLucidePng libraries spec svg file color dir = .error panic) ∨
      ∃ content, ∀ dir,
        writeLucidePng libraries spec svg file color dir = .ok (dir.write file content) := by
  cases image : libraries.rasterize spec (colored svg color) with
  | none => exact .inl ⟨.unreadable file, fun dir => by rw [writeLucidePng, image]⟩
  | some png =>
    have made : ∀ dir, writeLucidePng libraries spec svg file color dir =
        applyPadding libraries spec file (dir.write file png) := fun dir => by
      rw [writeLucidePng, image]
    by_cases fills : spec.canvasPx ≤ libraries.floats.innerSize spec.size spec.padding * 2
    · refine .inr ⟨png, fun dir => ?_⟩
      rw [made, applyPadding, if_pos fills]
    · cases padded : libraries.composite spec.canvasPx png with
      | none =>
        refine .inl ⟨.unreadable file, fun dir => ?_⟩
        rw [made, applyPadding, if_neg fills, rewriteFile, read_write_self, Option.bind_some,
          padded]
      | some content =>
        refine .inr ⟨content, fun dir => ?_⟩
        rw [made, applyPadding, if_neg fills, rewriteFile, read_write_self, Option.bind_some,
          padded]
        simp only [write_write]

def putLucide (libraries : Libraries F32 B) (spec : RenderSpec F32) (svg : Str) (light dark : B)
    (dir : Dir B) : Dir B :=
  ((dir.write (spec.file "svg") (libraries.ofText (Svg.rewriteSvgTag svg none))).write
    (spec.file "light.png") light).write (spec.file "dark.png") dark

theorem writeLucideAssets_cases (libraries : Libraries F32 B) (spec : RenderSpec F32)
    (svg : Str) :
    (∃ panic, ∀ dir, writeLucideAssets libraries spec svg dir = .error panic) ∨
      ∃ light dark, ∀ dir, writeLucideAssets libraries spec svg dir =
        .ok (putLucide libraries spec svg light dark dir) := by
  rcases writeLucidePng_cases libraries spec svg (spec.file "light.png") "#000000" with
    ⟨panic, fails⟩ | ⟨light, made⟩
  · exact .inl ⟨panic, fun dir => by rw [writeLucideAssets, fails]; rfl⟩
  · rcases writeLucidePng_cases libraries spec svg (spec.file "dark.png") "#ffffff" with
      ⟨panic, fails⟩ | ⟨dark, made'⟩
    · exact .inl ⟨panic, fun dir => by rw [writeLucideAssets, made, ok_bind, fails]⟩
    · exact .inr ⟨light, dark, fun dir => by rw [writeLucideAssets, made, ok_bind, made']; rfl⟩

theorem sameOutside_putLucide (svg : Str) (light dark : B) (dir : Dir B) :
    SameOutside spec.name dir (putLucide libraries spec svg light dark dir) :=
  ((sameOutside_write _ (file_mem spec (by decide)) _).trans
    (sameOutside_write _ (file_mem spec (by decide)) _)).trans
    (sameOutside_write _ (file_mem spec (by decide)) _)

theorem read_putLucide (svg : Str) (light dark : B) {file : String}
    (member : file ∈ filesOf spec.name) : ∃ content, ∀ dir : Dir B,
      (putLucide libraries spec svg light dark dir).read file = some content := by
  simp only [filesOf, parts, List.map_cons, List.map_nil, List.mem_cons, List.not_mem_nil,
    or_false] at member
  unfold putLucide
  simp only [read_write]
  by_cases isDark : file = spec.file "dark.png"
  · exact ⟨dark, fun dir => if_pos isDark⟩
  · by_cases isLight : file = spec.file "light.png"
    · exact ⟨light, fun dir => by rw [if_neg isDark, if_pos isLight]⟩
    · have isSvg : file = spec.file "svg" := by
        rcases member with same | same | same
        · exact absurd same isLight
        · exact absurd same isDark
        · exact same
      exact ⟨_, fun dir => by rw [if_neg isDark, if_neg isLight, if_pos isSvg]⟩

end Tiers

/-! What the text of an SVG becomes. -/

section Svg

variable {libraries : Libraries F32 B} {spec : RenderSpec F32} {dir dir' : Dir B}

theorem file_ne {a b : String} (apart : a ≠ b) (spec : RenderSpec F32) :
    spec.file a ≠ spec.file b := by
  intro same
  apply apart
  apply String.toList_injective
  have texts := congrArg String.toList same
  simpa [RenderSpec.file, fileName] using texts

/-- What the renderer drew is read back as the normalized document. -/
theorem finalizeSfsymAssets_svg {sfsym : Sfsym F32 B} {content : B} {svg : Str}
    {d : Svg.Document} {viewbox : Option Svg.ViewBox}
    (finalized : finalizeSfsymAssets libraries sfsym spec dir = .ok dir')
    (read : dir.read (spec.file "svg") = some content) (drawn : libraries.text content = some svg)
    (document : Svg.recolor svg = d.text)
    (box : sfsym.viewBox spec = viewbox.map Subtype.val) :
    (dir'.read (spec.file "svg")).bind libraries.text = some (d.normalized viewbox).text := by
  obtain ⟨padded, first, rest⟩ := bind_eq_ok.mp finalized
  obtain ⟨inverted, second, third⟩ := bind_eq_ok.mp rest
  have light : spec.file "svg" ≠ spec.file "light.png" := file_ne (by decide) spec
  have dark : spec.file "svg" ≠ spec.file "dark.png" := file_ne (by decide) spec
  have kept : inverted.read (spec.file "svg") = some content := by
    obtain ⟨-, inverse, rfl⟩ := rewriteFile_ok second
    rw [read_write_of_ne _ dark]
    rcases applyPadding_ok first with rfl | ⟨image, rfl⟩
    · exact read
    · rw [read_write_of_ne _ light, read]
  rw [applySvgPostprocess, rewriteFile, kept, Option.bind_some, drawn, Option.map_some] at third
  cases third
  rw [read_write_self, Option.bind_some, libraries.text_ofText, Svg.applySvgPostprocess, document,
    box, Svg.rewriteSvgTag_document]

/-- So is a fallback, which keeps its own view box. -/
theorem writeLucideAssets_svg {d : Svg.Document}
    (written : writeLucideAssets libraries spec d.text dir = .ok dir') :
    (dir'.read (spec.file "svg")).bind libraries.text = some (d.normalized none).text := by
  have light : spec.file "svg" ≠ spec.file "light.png" := file_ne (by decide) spec
  have dark : spec.file "svg" ≠ spec.file "dark.png" := file_ne (by decide) spec
  rcases writeLucideAssets_cases libraries spec d.text with
    ⟨panic, fails⟩ | ⟨lightPng, darkPng, made⟩
  · cases (fails dir).symm.trans written
  · cases (made dir).symm.trans written
    rw [putLucide, read_write_of_ne _ dark, read_write_of_ne _ light, read_write_self,
      Option.bind_some]
    exact (libraries.text_ofText _).trans
      (congrArg some (Svg.rewriteSvgTag_document none d))

end Svg

/-! One symbol. -/

section Turn

variable (libraries : Libraries F32 B) (machine : Machine F32 B) (succeeded : List String)
  (manifest : Option Entries)

def Rendered (name : String) : Prop := machine.sfsym.isSome = true ∧ name ∈ succeeded

/-- What the check prints where a symbol was restored although there is a renderer. -/
def restoredWarnings (spec : RenderSpec F32) (assets : Dir B) : List Warning :=
  (if machine.sfsym.isSome then [.fellBack spec.name] else []) ++
    checkCommittedAsset libraries.floats spec assets manifest machine.sfsym.isSome

/-- What a turn of the loop can do, where the file system lets all copies through. -/
inductive Turn (p : Progress F32 B) (spec : RenderSpec F32) : Progress F32 B → Prop
  | refreshed (dir : Dir B) (rendered : Rendered machine succeeded spec.name)
      (refresh : machine.refresh = true) (present : Present spec.name dir)
      (frame : SameOutside spec.name p.symbolDir dir) :
      Turn p spec ({ p with
        symbolDir := dir
        assetsDir := dir.copyAll (filesOf spec.name) p.assetsDir
        newManifest := p.newManifest ++ [manifestEntry libraries.floats spec] }.resolve spec .sf)
  | rendered (dir : Dir B) (rendered : Rendered machine succeeded spec.name)
      (refresh : machine.refresh = false) (present : Present spec.name dir)
      (frame : SameOutside spec.name p.symbolDir dir) :
      Turn p spec (({ p with symbolDir := dir }.print
        (checkCommittedAsset libraries.floats spec p.assetsDir manifest true)).resolve spec .sf)
  | restored (unrendered : ¬ Rendered machine succeeded spec.name)
      (present : Present spec.name p.assetsDir) :
      Turn p spec (({ p with
        symbolDir := p.assetsDir.copyAll (filesOf spec.name) p.symbolDir }.print
          (restoredWarnings libraries machine manifest spec p.assetsDir)).resolve spec .cached)
  | fallback (icon : String) (svg : Str) (light dark : B)
      (unrendered : ¬ Rendered machine succeeded spec.name)
      (absent : ¬ Present spec.name p.assetsDir) (chosen : spec.lucide = some icon)
      (content : libraries.lucideContent icon = some svg)
      (made : ∀ dir, writeLucideAssets libraries spec svg dir =
        .ok (putLucide libraries spec svg light dark dir)) :
      Turn p spec (({ p with
        symbolDir := putLucide libraries spec svg light dark p.symbolDir }.print
          [.usingLucide spec.name icon]).resolve spec .lucide)
  | missing (unrendered : ¬ Rendered machine succeeded spec.name)
      (absent : ¬ Present spec.name p.assetsDir) (unset : spec.lucide = none) :
      Turn p spec ((p.print [.omitted spec.name]).resolve spec .missing)

variable {libraries machine succeeded manifest} {p q : Progress F32 B} {spec : RenderSpec F32}

theorem rendered_iff {name : String} : Rendered machine succeeded name ↔
    ∃ sfsym, (if name ∈ succeeded then machine.sfsym else none) = some sfsym := by
  unfold Rendered
  by_cases member : name ∈ succeeded
  · rw [if_pos member, Option.isSome_iff_exists]
    simp [member]
  · simp [member]

theorem resolveSymbol_unrendered (unrendered : ¬ Rendered machine succeeded spec.name) :
    resolveSymbol libraries machine succeeded manifest p spec =
      if (tryCopyFromAssets machine spec p).1 then
        .ok (((tryCopyFromAssets machine spec p).2.print (restoredWarnings libraries machine
          manifest spec (tryCopyFromAssets machine spec p).2.assetsDir)).resolve spec .cached)
      else resolveFallback libraries (tryCopyFromAssets machine spec p).2 spec := by
  have none' : (if spec.name ∈ succeeded then machine.sfsym else none) = none := by
    rw [Option.eq_none_iff_forall_ne_some]
    exact fun sfsym found => unrendered (rendered_iff.mpr ⟨sfsym, found⟩)
  rw [resolveSymbol, none']
  rfl

theorem resolveSymbol_restored (sound : machine.Sound)
    (unrendered : ¬ Rendered machine succeeded spec.name)
    (present : Present spec.name p.assetsDir) :
    resolveSymbol libraries machine succeeded manifest p spec =
      .ok (({ p with
        symbolDir := p.assetsDir.copyAll (filesOf spec.name) p.symbolDir }.print
          (restoredWarnings libraries machine manifest spec p.assetsDir)).resolve spec .cached) := by
  rw [resolveSymbol_unrendered unrendered, tryCopyFromAssets_eq sound present]
  rfl

theorem resolveSymbol_absent (unrendered : ¬ Rendered machine succeeded spec.name)
    (absent : ¬ Present spec.name p.assetsDir) :
    resolveSymbol libraries machine succeeded manifest p spec =
      resolveFallback libraries p spec := by
  rw [resolveSymbol_unrendered unrendered, tryCopyFromAssets_absent absent]
  rfl

theorem turn_of_resolveSymbol (sound : machine.Sound)
    (h : resolveSymbol libraries machine succeeded manifest p spec = .ok q) :
    Turn libraries machine succeeded manifest p spec q := by
  by_cases rendered : Rendered machine succeeded spec.name
  · obtain ⟨sfsym, found⟩ := rendered_iff.mp rendered
    rw [resolveSymbol, found] at h
    obtain ⟨dir, finalized, h⟩ := bind_eq_ok.mp h
    obtain ⟨frame, present⟩ := finalizeSfsymAssets_ok finalized
    cases refresh : machine.refresh with
    | true =>
      rw [refresh, if_pos rfl, copyToAssetsDir_eq sound (p := { p with symbolDir := dir }) present]
        at h
      cases h
      exact .refreshed dir rendered refresh present frame
    | false =>
      rw [refresh, if_neg Bool.false_ne_true] at h
      cases h
      exact .rendered dir rendered refresh present frame
  · by_cases present : Present spec.name p.assetsDir
    · rw [resolveSymbol_restored sound rendered present] at h
      cases h
      exact .restored rendered present
    · rw [resolveSymbol_absent rendered present, resolveFallback] at h
      cases chosen : spec.lucide with
      | none =>
        rw [chosen] at h
        cases h
        exact .missing rendered present chosen
      | some icon =>
        cases content : libraries.lucideContent icon with
        | none => simp only [chosen, content, reduceCtorEq] at h
        | some svg =>
          simp only [chosen, content] at h
          obtain ⟨dir, written, h⟩ := bind_eq_ok.mp h
          rcases writeLucideAssets_cases libraries spec svg with ⟨panic, fails⟩ | ⟨light, dark, made⟩
          · rw [fails] at written
            cases written
          · rw [made] at written
            cases written
            cases h
            exact .fallback icon svg light dark rendered present chosen content made

end Turn

end Polykit.Icons
