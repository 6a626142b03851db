/- Module: Polykit/Icons/Refresh
   generality: I
   source: crates/polysym-build/src/lib.rs
   digest: What a refresh leaves in the committed cache, file by file. -/

import Polykit.Icons.Tiers

set_option autoImplicit false
set_option relaxedAutoImplicit false

namespace Polykit.Icons

open Polykit.Lib.Fallible
open Polykit.Lib.Files

variable {F32 B : Type} {libraries : Libraries F32 B} {machine : Machine F32 B}
  {succeeded : List String} {manifest : Option Entries} {p q : Progress F32 B}
  {spec : RenderSpec F32}

def renderedSpecs (p : Progress F32 B) : List (RenderSpec F32) :=
  (p.resolutions.filter (fun entry => entry.2 = .sf)).map Prod.fst

theorem turn_unrendered (turn : Turn libraries machine succeeded manifest p spec q)
    (unrendered : ¬ Rendered machine succeeded spec.name) :
    q.assetsDir = p.assetsDir ∧ q.newManifest = p.newManifest ∧
      (∃ res ≠ .sf, q.resolutions = p.resolutions ++ [(spec, res)]) ∧
      SameOutside spec.name p.symbolDir q.symbolDir := by
  cases turn with
  | refreshed dir rendered => exact absurd rendered unrendered
  | rendered dir rendered => exact absurd rendered unrendered
  | restored =>
    exact ⟨rfl, rfl, ⟨.cached, by decide, rfl⟩, sameOutside_copyAll p.assetsDir p.symbolDir spec.name⟩
  | fallback icon svg light dark =>
    exact ⟨rfl, rfl, ⟨.lucide, by decide, rfl⟩, sameOutside_putLucide svg light dark p.symbolDir⟩
  | missing => exact ⟨rfl, rfl, ⟨.missing, by decide, rfl⟩, fun _ _ => rfl⟩

theorem turn_resolutions (turn : Turn libraries machine succeeded manifest p spec q) :
    ∃ res, q.resolutions = p.resolutions ++ [(spec, res)] := by
  cases turn <;> exact ⟨_, rfl⟩

/-- Each symbol is resolved once, in the order of the list. -/
theorem run_specs (sound : machine.Sound) {specs : List (RenderSpec F32)}
    (run : specs.foldlM (resolveSymbol libraries machine succeeded manifest) p = .ok q) :
    q.resolutions.map Prod.fst = p.resolutions.map Prod.fst ++ specs := by
  induction specs generalizing p with
  | nil =>
    cases run
    exact (List.append_nil _).symm
  | cons spec specs ih =>
    rw [List.foldlM_cons] at run
    obtain ⟨next, first, rest⟩ := bind_eq_ok.mp run
    obtain ⟨res, more⟩ := turn_resolutions (turn_of_resolveSymbol sound first)
    rw [ih rest, more]
    simp

/-! The loop of a refresh. -/

structure Mirrored (libraries : Libraries F32 B) (machine : Machine F32 B)
    (succeeded : List String) (assets : Dir B) (p : Progress F32 B) : Prop where
  recorded : p.newManifest = (renderedSpecs p).map (manifestEntry libraries.floats)
  tier : ∀ entry ∈ p.resolutions, entry.2 = .sf ↔ Rendered machine succeeded entry.1.name
  copied : ∀ spec ∈ renderedSpecs p, ∀ file ∈ filesOf spec.name,
    (p.symbolDir.read file).isSome ∧ p.assetsDir.read file = p.symbolDir.read file
  untouched : ∀ file, (∀ spec ∈ renderedSpecs p, file ∉ filesOf spec.name) →
    p.assetsDir.read file = assets.read file

theorem mem_renderedSpecs {spec : RenderSpec F32} :
    spec ∈ renderedSpecs p ↔ (spec, .sf) ∈ p.resolutions := by
  simp [renderedSpecs]

theorem Mirrored.turn {assets : Dir B} (refresh : machine.refresh = true)
    (mirrored : Mirrored libraries machine succeeded assets p)
    (turn : Turn libraries machine succeeded manifest p spec q) :
    Mirrored libraries machine succeeded assets q := by
  by_cases rendered : Rendered machine succeeded spec.name
  · cases turn with
    | rendered dir _ plain => exact absurd (plain.symm.trans refresh) Bool.false_ne_true
    | restored unrendered => exact absurd rendered unrendered
    | fallback icon svg light dark unrendered => exact absurd rendered unrendered
    | missing unrendered => exact absurd rendered unrendered
    | refreshed dir _ _ present frame =>
      have more : renderedSpecs ({ p with
          symbolDir := dir
          assetsDir := dir.copyAll (filesOf spec.name) p.assetsDir
          newManifest := p.newManifest ++ [manifestEntry libraries.floats spec] }.resolve spec
            .sf) = renderedSpecs p ++ [spec] := by
        simp [renderedSpecs, Progress.resolve]
      refine ⟨?_, ?_, ?_, ?_⟩
      · rw [more, List.map_append, ← mirrored.recorded]
        rfl
      · intro entry member
        rcases List.mem_append.mp member with before | now
        · exact mirrored.tier entry before
        · rw [List.mem_singleton.mp now]
          exact iff_of_true rfl rendered
      · rw [more]
        intro other member file among
        by_cases own : file ∈ filesOf spec.name
        · exact ⟨present file own, read_copyAll_of_present present p.assetsDir own⟩
        · have before : other ∈ renderedSpecs p := by
            rcases List.mem_append.mp member with before | now
            · exact before
            · rw [List.mem_singleton.mp now] at among
              exact absurd among own
          obtain ⟨held, same⟩ := mirrored.copied other before file among
          rw [← frame file own] at held same
          exact ⟨held, (sameOutside_copyAll dir p.assetsDir spec.name file own).trans same⟩
      · rw [more]
        intro file apart
        have own : file ∉ filesOf spec.name := apart spec (by simp)
        have before := mirrored.untouched file fun other member => apart other (by simp [member])
        exact (sameOutside_copyAll dir p.assetsDir spec.name file own).trans before
  · obtain ⟨assetsSame, manifestSame, ⟨res, notSf, more⟩, frame⟩ := turn_unrendered turn rendered
    have same : renderedSpecs q = renderedSpecs p := by
      simp [renderedSpecs, more, notSf]
    refine ⟨?_, ?_, ?_, ?_⟩
    · rw [same, manifestSame, mirrored.recorded]
    · rw [more]
      intro entry member
      rcases List.mem_append.mp member with before | now
      · exact mirrored.tier entry before
      · rw [List.mem_singleton.mp now]
        exact iff_of_false notSf rendered
    · rw [same, assetsSame]
      intro other member file among
      have own : file ∉ filesOf spec.name := by
        intro own
        have renderedOther := (mirrored.tier _ (mem_renderedSpecs.mp member)).mp rfl
        rw [name_eq_of_mem among own] at renderedOther
        exact rendered renderedOther
      rw [frame file own]
      exact mirrored.copied other member file among
    · rw [same, assetsSame]
      exact mirrored.untouched

/-! The whole build. -/

variable {symbolPath : String} {specs : List (RenderSpec F32)} {symbolDir assets : Dir B}
  {out : Progress F32 B}

def startOf (libraries : Libraries F32 B) (machine : Machine F32 B) (symbolPath : String)
    (specs : List (RenderSpec F32)) (symbolDir assets : Dir B) : Progress F32 B :=
  let tier1 := runTier1 libraries machine symbolPath specs symbolDir
  ⟨tier1.2.1, assets, [], [],
    tier1.2.2 ++ manifestWarnings machine (readManifestFile libraries assets) assets⟩

/-- The turns of a build, in a file system that lets all copies through. -/
def loop (libraries : Libraries F32 B) (machine : Machine F32 B) (symbolPath : String)
    (specs : List (RenderSpec F32)) (symbolDir assets : Dir B) :
    Except Panic (Progress F32 B) :=
  specs.foldlM (resolveSymbol libraries machine
    (runTier1 libraries machine symbolPath specs symbolDir).1
    (readManifestFile libraries assets).entries?)
    (startOf libraries machine symbolPath specs symbolDir assets)

theorem generateWithOpts_eq (icons : badLucide libraries specs = []) :
    generateWithOpts libraries machine symbolPath specs symbolDir assets =
      loop libraries machine symbolPath specs symbolDir assets >>=
        finishRefresh libraries machine specs :=
  if_pos icons

theorem generateWithOpts_ok
    (h : generateWithOpts libraries machine symbolPath specs symbolDir assets = .ok out) :
    badLucide libraries specs = [] ∧ ∃ resolved,
      loop libraries machine symbolPath specs symbolDir assets = .ok resolved ∧
        finishRefresh libraries machine specs resolved = .ok out := by
  by_cases icons : badLucide libraries specs = []
  · rw [generateWithOpts_eq icons] at h
    exact ⟨icons, bind_eq_ok.mp h⟩
  · rw [generateWithOpts, if_neg icons] at h
    cases h

theorem loop_specs (sound : machine.Sound)
    (h : loop libraries machine symbolPath specs symbolDir assets = .ok out) :
    out.resolutions.map Prod.fst = specs :=
  (run_specs sound h).trans (List.nil_append specs)

theorem loop_mirrored (sound : machine.Sound) (refresh : machine.refresh = true)
    (h : loop libraries machine symbolPath specs symbolDir assets = .ok out) :
    Mirrored libraries machine (runTier1 libraries machine symbolPath specs symbolDir).1
      assets out := by
  have start : Mirrored libraries machine
      (runTier1 libraries machine symbolPath specs symbolDir).1 assets
      (startOf libraries machine symbolPath specs symbolDir assets) :=
    ⟨rfl, fun _ member => absurd member List.not_mem_nil,
      fun _ member => absurd member List.not_mem_nil, fun _ _ => rfl⟩
  apply foldlM_invariant ?_ start h
  intro spec _ p q mirrored turned
  exact mirrored.turn refresh (turn_of_resolveSymbol sound turned)

theorem finishRefresh_ok (refresh : machine.refresh = true)
    (h : finishRefresh libraries machine specs p = .ok out) :
    out.symbolDir = p.symbolDir ∧ out.resolutions = p.resolutions ∧
      ∀ file, out.assetsDir.read file =
        if file = "manifest.txt" ∧ p.newManifest ≠ [] then
          some (libraries.ofText (manifestText p.newManifest))
        else if isOrphan specs file && machine.removes file then none
        else p.assetsDir.read file := by
  rw [finishRefresh, if_pos refresh] at h
  have pruned : ∀ file, (pruneOrphans machine specs p).assetsDir.read file =
      if isOrphan specs file && machine.removes file then none else p.assetsDir.read file := by
    intro file
    show (p.assetsDir.keep _).read file = _
    rw [read_keep]
    cases isOrphan specs file && machine.removes file <;> rfl
  by_cases empty : p.newManifest = []
  · have none' : (pruneOrphans machine specs p).newManifest.isEmpty = true := by
      rw [List.isEmpty_iff]
      exact empty
    rw [if_pos none'] at h
    cases h
    refine ⟨rfl, rfl, fun file => ?_⟩
    have unwritten : ¬ (file = "manifest.txt" ∧ p.newManifest ≠ []) := fun both => both.2 empty
    rw [if_neg unwritten, pruned]
  · have some' : ¬ (pruneOrphans machine specs p).newManifest.isEmpty = true := by
      rw [List.isEmpty_iff]
      exact empty
    rw [if_neg some', writeManifest] at h
    split at h
    · cases h
      refine ⟨rfl, rfl, fun file => ?_⟩
      show (Dir.write _ "manifest.txt" _).read file = _
      by_cases own : file = "manifest.txt"
      · rw [own, read_write_self, if_pos ⟨rfl, empty⟩]
        rfl
      · have other : ¬ (file = "manifest.txt" ∧ p.newManifest ≠ []) := fun both => own both.1
        rw [if_neg other, read_write_of_ne _ own, pruned]
    · cases h

theorem finishRefresh_printed (h : finishRefresh libraries machine specs p = .ok out) :
    ∃ orphans : List String, out.printed = p.printed ++ orphans.map (fun file =>
      if machine.removes file then .pruned file else .pruneFailed file) := by
  unfold finishRefresh at h
  split at h
  · dsimp only at h
    split at h
    · cases h
      exact ⟨_, rfl⟩
    · unfold writeManifest at h
      split at h
      · cases h
        exact ⟨_, rfl⟩
      · cases h
  · cases h
    exact ⟨[], (List.append_nil _).symm⟩

theorem isOrphan_listed (member : spec ∈ specs) {file : String}
    (own : file ∈ filesOf spec.name) : isOrphan specs file = false := by
  have listed : spec.name.toList ∈ specs.map (fun spec => spec.name.toList) :=
    List.mem_map_of_mem member
  simp only [isOrphan, fileStem_of_mem own, Option.any_some, listed, not_true_eq_false,
    decide_false, Bool.and_false]

theorem renderedSpecs_subset (sound : machine.Sound)
    (h : loop libraries machine symbolPath specs symbolDir assets = .ok out)
    (member : spec ∈ renderedSpecs out) : spec ∈ specs := by
  rw [← loop_specs sound h]
  exact List.mem_map_of_mem (mem_renderedSpecs.mp member)

theorem renderedSpecs_listed (sound : machine.Sound) (refresh : machine.refresh = true)
    (h : generateWithOpts libraries machine symbolPath specs symbolDir assets = .ok out)
    (member : spec ∈ renderedSpecs out) : spec ∈ specs := by
  obtain ⟨-, resolved, run, finish⟩ := generateWithOpts_ok h
  rw [renderedSpecs, (finishRefresh_ok refresh finish).2.1] at member
  exact renderedSpecs_subset sound run member

/-- A refresh writes the manifest of what was rendered, mirrors the rendered files, removes the
files of symbols that are no longer listed, and leaves every other file of the cache alone. -/
theorem refresh_exact (sound : machine.Sound) (refresh : machine.refresh = true)
    (h : generateWithOpts libraries machine symbolPath specs symbolDir assets = .ok out)
    (file : String) :
    out.assetsDir.read file =
      if file = "manifest.txt" ∧ renderedSpecs out ≠ [] then
        some (libraries.ofText (manifestText
          ((renderedSpecs out).map (manifestEntry libraries.floats))))
      else if ∃ spec ∈ renderedSpecs out, file ∈ filesOf spec.name then out.symbolDir.read file
      else if isOrphan specs file && machine.removes file then none
      else assets.read file := by
  obtain ⟨-, resolved, run, finish⟩ := generateWithOpts_ok h
  obtain ⟨symbols, resolutions, cache⟩ := finishRefresh_ok refresh finish
  have mirrored := loop_mirrored sound refresh run
  have same : renderedSpecs out = renderedSpecs resolved := by
    rw [renderedSpecs, resolutions, renderedSpecs]
  rw [cache, same, symbols, mirrored.recorded]
  simp only [ne_eq, List.map_eq_nil_iff]
  by_cases written : file = "manifest.txt" ∧ ¬ renderedSpecs resolved = []
  · rw [if_pos written, if_pos written]
  · rw [if_neg written, if_neg written]
    by_cases own : ∃ spec ∈ renderedSpecs resolved, file ∈ filesOf spec.name
    · rw [if_pos own]
      obtain ⟨spec, member, among⟩ := own
      have kept := isOrphan_listed (renderedSpecs_subset sound run member) among
      rw [kept, Bool.false_and, if_neg Bool.false_ne_true]
      exact (mirrored.copied spec member file among).2
    · have apart : ∀ spec ∈ renderedSpecs resolved, file ∉ filesOf spec.name :=
        fun spec member among => own ⟨spec, member, among⟩
      rw [if_neg own, mirrored.untouched file apart]

def described : Libraries Nat Log.Clean.Str where
  floats := tenThousandths
  ofText := id
  text := some
  text_ofText _ := rfl
  composite _ png := some ("padded ".toList ++ png)
  invertRgb png := some ("inverted ".toList ++ png)
  lucideIcons := ["trash-2"]
  lucideContent icon := if icon = "trash-2" then some "<svg/>".toList else none
  rasterize _ svg := some ("image of ".toList ++ svg)

def drawing (name : String) (refresh : Bool) : Machine Nat Log.Clean.Str where
  sfsym := some
    { batch := fun script dir =>
        if " -f png".toList <:+: script then
          (true, dir.write (fileName name "light.png") "light".toList)
        else (true, dir.write (fileName name "svg") "<svg/>".toList)
      viewBox := fun _ => none }
  refresh := refresh
  createsAssets := true
  copies _ := true
  removes _ := true
  writesManifest := true

theorem drawing_sound (name : String) (refresh : Bool) : (drawing name refresh).Sound :=
  ⟨rfl, fun _ => rfl⟩

def trashSpec : RenderSpec Nat := ⟨⟨"trash"⟩, 20, "regular", 1200, none⟩

/-- A symbol that was dropped from the list loses its files. -/
theorem refresh_exact_orphan : ∃ out,
    generateWithOpts described (drawing "trash" true) "out" [trashSpec] .empty
      (Dir.empty.write "bell.svg" "<svg/>".toList) = .ok out ∧
    out.assetsDir.read "bell.svg" = none := by
  cases h : generateWithOpts described (drawing "trash" true) "out" [trashSpec] .empty
      (Dir.empty.write "bell.svg" "<svg/>".toList) with
  | error panic =>
    have goes : (generateWithOpts described (drawing "trash" true) "out" [trashSpec] .empty
      (Dir.empty.write "bell.svg" "<svg/>".toList)).toBool = true := by decide +kernel
    rw [h] at goes
    cases goes
  | ok out =>
    refine ⟨out, rfl, ?_⟩
    have other : "bell.svg" ≠ "manifest.txt" := by decide
    have apart : ¬ ∃ spec ∈ renderedSpecs out, "bell.svg" ∈ filesOf spec.name := by
      rintro ⟨spec, rendered, own⟩
      have listed := renderedSpecs_listed (drawing_sound "trash" true) rfl h rendered
      rw [List.mem_singleton.mp listed] at own
      exact absurd own (by decide)
    rw [refresh_exact (drawing_sound "trash" true) rfl h "bell.svg",
      if_neg (fun both => other both.1), if_neg apart]
    exact if_pos (by decide)

end Polykit.Icons
