/- Module: Polykit/Icons/Drift
   generality: I
   source: crates/polysym-build/src/lib.rs
   digest: After a refresh a build warns of a symbol exactly if its settings have changed. -/

import Polykit.Icons.Rebuild

set_option autoImplicit false
set_option relaxedAutoImplicit false

namespace Polykit.Icons

open Polykit.Lib.Fallible
open Polykit.Lib.Files
open Polykit.Log.Clean (Str)

variable {F32 B : Type} {libraries : Libraries F32 B} {machine later : Machine F32 B}
  {succeeded : List String} {manifest : Option Entries} {p q : Progress F32 B}
  {spec : RenderSpec F32}

def Warning.isStale : Warning → Bool
  | .formatOutdated _ => true
  | .manifestMalformed _ => true
  | .noManifest => true
  | .missingFiles _ _ => true
  | .drifted _ _ _ => true
  | .unlisted _ => true
  | _ => false

def SameSettings (floats : Floats F32) (a b : RenderSpec F32) : Prop :=
  a.size = b.size ∧ a.weight = b.weight ∧ floats.fixed4 a.padding = floats.fixed4 b.padding

theorem mem_check {floats : Floats F32} {assets : Dir B} {entries : Entries} {w : Warning} :
    w ∈ checkCommittedAsset floats spec assets (some entries) true ↔
      (¬ Present spec.name assets ∧ ∃ exts, w = .missingFiles spec.name exts ∧
        exts = parts.filter (fun ext => (assets.read (spec.file ext)).isNone)) ∨
      Present spec.name assets ∧
        ((∃ signature, stored entries spec.name = some signature ∧
            signature ≠ specSignature floats spec ∧
            w = .drifted spec.name signature (specSignature floats spec)) ∨
          stored entries spec.name = none ∧ w = .unlisted spec.name) := by
  have complete : (parts.filter (fun ext => (assets.read (spec.file ext)).isNone)).isEmpty = true ↔
      Present spec.name assets := by
    rw [← isCommitted_iff, isCommitted, List.isEmpty_iff, List.filter_eq_nil_iff, List.all_eq_true]
    simp [Option.isSome_iff_ne_none]
  unfold checkCommittedAsset
  rw [Bool.not_true, if_neg Bool.false_ne_true]
  dsimp only
  by_cases present : Present spec.name assets
  · rw [complete.mpr present, Bool.not_true, if_neg Bool.false_ne_true]
    simp only [present, not_true_eq_false, false_and, false_or, true_and]
    cases found : stored entries spec.name with
    | none => simp
    | some signature =>
      dsimp only
      by_cases same : signature = specSignature floats spec
      · rw [if_pos same]
        simp [same]
      · rw [if_neg same]
        simp [same]
  · have incomplete : (parts.filter (fun ext =>
        (assets.read (spec.file ext)).isNone)).isEmpty = false := by
      rw [Bool.eq_false_iff]
      exact fun none' => present (complete.mp none')
    rw [incomplete, Bool.not_false, if_pos rfl]
    simp [present]

/-! A build with the renderer that refreshes nothing. -/

theorem turn_stale (plain : machine.refresh = false) (available : machine.sfsym.isSome = true)
    (turn : Turn libraries machine succeeded manifest p spec q) :
    q.assetsDir = p.assetsDir ∧ ∀ w : Warning, w.isStale = true →
      (w ∈ q.printed ↔ w ∈ p.printed ∨
        (Rendered machine succeeded spec.name ∨ Present spec.name p.assetsDir) ∧
          w ∈ checkCommittedAsset libraries.floats spec p.assetsDir manifest true) := by
  cases turn with
  | refreshed dir rendered refresh => exact absurd (plain.symm.trans refresh) Bool.false_ne_true
  | rendered dir rendered =>
    refine ⟨rfl, fun w _ => ?_⟩
    show w ∈ p.printed ++ _ ↔ _
    rw [List.mem_append]
    simp [rendered]
  | restored unrendered present =>
    refine ⟨rfl, fun w stale => ?_⟩
    show w ∈ p.printed ++ _ ↔ _
    have other : w ≠ .fellBack spec.name := by
      rintro rfl
      exact Bool.false_ne_true stale
    rw [List.mem_append, restoredWarnings, available, if_pos rfl, List.singleton_append,
      List.mem_cons]
    simp [present, other]
  | fallback icon svg light dark unrendered absent =>
    refine ⟨rfl, fun w stale => ?_⟩
    show w ∈ p.printed ++ _ ↔ _
    have other : w ≠ .usingLucide spec.name icon := by
      rintro rfl
      exact Bool.false_ne_true stale
    rw [List.mem_append, List.mem_singleton]
    simp [unrendered, absent, other]
  | missing unrendered absent =>
    refine ⟨rfl, fun w stale => ?_⟩
    show w ∈ p.printed ++ _ ↔ _
    have other : w ≠ .omitted spec.name := by
      rintro rfl
      exact Bool.false_ne_true stale
    rw [List.mem_append, List.mem_singleton]
    simp [unrendered, absent, other]

theorem run_stale (sound : machine.Sound) (plain : machine.refresh = false)
    (available : machine.sfsym.isSome = true) {specs : List (RenderSpec F32)}
    (run : specs.foldlM (resolveSymbol libraries machine succeeded manifest) p = .ok q) :
    ∀ w : Warning, w.isStale = true →
      (w ∈ q.printed ↔ w ∈ p.printed ∨ ∃ spec ∈ specs,
        (Rendered machine succeeded spec.name ∨ Present spec.name p.assetsDir) ∧
          w ∈ checkCommittedAsset libraries.floats spec p.assetsDir manifest true) := by
  induction specs generalizing p with
  | nil =>
    cases run
    intro w _
    simp
  | cons spec specs ih =>
    rw [List.foldlM_cons] at run
    obtain ⟨next, first, rest⟩ := bind_eq_ok.mp run
    obtain ⟨cache, turned⟩ := turn_stale plain available (turn_of_resolveSymbol sound first)
    intro w stale
    rw [ih rest w stale, turned w stale, cache, or_assoc, List.exists_mem_cons_iff]

/-! A build after a refresh. -/

section Builds

variable {symbolPath : String} {specs : List (RenderSpec F32)} {symbolDir assets : Dir B}
  {first second : Progress F32 B}

theorem readManifestFile_refreshed (sound : machine.Sound) (refresh : machine.refresh = true)
    (named : ∀ spec ∈ specs, IsSymbolName spec.name)
    (oneLine : ∀ spec ∈ specs, '\n' ∉ spec.weight.toList)
    (h : generateWithOpts libraries machine symbolPath specs symbolDir assets = .ok first)
    (some' : renderedSpecs first ≠ []) :
    readManifestFile libraries first.assetsDir = .ok
      (((renderedSpecs first).map (manifestEntry libraries.floats)).mergeSort byName) := by
  have written := refresh_exact sound refresh h "manifest.txt"
  rw [if_pos ⟨rfl, some'⟩] at written
  have listed : ∀ entry ∈ (renderedSpecs first).map (manifestEntry libraries.floats),
      Listed entry := by
    rw [List.forall_mem_map]
    intro spec member
    have among := renderedSpecs_listed sound refresh h member
    exact listed_manifestEntry libraries.floats (named spec among) (oneLine spec among)
  rw [readManifestFile, written, Option.bind_some, libraries.text_ofText,
    readManifest_manifestText listed]

theorem present_rendered (sound : machine.Sound) (refresh : machine.refresh = true)
    (h : generateWithOpts libraries machine symbolPath specs symbolDir assets = .ok first)
    (member : spec ∈ renderedSpecs first) : Present spec.name first.assetsDir := by
  obtain ⟨-, resolved, run, finish⟩ := generateWithOpts_ok h
  rw [renderedSpecs, (finishRefresh_ok refresh finish).2.1, ← renderedSpecs] at member
  have rendered :=
    ((loop_mirrored sound refresh run).tier _ (mem_renderedSpecs.mp member)).mp rfl
  have listed := renderedSpecs_subset sound run member
  exact (refresh_settled sound refresh run finish listed).present rendered

theorem exists_specOf {specs : List (RenderSpec F32)} (member : spec ∈ specs) :
    ∃ recorded ∈ specs, specOf specs spec.name = some recorded ∧ recorded.name = spec.name := by
  obtain ⟨recorded, found⟩ : ∃ recorded, specOf specs spec.name = some recorded := by
    refine Option.isSome_iff_exists.mp (List.find?_isSome.mpr ⟨spec, ?_, beq_self_eq_true _⟩)
    exact List.mem_reverse.mpr member
  refine ⟨recorded, List.mem_reverse.mp (List.mem_of_find?_eq_some found), found, ?_⟩
  simpa using List.find?_some found

theorem build_stale {entries : Entries} (sound : machine.Sound) (plain : machine.refresh = false)
    (available : machine.sfsym.isSome = true)
    (read : readManifestFile libraries assets = .ok entries)
    (h : generateWithOpts libraries machine symbolPath specs symbolDir assets = .ok second)
    {w : Warning} (asks : w.isStale = true) :
    w ∈ second.printed ↔ ∃ spec ∈ specs,
      (Rendered machine (runTier1 libraries machine symbolPath specs symbolDir).1 spec.name ∨
        Present spec.name assets) ∧
        w ∈ checkCommittedAsset libraries.floats spec assets (some entries) true := by
  obtain ⟨-, resolved, run, finish⟩ := generateWithOpts_ok h
  rw [finishRefresh, plain, if_neg Bool.false_ne_true] at finish
  cases finish
  have start : w ∉ (startOf libraries machine symbolPath specs symbolDir assets).printed := by
    intro member
    rcases List.mem_append.mp member with batch | top
    · obtain ⟨variant, rfl⟩ := tier1_printed libraries machine symbolPath specs symbolDir w batch
      exact Bool.false_ne_true asks
    · rw [read] at top
      unfold manifestWarnings at top
      split at top <;> exact absurd top List.not_mem_nil
  have stale := run_stale sound plain available run w asks
  rw [read] at stale
  exact stale.trans (or_iff_right start)

/-- After a refresh, a build with the renderer warns that a symbol has drifted exactly if its
size, its weight or its padding is not what the refresh recorded last under its name. It finds
the manifest in order, and no rendered symbol unlisted or incomplete. -/
theorem drift_exact (sound : machine.Sound) (refresh : machine.refresh = true)
    (named : ∀ spec ∈ specs, IsSymbolName spec.name)
    (oneLine : ∀ spec ∈ specs, '\n' ∉ spec.weight.toList)
    (h : generateWithOpts libraries machine symbolPath specs symbolDir assets = .ok first)
    (some' : renderedSpecs first ≠ [])
    (soundLater : later.Sound) (available : later.sfsym.isSome = true)
    (plain : later.refresh = false) {laterPath : String} {laterSpecs : List (RenderSpec F32)}
    {laterDir : Dir B}
    (h' : generateWithOpts libraries later laterPath laterSpecs laterDir first.assetsDir =
      .ok second) :
    (∀ w ∈ second.printed, w.isStale = true →
      (∃ name signature current, w = .drifted name signature current) ∨
        ∃ spec ∈ laterSpecs, spec.name ∉ (renderedSpecs first).map (fun spec => spec.name) ∧
          (w = .unlisted spec.name ∨ ∃ exts, w = .missingFiles spec.name exts)) ∧
    ∀ name signature current, .drifted name signature current ∈ second.printed ↔
      ∃ spec ∈ laterSpecs, ∃ recorded, specOf (renderedSpecs first) spec.name = some recorded ∧
        ¬ SameSettings libraries.floats recorded spec ∧ name = spec.name ∧
        signature = specSignature libraries.floats recorded ∧
        current = specSignature libraries.floats spec := by
  have read := readManifestFile_refreshed sound refresh named oneLine h some'
  have present : ∀ spec ∈ renderedSpecs first, Present spec.name first.assetsDir :=
    fun spec member => present_rendered sound refresh h member
  constructor
  · intro w member asks
    obtain ⟨spec, among, -, checked⟩ :=
      (build_stale soundLater plain available read h' asks).mp member
    rcases mem_check.mp checked with ⟨absent, exts, rfl, -⟩ | ⟨-, drifted | ⟨unlisted, rfl⟩⟩
    · refine .inr ⟨spec, among, ?_, .inr ⟨exts, rfl⟩⟩
      intro rendered
      obtain ⟨other, listed, name⟩ := List.mem_map.mp rendered
      have there := present other listed
      rw [name] at there
      exact absent there
    · obtain ⟨signature, -, -, rfl⟩ := drifted
      exact .inl ⟨_, _, _, rfl⟩
    · refine .inr ⟨spec, among, ?_, .inl rfl⟩
      intro rendered
      obtain ⟨other, listed, name⟩ := List.mem_map.mp rendered
      obtain ⟨recorded, -, found, -⟩ := exists_specOf listed
      rw [name] at found
      rw [stored_sorted, stored_manifestEntries, found] at unlisted
      exact Option.some_ne_none _ unlisted
  · intro name signature current
    have asks : (Warning.drifted name signature current).isStale = true := rfl
    rw [build_stale soundLater plain available read h' asks]
    constructor
    · rintro ⟨spec, among, -, checked⟩
      rcases mem_check.mp checked with
        ⟨-, exts, other, -⟩ | ⟨-, ⟨signature', found, differs, same⟩ | ⟨-, other⟩⟩
      · cases other
      · cases same
        rw [stored_sorted, stored_manifestEntries] at found
        obtain ⟨recorded, last, rfl⟩ := Option.map_eq_some_iff.mp found
        exact ⟨spec, among, recorded, last, fun settings =>
          differs ((specSignature_inj libraries.floats).mpr settings), rfl, rfl, rfl⟩
      · cases other
    · rintro ⟨spec, among, recorded, last, differs, rfl, rfl, rfl⟩
      have listed : recorded ∈ renderedSpecs first :=
        List.mem_reverse.mp (List.mem_of_find?_eq_some last)
      have name : recorded.name = spec.name := by simpa using List.find?_some last
      have there := present recorded listed
      rw [name] at there
      refine ⟨spec, among, .inr there, mem_check.mpr (.inr ⟨there, .inl
        ⟨specSignature libraries.floats recorded, ?_, ?_, rfl⟩⟩)⟩
      · rw [stored_sorted, stored_manifestEntries, last]
        rfl
      · exact fun same => differs ((specSignature_inj libraries.floats).mp same)

end Builds

def boldSpec : RenderSpec Nat := { trashSpec with weight := "bold" }

/-- A weight that was changed after the refresh. -/
theorem drift_exact_weight : ∃ first second,
    generateWithOpts described (drawing "trash" true) "out" [trashSpec] .empty .empty =
        .ok first ∧
      generateWithOpts described (drawing "trash" false) "out" [boldSpec] .empty
        first.assetsDir = .ok second ∧
      .drifted "trash" (specSignature tenThousandths trashSpec)
        (specSignature tenThousandths boldSpec) ∈ second.printed := by
  obtain ⟨first, h, tiers⟩ := refresh_trash
  have goes : ((generateWithOpts described (drawing "trash" true) "out" [trashSpec] .empty
      .empty).toOption.bind (fun first => (generateWithOpts described (drawing "trash" false) "out"
        [boldSpec] .empty first.assetsDir).toOption)).isSome = true := by decide +kernel
  rw [h] at goes
  have name : IsSymbolName "trash" := ⟨by decide, Lib.Utf8.forall_of_all (by decide)⟩
  have rendered : renderedSpecs first = [trashSpec] := by
    rw [renderedSpecs, tiers]
    rfl
  cases h' : generateWithOpts described (drawing "trash" false) "out" [boldSpec] .empty
      first.assetsDir with
  | error panic =>
    rw [Except.toOption, Option.bind_some, h'] at goes
    cases goes
  | ok second =>
    refine ⟨first, second, h, h', ?_⟩
    have exact' := drift_exact (drawing_sound "trash" true) rfl
      (fun spec member => by rw [List.mem_singleton.mp member]; exact name)
      (fun spec member => by rw [List.mem_singleton.mp member]; decide) h
      (by rw [rendered]; exact List.cons_ne_nil _ _) (drawing_sound "trash" false) rfl rfl h'
    rw [rendered] at exact'
    refine (exact'.2 _ _ _).mpr ⟨boldSpec, List.mem_singleton_self _, trashSpec, rfl, ?_, rfl,
      rfl, rfl⟩
    exact fun same => absurd same.2.1 (by decide)

end Polykit.Icons
