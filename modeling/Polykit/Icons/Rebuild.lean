/- Module: Polykit/Icons/Rebuild
   generality: I
   source: crates/polysym-build/src/lib.rs
   digest: A build without the renderer gives what the last refresh gave. -/

import Polykit.Icons.Refresh

set_option autoImplicit false
set_option relaxedAutoImplicit false

namespace Polykit.Icons

open Polykit.Lib.Fallible
open Polykit.Lib.Files

variable {F32 B : Type}

def Warning.isFallback : Warning → Bool
  | .usingLucide _ _ => true
  | .omitted _ => true
  | _ => false

def SymbolResolution.withoutRenderer : SymbolResolution → SymbolResolution
  | .sf => .cached
  | res => res

theorem check_noFallback (floats : Floats F32) (spec : RenderSpec F32) (assets : Dir B)
    (manifest : Option Entries) (available : Bool) :
    (checkCommittedAsset floats spec assets manifest available).filter Warning.isFallback = [] := by
  unfold checkCommittedAsset
  split
  · rfl
  · dsimp only
    split
    · rfl
    · cases manifest with
      | none => rfl
      | some entries =>
        dsimp only
        cases stored entries spec.name with
        | none => rfl
        | some signature =>
          dsimp only
          split <;> rfl

section Simulation

variable {libraries : Libraries F32 B} {machine later : Machine F32 B} {succeeded : List String}
  {manifest manifest' : Option Entries} {committed assets : Dir B}
  {p p' q : Progress F32 B} {spec : RenderSpec F32}

/-- A file of a symbol as the later build has it: the committed one if it was rendered, else the
one that the refresh had. -/
def Held (machine : Machine F32 B) (succeeded : List String) (committed : Dir B) (name file : String)
    (a b : Dir B) : Prop :=
  ∃ content, b.read file = some content ∧
    (Rendered machine succeeded name → committed.read file = some content) ∧
    (¬ Rendered machine succeeded name → a.read file = some content)

theorem held_turn {a a' b b' : Dir B} {name other file : String} (frame : SameOutside name a a')
    (frame' : SameOutside name b b')
    (own : ∀ file ∈ filesOf name, Held machine succeeded committed name file a' b')
    (member : file ∈ filesOf other) (held : Held machine succeeded committed other file a b) :
    Held machine succeeded committed other file a' b' := by
  by_cases inside : file ∈ filesOf name
  · rw [name_eq_of_mem member inside]
    exact own file inside
  · unfold Held
    rw [frame file inside, frame' file inside]
    exact held

/-- The later build beside the refresh it follows, after the same symbols. -/
structure Follows (libraries : Libraries F32 B) (machine : Machine F32 B) (succeeded : List String)
    (assets committed : Dir B) (p q : Progress F32 B) : Prop where
  mirrored : Mirrored libraries machine succeeded assets p
  cache : q.assetsDir = committed
  unwritten : q.newManifest = []
  resolutions : q.resolutions =
    p.resolutions.map (fun entry => (entry.1, entry.2.withoutRenderer))
  printed : q.printed = p.printed.filter Warning.isFallback
  files : ∀ entry ∈ p.resolutions, entry.2 ≠ .missing → ∀ file ∈ filesOf entry.1.name,
    Held machine succeeded committed entry.1.name file p.symbolDir q.symbolDir

/-- The committed cache has the rendered symbols and, for the others, what the refresh found. -/
structure Settled (machine : Machine F32 B) (succeeded : List String) (assets committed : Dir B)
    (name : String) : Prop where
  present : Rendered machine succeeded name → Present name committed
  found : ¬ Rendered machine succeeded name →
    ∀ file ∈ filesOf name, committed.read file = assets.read file

theorem Settled.read_eq (settled : Settled machine succeeded assets committed spec.name)
    (mirrored : Mirrored libraries machine succeeded assets p)
    (unrendered : ¬ Rendered machine succeeded spec.name) :
    ∀ file ∈ filesOf spec.name, p.assetsDir.read file = committed.read file := by
  intro file member
  rw [settled.found unrendered file member]
  apply mirrored.untouched
  intro other renderedOther among
  have rendered := (mirrored.tier _ (mem_renderedSpecs.mp renderedOther)).mp rfl
  rw [name_eq_of_mem among member] at rendered
  exact unrendered rendered

theorem Settled.present_iff (settled : Settled machine succeeded assets committed spec.name)
    (mirrored : Mirrored libraries machine succeeded assets p)
    (unrendered : ¬ Rendered machine succeeded spec.name) :
    Present spec.name p.assetsDir ↔ Present spec.name committed := by
  apply forall₂_congr
  intro file member
  rw [settled.read_eq mirrored unrendered file member]

theorem Follows.extend (follows : Follows libraries machine succeeded assets committed p q)
    (mirrored : Mirrored libraries machine succeeded assets p') {res : SymbolResolution}
    {warnings : List Warning} {dir : Dir B}
    (resolutions : p'.resolutions = p.resolutions ++ [(spec, res)])
    (printed : p'.printed = p.printed ++ warnings)
    (kept : ∀ other, ∀ file ∈ filesOf other,
      Held machine succeeded committed other file p.symbolDir q.symbolDir →
        Held machine succeeded committed other file p'.symbolDir dir)
    (own : res ≠ .missing → ∀ file ∈ filesOf spec.name,
      Held machine succeeded committed spec.name file p'.symbolDir dir) :
    Follows libraries machine succeeded assets committed p'
      (({ q with symbolDir := dir }.print (warnings.filter Warning.isFallback)).resolve spec
        res.withoutRenderer) := by
  refine ⟨mirrored, follows.cache, follows.unwritten, ?_, ?_, ?_⟩
  · rw [resolutions, List.map_append, ← follows.resolutions]
    rfl
  · rw [printed, List.filter_append, ← follows.printed]
    rfl
  · rw [resolutions]
    intro entry member found
    rcases List.mem_append.mp member with before | now
    · intro file among
      exact kept _ file among (follows.files entry before found file among)
    · rw [List.mem_singleton.mp now] at found ⊢
      exact own found

theorem Follows.turn (refresh : machine.refresh = true) (sound : later.Sound)
    (renderless : later.sfsym = none)
    (settled : Settled machine succeeded assets committed spec.name)
    (follows : Follows libraries machine succeeded assets committed p q)
    (turn : Turn libraries machine succeeded manifest p spec p') :
    ∃ q', resolveSymbol libraries later [] manifest' q spec = .ok q' ∧
      Follows libraries machine succeeded assets committed p' q' := by
  have mirrored' := follows.mirrored.turn refresh turn
  have never : ¬ Rendered later [] spec.name := fun rendered => List.not_mem_nil rendered.2
  obtain rfl := follows.cache
  have quiet : restoredWarnings libraries later manifest' spec q.assetsDir = [] := by
    rw [restoredWarnings, renderless]
    rfl
  have restoredFrame := sameOutside_copyAll q.assetsDir q.symbolDir spec.name
  cases turn with
  | rendered dir _ plain => exact absurd (plain.symm.trans refresh) Bool.false_ne_true
  | refreshed dir rendered _ present frame =>
    have there := settled.present rendered
    have own : ∀ file ∈ filesOf spec.name, Held machine succeeded q.assetsDir spec.name file dir
        (q.assetsDir.copyAll (filesOf spec.name) q.symbolDir) := by
      intro file member
      obtain ⟨content, read⟩ := Option.isSome_iff_exists.mp (there file member)
      refine ⟨content, ?_, fun _ => read, fun unrendered => absurd rendered unrendered⟩
      rw [read_copyAll_of_present there q.symbolDir member, read]
    rw [resolveSymbol_restored sound never there, quiet]
    exact ⟨_, rfl, follows.extend mirrored' rfl (List.append_nil p.printed).symm
      (fun other file among => held_turn frame restoredFrame own among) (fun _ => own)⟩
  | restored unrendered present =>
    have there := (settled.present_iff follows.mirrored unrendered).mp present
    have own : ∀ file ∈ filesOf spec.name, Held machine succeeded q.assetsDir spec.name file
        (p.assetsDir.copyAll (filesOf spec.name) p.symbolDir)
        (q.assetsDir.copyAll (filesOf spec.name) q.symbolDir) := by
      intro file member
      obtain ⟨content, read⟩ := Option.isSome_iff_exists.mp (there file member)
      have before := settled.read_eq follows.mirrored unrendered file member
      refine ⟨content, ?_, fun rendered => absurd rendered unrendered, fun _ => ?_⟩
      · rw [read_copyAll_of_present there q.symbolDir member, read]
      · rw [read_copyAll_of_present present p.symbolDir member, before, read]
    have silent : (restoredWarnings libraries machine manifest spec p.assetsDir).filter
        Warning.isFallback = [] := by
      rw [restoredWarnings, List.filter_append, check_noFallback, List.append_nil]
      split <;> rfl
    rw [resolveSymbol_restored sound never there, quiet, ← silent]
    exact ⟨_, rfl, follows.extend mirrored' rfl rfl (fun other file among => held_turn
      (sameOutside_copyAll p.assetsDir p.symbolDir spec.name) restoredFrame own among)
      (fun _ => own)⟩
  | fallback icon svg light dark unrendered absent chosen content made =>
    have away : ¬ Present spec.name q.assetsDir := fun there =>
      absent ((settled.present_iff follows.mirrored unrendered).mpr there)
    have own : ∀ file ∈ filesOf spec.name, Held machine succeeded q.assetsDir spec.name file
        (putLucide libraries spec svg light dark p.symbolDir)
        (putLucide libraries spec svg light dark q.symbolDir) := by
      intro file member
      obtain ⟨written, read⟩ := read_putLucide svg light dark member
      exact ⟨written, read _, fun rendered => absurd rendered unrendered, fun _ => read _⟩
    have same : resolveFallback libraries q spec = .ok (({ q with
        symbolDir := putLucide libraries spec svg light dark q.symbolDir }.print
          [.usingLucide spec.name icon]).resolve spec .lucide) := by
      simp only [resolveFallback, chosen, content, made, ok_bind]
      rfl
    rw [resolveSymbol_absent never away, same]
    exact ⟨_, rfl, follows.extend mirrored' rfl rfl (fun other file among => held_turn
      (sameOutside_putLucide svg light dark p.symbolDir)
      (sameOutside_putLucide svg light dark q.symbolDir) own among) (fun _ => own)⟩
  | missing unrendered absent unset =>
    have away : ¬ Present spec.name q.assetsDir := fun there =>
      absent ((settled.present_iff follows.mirrored unrendered).mpr there)
    have same : resolveFallback libraries q spec =
        .ok ((q.print [.omitted spec.name]).resolve spec .missing) := by
      simp only [resolveFallback, unset]
    rw [resolveSymbol_absent never away, same]
    exact ⟨_, rfl, follows.extend mirrored' rfl rfl (fun _ _ _ held => held)
      (fun present => absurd rfl present)⟩

end Simulation

/-! Two builds. -/

section Builds

variable {libraries : Libraries F32 B} {machine later : Machine F32 B} {symbolPath : String}
  {specs : List (RenderSpec F32)} {symbolDir assets : Dir B} {first resolved : Progress F32 B}
  {spec : RenderSpec F32}

theorem finishRefresh_listed (refresh : machine.refresh = true)
    (finish : finishRefresh libraries machine specs resolved = .ok first) (member : spec ∈ specs)
    {file : String} (own : file ∈ filesOf spec.name) :
    first.assetsDir.read file = resolved.assetsDir.read file := by
  obtain ⟨-, -, cache⟩ := finishRefresh_ok refresh finish
  have other : ¬ (file = "manifest.txt" ∧ resolved.newManifest ≠ []) := by
    rintro ⟨rfl, -⟩
    exact manifest_notMem_filesOf spec.name own
  rw [cache, if_neg other, isOrphan_listed member own, Bool.false_and, if_neg Bool.false_ne_true]

theorem refresh_settled (sound : machine.Sound) (refresh : machine.refresh = true)
    (run : loop libraries machine symbolPath specs symbolDir assets = .ok resolved)
    (finish : finishRefresh libraries machine specs resolved = .ok first)
    (member : spec ∈ specs) :
    Settled machine (runTier1 libraries machine symbolPath specs symbolDir).1 assets
      first.assetsDir spec.name := by
  have mirrored := loop_mirrored sound refresh run
  constructor
  · intro rendered file own
    rw [← loop_specs sound run] at member
    obtain ⟨⟨_, res⟩, entry, rfl⟩ := List.mem_map.mp member
    have sf : res = .sf := (mirrored.tier _ entry).mpr rendered
    rw [sf] at entry
    obtain ⟨held, same⟩ := mirrored.copied _ (mem_renderedSpecs.mpr entry) file own
    rw [loop_specs sound run] at member
    rw [finishRefresh_listed refresh finish member own, same]
    exact held
  · intro unrendered file own
    rw [finishRefresh_listed refresh finish member own]
    apply mirrored.untouched
    intro other renderedOther among
    have rendered := (mirrored.tier _ (mem_renderedSpecs.mp renderedOther)).mp rfl
    rw [name_eq_of_mem among own] at rendered
    exact unrendered rendered

theorem manifestWarnings_refresh (refresh : machine.refresh = true) (status : ManifestStatus)
    (assets : Dir B) : manifestWarnings machine status assets = [] := by
  unfold manifestWarnings
  rw [refresh, Bool.not_true, Bool.false_and, if_neg Bool.false_ne_true]

theorem manifestWarnings_renderless (renderless : machine.sfsym = none) (status : ManifestStatus)
    (assets : Dir B) : manifestWarnings machine status assets = [] := by
  unfold manifestWarnings
  rw [renderless, Option.isSome_none, Bool.and_false, if_neg Bool.false_ne_true]

theorem tier1_printed (libraries : Libraries F32 B) (machine : Machine F32 B)
    (symbolPath : String) (specs : List (RenderSpec F32)) (symbolDir : Dir B) :
    ∀ w ∈ (runTier1 libraries machine symbolPath specs symbolDir).2.2,
      ∃ variant, w = .batchFailed variant := by
  have flag : ∀ (ok : Bool) (variant : String) (w : Warning),
      w ∈ (if ok then [] else [Warning.batchFailed variant]) → w = .batchFailed variant := by
    intro ok variant w member
    cases ok with
    | true => exact absurd member List.not_mem_nil
    | false => exact List.mem_singleton.mp member
  intro w member
  unfold runTier1 at member
  split at member
  · have failures : ∀ ok ok' : Bool, w ∈ (if ok then [] else [Warning.batchFailed "light PNG"]) ++
        (if ok' then [] else [Warning.batchFailed "SVG"]) → ∃ variant, w = .batchFailed variant := by
      intro ok ok' among
      rcases List.mem_append.mp among with light | svg
      · exact ⟨_, flag ok _ w light⟩
      · exact ⟨_, flag ok' _ w svg⟩
    unfold runSfsymForAll at member
    dsimp only at member
    split at member <;> exact failures _ _ member
  · exact absurd member List.not_mem_nil

def sourceResolutions (p : Progress F32 B) : List (SymbolSpec × SymbolResolution) :=
  p.resolutions.map (fun entry => (entry.1.toSymbolSpec, entry.2))

theorem resolvedSpecs_withoutRenderer (resolutions : List (RenderSpec F32 × SymbolResolution)) :
    resolvedSpecs ((resolutions.map (fun entry => (entry.1, entry.2.withoutRenderer))).map
        (fun entry => (entry.1.toSymbolSpec, entry.2))) =
      resolvedSpecs (resolutions.map (fun entry => (entry.1.toSymbolSpec, entry.2))) := by
  rw [List.map_map, resolvedSpecs, resolvedSpecs, List.filterMap_map, List.filterMap_map]
  apply List.filterMap_congr
  rintro ⟨spec, res⟩ _
  cases res <;> rfl

end Builds

theorem refresh_trash : ∃ out,
    generateWithOpts described (drawing "trash" true) "out" [trashSpec] .empty .empty = .ok out ∧
      out.resolutions = [(trashSpec, .sf)] := by
  have tiers : (generateWithOpts described (drawing "trash" true) "out" [trashSpec] .empty
      .empty).toOption.map (fun out => out.resolutions.map Prod.snd) = some [.sf] := by
    decide +kernel
  obtain ⟨out, found, sf⟩ := Option.map_eq_some_iff.mp tiers
  have h : generateWithOpts described (drawing "trash" true) "out" [trashSpec] .empty .empty =
      .ok out := by
    cases result : generateWithOpts described (drawing "trash" true) "out" [trashSpec] .empty
        .empty with
    | error panic =>
      rw [result] at found
      cases found
    | ok other =>
      rw [result] at found
      cases found
      rfl
  obtain ⟨⟨spec, res⟩, only, rfl⟩ := List.map_eq_singleton_iff.mp sf
  have rendered : spec ∈ renderedSpecs out := by
    rw [mem_renderedSpecs, only]
    exact List.mem_singleton_self _
  have listed := renderedSpecs_listed (drawing_sound "trash" true) rfl h rendered
  rw [List.mem_singleton.mp listed] at only
  exact ⟨out, h, only⟩

def renderless : Machine Nat Log.Clean.Str := { drawing "trash" false with sfsym := none }

end Polykit.Icons
