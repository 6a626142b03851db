/- Module: Polykit/Icons/Build
   generality: I
   source: crates/polysym-build/src/lib.rs
   digest: One run of the build script: three tiers for each symbol, and the committed cache. -/

import Polykit.Icons.Manifest
import Polykit.Icons.Svg
import Polykit.Lib.Fallible
import Polykit.Lib.Files

set_option autoImplicit false
set_option relaxedAutoImplicit false

namespace Polykit.Icons

open Polykit.Lib.Files
open Polykit.Log.Clean (Str)

variable {F32 B : Type}

inductive Warning
  | formatOutdated (found : Nat)
  | manifestMalformed (message : Str)
  | noManifest
  | batchFailed (variant : String)
  | assetsDirFailed
  | mirrorFailed (file : String)
  | restoreFailed (file : String)
  | fellBack (name : String)
  | missingFiles (name : String) (exts : List String)
  | drifted (name : String) (stored current : Str)
  | unlisted (name : String)
  | usingLucide (name icon : String)
  | omitted (name : String)
  | pruned (file : String)
  | pruneFailed (file : String)
  deriving DecidableEq

inductive Panic
  | invalidLucide (pairs : List (String × String))
  | unreadable (file : String)
  | lucide (icon name : String)
  | manifestUnwritable
  deriving DecidableEq

structure Libraries (F32 B : Type) where
  floats : Floats F32
  ofText : Str → B
  text : B → Option Str
  text_ofText : ∀ content, text (ofText content) = some content
  /-- An image composited into a square canvas of that many pixels. -/
  composite : UInt32 → B → Option B
  invertRgb : B → Option B
  lucideIcons : List String
  lucideContent : String → Option Str
  rasterize : RenderSpec F32 → Str → Option B

/-- The renderer: a batch reads its instructions and writes files, and the metrics of a symbol, if
it tells them, make the text of a view box. -/
structure Sfsym (F32 B : Type) where
  batch : Str → Dir B → Bool × Dir B
  viewBox : RenderSpec F32 → Option Str

/-- The machine a build runs on, and what its file system lets through. -/
structure Machine (F32 B : Type) where
  sfsym : Option (Sfsym F32 B)
  refresh : Bool
  createsAssets : Bool
  copies : String → Bool
  removes : String → Bool
  writesManifest : Bool

def fileName (name ext : String) : String := name ++ "." ++ ext

def parts : List String := ["light.png", "dark.png", "svg"]

def RenderSpec.file (spec : RenderSpec F32) (ext : String) : String := fileName spec.name ext

structure Progress (F32 B : Type) where
  symbolDir : Dir B
  assetsDir : Dir B
  resolutions : List (RenderSpec F32 × SymbolResolution)
  newManifest : Entries
  printed : List Warning

def Progress.print (p : Progress F32 B) (warnings : List Warning) : Progress F32 B :=
  { p with printed := p.printed ++ warnings }

/-! The renderer's batches. -/

section Batch

variable (libraries : Libraries F32 B) (symbolPath : String)

def batchLine (name format : Str) (mode : String) (size : UInt32) (weight : String)
    (color path : String) : Str :=
  name ++ " -f ".toList ++ format ++ " --mode ".toList ++ mode.toList ++ " --size ".toList ++
    Nat.toDigits 10 size.toNat ++ " --weight ".toList ++ weight.toList ++ " --color '".toList ++
    color.toList ++ "' -o ".toList ++ path.toList ++ ['\n']

def buildPngBatchInput (specs : List (RenderSpec F32)) (variant mode color : String) : Str :=
  specs.flatMap (fun spec => batchLine spec.name.toList "png".toList mode
    (libraries.floats.innerSize spec.size spec.padding) spec.weight color
    (joinPath symbolPath (spec.file (variant ++ ".png"))))

def buildSvgBatchInput (specs : List (RenderSpec F32)) : Str :=
  specs.flatMap (fun spec => batchLine spec.name.toList "svg".toList "monochrome" spec.size
    spec.weight "#000000" (joinPath symbolPath (spec.file "svg")))

/-- Both batches run, and a symbol has succeeded if both its files are there. -/
def runSfsymForAll (sfsym : Sfsym F32 B) (specs : List (RenderSpec F32)) (dir : Dir B) :
    List String × Dir B × List Warning :=
  let light := sfsym.batch
    (buildPngBatchInput libraries symbolPath specs "light" "monochrome" "#000000") dir
  let svg := sfsym.batch (buildSvgBatchInput symbolPath specs) light.2
  let failures := (if light.1 then [] else [Warning.batchFailed "light PNG"]) ++
    (if svg.1 then [] else [.batchFailed "SVG"])
  if light.1 && svg.1 then
    ((specs.filter (fun spec => (svg.2.read (spec.file "light.png")).isSome &&
      (svg.2.read (spec.file "svg")).isSome)).map (fun spec => spec.name), svg.2, failures)
  else ([], svg.2, failures)

end Batch

/-! Tier 1. -/

section Finalize

variable (libraries : Libraries F32 B)

def RenderSpec.canvasPx (spec : RenderSpec F32) : UInt32 := spec.size * 2

def rewriteFile (f : B → Option B) (source target : String) (dir : Dir B) :
    Except Panic (Dir B) :=
  match (dir.read source).bind f with
  | some content => .ok (dir.write target content)
  | none => .error (.unreadable source)

/-- A symbol that already fills its canvas is left as it is. -/
def applyPadding (spec : RenderSpec F32) (file : String) (dir : Dir B) : Except Panic (Dir B) :=
  if spec.canvasPx ≤ libraries.floats.innerSize spec.size spec.padding * 2 then .ok dir
  else rewriteFile (libraries.composite spec.canvasPx) file file dir

def applySvgPostprocess (viewbox : Option Str) (file : String) (dir : Dir B) :
    Except Panic (Dir B) :=
  rewriteFile (fun content => (libraries.text content).map (fun svg =>
    libraries.ofText (Svg.applySvgPostprocess svg viewbox))) file file dir

def finalizeSfsymAssets (sfsym : Sfsym F32 B) (spec : RenderSpec F32) (dir : Dir B) :
    Except Panic (Dir B) := do
  let padded ← applyPadding libraries spec (spec.file "light.png") dir
  let dark ← rewriteFile libraries.invertRgb (spec.file "light.png") (spec.file "dark.png") padded
  applySvgPostprocess libraries (sfsym.viewBox spec) (spec.file "svg") dark

end Finalize

section Machines

variable (machine : Machine F32 B)

/-- One `std::fs::copy`. -/
def copyFile (file : String) (source target : Dir B) : Option (Dir B) :=
  if machine.copies file then (source.read file).map (target.write file) else none

def mirrorPart (spec : RenderSpec F32) (p : Progress F32 B) (ext : String) : Progress F32 B :=
  match copyFile machine (spec.file ext) p.symbolDir p.assetsDir with
  | some assets => { p with assetsDir := assets }
  | none => p.print [.mirrorFailed (spec.file ext)]

/-- Every part is tried, whatever becomes of the others. -/
def copyToAssetsDir (spec : RenderSpec F32) (p : Progress F32 B) : Progress F32 B :=
  if machine.createsAssets then parts.foldl (mirrorPart machine spec) p
  else p.print [.assetsDirFailed]

/-! Tier 2. -/

/-- The first part that cannot be copied ends the loop. -/
def copyParts (spec : RenderSpec F32) : List String → Progress F32 B → Bool × Progress F32 B
  | [], p => (true, p)
  | ext :: rest, p =>
      match copyFile machine (spec.file ext) p.assetsDir p.symbolDir with
      | some dir => copyParts spec rest { p with symbolDir := dir }
      | none => (false, p.print [.restoreFailed (spec.file ext)])

def isCommitted (spec : RenderSpec F32) (assets : Dir B) : Bool :=
  parts.all (fun ext => (assets.read (spec.file ext)).isSome)

def tryCopyFromAssets (spec : RenderSpec F32) (p : Progress F32 B) : Bool × Progress F32 B :=
  if isCommitted spec p.assetsDir then copyParts machine spec parts p else (false, p)

end Machines

section Check

variable (floats : Floats F32)

def checkCommittedAsset (spec : RenderSpec F32) (assets : Dir B) (manifest : Option Entries)
    (sfsymAvailable : Bool) : List Warning :=
  if !sfsymAvailable then []
  else
    let missing := parts.filter (fun ext => (assets.read (spec.file ext)).isNone)
    if !missing.isEmpty then [.missingFiles spec.name missing]
    else
      match manifest with
      | none => []
      | some entries =>
          match stored entries spec.name with
          | some signature =>
              if signature = specSignature floats spec then []
              else [.drifted spec.name signature (specSignature floats spec)]
          | none => [.unlisted spec.name]

end Check

/-! Tier 3. -/

section Lucide

variable (libraries : Libraries F32 B)

def colored (svg : Str) (color : String) : Str :=
  Lib.Search.replaceEach [("currentColor".toList, color.toList)] svg

def writeLucidePng (spec : RenderSpec F32) (svg : Str) (file color : String) (dir : Dir B) :
    Except Panic (Dir B) :=
  match libraries.rasterize spec (colored svg color) with
  | some png => applyPadding libraries spec file (dir.write file png)
  | none => .error (.unreadable file)

def writeLucideAssets (spec : RenderSpec F32) (svg : Str) (dir : Dir B) :
    Except Panic (Dir B) := do
  let light ← writeLucidePng libraries spec svg (spec.file "light.png") "#000000"
    (dir.write (spec.file "svg") (libraries.ofText (Svg.rewriteSvgTag svg none)))
  writeLucidePng libraries spec svg (spec.file "dark.png") "#ffffff" light

end Lucide

/-! The build. -/

section Generate

variable (libraries : Libraries F32 B) (machine : Machine F32 B)

def badLucide (specs : List (RenderSpec F32)) : List (String × String) :=
  specs.filterMap (fun spec => spec.lucide.bind (fun icon =>
    if icon ∈ libraries.lucideIcons then none else some (icon, spec.name)))

def readManifestFile (assets : Dir B) : ManifestStatus :=
  readManifest ((assets.read "manifest.txt").bind libraries.text)

def ManifestStatus.entries? : ManifestStatus → Option Entries
  | .ok entries => some entries
  | _ => none

/-- One warning at the top, for a manifest that cannot be used. -/
def manifestWarnings (status : ManifestStatus) (assets : Dir B) : List Warning :=
  if !machine.refresh && machine.sfsym.isSome then
    match status with
    | .outdated found => [.formatOutdated found]
    | .malformed message => [.manifestMalformed message]
    | .missing => if assets.files.isEmpty then [] else [.noManifest]
    | .ok _ => []
  else []

def Progress.resolve (p : Progress F32 B) (spec : RenderSpec F32) (res : SymbolResolution) :
    Progress F32 B :=
  { p with resolutions := p.resolutions ++ [(spec, res)] }

def resolveSf (sfsym : Sfsym F32 B) (manifest : Option Entries) (p : Progress F32 B)
    (spec : RenderSpec F32) : Except Panic (Progress F32 B) := do
  let dir ← finalizeSfsymAssets libraries sfsym spec p.symbolDir
  let finalized := { p with symbolDir := dir }
  if machine.refresh then
    let mirrored := copyToAssetsDir machine spec finalized
    return { mirrored with newManifest := mirrored.newManifest ++
      [manifestEntry libraries.floats spec] }.resolve spec .sf
  else
    return (finalized.print (checkCommittedAsset libraries.floats spec finalized.assetsDir
      manifest true)).resolve spec .sf

def resolveFallback (p : Progress F32 B) (spec : RenderSpec F32) :
    Except Panic (Progress F32 B) :=
  match spec.lucide with
  | none => .ok ((p.print [.omitted spec.name]).resolve spec .missing)
  | some icon =>
      match libraries.lucideContent icon with
      | none => .error (.lucide icon spec.name)
      | some svg => do
          let dir ← writeLucideAssets libraries spec svg p.symbolDir
          return ({ p with symbolDir := dir }.print
            [.usingLucide spec.name icon]).resolve spec .lucide

def resolveSymbol (succeeded : List String) (manifest : Option Entries) (p : Progress F32 B)
    (spec : RenderSpec F32) : Except Panic (Progress F32 B) :=
  match (if spec.name ∈ succeeded then machine.sfsym else none) with
  | some sfsym => resolveSf libraries machine sfsym manifest p spec
  | none =>
      let restored := tryCopyFromAssets machine spec p
      if restored.1 then
        .ok ((restored.2.print ((if machine.sfsym.isSome then [.fellBack spec.name] else []) ++
          checkCommittedAsset libraries.floats spec restored.2.assetsDir manifest
            machine.sfsym.isSome)).resolve spec .cached)
      else resolveFallback libraries restored.2 spec

def stripSuffix (s suffix : Str) : Option Str :=
  if suffix <:+ s then some (s.take (s.length - suffix.length)) else none

def fileStem (file : String) : Option Str :=
  (stripSuffix file.toList ".light.png".toList).or
    ((stripSuffix file.toList ".dark.png".toList).or (stripSuffix file.toList ".svg".toList))

def isOrphan (specs : List (RenderSpec F32)) (file : String) : Bool :=
  file != "manifest.txt" &&
    (fileStem file).any (fun stem => decide (stem ∉ specs.map (fun spec => spec.name.toList)))

def pruneOrphans (specs : List (RenderSpec F32)) (p : Progress F32 B) : Progress F32 B :=
  let orphans := (p.assetsDir.files.map Prod.fst).filter (isOrphan specs)
  { p with
    assetsDir := p.assetsDir.keep (fun file => !(isOrphan specs file && machine.removes file))
    printed := p.printed ++ orphans.map (fun file =>
      if machine.removes file then .pruned file else .pruneFailed file) }

def writeManifest (p : Progress F32 B) : Except Panic (Progress F32 B) :=
  if machine.writesManifest then
    .ok { p with assetsDir :=
      p.assetsDir.write "manifest.txt" (libraries.ofText (manifestText p.newManifest)) }
  else .error .manifestUnwritable

def finishRefresh (specs : List (RenderSpec F32)) (p : Progress F32 B) :
    Except Panic (Progress F32 B) :=
  if machine.refresh then
    let pruned := pruneOrphans machine specs p
    if pruned.newManifest.isEmpty then .ok pruned else writeManifest libraries machine pruned
  else .ok p

def runTier1 (symbolPath : String) (specs : List (RenderSpec F32)) (symbolDir : Dir B) :
    List String × Dir B × List Warning :=
  match machine.sfsym with
  | some sfsym => runSfsymForAll libraries symbolPath sfsym specs symbolDir
  | none => ([], symbolDir, [])

def generateWithOpts (symbolPath : String) (specs : List (RenderSpec F32))
    (symbolDir assetsDir : Dir B) : Except Panic (Progress F32 B) :=
  if badLucide libraries specs = [] then do
    let tier1 := runTier1 libraries machine symbolPath specs symbolDir
    let status := readManifestFile libraries assetsDir
    let start : Progress F32 B := ⟨tier1.2.1, assetsDir, [], [],
      tier1.2.2 ++ manifestWarnings machine status assetsDir⟩
    let resolved ← specs.foldlM (resolveSymbol libraries machine tier1.1 status.entries?) start
    finishRefresh libraries machine specs resolved
  else .error (.invalidLucide (badLucide libraries specs))

end Generate

end Polykit.Icons
