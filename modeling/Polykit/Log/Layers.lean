/- Module: Polykit/Log/Layers
   generality: I
   source: crates/polylog/src/console.rs, crates/polylog/src/file.rs, crates/polylog/src/format.rs
   digest: The console and the file layer, and the events that obey their targets' overrides. -/

import Mathlib.Tactic
import Polykit.Lib.Paths
import Polykit.Lib.Text
import Polykit.Log.Builder
import Polykit.Log.Safety

set_option autoImplicit false
set_option relaxedAutoImplicit false

namespace Polykit.Log.Layers

open Polykit.Lib
open Polykit.Lib.Fallible
open Polykit.Lib.Utf8
open Polykit.Log.Builder
open Polykit.Log.Clean (Cow Halt cleanDebugValue)

/-! Events. -/

structure Metadata where
  level : TracingLevel
  target : String
  file : Option String
  line : Option UInt32

/-- A value of a field: its Debug text, or a value of one of the types recorded as such. -/
inductive Recorded
  | debug (text : String)
  | str (value : String)
  | u64 (value : UInt64)
  | i64 (value : Int64)
  | f64 (display debug : String)
  | bool (value : Bool)

structure Event where
  metadata : Metadata
  fields : List (String × Recorded)

/-- The event that `tracing_log` makes of a record of the log crate. -/
def Event.bridged (level : TracingLevel) (target modulePath file : String) (line : UInt32)
    (message : String) : Event where
  metadata := ⟨level, "log", none, none⟩
  fields :=
    [("message", .debug message), ("log.target", .str target), ("log.module_path", .str modulePath),
      ("log.file", .str file), ("log.line", .u64 line.toUInt64)]

/-! The surroundings of a layer. -/

inductive AnsiColor
  | brightBlack
  | green
  | yellow
  | red
  | blue
  | cyan

def levelColor : Level → AnsiColor
  | .debug => .brightBlack
  | .info => .green
  | .warn => .yellow
  | .error => .red

/-- The clock in the layer's time zone, the terminal, and the variables `NO_COLOR` and
`FORCE_COLOR`: whether they are set to something. -/
structure Env where
  strftime : String → String
  stderrIsTerminal : Bool
  noColor : Bool
  forceColor : Bool
  color : AnsiColor → String → String

def shouldEmitAnsi (mode : ColorMode) (env : Env) : Bool :=
  match mode with
  | .always => true
  | .never => false
  | .auto => if env.noColor then false else if env.forceColor then true else env.stderrIsTerminal

def Env.paint (env : Env) (useAnsi : Bool) (color : AnsiColor) (text : String) : String :=
  if useAnsi then env.color color text else text

def intoBytes (s : String) : List UInt8 := asBytes s.toList

/-- `Path::file_name`: the last component, unless it leads to the parent. -/
def fileName (path : String) : Option String :=
  match ((Paths.components path).filter (fun part => part ≠ "" && part ≠ ".")).getLast? with
  | some ".." => none
  | last => last

/-! The console. -/

structure MessageVisitor where
  message : String
  fields : List (String × String)
  logTarget : Option String
  logFile : Option String
  logLine : Option UInt32

def MessageVisitor.new : MessageVisitor := ⟨"", [], none, none, none⟩

/-- `trim_matches('"')`. -/
def trimQuotes (s : String) : String :=
  String.ofList
    ((s.toList.dropWhile (· == '"')).reverse.dropWhile (· == '"')).reverse

namespace MessageVisitor

def push (v : MessageVisitor) (name value : String) : MessageVisitor :=
  { v with fields := v.fields ++ [(name, value)] }

/-- The cleaner gets more fuel than the text has characters. -/
def recordDebug (v : MessageVisitor) (name text : String) : Except Halt MessageVisitor :=
  if Text.startsWith name "log." then
    match name with
    | "log.target" => .ok { v with logTarget := some (trimQuotes text) }
    | "log.file" => .ok { v with logFile := some (trimQuotes text) }
    | _ => .ok v
  else if name = "message" then .ok { v with message := text }
  else do
    match ← cleanDebugValue (text.toList.length + 1) text.toList with
    | .borrowed _ => return v.push name text
    | .owned s => return v.push name (String.ofList s)

def recordStr (v : MessageVisitor) (name value : String) : MessageVisitor :=
  if Text.startsWith name "log." then
    match name with
    | "log.target" => { v with logTarget := some value }
    | "log.file" => { v with logFile := some value }
    | _ => v
  else if name = "message" then { v with message := value }
  else v.push name value

/-- `u32::try_from` of the line. -/
def recordU64 (v : MessageVisitor) (name : String) (value : UInt64) : MessageVisitor :=
  if name = "log.line" then
    { v with logLine := if value.toNat < 2 ^ 32 then some value.toUInt32 else none }
  else v.push name (toString value.toNat)

def record (v : MessageVisitor) : String × Recorded → Except Halt MessageVisitor
  | (name, .debug text) => v.recordDebug name text
  | (name, .str value) => .ok (v.recordStr name value)
  | (name, .u64 value) => .ok (v.recordU64 name value)
  | (name, .i64 value) => .ok (v.push name (toString value.toInt))
  | (name, .f64 display _) => .ok (v.push name display)
  | (name, .bool value) => .ok (v.push name (toString value))

end MessageVisitor

def stripPrefix (s pre : String) : Option String :=
  if Text.startsWith s pre then some (Text.dropChars s pre.toList.length) else none

def stripModulePrefix (target modulePrefix : String) : Option String :=
  (stripPrefix target modulePrefix).bind (fun rest => stripPrefix rest "::")

structure ConsoleLayer where
  format : FormatMode
  colorMode : ColorMode
  targetOverrides : List TargetOverride
  stripTargetPrefix : Option String

namespace ConsoleLayer

def new (config : LogConfig) : ConsoleLayer where
  format := config.format
  colorMode := config.color
  targetOverrides := config.targetOverrides
  stripTargetPrefix := config.stripTargetPrefix

section Format

variable (env : Env) (useAnsi : Bool) (level : Level)

def formatSimple (msg : String) : String := env.paint useAnsi (levelColor level) msg ++ "\n"

def formatNormal (ts msg : String) : String :=
  env.paint useAnsi .brightBlack ts ++ " " ++ env.paint useAnsi (levelColor level) level.label ++
    " " ++ env.paint useAnsi (levelColor level) msg ++ "\n"

def formatContext (ts target : String) (file : Option String) (line : Option UInt32)
    (msg : String) : String :=
  let fileBasename := match file with
    | none => "<unknown>"
    | some f => (fileName f).getD f
  let lineNum := toString (line.getD 0).toNat
  env.paint useAnsi .brightBlack ts ++ " " ++ env.paint useAnsi (levelColor level) level.label ++
    " " ++ env.paint useAnsi .blue target ++ " " ++ fileBasename ++ ":" ++
    env.paint useAnsi .cyan lineNum ++ " " ++ env.paint useAnsi (levelColor level) msg ++ "\n"

end Format

/-- The target as the context format shows it: without the prefix to be stripped. -/
def shownTarget (layer : ConsoleLayer) (rawTarget : String) : String :=
  (layer.stripTargetPrefix.bind (stripModulePrefix rawTarget)).getD rawTarget

def line (layer : ConsoleLayer) (env : Env) (level : Level) (metadata : Metadata)
    (visitor : MessageVisitor) : String :=
  let msg := visitor.fields.foldl (fun msg field => msg ++ " " ++ field.1 ++ "=" ++ field.2)
    visitor.message
  let ts := env.strftime "%-I:%M:%S %p"
  let useAnsi := shouldEmitAnsi layer.colorMode env
  match layer.format with
  | .simple => formatSimple env useAnsi level msg
  | .normal => formatNormal env useAnsi level ts msg
  | .context =>
      let rawTarget := visitor.logTarget.getD metadata.target
      let file := visitor.logFile.or metadata.file
      let line := visitor.logLine.or metadata.line
      formatContext env useAnsi level ts (layer.shownTarget rawTarget) file line msg

/-- The gate looks at the metadata; only then are the fields visited. -/
def renderEvent (layer : ConsoleLayer) (env : Env) (currentMinLevel : Level) (event : Event) :
    Except Halt (List UInt8) :=
  if event.metadata.level = .trace then .ok []
  else
    match Level.fromTracing event.metadata.level with
    | none => .ok []
    | some level =>
        let target := event.metadata.target
        let minLevel := effectiveMinLevel target layer.targetOverrides currentMinLevel
        if level < minLevel then .ok []
        else do
          let visitor ← event.fields.foldlM MessageVisitor.record .new
          return intoBytes (layer.line env level event.metadata visitor)

end ConsoleLayer

/-! The log file. -/

structure FileLayer where
  targetOverrides : List TargetOverride

namespace FileLayer

/-- What `build_file_layer` takes over from the configuration, besides the path. -/
def new (config : LogConfig) : FileLayer where
  targetOverrides := config.targetOverrides

/-- The file's visitor keeps the message only. Values of other types come as Debug texts. -/
def record (message : String) (field : String × Recorded) : String :=
  if field.1 = "message" then
    match field.2 with
    | .debug text => text
    | .str value => value
    | .u64 value => toString value.toNat
    | .i64 value => toString value.toInt
    | .f64 _ debug => debug
    | .bool value => toString value
  else message

def formatFile (level : Level) (ts target fileBasename : String) (lineNum : UInt32)
    (msg : String) : String :=
  "[" ++ ts ++ "] " ++ level.label ++ " " ++ target ++ " " ++ fileBasename ++ ":" ++
    toString lineNum.toNat ++ ": " ++ msg ++ "\n"

def renderEvent (layer : FileLayer) (env : Env) (currentMinLevel : Level) (event : Event) :
    List UInt8 :=
  let metadata := event.metadata
  if metadata.level = .trace then []
  else
    match Level.fromTracing metadata.level with
    | none => []
    | some eventLevel =>
        let minLevel := effectiveMinLevel metadata.target layer.targetOverrides currentMinLevel
        if eventLevel < minLevel then []
        else
          let msg := event.fields.foldl record ""
          let ts := env.strftime "%Y-%m-%d %H:%M:%S"
          let (fileBasename, lineNum) := match metadata.file, metadata.line with
            | some f, some l => ((fileName f).getD f, l)
            | _, _ => ("<unknown>", 0)
          intoBytes (formatFile eventLevel ts metadata.target fileBasename lineNum msg)

end FileLayer

/-! What a layer emits. -/

/-- A layer writes what it has rendered, unless that is nothing. -/
def Emits (rendered : Except Halt (List UInt8)) : Prop := ∃ bytes, rendered = .ok bytes ∧ bytes ≠ []

/-- The level of an event is at least a minimum; that of a TRACE event is below all. -/
def AtLeast (level : TracingLevel) (minLevel : Level) : Prop :=
  ∃ eventLevel, Level.fromTracing level = some eventLevel ∧ ¬ eventLevel < minLevel

def bridgedTarget (field : String × Recorded) : Option String :=
  if field.1 = "log.target" then
    match field.2 with
    | .debug text => some (trimQuotes text)
    | .str value => some value
    | _ => none
  else none

/-- The module path an event comes from: the last one its fields carry, or else that of its
metadata. -/
def Event.realTarget (event : Event) : String :=
  ((event.fields.filterMap bridgedTarget).getLast?).getD event.metadata.target

theorem intoBytes_line (text : String) : intoBytes (text ++ "\n") ≠ [] := by
  intro empty
  have size := congrArg List.length empty
  have newline : byteLen "\n".toList = 1 := by decide
  rw [intoBytes, length_asBytes, String.toList_append, byteLen_append, newline,
    List.length_nil] at size
  omega

theorem ConsoleLayer.line_ends (layer : ConsoleLayer) (env : Env) (level : Level)
    (metadata : Metadata) (visitor : MessageVisitor) :
    ∃ text, layer.line env level metadata visitor = text ++ "\n" := by
  unfold line
  cases layer.format with
  | simple => exact ⟨_, rfl⟩
  | normal => exact ⟨_, rfl⟩
  | context => exact ⟨_, rfl⟩

namespace MessageVisitor

theorem startsWith_target : Text.startsWith "log.target" "log." = true := by decide

theorem recordDebug_ok (v : MessageVisitor) (name text : String) :
    ∃ v', v.recordDebug name text = .ok v' ∧
      v'.logTarget = if name = "log.target" then some (trimQuotes text) else v.logTarget := by
  unfold recordDebug
  split
  · split
    · exact ⟨_, rfl, rfl⟩
    · exact ⟨_, rfl, rfl⟩
    · rename_i other _
      exact ⟨_, rfl, (if_neg other).symm⟩
  · rename_i visible
    have other : name ≠ "log.target" := by
      rintro rfl
      exact visible startsWith_target
    rw [if_neg other]
    split
    · exact ⟨_, rfl, rfl⟩
    · obtain ⟨cow, _, _, safe⟩ := Safety.cleanDebugValue_safe text.toList
      have cleaned := (safe _ (Nat.lt_succ_self _)).2.2.1
      rw [cleaned, ok_bind]
      cases cow <;> exact ⟨_, rfl, rfl⟩

theorem logTarget_recordStr (v : MessageVisitor) (name value : String) :
    (v.recordStr name value).logTarget =
      if name = "log.target" then some value else v.logTarget := by
  unfold recordStr
  split
  · split
    · rfl
    · rfl
    · rename_i other _
      exact (if_neg other).symm
  · rename_i visible
    have other : name ≠ "log.target" := by
      rintro rfl
      exact visible startsWith_target
    rw [if_neg other]
    split <;> rfl

theorem logTarget_recordU64 (v : MessageVisitor) (name : String) (value : UInt64) :
    (v.recordU64 name value).logTarget = v.logTarget := by
  unfold recordU64
  split <;> rfl

theorem record_ok (v : MessageVisitor) (field : String × Recorded) :
    ∃ v', v.record field = .ok v' ∧ v'.logTarget = (bridgedTarget field).or v.logTarget := by
  obtain ⟨name, value⟩ := field
  cases value with
  | debug text =>
    obtain ⟨v', result, target⟩ := v.recordDebug_ok name text
    refine ⟨v', result, target.trans ?_⟩
    simp only [bridgedTarget]
    split <;> rfl
  | str value =>
    refine ⟨_, rfl, (v.logTarget_recordStr name value).trans ?_⟩
    simp only [bridgedTarget]
    split <;> rfl
  | u64 value =>
    refine ⟨_, rfl, (v.logTarget_recordU64 name value).trans ?_⟩
    simp [bridgedTarget]
  | i64 value => exact ⟨_, rfl, by simp [bridgedTarget, push]⟩
  | f64 display debug => exact ⟨_, rfl, by simp [bridgedTarget, push]⟩
  | bool value => exact ⟨_, rfl, by simp [bridgedTarget, push]⟩

theorem foldlM_record (fields : List (String × Recorded)) (v : MessageVisitor) :
    ∃ v', fields.foldlM record v = .ok v' ∧
      v'.logTarget = ((fields.filterMap bridgedTarget).getLast?).or v.logTarget := by
  induction fields generalizing v with
  | nil => exact ⟨v, rfl, rfl⟩
  | cons field fields ih =>
    obtain ⟨next, first, target⟩ := v.record_ok field
    obtain ⟨final, rest, last⟩ := ih next
    refine ⟨final, by rw [List.foldlM_cons, first, ok_bind, rest], ?_⟩
    rw [last, target, List.filterMap_cons]
    cases bridgedTarget field with
    | none => rfl
    | some found =>
      rw [List.getLast?_cons]
      cases (fields.filterMap bridgedTarget).getLast? <;> rfl

end MessageVisitor

theorem not_emits_nil : ¬ Emits (.ok []) := by
  rintro ⟨bytes, same, some⟩
  exact some (Except.ok.inj same).symm

/-- The gate of both layers: an event that does not reach the minimum is nothing, and what is
shown of any other is something. -/
theorem gate_iff {α : Type} {P : α → Prop} {nothing : α} (silent : ¬ P nothing)
    {shown : Level → α} (loud : ∀ level, P (shown level)) (level : TracingLevel)
    (minLevel : Level) :
    P (if level = .trace then nothing
      else match Level.fromTracing level with
        | none => nothing
        | some eventLevel => if eventLevel < minLevel then nothing else shown eventLevel) ↔
      AtLeast level minLevel := by
  by_cases trace : level = .trace
  · rw [if_pos trace, trace]
    refine iff_of_false silent ?_
    rintro ⟨_, known, _⟩
    cases known
  · rw [if_neg trace, AtLeast]
    cases known : Level.fromTracing level with
    | none => exact iff_of_false silent (by simp)
    | some eventLevel =>
      simp only [Option.some.injEq, exists_eq_left']
      by_cases below : eventLevel < minLevel
      · rw [if_pos below]
        exact iff_of_false silent (not_not.mpr below)
      · rw [if_neg below]
        exact iff_of_true (loud eventLevel) below

theorem ConsoleLayer.emits_iff (layer : ConsoleLayer) (env : Env) (currentMinLevel : Level)
    (event : Event) :
    Emits (layer.renderEvent env currentMinLevel event) ↔
      AtLeast event.metadata.level
        (effectiveMinLevel event.metadata.target layer.targetOverrides currentMinLevel) := by
  apply gate_iff not_emits_nil
  intro level
  obtain ⟨visitor, visited, _⟩ := MessageVisitor.foldlM_record event.fields .new
  obtain ⟨text, ends⟩ := layer.line_ends env level event.metadata visitor
  refine ⟨_, by rw [visited]; rfl, ?_⟩
  rw [ends]
  exact intoBytes_line text

theorem FileLayer.emits_iff (layer : FileLayer) (env : Env) (currentMinLevel : Level)
    (event : Event) :
    Emits (.ok (layer.renderEvent env currentMinLevel event)) ↔
      AtLeast event.metadata.level
        (effectiveMinLevel event.metadata.target layer.targetOverrides currentMinLevel) := by
  apply gate_iff (P := fun bytes => Emits (.ok bytes)) not_emits_nil
  intro level
  exact ⟨_, rfl, intoBytes_line _⟩

/-- The context format shows the module path the event comes from. -/
theorem ConsoleLayer.shows_realTarget (layer : ConsoleLayer) (env : Env) (currentMinLevel : Level)
    (event : Event) (context : layer.format = .context)
    (emitted : Emits (layer.renderEvent env currentMinLevel event)) :
    ∃ level file line msg, layer.renderEvent env currentMinLevel event =
      .ok (intoBytes (formatContext env (shouldEmitAnsi layer.colorMode env) level
        (env.strftime "%-I:%M:%S %p") (layer.shownTarget event.realTarget) file line msg)) := by
  obtain ⟨level, known, reached⟩ := (layer.emits_iff env currentMinLevel event).mp emitted
  obtain ⟨visitor, visited, target⟩ := MessageVisitor.foldlM_record event.fields .new
  have visible : event.metadata.level ≠ .trace := by
    intro trace
    rw [trace] at known
    cases known
  have shown : visitor.logTarget.getD event.metadata.target = event.realTarget := by
    rw [target, Event.realTarget]
    cases (event.fields.filterMap bridgedTarget).getLast? <;> rfl
  unfold renderEvent
  rw [if_neg visible, known]
  simp only [reached, if_false, visited, ok_bind, line, context, shown]
  exact ⟨level, _, _, _, rfl⟩

/-- Both minimum levels, the one of the target in the metadata and the one of the module path,
let the event through, or neither does. -/
def SameSide (event : Event) (overrides : List TargetOverride) (currentMinLevel : Level) : Prop :=
  AtLeast event.metadata.level
      (effectiveMinLevel event.metadata.target overrides currentMinLevel) ↔
    AtLeast event.metadata.level (effectiveMinLevel event.realTarget overrides currentMinLevel)

/-- The layers obey the minimum level of the module path exactly where the two minimum levels
do not separate. -/
theorem layers_obey_iff (config : LogConfig) (env : Env) (currentMinLevel : Level)
    (event : Event) :
    ((Emits ((ConsoleLayer.new config).renderEvent env currentMinLevel event) ↔
        AtLeast event.metadata.level
          (effectiveMinLevel event.realTarget config.targetOverrides currentMinLevel)) ∧
      (Emits (.ok ((FileLayer.new config).renderEvent env currentMinLevel event)) ↔
        AtLeast event.metadata.level
          (effectiveMinLevel event.realTarget config.targetOverrides currentMinLevel))) ↔
      SameSide event config.targetOverrides currentMinLevel := by
  rw [ConsoleLayer.emits_iff, FileLayer.emits_iff]
  exact and_self_iff

def noonEnv : Env where
  strftime _ := "12:00:00 PM"
  stderrIsTerminal := false
  noColor := false
  forceColor := false
  color _ text := text

def quietSqlx : LogConfig := LogConfig.from (LogBuilder.default.targetLevel "sqlx" .warn)

def sqlxQuery : Event :=
  .bridged .info "sqlx::query" "sqlx::query" "src/logger.rs" 143 "SELECT 1; rows affected: 1"

/-- Both layers emit it, although the level for its module path is higher. -/
theorem sqlxQuery_emitted :
    Emits ((ConsoleLayer.new quietSqlx).renderEvent noonEnv .info sqlxQuery) ∧
      Emits (.ok ((FileLayer.new quietSqlx).renderEvent noonEnv .info sqlxQuery)) ∧
      ¬ AtLeast sqlxQuery.metadata.level
        (effectiveMinLevel sqlxQuery.realTarget quietSqlx.targetOverrides .info) := by
  have overrides : quietSqlx.targetOverrides = [⟨"sqlx", .warn⟩] := List.mergeSort_singleton _
  have real : sqlxQuery.realTarget = "sqlx::query" := rfl
  have gate : effectiveMinLevel "log" [⟨"sqlx", .warn⟩] .info = .info := by decide
  have own : effectiveMinLevel "sqlx::query" [⟨"sqlx", .warn⟩] .info = .warn := by decide
  have through : AtLeast .info .info := ⟨.info, rfl, by decide⟩
  have kept : ¬ AtLeast .info .warn := by
    rintro ⟨level, known, reached⟩
    cases known
    exact reached (by decide)
  rw [ConsoleLayer.emits_iff, FileLayer.emits_iff, real]
  simp only [ConsoleLayer.new, FileLayer.new, overrides, own]
  refine ⟨?_, ?_, kept⟩ <;>
  · rw [← gate] at through
    exact through

/-- An event of the tracing crate itself carries no other target. -/
theorem sameSide_of_tracing {event : Event} (own : ∀ field ∈ event.fields, field.1 ≠ "log.target")
    (overrides : List TargetOverride) (currentMinLevel : Level) :
    SameSide event overrides currentMinLevel := by
  have none : event.fields.filterMap bridgedTarget = [] :=
    List.filterMap_eq_nil_iff.mpr fun field member => if_neg (own field member)
  have same : event.realTarget = event.metadata.target := by
    rw [Event.realTarget, none]
    rfl
  rw [SameSide, same]

end Polykit.Log.Layers
