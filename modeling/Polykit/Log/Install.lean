/- Module: Polykit/Log/Install
   generality: I
   source: crates/polylog/src/init.rs, crates/polylog/src/error.rs
   digest: Installations of the logger on many threads: one at a time, and one that succeeds. -/

import Polykit.Lib.Runs
import Polykit.Log.Layers

set_option autoImplicit false
set_option relaxedAutoImplicit false

namespace Polykit.Log.Install

open Builder Layers Lib.Runs

inductive InitError
  | alreadyInitialized
  | fileSetupFailed (path source : String)
  | setGlobalDefaultFailed
  deriving DecidableEq

/-- The global subscriber: the layers of an installation, or one that other code has set. -/
inductive Subscriber
  | polylog (console : ConsoleLayer) (file : Option FileLayer)
  | foreign

def subscriberOf (config : LogConfig) : Subscriber :=
  .polylog (.new config) (config.logFile.map fun _ => .new config)

/-- Where an installation stands. Before each stage it has touched one of the shared statics. -/
inductive Stage
  | claimed (config : LogConfig)
  | levelled (config : LogConfig)
  | layered (config : LogConfig)
  | refused (error : InitError)
  | subscribed (config : LogConfig)
  | done (config : LogConfig)
  | failed (error : InitError)

/-- The statics of the process, the global subscriber, and the installations by number. -/
structure Process where
  initialized : Bool := false
  minLevel : UInt8 := 1
  subscriber : Option Subscriber := none
  installs : Nat → Option Stage := fun _ => none

namespace Process

def currentMinLevel (p : Process) : Level := (Level.fromU8 p.minLevel).getD .info

def setStage (p : Process) (id : Nat) (stage : Stage) : Process :=
  { p with installs := Function.update p.installs id (some stage) }

end Process

/-- What the threads do. An installation goes through its shared accesses one by one, `build`
brings the answer of the file system, guards set the level, and other code may set a subscriber. -/
inductive Action
  | call (id : Nat) (builder : LogBuilder)
  | storeLevel (id : Nat)
  | build (id : Nat) (fileError : Option String)
  | tryInit (id : Nat)
  | clear (id : Nat)
  | finish (id : Nat)
  | setMinLevel (level : Level)
  | setForeign

def built (config : LogConfig) (fileError : Option String) : Stage :=
  match config.logFile, fileError with
  | some path, some source => .refused (.fileSetupFailed path source)
  | _, _ => .layered config

/-- `install_with_config`, one shared access a step. -/
def step (p : Process) : Action → Option Process
  | .call id builder =>
      match p.installs id with
      | none =>
          -- compare_exchange(false, true)
          if p.initialized then some (p.setStage id (.failed .alreadyInitialized))
          else some ({ p with initialized := true }.setStage id (.claimed (.from builder)))
      | some _ => none
  | .storeLevel id =>
      match p.installs id with
      | some (.claimed config) =>
          some ({ p with minLevel := config.level.asU8 }.setStage id (.levelled config))
      | _ => none
  | .build id fileError =>
      match p.installs id with
      | some (.levelled config) => some (p.setStage id (built config fileError))
      | _ => none
  | .tryInit id =>
      match p.installs id with
      | some (.layered config) =>
          if p.subscriber.isSome then some (p.setStage id (.refused .setGlobalDefaultFailed))
          else some ({ p with subscriber := some (subscriberOf config) }.setStage id
            (.subscribed config))
      | _ => none
  | .clear id =>
      match p.installs id with
      | some (.refused error) =>
          some ({ p with initialized := false }.setStage id (.failed error))
      | _ => none
  | .finish id =>
      match p.installs id with
      | some (.subscribed config) => some (p.setStage id (.done config))
      | _ => none
  | .setMinLevel level => some { p with minLevel := level.asU8 }
  | .setForeign =>
      if p.subscriber.isSome then none else some { p with subscriber := some .foreign }

inductive Move (p : Process) : Action → Process → Prop
  | turnedAway {id : Nat} {builder : LogBuilder} (fresh : p.installs id = none)
      (flag : p.initialized = true) :
      Move p (.call id builder) (p.setStage id (.failed .alreadyInitialized))
  | claims {id : Nat} {builder : LogBuilder} (fresh : p.installs id = none)
      (flag : p.initialized = false) :
      Move p (.call id builder)
        ({ p with initialized := true }.setStage id (.claimed (.from builder)))
  | levels {id : Nat} {config : LogConfig} (found : p.installs id = some (.claimed config)) :
      Move p (.storeLevel id)
        ({ p with minLevel := config.level.asU8 }.setStage id (.levelled config))
  | builds {id : Nat} {fileError : Option String} {config : LogConfig}
      (found : p.installs id = some (.levelled config)) :
      Move p (.build id fileError) (p.setStage id (built config fileError))
  | comesLate {id : Nat} {config : LogConfig} (found : p.installs id = some (.layered config))
      (taken : p.subscriber.isSome = true) :
      Move p (.tryInit id) (p.setStage id (.refused .setGlobalDefaultFailed))
  | subscribes {id : Nat} {config : LogConfig} (found : p.installs id = some (.layered config))
      (free : p.subscriber = none) :
      Move p (.tryInit id)
        ({ p with subscriber := some (subscriberOf config) }.setStage id (.subscribed config))
  | clears {id : Nat} {error : InitError} (found : p.installs id = some (.refused error)) :
      Move p (.clear id) ({ p with initialized := false }.setStage id (.failed error))
  | finishes {id : Nat} {config : LogConfig} (found : p.installs id = some (.subscribed config)) :
      Move p (.finish id) (p.setStage id (.done config))
  | overrides {level : Level} : Move p (.setMinLevel level) { p with minLevel := level.asU8 }
  | intrudes (free : p.subscriber = none) :
      Move p .setForeign { p with subscriber := some .foreign }

theorem move_of_step {p q : Process} {action : Action} (h : step p action = some q) :
    Move p action q := by
  cases action with
  | call id builder =>
    simp only [step] at h
    split at h
    · rename_i fresh
      split at h
      · rename_i flag
        cases h
        exact .turnedAway fresh flag
      · rename_i flag
        cases h
        exact .claims fresh (Bool.not_eq_true _ ▸ flag)
    · cases h
  | storeLevel id =>
    simp only [step] at h
    split at h
    · cases h
      exact .levels ‹_›
    · cases h
  | build id fileError =>
    simp only [step] at h
    split at h
    · cases h
      exact .builds ‹_›
    · cases h
  | tryInit id =>
    simp only [step] at h
    split at h
    · rename_i found
      split at h
      · cases h
        exact .comesLate found ‹_›
      · rename_i free
        cases h
        exact .subscribes found (by simpa using free)
    · cases h
  | clear id =>
    simp only [step] at h
    split at h
    · cases h
      exact .clears ‹_›
    · cases h
  | finish id =>
    simp only [step] at h
    split at h
    · cases h
      exact .finishes ‹_›
    · cases h
  | setMinLevel level =>
    cases h
    exact .overrides
  | setForeign =>
    simp only [step] at h
    split at h
    · cases h
    · rename_i free
      cases h
      exact .intrudes (by simpa using free)

/-! Who holds the flag, and whose the subscriber is. -/

/-- The flag is given back by a failed installation only. -/
def Stage.holds : Stage → Bool
  | .failed _ => false
  | _ => true

def Stage.owned : Stage → Option LogConfig
  | .subscribed config => some config
  | .done config => some config
  | _ => none

def Stage.levelledBy : Stage → Option LogConfig
  | .levelled config => some config
  | .layered config => some config
  | .subscribed config => some config
  | .done config => some config
  | _ => none

namespace Process

def Holds (p : Process) (id : Nat) : Prop :=
  ∃ stage, p.installs id = some stage ∧ stage.holds = true

def Owns (p : Process) (id : Nat) (config : LogConfig) : Prop :=
  ∃ stage, p.installs id = some stage ∧ stage.owned = some config

variable {p : Process} {id other : Nat} {stage : Stage} {config : LogConfig}

@[simp] theorem installs_setStage : (p.setStage id stage).installs id = some stage :=
  Function.update_self ..

@[simp] theorem initialized_setStage : (p.setStage id stage).initialized = p.initialized := rfl

@[simp] theorem minLevel_setStage : (p.setStage id stage).minLevel = p.minLevel := rfl

@[simp] theorem subscriber_setStage : (p.setStage id stage).subscriber = p.subscriber := rfl

theorem some_setStage_iff {found : Stage} : (p.setStage id stage).installs other = some found ↔
    (other = id ∧ stage = found) ∨ (other ≠ id ∧ p.installs other = some found) := by
  show Function.update p.installs id (some stage) other = some found ↔ _
  rw [Function.update_apply]
  by_cases same : other = id <;> simp [same]

theorem ne_of_fresh {found : Stage} (fresh : p.installs id = none)
    (there : p.installs other = some found) : other ≠ id := by
  rintro rfl
  cases fresh.symm.trans there

theorem holds_setStage_iff : (p.setStage id stage).Holds other ↔
    (other = id ∧ stage.holds = true) ∨ (other ≠ id ∧ p.Holds other) := by
  unfold Holds
  simp only [some_setStage_iff]
  constructor
  · rintro ⟨found, ⟨same, rfl⟩ | ⟨different, there⟩, held⟩
    · exact .inl ⟨same, held⟩
    · exact .inr ⟨different, found, there, held⟩
  · rintro (⟨same, held⟩ | ⟨different, found, there, held⟩)
    · exact ⟨stage, .inl ⟨same, rfl⟩, held⟩
    · exact ⟨found, .inr ⟨different, there⟩, held⟩

theorem owns_setStage_iff : (p.setStage id stage).Owns other config ↔
    (other = id ∧ stage.owned = some config) ∨ (other ≠ id ∧ p.Owns other config) := by
  unfold Owns
  simp only [some_setStage_iff]
  constructor
  · rintro ⟨found, ⟨same, rfl⟩ | ⟨different, there⟩, held⟩
    · exact .inl ⟨same, held⟩
    · exact .inr ⟨different, found, there, held⟩
  · rintro (⟨same, held⟩ | ⟨different, found, there, held⟩)
    · exact ⟨stage, .inl ⟨same, rfl⟩, held⟩
    · exact ⟨found, .inr ⟨different, there⟩, held⟩

theorem holds_advance {q : Process} {before after : Stage}
    (installs : q.installs = (p.setStage id after).installs)
    (found : p.installs id = some before) (same : after.holds = before.holds) :
    q.Holds other ↔ p.Holds other := by
  have moved : q.Holds other ↔ (p.setStage id after).Holds other := by
    unfold Holds
    rw [installs]
  rw [moved, holds_setStage_iff]
  by_cases own : other = id
  · subst own
    unfold Holds
    simp [found, same]
  · simp [own]

theorem owns_advance {q : Process} {before after : Stage}
    (installs : q.installs = (p.setStage id after).installs)
    (found : p.installs id = some before) (same : after.owned = before.owned) :
    q.Owns other config ↔ p.Owns other config := by
  have moved : q.Owns other config ↔ (p.setStage id after).Owns other config := by
    unfold Owns
    rw [installs]
  rw [moved, owns_setStage_iff]
  by_cases own : other = id
  · subst own
    unfold Owns
    simp [found, same]
  · simp [own]

end Process

/-- One installation at most holds the flag, and it is set while there is one. A subscriber that
other code has not set is made of the layers of one that has succeeded. -/
structure Orderly (p : Process) : Prop where
  one : ∀ a b, p.Holds a → p.Holds b → a = b
  flag : p.initialized = true ↔ ∃ a, p.Holds a
  own : ∀ a config, p.Owns a config → p.subscriber = some (subscriberOf config)
  owned : p.subscriber = none ∨ p.subscriber = some .foreign ∨ ∃ a config, p.Owns a config

section Step

variable {p q : Process} (orderly : Orderly p)

include orderly

theorem Orderly.keep (holds : ∀ a, q.Holds a ↔ p.Holds a)
    (owns : ∀ a config, q.Owns a config ↔ p.Owns a config)
    (flag : q.initialized = p.initialized) (subscriber : q.subscriber = p.subscriber) :
    Orderly q := by
  refine ⟨fun a b ha hb => orderly.one a b ((holds a).mp ha) ((holds b).mp hb), ?_, ?_, ?_⟩
  · rw [flag, orderly.flag]
    exact exists_congr fun a => (holds a).symm
  · intro a config own
    rw [subscriber]
    exact orderly.own a config ((owns a config).mp own)
  · rw [subscriber]
    refine orderly.owned.imp_right (.imp_right ?_)
    rintro ⟨a, config, own⟩
    exact ⟨a, config, (owns a config).mpr own⟩

theorem Orderly.claim {id : Nat} {config : LogConfig} (fresh : p.installs id = none)
    (flag : p.initialized = false) :
    Orderly ({ p with initialized := true }.setStage id (.claimed config)) := by
  have nobody : ∀ a, ¬ p.Holds a := by
    intro a held
    have set := orderly.flag.mpr ⟨a, held⟩
    rw [flag] at set
    cases set
  have only : ∀ a, ({ p with initialized := true }.setStage id (.claimed config)).Holds a ↔
      a = id := by
    intro a
    rw [Process.holds_setStage_iff]
    constructor
    · rintro (⟨same, -⟩ | ⟨-, held⟩)
      · exact same
      · exact absurd held (nobody a)
    · rintro rfl
      exact .inl ⟨rfl, rfl⟩
  refine ⟨fun a b ha hb => ((only a).mp ha).trans ((only b).mp hb).symm,
    ⟨fun _ => ⟨id, (only id).mpr rfl⟩, fun _ => rfl⟩, ?_, ?_⟩
  · intro a other own
    rcases Process.owns_setStage_iff.mp own with ⟨-, none⟩ | ⟨-, own⟩
    · cases none
    · exact orderly.own a other own
  · refine orderly.owned.imp_right (.imp_right ?_)
    rintro ⟨a, other, stage, there, owned⟩
    exact ⟨a, other, stage,
      Process.some_setStage_iff.mpr (.inr ⟨Process.ne_of_fresh fresh there, there⟩), owned⟩

theorem Orderly.subscribe {id : Nat} {config : LogConfig}
    (found : p.installs id = some (.layered config)) (free : p.subscriber = none) :
    Orderly ({ p with subscriber := some (subscriberOf config) }.setStage id
      (.subscribed config)) := by
  have holds : ∀ a, ({ p with subscriber := some (subscriberOf config) }.setStage id
      (.subscribed config)).Holds a ↔ p.Holds a :=
    fun a => Process.holds_advance rfl found rfl
  refine ⟨fun a b ha hb => orderly.one a b ((holds a).mp ha) ((holds b).mp hb),
    orderly.flag.trans (exists_congr fun a => (holds a).symm), ?_, ?_⟩
  · intro a other own
    rcases Process.owns_setStage_iff.mp own with ⟨-, same⟩ | ⟨-, own⟩
    · cases same
      rfl
    · cases free.symm.trans (orderly.own a other own)
  · exact .inr (.inr ⟨id, config, Process.owns_setStage_iff.mpr (.inl ⟨rfl, rfl⟩)⟩)

theorem Orderly.clear {id : Nat} {error : InitError}
    (found : p.installs id = some (.refused error)) :
    Orderly ({ p with initialized := false }.setStage id (.failed error)) := by
  have nobody : ∀ a, ¬ ({ p with initialized := false }.setStage id (.failed error)).Holds a := by
    intro a held
    rcases Process.holds_setStage_iff.mp held with ⟨-, none⟩ | ⟨different, held⟩
    · cases none
    · exact different (orderly.one a id held ⟨_, found, rfl⟩)
  have owns : ∀ a config,
      ({ p with initialized := false }.setStage id (.failed error)).Owns a config ↔
        p.Owns a config := fun a config => Process.owns_advance rfl found rfl
  refine ⟨fun a b held => absurd held (nobody a), ⟨fun set => (by cases set),
    fun held => absurd held.choose_spec (nobody _)⟩, ?_, ?_⟩
  · exact fun a config own => orderly.own a config ((owns a config).mp own)
  · refine orderly.owned.imp_right (.imp_right ?_)
    rintro ⟨a, config, own⟩
    exact ⟨a, config, (owns a config).mpr own⟩

theorem Orderly.move {action : Action} (move : Move p action q) : Orderly q := by
  cases move with
  | turnedAway fresh flag =>
    refine orderly.keep (fun a => Process.holds_setStage_iff.trans ⟨?_, fun held => ?_⟩)
      (fun a config => Process.owns_setStage_iff.trans ⟨?_, fun own => ?_⟩) rfl rfl
    · rintro (⟨-, none⟩ | ⟨-, held⟩)
      · cases none
      · exact held
    · obtain ⟨stage, there, -⟩ := id held
      exact .inr ⟨Process.ne_of_fresh fresh there, held⟩
    · rintro (⟨-, none⟩ | ⟨-, own⟩)
      · cases none
      · exact own
    · obtain ⟨stage, there, -⟩ := id own
      exact .inr ⟨Process.ne_of_fresh fresh there, own⟩
  | claims fresh flag => exact orderly.claim fresh flag
  | levels found =>
    exact orderly.keep (fun _ => Process.holds_advance rfl found rfl)
      (fun _ _ => Process.owns_advance rfl found rfl) rfl rfl
  | builds found =>
    refine orderly.keep (fun _ => Process.holds_advance rfl found ?_)
      (fun _ _ => Process.owns_advance rfl found ?_) rfl rfl
    · unfold built
      split <;> rfl
    · unfold built
      split <;> rfl
  | comesLate found taken =>
    exact orderly.keep (fun _ => Process.holds_advance rfl found rfl)
      (fun _ _ => Process.owns_advance rfl found rfl) rfl rfl
  | subscribes found free => exact orderly.subscribe found free
  | clears found => exact orderly.clear found
  | finishes found =>
    exact orderly.keep (fun _ => Process.holds_advance rfl found rfl)
      (fun _ _ => Process.owns_advance rfl found rfl) rfl rfl
  | overrides => exact orderly.keep (fun _ => Iff.rfl) (fun _ _ => Iff.rfl) rfl rfl
  | intrudes free =>
    refine ⟨orderly.one, orderly.flag, fun a config own => ?_, .inr (.inl rfl)⟩
    cases free.symm.trans (orderly.own a config own)

end Step

/-! What lasts. -/

/-- An installation that has succeeded stays, with the flag and the subscriber, and with the level
unless a guard sets another one. -/
structure Lasts (id : Nat) (config : LogConfig) (minLevel : UInt8) (labels : List Action)
    (p : Process) : Prop where
  orderly : Orderly p
  done : p.installs id = some (.done config)
  level : (∀ level, .setMinLevel level ∉ labels) → p.minLevel = minLevel

theorem Lasts.move {id : Nat} {config : LogConfig} {minLevel : UInt8} {labels : List Action}
    {p q : Process} {action : Action} (lasts : Lasts id config minLevel labels p)
    (move : Move p action q) : Lasts id config minLevel (action :: labels) q := by
  have holds : p.Holds id := ⟨_, lasts.done, rfl⟩
  have kept : ∀ {own : Nat} {before after : Stage}, p.installs own = some before →
      before ≠ .done config → (p.setStage own after).installs id = some (.done config) := by
    intro own before after found different
    refine Process.some_setStage_iff.mpr (.inr ⟨?_, lasts.done⟩)
    rintro rfl
    exact different (Option.some.inj (found.symm.trans lasts.done))
  have level : (∀ level, .setMinLevel level ∉ action :: labels) → p.minLevel = minLevel :=
    fun none => lasts.level fun level among => none level (List.mem_cons_of_mem _ among)
  refine ⟨lasts.orderly.move move, ?_, ?_⟩
  · cases move with
    | turnedAway fresh flag =>
      exact Process.some_setStage_iff.mpr (.inr ⟨Process.ne_of_fresh fresh lasts.done, lasts.done⟩)
    | claims fresh flag =>
      exact Process.some_setStage_iff.mpr (.inr ⟨Process.ne_of_fresh fresh lasts.done, lasts.done⟩)
    | levels found => exact kept found (by rintro ⟨⟩)
    | builds found => exact kept found (by rintro ⟨⟩)
    | comesLate found taken => exact kept found (by rintro ⟨⟩)
    | subscribes found free => exact kept found (by rintro ⟨⟩)
    | clears found => exact kept found (by rintro ⟨⟩)
    | finishes found => exact kept found (by rintro ⟨⟩)
    | overrides => exact lasts.done
    | intrudes free => exact lasts.done
  · intro none
    cases move with
    | levels found =>
      have same := lasts.orderly.one _ _ ⟨_, found, rfl⟩ holds
      rw [same, lasts.done] at found
      cases found
    | overrides => exact absurd List.mem_cons_self (none _)
    | _ => exact level none

/-- The level of the configuration that was stored last is in force, without a guard. -/
def InForce (labels : List Action) (p : Process) : Prop :=
  (∀ level, .setMinLevel level ∉ labels) →
    ∀ id stage config, p.installs id = some stage → stage.levelledBy = some config →
      p.minLevel = config.level.asU8

theorem inForce_move {labels : List Action} {p q : Process} {action : Action}
    (orderly : Orderly p) (inForce : InForce labels p) (move : Move p action q) :
    InForce (action :: labels) q := by
  intro none other stage config there levelled
  have before := inForce fun level among => none level (List.mem_cons_of_mem _ among)
  have step : ∀ {own : Nat} {after found : Stage}, p.installs own = some found →
      (p.setStage own after).installs other = some stage →
      (after.levelledBy = some config → found.levelledBy = some config) →
      p.minLevel = config.level.asU8 := by
    intro own after found here moved same
    rcases Process.some_setStage_iff.mp moved with ⟨rfl, rfl⟩ | ⟨-, there⟩
    · exact before _ _ config here (same levelled)
    · exact before other stage config there levelled
  cases move with
  | turnedAway fresh flag =>
    rcases Process.some_setStage_iff.mp there with ⟨-, rfl⟩ | ⟨-, there⟩
    · cases levelled
    · exact before other stage config there levelled
  | claims fresh flag =>
    rcases Process.some_setStage_iff.mp there with ⟨-, rfl⟩ | ⟨-, there⟩
    · cases levelled
    · exact before other stage config there levelled
  | levels found =>
    rcases Process.some_setStage_iff.mp there with ⟨-, rfl⟩ | ⟨different, there⟩
    · cases levelled
      rfl
    · refine absurd (orderly.one _ _ ⟨stage, there, ?_⟩ ⟨_, found, rfl⟩) different
      cases stage <;> first | rfl | cases levelled
  | builds found =>
    refine step found there fun same => ?_
    unfold built at same
    split at same
    · cases same
    · exact same
  | comesLate found taken => exact step found there fun same => (by cases same)
  | subscribes found free => exact step found there fun same => same
  | clears found => exact step found there fun same => (by cases same)
  | finishes found => exact step found there fun same => same
  | overrides => exact absurd List.mem_cons_self (none _)
  | intrudes free => exact before other stage config there levelled

section Runs

variable {actions : List Action} {p : Process}

theorem run_orderly (run : Run (Steps step) {} actions p) :
    Orderly p ∧ InForce actions p := by
  refine run.history_invariant (I := fun labels p => Orderly p ∧ InForce labels p) ⟨?_, ?_⟩ ?_
  · have nobody : ∀ a, ¬ ({} : Process).Holds a := by
      rintro a ⟨stage, ⟨⟩, -⟩
    refine ⟨fun a b held => absurd held (nobody a),
      ⟨fun set => (by cases set), fun held => absurd held.choose_spec (nobody _)⟩, ?_, .inl rfl⟩
    rintro a config ⟨stage, ⟨⟩, -⟩
  · rintro - id stage config ⟨⟩
  · rintro older s action t ⟨orderly, inForce⟩ edge
    have move := move_of_step edge
    exact ⟨orderly.move move, inForce_move orderly inForce move⟩

theorem run_lasts {later : List Action} {q : Process} {id : Nat} {config : LogConfig}
    (orderly : Orderly p) (done : p.installs id = some (.done config))
    (run : Run (Steps step) p later q) : Lasts id config p.minLevel later q :=
  run.history_invariant (I := fun labels q => Lasts id config p.minLevel labels q)
    ⟨orderly, done, fun _ => rfl⟩ fun _ _ _ _ lasts edge => lasts.move (move_of_step edge)

/-- In any interleaving of installations, guards and other code, one installation at most is under
way or has succeeded. A call is turned away exactly if there is one. What has succeeded stays, with
its layers as the global subscriber and, but for guards, its level in force. While there is none
and no other subscriber, a new call goes through. -/
theorem install_exclusive (run : Run (Steps step) {} actions p) :
    (∀ a b, p.Holds a → p.Holds b → a = b) ∧
      (∀ id builder q, step p (.call id builder) = some q →
        (q.installs id = some (.failed .alreadyInitialized) ↔ ∃ a, p.Holds a)) ∧
      (∀ id config, p.installs id = some (.done config) →
        ((∀ level, .setMinLevel level ∉ actions) → p.currentMinLevel = config.level) ∧
          ∀ later q, Run (Steps step) p later q →
            q.installs id = some (.done config) ∧ q.subscriber = some (subscriberOf config) ∧
              ((∀ level, .setMinLevel level ∉ later) →
                q.currentMinLevel = p.currentMinLevel)) ∧
      ((∀ a, ¬ p.Holds a) → p.subscriber = none → ∀ id builder, p.installs id = none →
        ∃ q, Run (Steps step) p
          [.finish id, .tryInit id, .build id none, .storeLevel id, .call id builder] q ∧
          q.installs id = some (.done (.from builder)) ∧ q.currentMinLevel = builder.level) := by
  obtain ⟨orderly, inForce⟩ := run_orderly run
  refine ⟨orderly.one, ?_, ?_, ?_⟩
  · intro id builder q edge
    rw [← orderly.flag]
    cases move_of_step edge with
    | turnedAway fresh flag =>
      exact ⟨fun _ => flag, fun _ => Process.some_setStage_iff.mpr (.inl ⟨rfl, rfl⟩)⟩
    | claims fresh flag =>
      rw [flag]
      constructor
      · intro failed
        rcases Process.some_setStage_iff.mp failed with ⟨-, ⟨⟩⟩ | ⟨different, -⟩
        exact absurd rfl different
      · rintro ⟨⟩
  · intro id config done
    refine ⟨fun none => ?_, fun later q after => ?_⟩
    · rw [Process.currentMinLevel, inForce none id _ config done rfl]
      cases config.level <;> rfl
    · have lasts := run_lasts orderly done after
      refine ⟨lasts.done, lasts.orderly.own id config ⟨_, lasts.done, rfl⟩, fun none => ?_⟩
      rw [Process.currentMinLevel, lasts.level none, Process.currentMinLevel]
  · intro nobody free id builder fresh
    have flag : p.initialized = false := by
      rw [Bool.eq_false_iff]
      exact fun set => (orderly.flag.mp set).elim nobody
    have layers : built (.from builder) none = .layered (.from builder) := by
      unfold built
      cases (LogConfig.from builder).logFile <;> rfl
    have ran : ∃ q, execute step p [.finish id, .tryInit id, .build id none, .storeLevel id,
        .call id builder] = some q ∧ q.installs id = some (.done (.from builder)) ∧
          q.minLevel = (LogConfig.from builder).level.asU8 := by
      simp [execute, step, fresh, flag, layers, free]
    obtain ⟨q, computed, done, level⟩ := ran
    refine ⟨q, run_of_execute computed, done, ?_⟩
    rw [Process.currentMinLevel, level]
    show (Level.fromU8 builder.level.asU8).getD .info = builder.level
    cases builder.level <;> rfl

end Runs

def toFile : LogBuilder :=
  { LogBuilder.default with level := .debug, logFile := some "/no/app.log" }

def toConsole : LogBuilder := { LogBuilder.default with level := .warn }

/-- The first attempt cannot open its file and turns the second one away. The third one is not
replaced by anything. -/
theorem install_exclusive_third : ∃ actions p, Run (Steps step) {} actions p ∧
    p.installs 0 = some (.failed (.fileSetupFailed "/no/app.log" "permission denied")) ∧
    p.installs 1 = some (.failed .alreadyInitialized) ∧ p.currentMinLevel = .warn ∧
    ∀ later q, Run (Steps step) p later q →
      q.subscriber = some (subscriberOf (.from toConsole)) := by
  let actions : List Action := [.finish 2, .tryInit 2, .build 2 none, .storeLevel 2,
    .call 2 toConsole, .clear 0, .build 0 (some "permission denied"), .call 1 toConsole,
    .storeLevel 0, .call 0 toFile]
  have computed : ∃ p, execute step {} actions = some p ∧
      p.installs 0 = some (.failed (.fileSetupFailed "/no/app.log" "permission denied")) ∧
      p.installs 1 = some (.failed .alreadyInitialized) ∧
      p.installs 2 = some (.done (.from toConsole)) ∧ p.currentMinLevel = .warn :=
    ⟨_, rfl, rfl, rfl, rfl, rfl⟩
  obtain ⟨p, computed, first, second, third, level⟩ := computed
  have run := run_of_execute computed
  obtain ⟨-, -, lasts, -⟩ := install_exclusive run
  exact ⟨actions, p, run, first, second, level,
    fun later q after => ((lasts 2 _ third).2 later q after).2.1⟩

end Polykit.Log.Install
