/- Module: Polykit/Log/Level
   generality: I
   source: crates/polylog/src/level.rs, crates/polylog/src/format.rs
   digest: The levels of the log, their order and their encodings. -/

import Mathlib.Tactic

set_option autoImplicit false
set_option relaxedAutoImplicit false

namespace Polykit.Log

inductive Level
  | debug
  | info
  | warn
  | error
  deriving DecidableEq

inductive TracingLevel
  | trace
  | debug
  | info
  | warn
  | error
  deriving DecidableEq

namespace Level

def label : Level → String
  | debug => "[debug]"
  | info => "[info]"
  | warn => "[warn]"
  | error => "[error]"

def asTracing : Level → TracingLevel
  | debug => .debug
  | info => .info
  | warn => .warn
  | error => .error

def fromTracing : TracingLevel → Option Level
  | .debug => some debug
  | .info => some info
  | .warn => some warn
  | .error => some error
  | .trace => none

def asU8 : Level → UInt8
  | debug => 0
  | info => 1
  | warn => 2
  | error => 3

def fromU8 (v : UInt8) : Option Level :=
  if v = 0 then some debug
  else if v = 1 then some info
  else if v = 2 then some warn
  else if v = 3 then some error
  else none

/-- The derived order, from `debug` up to `error`. -/
instance : LT Level := ⟨fun a b => a.asU8 < b.asU8⟩

instance : DecidableLT Level := fun a b => inferInstanceAs (Decidable (a.asU8 < b.asU8))

@[simp] theorem fromU8_asU8 (level : Level) : fromU8 level.asU8 = some level := by
  cases level <;> rfl

theorem fromTracing_eq_some_iff {tracing : TracingLevel} {level : Level} :
    fromTracing tracing = some level ↔ tracing = level.asTracing := by
  cases tracing <;> cases level <;> decide

end Level

inductive FormatMode
  | simple
  | normal
  | context
  deriving DecidableEq

inductive ColorMode
  | auto
  | always
  | never
  deriving DecidableEq

end Polykit.Log
