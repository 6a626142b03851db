/- Module: Polykit/Json
   generality: G
   source: crates/polybase/src/persistence.rs
   digest: JSON values, their numbers and their records, as the serializer represents them. -/

import Mathlib.Tactic

set_option autoImplicit false
set_option relaxedAutoImplicit false

namespace Polykit.Json

/-- A finite double, given by its bits: the exponent field is not all ones. -/
structure FiniteF64 where
  bits : UInt64
  finite : bits &&& 0x7FF0000000000000 ≠ 0x7FF0000000000000
  deriving DecidableEq

/-- A number is kept unsigned when it can be, signed when it is negative, and else as a
double. -/
inductive Number
  | posInt (n : UInt64)
  | negInt (n : Int64) (negative : n < 0)
  | float (x : FiniteF64)
  deriving DecidableEq

/-- The entries of an object are listed in the order of their keys. -/
inductive Value
  | null
  | bool (b : Bool)
  | number (n : Number)
  | string (s : String)
  | array (items : List Value)
  | object (entries : List (String × Value))

@[elab_as_elim]
theorem Value.induction {P : Value → Prop} (null : P .null) (bool : ∀ b, P (.bool b))
    (number : ∀ n, P (.number n)) (string : ∀ s, P (.string s))
    (array : ∀ items, (∀ item ∈ items, P item) → P (.array items))
    (object : ∀ entries, (∀ entry ∈ entries, P entry.2) → P (.object entries))
    (value : Value) : P value :=
  @Value.rec P (fun items => ∀ item ∈ items, P item) (fun entries => ∀ entry ∈ entries, P entry.2)
    (fun entry => P entry.2) null bool number string array object
    (fun _ member => absurd member List.not_mem_nil)
    (fun _ _ first later => List.forall_mem_cons.mpr ⟨first, later⟩)
    (fun _ member => absurd member List.not_mem_nil)
    (fun _ _ first later => List.forall_mem_cons.mpr ⟨first, later⟩)
    (fun _ _ holds => holds) value

/-- An object being built or read: keys are distinct and sorted. -/
abbrev Map := Std.ExtTreeMap String Value compare

def Number.ofInt64 (n : Int64) : Number :=
  if h : n < 0 then .negInt n h else .posInt n.toUInt64

def Number.asI64 : Number → Option Int64
  | .posInt n => if n ≤ 9223372036854775807 then some n.toInt64 else none
  | .negInt n _ => some n
  | .float _ => none

/-- `Number::from_f64`, which refuses infinities and NaN. -/
def Number.fromF64 (bits : UInt64) : Option Number :=
  if h : bits &&& 0x7FF0000000000000 ≠ 0x7FF0000000000000 then some (.float ⟨bits, h⟩) else none

def Value.asStr : Value → Option String
  | .string s => some s
  | _ => none

def Value.asBool : Value → Option Bool
  | .bool b => some b
  | _ => none

def Value.asI64 : Value → Option Int64
  | .number n => n.asI64
  | _ => none

/-- The text functions of the serializer, and the rounding of integers to doubles. -/
structure JsonText where
  toString : Value → String
  fromStr : String → Except String Value
  u64AsF64 : UInt64 → UInt64
  i64AsF64 : Int64 → UInt64

/-- The bits of the double a number is read as. -/
def Number.asF64 (json : JsonText) : Number → UInt64
  | .posInt n => json.u64AsF64 n
  | .negInt n _ => json.i64AsF64 n
  | .float x => x.bits

/-- Field access, as on any value: only objects have fields. -/
def Value.get (value : Value) (key : String) : Option Value :=
  match value with
  | .object entries => (entries.find? (fun entry => entry.1 == key)).map Prod.snd
  | _ => none

def Map.toValue (record : Map) : Value := .object record.toList

private theorem fits_signed_iff (n : UInt64) :
    n ≤ 9223372036854775807 ↔ ¬ n.toInt64 < 0 := by
  have signed : n.toInt64.toInt = n.toBitVec.toInt := rfl
  have bound := n.toNat_lt
  rw [UInt64.le_iff_toNat_le, Int64.lt_iff_toInt_lt, signed, BitVec.toInt_eq_toNat_cond]
  simp only [UInt64.toNat_toBitVec, Int64.toInt_zero, UInt64.reduceToNat]
  split <;> omega

theorem Number.asI64_ofInt64 (n : Int64) : (ofInt64 n).asI64 = some n := by
  unfold ofInt64
  split
  · rfl
  · rename_i nonneg
    have fits : n.toUInt64 ≤ 9223372036854775807 := by
      rw [fits_signed_iff]
      simpa using nonneg
    simp [asI64, fits]

theorem Number.ofInt64_of_asI64 {n : Number} {i : Int64} (h : n.asI64 = some i) :
    ofInt64 i = n := by
  cases n with
  | posInt n =>
    by_cases fits : n ≤ 9223372036854775807
    · simp only [asI64, fits, if_true, Option.some.injEq] at h
      subst h
      rw [fits_signed_iff] at fits
      simp [ofInt64, fits]
    · simp [asI64, fits] at h
  | negInt n negative =>
    cases h
    simp [ofInt64, negative]
  | float x => cases h

theorem Map.get_toValue (record : Map) (key : String) :
    record.toValue.get key = record[key]? := by
  have predicate : (fun entry : String × Value => entry.1 == key) =
      fun entry => compare entry.1 key == .eq := by
    funext entry
    by_cases same : entry.1 = key <;> simp [same]
  simp only [Map.toValue, Value.get, predicate]
  cases found : record[key]? with
  | none =>
    have absent : key ∉ record := by simpa using found
    rw [Std.ExtTreeMap.find?_toList_eq_none_iff_not_mem.mpr absent]
    rfl
  | some value =>
    have member : key ∈ record := by
      by_contra absent
      rw [Std.ExtTreeMap.getElem?_eq_none absent] at found
      cases found
    rw [Std.ExtTreeMap.find?_toList_eq_some_iff_getKey?_eq_some_and_getElem?_eq_some.mpr
      ⟨Std.ExtTreeMap.getKey?_eq_some member, found⟩]
    rfl

end Polykit.Json
