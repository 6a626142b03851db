/- Module: Polykit/Kvs/Store
   generality: I
   source: crates/polybase/src/kvs.rs
   digest: Reading, writing and deleting keys through the coordinator. -/

import Polykit.Sync.Coordinator

set_option autoImplicit false
set_option relaxedAutoImplicit false

namespace Polykit.Kvs.Store

open Errors Json Kvs.Schema Lib.Text Sync

def parseDigits (digits : List Char) : Option Nat :=
  if digits = [] || !digits.all Char.isDigit then none else some (Nat.ofDigitChars 10 digits 0)

/-- `str::parse::<i64>`: an optional sign and at least one digit, within range. -/
def parseI64 (text : String) : Option Int64 :=
  let value : Option Int := match text.toList with
    | '-' :: digits => (parseDigits digits).map (fun n : Nat => -(n : Int))
    | '+' :: digits => (parseDigits digits).map (fun n : Nat => (n : Int))
    | digits => (parseDigits digits).map (fun n : Nat => (n : Int))
  value.bind (fun n => if -2 ^ 63 ≤ n ∧ n < 2 ^ 63 then some (Int64.ofInt n) else none)

theorem parseDigits_toDigits (n : Nat) : parseDigits (Nat.toDigits 10 n) = some n := by
  have numeric : (Nat.toDigits 10 n).all Char.isDigit = true := by
    rw [List.all_eq_true]
    exact fun c member => Nat.isDigit_of_mem_toDigits (by decide) (by decide) member
  simp [parseDigits, Nat.toDigits_ne_nil, numeric]

theorem parseI64_repr (n : Int64) : parseI64 n.toInt.repr = some n := by
  have low := n.le_toInt
  have high := n.toInt_lt
  have inRange : -2 ^ 63 ≤ n.toInt ∧ n.toInt < 2 ^ 63 := ⟨by omega, by omega⟩
  rw [Int.repr_eq_if]
  split
  · rename_i nonneg
    have value : (n.toInt.toNat : Int) = n.toInt := Int.toNat_of_nonneg nonneg
    have unsigned : ∀ c rest, Nat.toDigits 10 n.toInt.toNat = c :: rest → c.isDigit = true :=
      fun c rest shape => Nat.isDigit_of_mem_toDigits (by decide) (by decide)
        (shape ▸ List.mem_cons_self)
    unfold parseI64
    rw [Nat.toList_repr]
    split
    · rename_i digits shape
      exact absurd (unsigned _ _ shape) (by decide)
    · rename_i digits shape
      exact absurd (unsigned _ _ shape) (by decide)
    · simp only [parseDigits_toDigits, Option.map_some, Option.bind_some, value]
      rw [if_pos inRange, Int64.ofInt_toInt]
  · rename_i negative
    have value : ((-n.toInt).toNat : Int) = -n.toInt := Int.toNat_of_nonneg (by omega)
    have signed : ("-" ++ (-n.toInt).toNat.repr).toList =
        '-' :: Nat.toDigits 10 (-n.toInt).toNat := by
      rw [String.toList_append, Nat.toList_repr]
      rfl
    unfold parseI64
    rw [signed]
    simp only [parseDigits_toDigits, Option.map_some, Option.bind_some, value, Int.neg_neg]
    rw [if_pos inRange, Int64.ofInt_toInt]

/-- Numbers and their texts both count as a version. -/
def rowVersion (row : Map) : Int64 :=
  (row["version"]?.bind (fun value =>
    value.asI64.or (value.asStr.bind parseI64))).getD 0

/-- Integers count as booleans here, since SQLite has no others. -/
def rowDeleted (row : Map) : Bool :=
  (row["deleted"]?.map (fun value => value.asBool.getD (value.asI64.getD 0 != 0))).getD false

/-- A text that parses is read as what it parses to, and as itself otherwise. -/
def decodeRaw (json : JsonText) : Value → Value
  | .string text =>
      match json.fromStr text with
      | .ok value => value
      | .error _ => .string text
  | other => other

variable {p : Crypto.Primitives} {Mirror Queue : Type}

def get {T : Type} (fromValue : Value → Except String T) (json : JsonText)
    (c : Coordinator p Mirror Queue) (w : World Mirror Queue) (namespace_ key : String) :
    Except PolyError (Option T) :=
  match c.readRecord w kvsTable (encodeId namespace_ key) with
  | .error error => .error error
  | .ok none => .ok none
  | .ok (some row) =>
      if rowDeleted row then .ok none
      else
        match row["value"]? with
        | none => .ok none
        | some raw => ((fromValue (decodeRaw json raw)).map some).mapError PolyError.json

/-- The increment wraps, as it does where overflow is not checked. -/
def nextVersionFor (c : Coordinator p Mirror Queue) (w : World Mirror Queue) (id : String) :
    Except PolyError Int64 :=
  match c.readRecord w kvsTable id with
  | .error error => .error error
  | .ok none => .ok 1
  | .ok (some row) => .ok (rowVersion row + 1)

def kvsRecord (namespace_ key : String) (value : Value) (version : Int64) (now : Entity.UtcNow) :
    Map :=
  (((((((∅ : Map).insert "id" (.string (encodeId namespace_ key))).insert
    "namespace" (.string namespace_)).insert
    "key" (.string key)).insert
    "value" value).insert
    "version" (.number (Number.ofInt64 version))).insert
    "deleted" (.bool false)).insert
    "updated_at" (.string now.rfc3339)

theorem kvsRecord_fields (namespace_ key : String) (value : Value) (version : Int64)
    (now : Entity.UtcNow) :
    (kvsRecord namespace_ key value version now)["id"]? =
        some (.string (encodeId namespace_ key)) ∧
      (kvsRecord namespace_ key value version now)["value"]? = some value ∧
      (kvsRecord namespace_ key value version now)["deleted"]? = some (.bool false) := by
  refine ⟨?_, ?_, ?_⟩ <;>
    simp only [kvsRecord, Std.ExtTreeMap.getElem?_insert] <;> simp

theorem kvsRecord_version (namespace_ key : String) (value : Value) (version : Int64)
    (now : Entity.UtcNow) :
    (kvsRecord namespace_ key value version now)["version"]? =
      some (.number (Number.ofInt64 version)) := by
  simp only [kvsRecord, Std.ExtTreeMap.getElem?_insert]
  simp

theorem rowVersion_of_number {row : Map} {version : Int64}
    (h : row["version"]? = some (.number (Number.ofInt64 version))) : rowVersion row = version := by
  simp [rowVersion, h, Value.asI64, Number.asI64_ofInt64]

def set {T : Type} (toValue : T → Except String Value) (c : Coordinator p Mirror Queue)
    (env : CallEnv) (w : World Mirror Queue) (namespace_ key : String) (value : T) :
    World Mirror Queue × Except PolyError Unit :=
  match nextVersionFor c w (encodeId namespace_ key) with
  | .error error => (w, .error error)
  | .ok version =>
      match toValue value with
      | .error error => (w, .error (.json error))
      | .ok value =>
          c.persistChange env w kvsTable (kvsRecord namespace_ key value version env.utcNow)

def delete (c : Coordinator p Mirror Queue) (env : CallEnv) (w : World Mirror Queue)
    (namespace_ key : String) : World Mirror Queue × Except PolyError Unit :=
  match nextVersionFor c w (encodeId namespace_ key) with
  | .error error => (w, .error error)
  | .ok version => c.delete env w kvsTable (encodeId namespace_ key) version

theorem get_of_row {T : Type} {fromValue : Value → Except String T} {json : JsonText}
    {c : Coordinator p Mirror Queue} {w : World Mirror Queue} {namespace_ key : String} {row : Map}
    {raw : Value} (found : c.readRecord w kvsTable (encodeId namespace_ key) = .ok (some row))
    (live : rowDeleted row = false) (present : row["value"]? = some raw) :
    get fromValue json c w namespace_ key =
      ((fromValue (decodeRaw json raw)).map some).mapError PolyError.json := by
  simp [get, found, live, present]

theorem set_ok {T : Type} {toValue : T → Except String Value} {c : Coordinator p Mirror Queue}
    {env : CallEnv} {w after : World Mirror Queue} {namespace_ key : String} {value : T}
    (h : set toValue c env w namespace_ key value = (after, .ok ())) :
    ∃ version encoded, toValue value = .ok encoded ∧
      c.persistChange env w kvsTable (kvsRecord namespace_ key encoded version env.utcNow) =
        (after, .ok ()) := by
  unfold set at h
  split at h
  · cases h
  · rename_i version next
    split at h
    · cases h
    · rename_i encoded encode
      exact ⟨version, encoded, encode, h⟩

end Polykit.Kvs.Store
