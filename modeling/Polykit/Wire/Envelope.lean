/- Module: Polykit/Wire/Envelope
   generality: I
   source: crates/polybase/src/edge.rs
   digest: The derived decoder of the Edge Function's envelope, field by field. -/

import Polykit.Lib.Fallible
import Polykit.Wire.Edge

set_option autoImplicit false
set_option relaxedAutoImplicit false

namespace Polykit.Wire.Envelope

open Edge Json Lib.Fallible

/-- What a derived decoder refuses a JSON tree for. -/
inductive DecodeError
  | duplicateField (name : String)
  | missingField (name : String)
  | invalidType
  | invalidLength
  | trailingCharacters
  deriving DecidableEq

/-- The tree of a text, the entries of an object in the order of the text with repeated keys
kept, and the text of an error, which says where in the body it is. -/
structure EnvelopeText where
  parse : String → Except String Value
  display : String → DecodeError → String

/-- The value of a field. A key that is written twice is refused. -/
def field (entries : List (String × Value)) (name : String) :
    Except DecodeError (Option Value) :=
  match entries.filter (fun entry => entry.1 == name) with
  | [] => .ok none
  | [entry] => .ok (some entry.2)
  | _ => .error (.duplicateField name)

def decodeBool : Value → Except DecodeError Bool
  | .bool b => .ok b
  | _ => .error .invalidType

def decodeString : Value → Except DecodeError String
  | .string s => .ok s
  | _ => .error .invalidType

def decodeValue (value : Value) : Except DecodeError Value := .ok value

def required {α : Type} (name : String) (decode : Value → Except DecodeError α) :
    Option Value → Except DecodeError α
  | none => .error (.missingField name)
  | some value => decode value

/-- An optional field: missing and null are the same. -/
def optional {α : Type} (decode : Value → Except DecodeError α) :
    Option Value → Except DecodeError (Option α)
  | none | some .null => .ok none
  | some value => (decode value).map some

/-- The error body, as an object or as the list of its fields. -/
def decodeErrorBody : Value → Except DecodeError EdgeErrorBody
  | .object entries => do
      let code ← required "code" decodeString (← field entries "code")
      let message ← required "message" decodeString (← field entries "message")
      let details ← optional decodeValue (← field entries "details")
      .ok ⟨code, message, details⟩
  | .array (code :: message :: rest) => do
      let code ← decodeString code
      let message ← decodeString message
      let details ← optional decodeValue rest[0]?
      if 1 < rest.length then .error .trailingCharacters else .ok ⟨code, message, details⟩
  | .array _ => .error .invalidLength
  | _ => .error .invalidType

/-- `RawEnvelope`. Keys it does not know are passed over. -/
def decodeEnvelope : Value → Except DecodeError RawEnvelope
  | .object entries => do
      let success ← required "success" decodeBool (← field entries "success")
      let data ← optional decodeValue (← field entries "data")
      let error ← optional decodeErrorBody (← field entries "error")
      let requestId ← optional decodeString (← field entries "request_id")
      .ok ⟨success, data, error, requestId⟩
  | .array (success :: rest) => do
      let success ← decodeBool success
      let data ← optional decodeValue rest[0]?
      let error ← optional decodeErrorBody rest[1]?
      let requestId ← optional decodeString rest[2]?
      if 3 < rest.length then .error .trailingCharacters
      else .ok ⟨success, data, error, requestId⟩
  | .array [] => .error .invalidLength
  | _ => .error .invalidType

/-- `serde_json::from_str::<RawEnvelope>`. -/
def EnvelopeText.decoder (text : EnvelopeText) : EnvelopeDecoder := fun body =>
  match text.parse body with
  | .error e => .error e
  | .ok tree => (decodeEnvelope tree).mapError (text.display body)

/-- An envelope as the wire contract has it: the flag, the data or none, an error body or none,
a request id or none, and any other keys. -/
structure IsEnvelope (success : Bool) (data : Option Value)
    (entries : List (String × Value)) : Prop where
  success : field entries "success" = .ok (some (.bool success))
  data : field entries "data" = .ok data
  error : ∃ value decoded, field entries "error" = .ok value ∧
    optional decodeErrorBody value = .ok decoded
  requestId : ∃ value decoded, field entries "request_id" = .ok value ∧
    optional decodeString value = .ok decoded

theorem optional_decodeValue {value : Value} (present : value ≠ .null) :
    optional decodeValue (some value) = .ok (some value) := by
  cases value with
  | null => exact absurd rfl present
  | _ => rfl

theorem decodeEnvelope_of_isEnvelope {success : Bool} {data : Option Value}
    {entries : List (String × Value)} (h : IsEnvelope success data entries) :
    ∃ error requestId kept, optional decodeValue data = .ok kept ∧
      decodeEnvelope (.object entries) = .ok ⟨success, kept, error, requestId⟩ := by
  obtain ⟨errorValue, error, errorField, errorDecoded⟩ := h.error
  obtain ⟨idValue, requestId, idField, idDecoded⟩ := h.requestId
  have total : ∃ kept, optional decodeValue data = .ok kept := by
    cases data with
    | none => exact ⟨none, rfl⟩
    | some value =>
      by_cases null : value = .null
      · subst null
        exact ⟨none, rfl⟩
      · exact ⟨_, optional_decodeValue null⟩
  obtain ⟨kept, decoded⟩ := total
  refine ⟨error, requestId, kept, decoded, ?_⟩
  simp only [decodeEnvelope, h.success, h.data, errorField, idField, ok_bind, required,
    decodeBool, decoded, errorDecoded, idDecoded]

end Polykit.Wire.Envelope
