/- Module: Polykit/Wire/Edge
   generality: I
   source: crates/polybase/src/edge.rs
   digest: How the Edge Function client decodes a reply and classifies a rejection. -/

import Polykit.Errors
import Polykit.Wire.Http

set_option autoImplicit false
set_option relaxedAutoImplicit false

namespace Polykit.Wire.Edge

open Errors Http Json Lib.Text

structure EdgeOk where
  data : Value
  requestId : Option String

structure EdgeErrorBody where
  code : String
  message : String
  details : Option Value

/-- The server envelope. A missing field and a null one decode alike. -/
structure RawEnvelope where
  success : Bool
  data : Option Value
  error : Option EdgeErrorBody
  requestId : Option String

/-- Status and code decide the class of a rejection, its message does not. -/
def classifyError (function : String) (status : StatusCode) (error : EdgeErrorBody) : PolyError :=
  if status.asU16 = 401 ∨ status.asU16 = 403 then .edge (.forbidden function error.message)
  else if status.isServerError then
    if eqIgnoreAsciiCase error.code "permanent" then .edge (.permanent function error.message)
    else .edge (.transient function error.message)
  else
    let code := toAsciiLowercase error.code
    if contains code "conflict" || contains code "version" || contains code "idempotency" then
      .edge (.conflict function error.code error.message)
    else .edge (.validation function error.code error.message)

/-- The decoder of response bodies, `serde_json::from_str::<RawEnvelope>`. -/
abbrev EnvelopeDecoder := String → Except String RawEnvelope

/-- The end of `EdgeClient::call`, from the reply on. -/
def callResult (fromStr : EnvelopeDecoder) (function : String) : Reply → Except PolyError EdgeOk
  | .failed error => .error (.edge (.transient function error))
  | .responded _ (.error error) => .error (.edge (.transient function ("read body: " ++ error)))
  | .responded status (.ok body) =>
      if status.isSuccess then
        match fromStr body with
        | .error error => .error (.edge (.decode function error))
        | .ok envelope =>
            if envelope.success then
              match envelope.data with
              | none => .error (.edge (.decode function
                  "envelope.success was true but data was missing"))
              | some data => .ok ⟨data, envelope.requestId⟩
            else
              .error (classifyError function status
                (envelope.error.getD ⟨"unknown", body, none⟩))
      else
        let decoded := (fromStr body).toOption.bind RawEnvelope.error
        .error (classifyError function status
          (decoded.getD ⟨toString status.asU16, body, none⟩))

end Polykit.Wire.Edge
