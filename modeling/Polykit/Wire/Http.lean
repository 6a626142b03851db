/- Module: Polykit/Wire/Http
   generality: I
   source: crates/polybase/src/client.rs, crates/polybase/src/sync/push.rs, crates/polybase/src/edge.rs
   digest: The write requests of the sync core and the replies the HTTP client hands back. -/

import Polykit.Json

set_option autoImplicit false
set_option relaxedAutoImplicit false

namespace Polykit.Wire.Http

open Json

structure StatusCode where
  asU16 : Nat
  valid : 100 ≤ asU16 ∧ asU16 < 1000
  deriving DecidableEq

theorem valid_200 : 100 ≤ 200 ∧ 200 < 1000 := by decide

theorem valid_400 : 100 ≤ 400 ∧ 400 < 1000 := by decide

def StatusCode.isSuccess (status : StatusCode) : Bool :=
  decide (200 ≤ status.asU16 ∧ status.asU16 < 300)

def StatusCode.isClientError (status : StatusCode) : Bool :=
  decide (400 ≤ status.asU16 ∧ status.asU16 < 500)

def StatusCode.isServerError (status : StatusCode) : Bool :=
  decide (500 ≤ status.asU16 ∧ status.asU16 < 600)

/-- Sending fails with the client's error text, or a status arrives. Reading the body of a
response can fail on its own. -/
inductive Reply
  | failed (error : String)
  | responded (status : StatusCode) (body : Except String String)

def bodyOrDefault : Except String String → String
  | .ok body => body
  | .error _ => ""

inductive Request
  | upsert (table : String) (record : Map) (onConflict accessToken : String)
  | updateTombstone (table entityId : String) (version : Int64) (updatedAt : Value)
      (accessToken : String)
  | edge (function op : String) (payload : Value) (accessToken : String)

/-- The row a request carries, a tombstone update carries none. -/
def Request.row : Request → Option Value
  | .upsert _ record _ _ => some record.toValue
  | .updateTombstone _ _ _ _ _ => none
  | .edge _ _ payload _ => some payload

theorem StatusCode.not_success_of_error {status : StatusCode}
    (h : status.isClientError = true ∨ status.isServerError = true) :
    status.isSuccess = false := by
  simp only [isClientError, isServerError, isSuccess, decide_eq_true_eq,
    decide_eq_false_iff_not] at h ⊢
  omega

end Polykit.Wire.Http
