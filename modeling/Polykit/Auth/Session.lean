/- Module: Polykit/Auth/Session
   generality: I
   source: crates/polybase/src/auth.rs, crates/polybase/src/events.rs
   digest: Sessions, their freshness, and the reading of a reply to a token refresh. -/

import Polykit.Errors
import Polykit.Wire.Http

set_option autoImplicit false
set_option relaxedAutoImplicit false

namespace Polykit.Auth

open Errors Lib.Text Wire.Http

structure SessionPayload where
  userId : String
  accessToken : String
  refreshToken : String
  expiresAt : Int64
  updatedAt : UInt64
  deriving DecidableEq

structure EnsureFreshResult where
  session : SessionPayload
  refreshed : Bool
  deriving DecidableEq

inductive SessionMutationKind
  | noop | credentialsRefreshed | userChanged | cleared
  deriving DecidableEq

structure SessionMutation where
  kind : SessionMutationKind
  updatedAt : UInt64
  deriving DecidableEq

inductive SessionChangeKind
  | userChanged | credentialsRefreshed | cleared
  deriving DecidableEq

def SessionMutationKind.intoEventKind : SessionMutationKind → Option SessionChangeKind
  | .noop => none
  | .credentialsRefreshed => some .credentialsRefreshed
  | .userChanged => some .userChanged
  | .cleared => some .cleared

/-- A `PolyEvent::SessionChanged`. -/
structure SessionChanged where
  userId : Option String
  change : SessionChangeKind
  deriving DecidableEq

/-- Thirty seconds, in nanoseconds. -/
def refreshCooldown : Nat := 30 * 10 ^ 9

/-- Equal in all fields but the watermark. -/
def sessionMatches (left right : SessionPayload) : Bool :=
  left.userId == right.userId && left.accessToken == right.accessToken &&
    left.refreshToken == right.refreshToken && left.expiresAt == right.expiresAt

def saturatingAdd (a b : Int64) : Int64 :=
  Int64.ofInt (max (-2 ^ 63) (min (a.toInt + b.toInt) (2 ^ 63 - 1)))

/-- The duration is given in whole seconds, and its cast to a signed number wraps. -/
def sessionExpiresWithin (unixNow : Int64) (session : SessionPayload) (minValidFor : UInt64) :
    Bool :=
  session.expiresAt ≤ saturatingAdd unixNow minValidFor.toInt64

/-- The message of a refresh that comes too soon after a failed one. Instants are in
nanoseconds, and the clock never reads as going back. -/
def coolingDown (lastFailureAt : Option Nat) (instant : Nat) : Option String :=
  lastFailureAt.bind (fun failed =>
    let elapsed := instant - failed
    if elapsed < refreshCooldown then
      some ("session refresh is cooling down; retry in " ++
        toString ((refreshCooldown - elapsed) / 10 ^ 6) ++ "ms")
    else none)

structure RefreshSessionResponse where
  accessToken : String
  refreshToken : Option String
  expiresAt : Option Int64
  expiresIn : Option Int64
  user : Option String
  deriving DecidableEq

/-- How the JSON body of a refresh is decoded. -/
abbrev RefreshDecoder := String → Except String RefreshSessionResponse

def RefreshSessionResponse.payload (response : RefreshSessionResponse) (unixNow : Int64)
    (session : SessionPayload) : SessionPayload where
  userId := (response.user.filter (fun id => id != "")).getD session.userId
  accessToken := response.accessToken
  refreshToken := response.refreshToken.getD session.refreshToken
  expiresAt := (response.expiresAt.or (response.expiresIn.map (saturatingAdd unixNow))).getD
    (saturatingAdd unixNow 3600)
  updatedAt := 0

def refreshFailureMessage (status : StatusCode) (body : String) : String :=
  "session refresh failed: " ++
    if trim body = "" then "HTTP " ++ toString status.asU16
    else "HTTP " ++ toString status.asU16 ++ ": " ++ trim body

/-- What `refresh_payload` makes of the reply. -/
def refreshPayload (decode : RefreshDecoder) (unixNow : Int64) (session : SessionPayload) :
    Reply → Except PolyError SessionPayload
  | .failed error => .error (.http error)
  | .responded status body =>
      if status.isSuccess then
        match body.bind decode with
        | .error error => .error (.http error)
        | .ok response => .ok (response.payload unixNow session)
      else .error (.other (refreshFailureMessage status (bodyOrDefault body)))

def isPermanentRefreshFailure (message : String) : Bool :=
  contains message "refresh_token_already_used" || contains message "invalid_grant" ||
    contains message "Invalid Refresh Token"

end Polykit.Auth
