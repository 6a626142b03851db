/- Module: Polykit/Errors
   generality: I
   source: crates/polybase/src/errors.rs, crates/polybase/src/encryption.rs
   digest: The error types of the sync core, their texts and their classification. -/

import Polykit.Contract

set_option autoImplicit false
set_option relaxedAutoImplicit false

namespace Polykit.Errors

open Contract

inductive EncryptionError
  | emptySecret
  | operationFailed (detail : String)
  deriving DecidableEq

def EncryptionError.display : EncryptionError → String
  | .emptySecret => "encryption secret is empty"
  | .operationFailed detail => "encryption operation failed: " ++ detail

inductive EdgeError
  | validation (function code message : String)
  | conflict (function code message : String)
  | forbidden (function message : String)
  | transient (function message : String)
  | permanent (function message : String)
  | decode (function message : String)
  deriving DecidableEq

def EdgeError.display : EdgeError → String
  | .validation function code message =>
      "validation error from " ++ function ++ ": " ++ code ++ ": " ++ message
  | .conflict function code message =>
      "conflict from " ++ function ++ ": " ++ code ++ ": " ++ message
  | .forbidden function message => "forbidden from " ++ function ++ ": " ++ message
  | .transient function message => "transient error from " ++ function ++ ": " ++ message
  | .permanent function message => "permanent error from " ++ function ++ ": " ++ message
  | .decode function message => "decode failed for " ++ function ++ ": " ++ message

def EdgeError.message : EdgeError → String
  | .validation _ _ message | .conflict _ _ message | .forbidden _ message
  | .transient _ message | .permanent _ message | .decode _ message => message

def EdgeError.isVersionRegression (error : EdgeError) : Bool :=
  isVersionRegressionMessage error.message

inductive PushError
  | transient (table message : String)
  | permanent (table message : String)
  | sameVersionMutationIgnored (table : String)
  deriving DecidableEq

def PushError.display : PushError → String
  | .transient table message => "transient push failure on " ++ table ++ ": " ++ message
  | .permanent table message => "permanent push failure on " ++ table ++ ": " ++ message
  | .sameVersionMutationIgnored table => "same-version mutation ignored on " ++ table

def PushError.isVersionRegression : PushError → Bool
  | .permanent _ message => isVersionRegressionMessage message
  | _ => false

inductive RegistryError
  | tableNotRegistered (table : String)
  | encryptionFailed (table column : String)
  | missingField (table field : String)
  deriving DecidableEq

def RegistryError.display : RegistryError → String
  | .tableNotRegistered table => "table not registered: " ++ table
  | .encryptionFailed table column => "encryption failed for " ++ table ++ "." ++ column
  | .missingField table field => "missing required field " ++ field ++ " on table " ++ table

inductive OfflineQueueError
  | io (detail : String)
  | decode (detail : String)
  deriving DecidableEq

def OfflineQueueError.display : OfflineQueueError → String
  | .io detail => "queue io error: " ++ detail
  | .decode detail => "queue decode failed: " ++ detail

/-- Errors of the HTTP client and of the JSON library are kept by their texts. -/
inductive PolyError
  | noSession
  | http (text : String)
  | json (text : String)
  | edge (error : EdgeError)
  | push (error : PushError)
  | registry (error : RegistryError)
  | offlineQueue (error : OfflineQueueError)
  | localStore (detail : String)
  | encryption (error : EncryptionError)
  | other (text : String)
  deriving DecidableEq

def PolyError.display : PolyError → String
  | .noSession => "no active session"
  | .http text | .json text | .other text => text
  | .edge error => error.display
  | .push error => error.display
  | .registry error => error.display
  | .offlineQueue error => error.display
  | .localStore detail => "local store error: " ++ detail
  | .encryption error => error.display

end Polykit.Errors
