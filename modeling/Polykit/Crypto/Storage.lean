/- Module: Polykit/Crypto/Storage
   generality: I
   source: crates/polybase/src/storage.rs
   digest: What a bucket does to the bytes it sends and receives, and the formats' round trips. -/

import Polykit.Crypto.Data
import Polykit.Registry.RoundTrip

set_option autoImplicit false
set_option relaxedAutoImplicit false

namespace Polykit.Crypto.Storage

open Crypto Crypto.Data Errors Lib.Fallible Registry.RoundTrip

inductive StorageError
  | notFound (bucket path : String)
  | failed (bucket path message : String)
  deriving DecidableEq

/-- A bucket with the engine and the user that were attached to it, if any. -/
structure Bucket (p : Primitives) where
  bucket : String
  encryption : Option (Encryption p × p.Uuid)

variable {p : Primitives}

def Bucket.maybeEncrypt (b : Bucket p) (nonce : Nonce) (path : String) (bytes : List UInt8) :
    Except StorageError (List UInt8) :=
  match b.encryption with
  | none => .ok bytes
  | some (enc, user) =>
      (encryptData enc bytes user nonce).mapError (fun e =>
        StorageError.failed b.bucket path ("encrypt: " ++ e.display))

def Bucket.maybeDecrypt (b : Bucket p) (path : String) (bytes : List UInt8) :
    Except StorageError (List UInt8) :=
  match b.encryption with
  | none => .ok bytes
  | some (enc, user) =>
      if !isDataEncrypted bytes then .ok bytes
      else
        (decryptData enc bytes user).mapError (fun e =>
          StorageError.failed b.bucket path ("decrypt: " ++ e.display))

/-- Nothing is attached, or the engine that is encrypts these bytes. -/
def Bucket.Sends (b : Bucket p) (nonce : Nonce) (bytes : List UInt8) : Prop :=
  ∀ enc user, b.encryption = some (enc, user) → bytes = [] ∨ Seals enc user nonce bytes

variable {b : Bucket p} {nonce : Nonce} {path : String} {bytes sent : List UInt8}

theorem maybeEncrypt_isOk_iff :
    (∃ sent, b.maybeEncrypt nonce path bytes = .ok sent) ↔ b.Sends nonce bytes := by
  unfold Bucket.maybeEncrypt Bucket.Sends
  cases attached : b.encryption with
  | none => simp
  | some engine =>
    obtain ⟨enc, user⟩ := engine
    simp only [mapError_eq_ok, encryptData_isOk_iff, Option.some.injEq, Prod.mk.injEq, and_imp]
    constructor
    · rintro seals _ _ rfl rfl
      exact seals
    · intro seals
      exact seals enc user rfl rfl

theorem maybeDecrypt_maybeEncrypt (lawful : p.Lawful)
    (h : b.maybeEncrypt nonce path bytes = .ok sent) : b.maybeDecrypt path sent = .ok bytes := by
  unfold Bucket.maybeEncrypt at h
  unfold Bucket.maybeDecrypt
  cases attached : b.encryption with
  | none =>
    rw [attached] at h
    exact congrArg Except.ok (Except.ok.inj h).symm
  | some engine =>
    obtain ⟨enc, user⟩ := engine
    rw [attached] at h
    have encrypted := mapError_eq_ok.mp h
    have opened := decryptData_encryptData lawful encrypted
    cases marked : isDataEncrypted sent with
    | true =>
      simp [opened]
    | false =>
      have passed : decryptData enc sent user = .ok sent := by simp [decryptData, marked]
      rw [opened] at passed
      simp [Except.ok.inj passed]

/-- Both formats give back what was encrypted, mark whatever is not empty, and fail to encrypt
only with the cipher. Whatever else they are given they read within its bounds, and return it
unmarked as it is, a decryption of it, or an error. -/
theorem wireFormats_roundTrip (lawful : p.Lawful) (enc : Encryption p) (user : p.Uuid)
    (nonce : Nonce) :
    (∀ plaintext : String,
      ((∃ text, enc.encrypt plaintext user nonce = .ok text) ↔
        plaintext = "" ∨ Seals enc user nonce (utf8Bytes plaintext)) ∧
      ∀ text, enc.encrypt plaintext user nonce = .ok text →
        enc.decrypt text user = .ok plaintext ∧ (plaintext ≠ "" → isEncrypted text = true)) ∧
    (∀ data : List UInt8,
      ((∃ bytes, encryptData enc data user nonce = .ok bytes) ↔
        data = [] ∨ Seals enc user nonce data) ∧
      ∀ bytes, encryptData enc data user nonce = .ok bytes →
        decryptData enc bytes user = .ok data ∧ (data ≠ [] → isDataEncrypted bytes = true)) ∧
    (∀ (b : Bucket p) (path : String) (data : List UInt8),
      ((∃ sent, b.maybeEncrypt nonce path data = .ok sent) ↔ b.Sends nonce data) ∧
      ∀ sent, b.maybeEncrypt nonce path data = .ok sent → b.maybeDecrypt path sent = .ok data) ∧
    (∀ text : String, decryptChecked enc text user = some (enc.decrypt text user) ∧
      ∀ plain, enc.decrypt text user = .ok plain →
        isEncrypted text = false ∧ plain = text ∨
        isEncrypted text = true ∧ ∃ key rest combined bytes,
          text = Contract.stringEncryptionPrefix ++ rest ∧ enc.deriveKey user = .ok key ∧
          p.decode rest = .ok combined ∧ Opens p key combined bytes ∧
          fromUtf8 bytes = some plain) ∧
    ∀ data : List UInt8, decryptDataChecked enc data user = some (decryptData enc data user) ∧
      ∀ plain, decryptData enc data user = .ok plain →
        isDataEncrypted data = false ∧ plain = data ∨
        isDataEncrypted data = true ∧ ∃ key combined, data = binaryEncryptionHeader ++ combined ∧
          enc.deriveKey user = .ok key ∧ Opens p key combined plain := by
  refine ⟨fun plaintext => ⟨encrypt_isOk_iff, fun text h => ?_⟩,
    fun data => ⟨encryptData_isOk_iff, fun bytes h => ?_⟩,
    fun b path data => ⟨maybeEncrypt_isOk_iff, fun sent h => maybeDecrypt_maybeEncrypt lawful h⟩,
    fun text => ⟨decryptChecked_eq enc text user, fun plain h => decrypt_eq_ok h⟩,
    fun data => ⟨decryptDataChecked_eq enc data user, fun plain h => decryptData_eq_ok h⟩⟩
  · exact ⟨decrypt_encrypt lawful h, isEncrypted_encrypt h⟩
  · exact ⟨decryptData_encryptData lawful h, isDataEncrypted_encryptData h⟩

/-- A text and bytes that already look encrypted. -/
theorem wireFormats_roundTrip_marked :
    (∃ text, sampleEncryption.encrypt "enc:hello" "user-1" zeroNonce = .ok text ∧
      sampleEncryption.decrypt text "user-1" = .ok "enc:hello") ∧
    ∃ bytes, encryptData sampleEncryption [0x45, 0x4E, 0x43, 0x00] "user-1" zeroNonce = .ok bytes ∧
      decryptData sampleEncryption bytes "user-1" = .ok [0x45, 0x4E, 0x43, 0x00] := by
  obtain ⟨texts, data, _⟩ :=
    wireFormats_roundTrip taggedPrimitives_lawful sampleEncryption "user-1" zeroNonce
  obtain ⟨sealable, textBack⟩ := texts "enc:hello"
  obtain ⟨bytesSealable, bytesBack⟩ := data [0x45, 0x4E, 0x43, 0x00]
  obtain ⟨text, sealed⟩ := sealable.mpr (.inr ⟨_, _, rfl, rfl⟩)
  obtain ⟨bytes, packed⟩ := bytesSealable.mpr (.inr ⟨_, _, rfl, rfl⟩)
  exact ⟨⟨text, sealed, (textBack text sealed).1⟩, bytes, packed, (bytesBack bytes packed).1⟩

end Polykit.Crypto.Storage
