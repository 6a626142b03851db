/- Module: Polykit/Crypto/Encryption
   generality: I
   source: crates/polybase/src/encryption.rs
   digest: Marked string ciphertexts over abstract primitives, and decryption of encryption. -/

import Polykit.Errors
import Polykit.Lib.Fallible

set_option autoImplicit false
set_option relaxedAutoImplicit false

namespace Polykit.Crypto

open Contract Errors Lib.Text Lib.Fallible

def utf8Bytes (s : String) : List UInt8 := s.toUTF8.data.toList

def fromUtf8 (bytes : List UInt8) : Option String := String.fromUTF8? ⟨bytes.toArray⟩

structure Nonce where
  bytes : List UInt8
  length_eq : bytes.length = 12
  deriving DecidableEq

/-- What the layer takes from its cryptography, encoding and UUID libraries. -/
structure Primitives where
  Uuid : Type
  Key : Type
  parseUuid : String → Option Uuid
  newV5 : String → Uuid
  uuidText : Uuid → String
  hkdf : (salt secret info : List UInt8) → Except String Key
  aesEncrypt : Key → Nonce → List UInt8 → Except String (List UInt8)
  aesDecrypt : Key → Nonce → List UInt8 → Except String (List UInt8)
  encode : List UInt8 → String
  decode : String → Except String (List UInt8)
  utf8Error : List UInt8 → String

/-- Decryption undoes encryption under the same key and nonce, decoding undoes encoding. -/
structure Primitives.Lawful (p : Primitives) : Prop where
  decrypt_encrypt : ∀ key nonce plain ciphertext,
    p.aesEncrypt key nonce plain = .ok ciphertext → p.aesDecrypt key nonce ciphertext = .ok plain
  decode_encode : ∀ bytes, p.decode (p.encode bytes) = .ok bytes

def hkdfInfo : String := "supabase-encryption"

structure Encryption (p : Primitives) where
  secret : String
  nonempty : secret ≠ ""

variable {p : Primitives}

def Encryption.new (p : Primitives) (secret : String) : Except EncryptionError (Encryption p) :=
  if h : secret = "" then .error .emptySecret else .ok ⟨secret, h⟩

def isEncrypted (text : String) : Bool := startsWith text stringEncryptionPrefix

def keyUserUuid (p : Primitives) (userId : String) : p.Uuid :=
  (p.parseUuid userId).getD (p.newV5 ("polybase:" ++ userId))

def Encryption.deriveKey (enc : Encryption p) (user : p.Uuid) :
    Except EncryptionError p.Key :=
  let salt := utf8Bytes (toAsciiUppercase (p.uuidText user))
  (p.hkdf salt (utf8Bytes enc.secret) (utf8Bytes hkdfInfo)).mapError
    (fun e => .operationFailed ("hkdf expand: " ++ e))

/-- The nonce is the random draw of this call. -/
def Encryption.encrypt (enc : Encryption p) (plaintext : String) (user : p.Uuid)
    (nonce : Nonce) : Except EncryptionError String :=
  if plaintext = "" then .ok plaintext
  else do
    let key ← enc.deriveKey user
    let ciphertext ← (p.aesEncrypt key nonce (utf8Bytes plaintext)).mapError
      (fun e => EncryptionError.operationFailed ("encrypt: " ++ e))
    return stringEncryptionPrefix ++ p.encode (nonce.bytes ++ ciphertext)

theorem length_nonce {combined : List UInt8} (h : ¬ combined.length < 12) :
    (combined.take 12).length = 12 := by
  rw [List.length_take]
  omega

/-- Split off the nonce, aesDecrypt the rest and read it as text. -/
def Encryption.openCombined (p : Primitives) (key : p.Key) (combined : List UInt8) :
    Except EncryptionError String :=
  if h : combined.length < 12 then .error (.operationFailed "ciphertext too short")
  else do
    let nonce : Nonce := ⟨combined.take 12, length_nonce h⟩
    let decrypted ← (p.aesDecrypt key nonce (combined.drop 12)).mapError
      (fun e => EncryptionError.operationFailed ("decrypt: " ++ e))
    match fromUtf8 decrypted with
    | some text => return text
    | none => .error (.operationFailed ("utf8: " ++ p.utf8Error decrypted))

def Encryption.decrypt (enc : Encryption p) (ciphertext : String) (user : p.Uuid) :
    Except EncryptionError String :=
  if !isEncrypted ciphertext then .ok ciphertext
  else do
    let key ← enc.deriveKey user
    let combined ← (p.decode (dropChars ciphertext stringEncryptionPrefix.toList.length)).mapError
      (fun e => EncryptionError.operationFailed ("base64: " ++ e))
    Encryption.openCombined p key combined

theorem fromUtf8_utf8Bytes (s : String) : fromUtf8 (utf8Bytes s) = some s := by
  have bytes : (⟨(utf8Bytes s).toArray⟩ : ByteArray) = s.toByteArray := by simp [utf8Bytes]
  unfold fromUtf8 String.fromUTF8?
  rw [bytes, dif_pos (by simpa [ByteArray.validateUTF8_eq_true_iff] using s.isValidUTF8)]
  rfl

theorem decrypt_of_unmarked (enc : Encryption p) (user : p.Uuid) {text : String}
    (h : isEncrypted text = false) : enc.decrypt text user = .ok text := by
  simp [Encryption.decrypt, h]

theorem openCombined_encrypted (lawful : p.Lawful) {key : p.Key} {nonce : Nonce} {text : String}
    {ciphertext : List UInt8} (h : p.aesEncrypt key nonce (utf8Bytes text) = .ok ciphertext) :
    Encryption.openCombined p key (nonce.bytes ++ ciphertext) = .ok text := by
  have long : ¬ (nonce.bytes ++ ciphertext).length < 12 := by
    rw [List.length_append, nonce.length_eq]
    omega
  have front : (nonce.bytes ++ ciphertext).take 12 = nonce.bytes :=
    List.take_left' nonce.length_eq
  have back : (nonce.bytes ++ ciphertext).drop 12 = ciphertext :=
    List.drop_left' nonce.length_eq
  have opened := lawful.decrypt_encrypt key nonce (utf8Bytes text) ciphertext h
  unfold Encryption.openCombined
  simp only [long, dite_false, front, back, opened, mapError_ok, ok_bind, fromUtf8_utf8Bytes]
  rfl

theorem decrypt_encrypt (lawful : p.Lawful) {enc : Encryption p} {user : p.Uuid} {nonce : Nonce}
    {plaintext text : String} (h : enc.encrypt plaintext user nonce = .ok text) :
    enc.decrypt text user = .ok plaintext := by
  unfold Encryption.encrypt at h
  split at h
  · rename_i empty
    cases h
    subst empty
    exact decrypt_of_unmarked enc user (by decide)
  · obtain ⟨key, hkey, h⟩ := bind_eq_ok.mp h
    obtain ⟨ciphertext, hcipher, h⟩ := bind_eq_ok.mp h
    cases h
    have opened := openCombined_encrypted lawful (mapError_eq_ok.mp hcipher)
    unfold Encryption.decrypt
    simp only [isEncrypted, startsWith_append, Bool.not_true, Bool.false_eq_true, if_false, hkey,
      ok_bind, dropChars_append, lawful.decode_encode, mapError_ok, opened]

end Polykit.Crypto
