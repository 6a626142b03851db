/- Module: Polykit/Crypto/Data
   generality: I
   source: crates/polybase/src/encryption.rs
   digest: The binary wire format, and both formats with every index of theirs checked. -/

import Polykit.Crypto.Encryption

set_option autoImplicit false
set_option relaxedAutoImplicit false

namespace Polykit.Crypto.Data

open Contract Crypto Errors Lib.Fallible Lib.Text

def binaryEncryptionHeader : List UInt8 := [0x45, 0x4E, 0x43, 0x00]

def isDataEncrypted (data : List UInt8) : Bool := binaryEncryptionHeader.isPrefixOf data

variable {p : Primitives}

def encryptData (enc : Encryption p) (data : List UInt8) (user : p.Uuid) (nonce : Nonce) :
    Except EncryptionError (List UInt8) :=
  if data = [] then .ok data
  else do
    let key ← enc.deriveKey user
    let ciphertext ← (p.aesEncrypt key nonce data).mapError
      (fun e => EncryptionError.operationFailed ("encrypt_data: " ++ e))
    return binaryEncryptionHeader ++ nonce.bytes ++ ciphertext

/-- The end of both decryptions, under the texts of its two errors. -/
def openSealed (p : Primitives) (tooShort failed : String) (key : p.Key)
    (combined : List UInt8) : Except EncryptionError (List UInt8) :=
  if h : combined.length < 12 then .error (.operationFailed tooShort)
  else
    let nonce : Nonce := ⟨combined.take 12, length_nonce h⟩
    (p.aesDecrypt key nonce (combined.drop 12)).mapError
      (fun e => EncryptionError.operationFailed (failed ++ e))

def decryptData (enc : Encryption p) (data : List UInt8) (user : p.Uuid) :
    Except EncryptionError (List UInt8) :=
  if !isDataEncrypted data then .ok data
  else do
    let key ← enc.deriveKey user
    openSealed p "encrypted data too short" "decrypt_data: " key
      (data.drop binaryEncryptionHeader.length)

/-! The same decryptions where an index outside of its slice is a panic, `none`. -/

/-- `&bytes[start..]`. -/
def sliceFrom (bytes : List UInt8) (start : Nat) : Option (List UInt8) :=
  if start ≤ bytes.length then some (bytes.drop start) else none

/-- `&bytes[..stop]`. -/
def sliceTo (bytes : List UInt8) (stop : Nat) : Option (List UInt8) :=
  if stop ≤ bytes.length then some (bytes.take stop) else none

/-- What follows a byte index, which has to stand between two characters. -/
def charsFrom : List Char → Nat → Option (List Char)
  | text, 0 => some text
  | [], _ + 1 => none
  | c :: rest, start + 1 => if c.utf8Size ≤ start + 1 then charsFrom rest (start + 1 - c.utf8Size)
      else none

/-- `&text[start..]`. -/
def strFrom (text : String) (start : Nat) : Option String :=
  (charsFrom text.toList start).map String.ofList

/-- `Nonce::from_slice`, which takes twelve bytes. -/
def Nonce.fromSlice (bytes : List UInt8) : Option Nonce :=
  if h : bytes.length = 12 then some ⟨bytes, h⟩ else none

def openChecked (p : Primitives) (tooShort failed : String) (key : p.Key)
    (combined : List UInt8) : Option (Except EncryptionError (List UInt8)) :=
  if combined.length < 12 then some (.error (.operationFailed tooShort))
  else do
    let nonce ← Nonce.fromSlice (← sliceTo combined 12)
    let payload ← sliceFrom combined 12
    return (p.aesDecrypt key nonce payload).mapError
      (fun e => EncryptionError.operationFailed (failed ++ e))

/-- `String::from_utf8`. -/
def readText (p : Primitives) (bytes : List UInt8) : Except EncryptionError String :=
  match fromUtf8 bytes with
  | some text => .ok text
  | none => .error (.operationFailed ("utf8: " ++ p.utf8Error bytes))

def decryptChecked (enc : Encryption p) (ciphertext : String) (user : p.Uuid) :
    Option (Except EncryptionError String) :=
  if !isEncrypted ciphertext then some (.ok ciphertext)
  else
    match enc.deriveKey user with
    | .error error => some (.error error)
    | .ok key => do
        let base64String ← strFrom ciphertext (utf8Bytes stringEncryptionPrefix).length
        match p.decode base64String with
        | .error e => some (.error (.operationFailed ("base64: " ++ e)))
        | .ok combined =>
            let opened ← openChecked p "ciphertext too short" "decrypt: " key combined
            return opened.bind (readText p)

def decryptDataChecked (enc : Encryption p) (data : List UInt8) (user : p.Uuid) :
    Option (Except EncryptionError (List UInt8)) :=
  if !isDataEncrypted data then some (.ok data)
  else
    match enc.deriveKey user with
    | .error error => some (.error error)
    | .ok key => do
        let combined ← sliceFrom data binaryEncryptionHeader.length
        openChecked p "encrypted data too short" "decrypt_data: " key combined

/-! No index is outside of its slice. -/

theorem openChecked_eq (tooShort failed : String) (key : p.Key) (combined : List UInt8) :
    openChecked p tooShort failed key combined =
      some (openSealed p tooShort failed key combined) := by
  unfold openChecked openSealed
  by_cases short : combined.length < 12
  · rw [if_pos short, dif_pos short]
  · have long : 12 ≤ combined.length := by omega
    have twelve : (combined.take 12).length = 12 := by
      rw [List.length_take]
      omega
    rw [if_neg short, dif_neg short]
    simp [sliceTo, sliceFrom, Nonce.fromSlice, long]

theorem openCombined_eq (key : p.Key) (combined : List UInt8) :
    Encryption.openCombined p key combined =
      (openSealed p "ciphertext too short" "decrypt: " key combined).bind (readText p) := by
  unfold Encryption.openCombined openSealed
  split
  · rfl
  · rfl

theorem charsFrom_append (front rest : List Char) :
    charsFrom (front ++ rest) (front.map Char.utf8Size).sum = some rest := by
  induction front with
  | nil => cases rest <;> rfl
  | cons c front ih =>
    have positive := c.utf8Size_pos
    obtain ⟨start, size⟩ : ∃ start, c.utf8Size + (front.map Char.utf8Size).sum = start + 1 :=
      ⟨c.utf8Size + (front.map Char.utf8Size).sum - 1, by omega⟩
    have next : start + 1 - c.utf8Size = (front.map Char.utf8Size).sum := by omega
    rw [List.map_cons, List.sum_cons, size, List.cons_append, charsFrom, if_pos (by omega), next,
      ih]

theorem strFrom_marked {text : String} (marked : isEncrypted text = true) :
    strFrom text (utf8Bytes stringEncryptionPrefix).length =
      some (dropChars text stringEncryptionPrefix.toList.length) := by
  simp only [isEncrypted, startsWith, decide_eq_true_eq] at marked
  obtain ⟨rest, same⟩ := marked
  have bytes : (utf8Bytes stringEncryptionPrefix).length =
      (stringEncryptionPrefix.toList.map Char.utf8Size).sum := by decide
  unfold strFrom dropChars
  rw [bytes, ← same, charsFrom_append, List.drop_left, Option.map_some]

theorem decryptChecked_eq (enc : Encryption p) (text : String) (user : p.Uuid) :
    decryptChecked enc text user = some (enc.decrypt text user) := by
  unfold decryptChecked Encryption.decrypt
  cases marked : isEncrypted text with
  | false => rfl
  | true =>
    cases derived : enc.deriveKey user with
    | error error => rfl
    | ok key =>
      simp only [strFrom_marked marked, Option.bind_eq_bind, Option.bind_some]
      cases decoded : p.decode (dropChars text stringEncryptionPrefix.toList.length) with
      | error e => rfl
      | ok combined =>
        simp only [openChecked_eq, Option.bind_some]
        exact congrArg some (openCombined_eq key combined).symm

theorem decryptDataChecked_eq (enc : Encryption p) (data : List UInt8) (user : p.Uuid) :
    decryptDataChecked enc data user = some (decryptData enc data user) := by
  unfold decryptDataChecked decryptData
  cases marked : isDataEncrypted data with
  | false => rfl
  | true =>
    cases derived : enc.deriveKey user with
    | error error => rfl
    | ok key =>
      have inside : sliceFrom data binaryEncryptionHeader.length =
          some (data.drop binaryEncryptionHeader.length) :=
        if_pos (List.isPrefixOf_iff_prefix.mp marked).length_le
      simp only [inside, Option.bind_eq_bind, Option.bind_some, openChecked_eq]
      rfl

/-! What an encryption returns, and what a decryption makes of it. -/

def Seals (enc : Encryption p) (user : p.Uuid) (nonce : Nonce) (bytes : List UInt8) : Prop :=
  ∃ key ciphertext, enc.deriveKey user = .ok key ∧ p.aesEncrypt key nonce bytes = .ok ciphertext

def Opens (p : Primitives) (key : p.Key) (combined plain : List UInt8) : Prop :=
  ∃ (nonce : Nonce) (payload : List UInt8), combined = nonce.bytes ++ payload ∧
    p.aesDecrypt key nonce payload = .ok plain

section

variable {enc : Encryption p} {user : p.Uuid} {nonce : Nonce}

theorem encrypt_isOk_iff {plaintext : String} :
    (∃ text, enc.encrypt plaintext user nonce = .ok text) ↔
      plaintext = "" ∨ Seals enc user nonce (utf8Bytes plaintext) := by
  unfold Encryption.encrypt Seals
  by_cases empty : plaintext = ""
  · simp [empty]
  · simp only [empty, if_false, false_or, bind_eq_ok, mapError_eq_ok, exists_and_left]
    constructor
    · rintro ⟨text, key, derived, ciphertext, sealed, _⟩
      exact ⟨key, derived, ciphertext, sealed⟩
    · rintro ⟨key, derived, ciphertext, sealed⟩
      exact ⟨_, key, derived, ciphertext, sealed, rfl⟩

theorem encryptData_isOk_iff {data : List UInt8} :
    (∃ bytes, encryptData enc data user nonce = .ok bytes) ↔
      data = [] ∨ Seals enc user nonce data := by
  unfold encryptData Seals
  by_cases empty : data = []
  · simp [empty]
  · simp only [empty, if_false, false_or, bind_eq_ok, mapError_eq_ok, exists_and_left]
    constructor
    · rintro ⟨bytes, key, derived, ciphertext, sealed, _⟩
      exact ⟨key, derived, ciphertext, sealed⟩
    · rintro ⟨key, derived, ciphertext, sealed⟩
      exact ⟨_, key, derived, ciphertext, sealed, rfl⟩

theorem isEncrypted_encrypt {plaintext text : String}
    (h : enc.encrypt plaintext user nonce = .ok text) (nonempty : plaintext ≠ "") :
    isEncrypted text = true := by
  unfold Encryption.encrypt at h
  rw [if_neg nonempty] at h
  obtain ⟨key, _, h⟩ := bind_eq_ok.mp h
  obtain ⟨ciphertext, _, h⟩ := bind_eq_ok.mp h
  cases h
  exact startsWith_append _ _

theorem encryptData_eq_ok {data bytes : List UInt8}
    (h : encryptData enc data user nonce = .ok bytes) (nonempty : data ≠ []) :
    ∃ key ciphertext, enc.deriveKey user = .ok key ∧ p.aesEncrypt key nonce data = .ok ciphertext ∧
      bytes = binaryEncryptionHeader ++ (nonce.bytes ++ ciphertext) := by
  unfold encryptData at h
  rw [if_neg nonempty] at h
  obtain ⟨key, derived, h⟩ := bind_eq_ok.mp h
  obtain ⟨ciphertext, sealed, h⟩ := bind_eq_ok.mp h
  cases h
  exact ⟨key, ciphertext, derived, mapError_eq_ok.mp sealed, List.append_assoc _ _ _⟩

theorem isDataEncrypted_append (rest : List UInt8) :
    isDataEncrypted (binaryEncryptionHeader ++ rest) = true :=
  List.isPrefixOf_iff_prefix.mpr (List.prefix_append _ _)

theorem isDataEncrypted_encryptData {data bytes : List UInt8}
    (h : encryptData enc data user nonce = .ok bytes) (nonempty : data ≠ []) :
    isDataEncrypted bytes = true := by
  obtain ⟨_, _, _, _, rfl⟩ := encryptData_eq_ok h nonempty
  exact isDataEncrypted_append _

theorem openSealed_append (tooShort failed : String) (key : p.Key) (payload : List UInt8) :
    openSealed p tooShort failed key (nonce.bytes ++ payload) =
      (p.aesDecrypt key nonce payload).mapError
        (fun e => EncryptionError.operationFailed (failed ++ e)) := by
  have long : ¬ (nonce.bytes ++ payload).length < 12 := by
    rw [List.length_append, nonce.length_eq]
    omega
  have front : (nonce.bytes ++ payload).take 12 = nonce.bytes := List.take_left' nonce.length_eq
  have back : (nonce.bytes ++ payload).drop 12 = payload := List.drop_left' nonce.length_eq
  unfold openSealed
  simp only [long, dite_false, front, back]

theorem decryptData_encryptData (lawful : p.Lawful) {data bytes : List UInt8}
    (h : encryptData enc data user nonce = .ok bytes) : decryptData enc bytes user = .ok data := by
  by_cases empty : data = []
  · subst empty
    cases h
    rfl
  · obtain ⟨key, ciphertext, derived, sealed, rfl⟩ := encryptData_eq_ok h empty
    unfold decryptData
    rw [isDataEncrypted_append, derived, List.drop_left]
    exact (openSealed_append _ _ key ciphertext).trans
      (by rw [lawful.decrypt_encrypt key nonce data ciphertext sealed, mapError_ok])

/-! What a decryption of any input returns. -/

theorem opens_of_openSealed {tooShort failed : String} {key : p.Key} {combined plain : List UInt8}
    (h : openSealed p tooShort failed key combined = .ok plain) : Opens p key combined plain := by
  unfold openSealed at h
  split at h
  · cases h
  · exact ⟨_, _, (List.take_append_drop 12 combined).symm, mapError_eq_ok.mp h⟩

theorem decrypt_eq_ok {text plain : String} (h : enc.decrypt text user = .ok plain) :
    isEncrypted text = false ∧ plain = text ∨
      isEncrypted text = true ∧ ∃ key rest combined bytes,
        text = stringEncryptionPrefix ++ rest ∧ enc.deriveKey user = .ok key ∧
        p.decode rest = .ok combined ∧ Opens p key combined bytes ∧
        fromUtf8 bytes = some plain := by
  unfold Encryption.decrypt at h
  cases marked : isEncrypted text with
  | false =>
    rw [marked] at h
    cases h
    exact .inl ⟨rfl, rfl⟩
  | true =>
    rw [marked] at h
    obtain ⟨key, derived, h⟩ := bind_eq_ok.mp h
    obtain ⟨combined, decoded, h⟩ := bind_eq_ok.mp h
    rw [openCombined_eq] at h
    obtain ⟨bytes, opened, h⟩ := bind_eq_ok.mp h
    have same : text = stringEncryptionPrefix ++ dropChars text
        stringEncryptionPrefix.toList.length := by
      simp only [isEncrypted, startsWith, decide_eq_true_eq] at marked
      obtain ⟨rest, same⟩ := marked
      apply String.ext
      simp [dropChars, ← same]
    refine .inr ⟨rfl, key, _, combined, bytes, same, derived, mapError_eq_ok.mp decoded,
      opens_of_openSealed opened, ?_⟩
    unfold readText at h
    split at h
    · rename_i found
      cases h
      exact found
    · cases h

theorem decryptData_eq_ok {data plain : List UInt8} (h : decryptData enc data user = .ok plain) :
    isDataEncrypted data = false ∧ plain = data ∨
      isDataEncrypted data = true ∧ ∃ key combined, data = binaryEncryptionHeader ++ combined ∧
        enc.deriveKey user = .ok key ∧ Opens p key combined plain := by
  unfold decryptData at h
  cases marked : isDataEncrypted data with
  | false =>
    rw [marked] at h
    cases h
    exact .inl ⟨rfl, rfl⟩
  | true =>
    rw [marked] at h
    obtain ⟨key, derived, h⟩ := bind_eq_ok.mp h
    have same : data = binaryEncryptionHeader ++ data.drop binaryEncryptionHeader.length :=
      (List.prefix_iff_eq_append.mp (List.isPrefixOf_iff_prefix.mp marked)).symm
    exact .inr ⟨rfl, key, _, same, derived, opens_of_openSealed h⟩

end

end Polykit.Crypto.Data
