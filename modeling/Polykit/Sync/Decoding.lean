/- Module: Polykit/Sync/Decoding
   generality: I
   source: crates/polybase/src/sync/coordinator.rs, crates/polybase/src/encryption.rs
   digest: Decrypting a remote row in place, and the rows a failure leaves half decrypted. -/

import Polykit.Lib.InPlace
import Polykit.Registry.RoundTrip
import Polykit.Sync.Coordinator

set_option autoImplicit false
set_option relaxedAutoImplicit false

namespace Polykit.Sync.Decoding

open Contract Crypto Entity Errors Json Lib Lib.Text Lib.Fallible Registry.RoundTrip

variable {p : Primitives} {Mirror Queue : Type}

/-! A decrypted text is shorter than its ciphertext, so it is never the ciphertext itself. -/

/-- A plaintext of AES-GCM is no longer than its ciphertext, which carries a tag, and base64
spends four characters on three bytes. -/
structure Shrinks (p : Primitives) : Prop where
  aesDecrypt : ∀ key nonce ciphertext plain,
    p.aesDecrypt key nonce ciphertext = .ok plain → plain.length ≤ ciphertext.length
  decode : ∀ text bytes, p.decode text = .ok bytes → bytes.length ≤ text.toList.length

theorem length_le_utf8Bytes (text : String) : text.toList.length ≤ (utf8Bytes text).length := by
  have bytes : utf8Bytes text = text.toList.flatMap String.utf8EncodeChar := by
    rw [utf8Bytes, String.toUTF8, ← String.utf8Encode_toList, List.utf8Encode]
    simp
  rw [bytes]
  induction text.toList with
  | nil => exact Nat.le_refl 0
  | cons c rest ih =>
    have positive := c.utf8Size_pos
    simp only [List.flatMap_cons, List.length_append, List.length_cons,
      String.length_utf8EncodeChar]
    omega

theorem utf8Bytes_of_fromUtf8 {bytes : List UInt8} {text : String}
    (h : fromUtf8 bytes = some text) : utf8Bytes text = bytes := by
  unfold fromUtf8 String.fromUTF8? at h
  split at h
  · cases h
    rfl
  · cases h

theorem decrypt_shorter (shrinks : Shrinks p) {enc : Encryption p} {user : p.Uuid}
    {text plain : String} (marked : isEncrypted text = true)
    (h : enc.decrypt text user = .ok plain) : plain.toList.length < text.toList.length := by
  unfold Encryption.decrypt at h
  simp only [marked, Bool.not_true, Bool.false_eq_true, if_false] at h
  obtain ⟨key, _, h⟩ := bind_eq_ok.mp h
  obtain ⟨combined, decoded, h⟩ := bind_eq_ok.mp h
  unfold Encryption.openCombined at h
  split at h
  · cases h
  · rename_i long
    obtain ⟨decrypted, opened, h⟩ := bind_eq_ok.mp h
    split at h
    · rename_i read
      cases h
      have written := length_le_utf8Bytes plain
      rw [utf8Bytes_of_fromUtf8 read] at written
      have unsealed := shrinks.aesDecrypt _ _ _ _ (mapError_eq_ok.mp opened)
      have unpacked := shrinks.decode _ _ (mapError_eq_ok.mp decoded)
      simp only [dropChars, String.toList_ofList, List.length_drop] at unsealed unpacked
      omega
    · cases h

/-! The loop over the columns as it runs on the caller's record. -/

def decryptInPlace (config : EntityConfig) (record : Map) (enc : Encryption p) (userId : String) :
    Map × Except PolyError Unit :=
  InPlace.run (decryptColumn enc (keyUserUuid p userId)) config.columns record

/-- Nothing happens without an encryptor or a registered table. -/
def decodeRemoteRecord (c : Coordinator p Mirror Queue) (table : String) (record : Map)
    (userId : String) : Map × Except PolyError Unit :=
  match c.encryption with
  | none => (record, .ok ())
  | some enc =>
      match c.registry.configForTable table with
      | none => (record, .ok ())
      | some config => decryptInPlace config record enc userId

theorem decryptInPlace_eq_ok_iff {config : EntityConfig} {record opened : Map}
    {enc : Encryption p} {userId : String} :
    decryptInPlace config record enc userId = (opened, .ok ()) ↔
      decryptRecordColumns config record enc userId = .ok opened :=
  InPlace.run_eq_ok_iff

def holdsMarked (record : Map) (column : ColumnDef) : Bool :=
  column.encrypted && isMarked record[column.effectiveRemoteName]?

def textLength : Option Value → Nat
  | some (.string text) => text.toList.length
  | _ => 0

section Loop

variable {enc : Encryption p} {user : p.Uuid} {record next final : Map} {column : ColumnDef}
variable {columns : List ColumnDef} {name text plain : String}

theorem decryptColumn_idle (h : holdsMarked record column = false) :
    decryptColumn enc user record column = .ok record := by
  unfold decryptColumn
  split
  · rfl
  · rename_i on
    have encrypted : column.encrypted = true := by simpa using on
    split
    · rename_i text found
      have unmarked : isEncrypted text = false := by
        simpa [holdsMarked, isMarked, found, encrypted] using h
      simp [unmarked]
    · rfl

theorem decryptColumn_marked (encrypted : column.encrypted = true)
    (found : record[column.effectiveRemoteName]? = some (.string text))
    (marked : isEncrypted text = true) :
    decryptColumn enc user record column =
      ((enc.decrypt text user).mapError PolyError.encryption).map
        (fun plain => record.insert column.effectiveRemoteName (.string plain)) := by
  simp only [decryptColumn, encrypted, found, marked, Bool.not_true, Bool.false_eq_true, if_false,
    if_true]
  cases enc.decrypt text user <;> rfl

theorem textLength_restored_lt (shrinks : Shrinks p) {value : Option Value}
    (marked : isMarked value = true) :
    textLength (restored enc user value) < textLength value := by
  obtain ⟨text, rfl, prefixed⟩ := isMarked_iff.mp marked
  have long : 0 < text.toList.length := by
    simp only [isEncrypted, startsWith, decide_eq_true_eq] at prefixed
    exact Nat.lt_of_lt_of_le (by decide) prefixed.length_le
  simp only [restored, prefixed, if_true]
  cases opened : enc.decrypt text user with
  | ok plain => exact decrypt_shorter shrinks prefixed opened
  | error error => exact long

theorem textLength_restored_le (shrinks : Shrinks p) (value : Option Value) :
    textLength (restored enc user value) ≤ textLength value := by
  cases marked : isMarked value with
  | false => rw [restored_of_unmarked marked]
  | true => exact Nat.le_of_lt (textLength_restored_lt shrinks marked)

theorem textLength_decryptColumn (shrinks : Shrinks p)
    (h : decryptColumn enc user record column = .ok next) (name : String) :
    textLength next[name]? ≤ textLength record[name]? := by
  by_cases own : column.encrypted = true ∧ column.effectiveRemoteName = name
  · obtain ⟨encrypted, rfl⟩ := own
    rw [(decryptColumn_own_ok h encrypted).1]
    exact textLength_restored_le shrinks _
  · rw [decryptColumn_other h (fun encrypted same => own ⟨encrypted, same⟩)]

theorem textLength_run (shrinks : Shrinks p) (columns : List ColumnDef) (record : Map)
    (name : String) :
    textLength (InPlace.run (decryptColumn enc user) columns record).1[name]? ≤
      textLength record[name]? :=
  InPlace.run_relates (R := fun before after => textLength after[name]? ≤ textLength before[name]?)
    (fun _ => Nat.le_refl _) (fun first rest => rest.trans first)
    (fun turn => textLength_decryptColumn shrinks turn name) columns record

/-- The columns in front of the first that holds a marked text are passed over. -/
theorem run_from_first (first : columns.find? (holdsMarked record) = some column) :
    column.encrypted = true ∧ isMarked record[column.effectiveRemoteName]? = true ∧
      ∃ back, InPlace.run (decryptColumn enc user) columns record =
        InPlace.run (decryptColumn enc user) (column :: back) record := by
  obtain ⟨holds, front, back, rfl, idle⟩ := List.find?_eq_some_iff_append.mp first
  obtain ⟨encrypted, marked⟩ := Bool.and_eq_true_iff.mp holds
  refine ⟨encrypted, marked, back, InPlace.run_idle (fun a member => ?_) _⟩
  exact decryptColumn_idle (by simpa using idle a member)

/-- The condition of a clean failure: the first column whose turn decrypts does not decrypt. -/
def FirstFails (enc : Encryption p) (user : p.Uuid) (columns : List ColumnDef)
    (record : Map) : Prop :=
  ∃ column, columns.find? (holdsMarked record) = some column ∧
    ¬ Decryptable enc user record[column.effectiveRemoteName]?

theorem run_of_firstFails (h : FirstFails enc user columns record) :
    ∃ error, InPlace.run (decryptColumn enc user) columns record = (record, .error error) := by
  obtain ⟨column, first, fails⟩ := h
  obtain ⟨encrypted, value, back, loop⟩ := run_from_first (p := p) first
  obtain ⟨text, found, marked⟩ := isMarked_iff.mp value
  rw [loop]
  cases opened : enc.decrypt text user with
  | ok plain =>
    refine absurd ?_ fails
    intro other same _
    cases found.symm.trans same
    exact ⟨plain, opened⟩
  | error error =>
    refine ⟨PolyError.encryption error, InPlace.run_cons_error ?_ back⟩
    rw [decryptColumn_marked encrypted found marked, opened]
    rfl

/-- A record whose first turn decrypts never comes back as it was. -/
theorem run_ne_of_first_opens (shrinks : Shrinks p)
    (first : columns.find? (holdsMarked record) = some column)
    (opens : Decryptable enc user record[column.effectiveRemoteName]?) :
    (InPlace.run (decryptColumn enc user) columns record).1 ≠ record := by
  obtain ⟨encrypted, marked, back, loop⟩ := run_from_first (p := p) first
  obtain ⟨next, turn, own⟩ := decryptColumn_own encrypted opens
  rw [loop, InPlace.run_cons_ok turn]
  intro same
  have later : textLength (InPlace.run (decryptColumn enc user) back
      next).1[column.effectiveRemoteName]? ≤ textLength next[column.effectiveRemoteName]? :=
    textLength_run shrinks back next _
  rw [same, own] at later
  exact absurd later (Nat.not_le.mpr (textLength_restored_lt shrinks marked))

theorem run_of_no_marked (none_marked : columns.find? (holdsMarked record) = none) :
    InPlace.run (decryptColumn enc user) columns record = (record, .ok ()) := by
  have idle : ∀ a ∈ columns, decryptColumn enc user record a = .ok record :=
    fun a member => decryptColumn_idle (by simpa using List.find?_eq_none.mp none_marked a member)
  have passed := InPlace.run_idle idle []
  rw [List.append_nil] at passed
  exact passed

theorem iterate_restored_ne (shrinks : Shrinks p) {value : Option Value}
    (marked : isMarked value = true) (more : Nat) :
    (restored enc user)^[more + 1] value ≠ value := by
  have shrunk : ∀ n (start : Option Value),
      textLength ((restored enc user)^[n] start) ≤ textLength start := by
    intro n
    induction n with
    | zero => exact fun start => Nat.le_refl _
    | succ n ih =>
      exact fun start => (ih _).trans (textLength_restored_le shrinks start)
  intro same
  have later := shrunk more (restored enc user value)
  rw [← Function.iterate_succ_apply, same] at later
  exact absurd later (Nat.not_le.mpr (textLength_restored_lt shrinks marked))

end Loop

def Pending (c : Coordinator p Mirror Queue) (table : String) (record : Map)
    (name : String) : Prop :=
  ∃ enc config, c.encryption = some enc ∧ c.registry.configForTable table = some config ∧
    name ∈ encryptedNames config.columns ∧ isMarked record[name]? = true

/-- A failed call leaves the record as it was. A call that goes through replaces each marked text
of an encrypted column by its decryption and nothing else. -/
structure AllOrNothing (c : Coordinator p Mirror Queue) (table userId : String) (record : Map)
    (outcome : Map × Except PolyError Unit) : Prop where
  unchanged : ∀ error, outcome.2 = .error error → outcome.1 = record
  decrypted : outcome.2 = .ok () → ∀ enc config, c.encryption = some enc →
    c.registry.configForTable table = some config → ∀ name ∈ encryptedNames config.columns,
      ∀ text, record[name]? = some (.string text) → isEncrypted text = true →
        ∃ plain, enc.decrypt text (keyUserUuid p userId) = .ok plain ∧
          outcome.1[name]? = some (.string plain)
  framed : outcome.2 = .ok () → ∀ name, ¬ Pending c table record name →
    outcome.1[name]? = record[name]?

section Outcome

variable {c : Coordinator p Mirror Queue} {table userId : String} {record final : Map}
variable {enc : Encryption p} {config : EntityConfig}

theorem allOrNothing_of_idle
    (idle : c.encryption = none ∨ c.registry.configForTable table = none) :
    AllOrNothing c table userId record (record, .ok ()) where
  unchanged := nofun
  decrypted := by
    rintro - enc config encryption registered
    rcases idle with missing | missing
    · cases missing.symm.trans encryption
    · cases missing.symm.trans registered
  framed := fun _ _ _ => rfl

theorem allOrNothing_of_opensOnce (encryption : c.encryption = some enc)
    (registered : c.registry.configForTable table = some config)
    (h : OpensOnce enc (keyUserUuid p userId) config.columns record)
    (values : ∀ name : String, final[name]? =
      if name ∈ encryptedNames config.columns then
        restored enc (keyUserUuid p userId) record[name]? else record[name]?) :
    AllOrNothing c table userId record (final, .ok ()) where
  unchanged := nofun
  decrypted := by
    intro _ enc' config' encryption' registered' name member text found marked
    cases encryption.symm.trans encryption'
    cases registered.symm.trans registered'
    obtain ⟨plain, opened⟩ := h.opens name member text found marked
    refine ⟨plain, opened, ?_⟩
    rw [values, if_pos member, found]
    simp [restored, marked, opened]
  framed := by
    intro _ name idle
    rw [values]
    split
    · rename_i member
      refine restored_of_unmarked (Bool.eq_false_iff.mpr (fun marked => ?_))
      exact idle ⟨enc, config, encryption, registered, member, marked⟩
    · rfl

theorem opensOnce_of_allOrNothing (shrinks : Shrinks p) (encryption : c.encryption = some enc)
    (registered : c.registry.configForTable table = some config)
    (loop : decryptInPlace config record enc userId = (final, .ok ()))
    (h : AllOrNothing c table userId record (final, .ok ())) :
    OpensOnce enc (keyUserUuid p userId) config.columns record := by
  have replaced := h.decrypted rfl enc config encryption registered
  constructor
  · intro name member text found marked
    obtain ⟨plain, opened, -⟩ := replaced name member text found marked
    exact ⟨plain, opened⟩
  · intro name twice
    by_contra again
    have marked : isMarked (restored enc (keyUserUuid p userId) record[name]?) = true := by
      simpa using again
    cases value : isMarked record[name]? with
    | false => simp [restored_of_unmarked value, value] at marked
    | true =>
      obtain ⟨text, found, prefixed⟩ := isMarked_iff.mp value
      obtain ⟨plain, opened, written⟩ :=
        replaced name (List.count_pos_iff.mp (by omega)) text found prefixed
      have once : restored enc (keyUserUuid p userId) record[name]? = some (.string plain) := by
        simp [restored, found, prefixed, opened]
      obtain ⟨more, visits⟩ := Nat.exists_eq_add_of_lt twice
      have last := (decryptLoop_eq (decryptInPlace_eq_ok_iff.mp loop) name).1
      rw [written, ← once, visits, show 1 + more + 1 = more + 1 + 1 by omega,
        Function.iterate_succ_apply] at last
      exact iterate_restored_ne shrinks marked more last.symm

theorem firstFails_of_unchanged (shrinks : Shrinks p) {error : PolyError}
    (loop : decryptInPlace config record enc userId = (record, .error error)) :
    FirstFails enc (keyUserUuid p userId) config.columns record := by
  unfold decryptInPlace at loop
  cases first : config.columns.find? (holdsMarked record) with
  | none =>
    rw [run_of_no_marked first] at loop
    cases loop
  | some column =>
    refine ⟨column, first, fun opens => ?_⟩
    exact run_ne_of_first_opens shrinks first opens (congrArg Prod.fst loop)

theorem decodeRemoteRecord_eq (encryption : c.encryption = some enc)
    (registered : c.registry.configForTable table = some config) :
    decodeRemoteRecord c table record userId = decryptInPlace config record enc userId := by
  simp [decodeRemoteRecord, encryption, registered]

end Outcome

/-- Decoding is all or nothing exactly when the first marked column already fails, or every one
decrypts and none that is registered twice is marked again afterwards. -/
theorem decodeRemoteRecord_allOrNothing_iff (shrinks : Shrinks p)
    (c : Coordinator p Mirror Queue) (table : String) (record : Map) (userId : String) :
    AllOrNothing c table userId record (decodeRemoteRecord c table record userId) ↔
      ∀ enc config, c.encryption = some enc → c.registry.configForTable table = some config →
        FirstFails enc (keyUserUuid p userId) config.columns record ∨
          OpensOnce enc (keyUserUuid p userId) config.columns record := by
  constructor
  · intro h enc config encryption registered
    rw [decodeRemoteRecord_eq encryption registered] at h
    rcases loop : decryptInPlace config record enc userId with ⟨final, error | _⟩
    · rw [loop] at h
      obtain rfl : final = record := h.unchanged error rfl
      exact .inl (firstFails_of_unchanged shrinks loop)
    · rw [loop] at h
      exact .inr (opensOnce_of_allOrNothing shrinks encryption registered loop h)
  · intro h
    cases encryption : c.encryption with
    | none =>
      simpa only [decodeRemoteRecord, encryption] using allOrNothing_of_idle (.inl encryption)
    | some enc =>
      cases registered : c.registry.configForTable table with
      | none =>
        simpa only [decodeRemoteRecord, encryption, registered] using
          allOrNothing_of_idle (.inr registered)
      | some config =>
        rw [decodeRemoteRecord_eq encryption registered]
        rcases h enc config encryption registered with fails | opens
        · obtain ⟨error, loop⟩ := run_of_firstFails fails
          rw [decryptInPlace, loop]
          exact ⟨fun _ _ => rfl, nofun, nofun⟩
        · obtain ⟨final, loop, values⟩ := decryptLoop_of_opensOnce opens
          rw [decryptInPlace_eq_ok_iff.mpr loop]
          exact allOrNothing_of_opensOnce encryption registered opens values

theorem shrinks_taggedPrimitives : Shrinks taggedPrimitives where
  aesDecrypt := by
    intro _ _ _ _ opened
    cases opened
    exact Nat.le_refl _
  decode := by
    intro text
    unfold taggedPrimitives
    dsimp only
    induction text.toList using taggedDecode.induct with
    | case1 => simp [taggedDecode]
    | case2 c rest ih =>
      intro bytes decoded
      obtain ⟨later, parsed, rfl⟩ := map_eq_ok.mp decoded
      have shorter := ih later parsed
      simp only [List.length_cons]
      omega
    | case3 chars notNil notPair =>
      intro bytes decoded
      rw [taggedDecode.eq_3 chars notNil notPair] at decoded
      cases decoded

def notesEntityConfig : EntityConfig :=
  { EntityConfig.synced "notes" "Note" with
    columns := [
      ColumnDef.synced "id" "id" "id" "TEXT" "string" false,
      ColumnDef.synced "title" "title" "title" "TEXT" "string" true,
      ColumnDef.synced "content" "content" "content" "TEXT" "string" true] }

def notesCoordinator : Coordinator taggedPrimitives Unit OfflineQueue.Memory.MemoryQueue where
  registry := (Registry.register {} notesEntityConfig).getD {}
  encryption := some sampleEncryption
  localStore := nullLocalStore
  queue := memoryQueue
  fromStr _ := .error "expected value"

/-- A note whose first encrypted column is corrupt stays as it was. -/
theorem decodeRemoteRecord_allOrNothing_corrupt_title :
    AllOrNothing notesCoordinator "notes" "user-1" ((∅ : Map).insert "title" (.string "enc:hello"))
      (decodeRemoteRecord notesCoordinator "notes"
        ((∅ : Map).insert "title" (.string "enc:hello")) "user-1") := by
  refine (decodeRemoteRecord_allOrNothing_iff shrinks_taggedPrimitives notesCoordinator "notes" _
    "user-1").mpr ?_
  rintro enc config ⟨⟩ ⟨⟩
  refine .inl ⟨ColumnDef.synced "title" "title" "title" "TEXT" "string" true, by decide, ?_⟩
  intro decryptable
  obtain ⟨plain, opened⟩ := decryptable "enc:hello" rfl (by decide)
  cases opened

def corruptNote (title : String) : Map :=
  ((∅ : Map).insert "title" (.string title)).insert "content" (.string "enc:hello")

theorem decodeRemoteRecord_corruptNote {title plain : String} (marked : isEncrypted title = true)
    (opened : sampleEncryption.decrypt title (keyUserUuid taggedPrimitives "user-1") = .ok plain) :
    decodeRemoteRecord notesCoordinator "notes" (corruptNote title) "user-1" =
      ((corruptNote title).insert "title" (.string plain),
        .error (.encryption (.operationFailed "base64: invalid input"))) := by
  have found : (corruptNote title)["title"]? = some (.string title) := by
    simp [corruptNote, Std.ExtTreeMap.getElem_insert]
  have corrupt : ((corruptNote title).insert "title" (.string plain))["content"]? =
      some (.string "enc:hello") := by
    simp [corruptNote, Std.ExtTreeMap.getElem_insert]
  have called : decodeRemoteRecord notesCoordinator "notes" (corruptNote title) "user-1" =
      decryptInPlace notesEntityConfig (corruptNote title) sampleEncryption "user-1" :=
    decodeRemoteRecord_eq rfl rfl
  rw [called, decryptInPlace]
  unfold notesEntityConfig
  dsimp only
  rw [InPlace.run_cons_ok (decryptColumn_idle rfl)]
  have first : decryptColumn sampleEncryption (keyUserUuid taggedPrimitives "user-1")
      (corruptNote title) (ColumnDef.synced "title" "title" "title" "TEXT" "string" true) =
        .ok ((corruptNote title).insert "title" (.string plain)) := by
    rw [decryptColumn_marked rfl found marked, opened]
    rfl
  rw [InPlace.run_cons_ok first]
  refine InPlace.run_cons_error ?_ []
  rw [decryptColumn_marked rfl corrupt (by decide)]
  rfl

/-- The title of this note decrypts, its content does not: the call fails and leaves the row with
its title in clear. -/
theorem decodeRemoteRecord_half_done :
    ∃ cipher : String, sampleEncryption.encrypt "hi" (keyUserUuid taggedPrimitives "user-1")
        zeroNonce = .ok cipher ∧
      let outcome := decodeRemoteRecord notesCoordinator "notes" (corruptNote cipher) "user-1"
      outcome.2 = .error (.encryption (.operationFailed "base64: invalid input")) ∧
        outcome.1["title"]? = some (.string "hi") ∧
        ¬ AllOrNothing notesCoordinator "notes" "user-1" (corruptNote cipher) outcome := by
  have sealed : ∃ cipher, sampleEncryption.encrypt "hi" (keyUserUuid taggedPrimitives "user-1")
      zeroNonce = .ok cipher ∧ isEncrypted cipher = true := ⟨_, rfl, startsWith_append _ _⟩
  obtain ⟨cipher, sealed, marked⟩ := sealed
  have opened := decrypt_encrypt taggedPrimitives_lawful sealed
  refine ⟨cipher, sealed, ?_⟩
  dsimp only
  rw [decodeRemoteRecord_corruptNote marked opened]
  refine ⟨rfl, by simp, fun h => ?_⟩
  have same := congrArg (fun record : Map => record["title"]?) (h.unchanged _ rfl)
  obtain rfl : "hi" = cipher := by simpa [corruptNote, Std.ExtTreeMap.getElem_insert] using same
  exact absurd marked (by decide)

end Polykit.Sync.Decoding
