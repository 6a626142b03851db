/- Module: Polykit/Registry/RoundTrip
   generality: I
   source: crates/polybase/src/registry/mod.rs, crates/polybase/src/sync/coordinator.rs
   digest: Decrypting a serialized payload gives back every column that held no marked text. -/

import Polykit.Registry.Entity

set_option autoImplicit false
set_option relaxedAutoImplicit false

namespace Polykit.Registry.RoundTrip

open Contract Crypto Entity Errors Json Lib.Text Lib.Fallible

variable {p : Primitives}

/-- One turn of the decryption loop of `decrypt_record_columns`. -/
def decryptColumn (enc : Encryption p) (user : p.Uuid) (record : Map) (column : ColumnDef) :
    Except PolyError Map :=
  if !column.encrypted then .ok record
  else
    match record[column.effectiveRemoteName]? with
    | some (.string text) =>
        if isEncrypted text then do
          let plain ← (enc.decrypt text user).mapError PolyError.encryption
          return record.insert column.effectiveRemoteName (.string plain)
        else .ok record
    | _ => .ok record

def decryptRecordColumns (config : EntityConfig) (record : Map) (enc : Encryption p)
    (userId : String) : Except PolyError Map :=
  config.columns.foldlM (decryptColumn enc (keyUserUuid p userId)) record

/-- The value a column comes back with: a marked text as what it decrypts to, everything
else as it was. -/
def restored (enc : Encryption p) (user : p.Uuid) : Option Value → Option Value
  | some (.string text) =>
      if isEncrypted text then
        match enc.decrypt text user with
        | .ok plain => some (.string plain)
        | .error _ => none
      else some (.string text)
  | other => other

/-- A marked text decrypts for this user. Values that are no marked text always pass. -/
def Decryptable (enc : Encryption p) (user : p.Uuid) (value : Option Value) : Prop :=
  ∀ text, value = some (.string text) → isEncrypted text = true →
    ∃ plain, enc.decrypt text user = .ok plain

/-- What serialization makes of a column: marked texts and values that are no text stay, any
other text is encrypted. -/
def Serialized (enc : Encryption p) (user : p.Uuid) (before after : Option Value) : Prop :=
  match before with
  | some (.string text) =>
      if isEncrypted text then after = before
      else ∃ nonce cipher, enc.encrypt text user nonce = .ok cipher ∧ after = some (.string cipher)
  | _ => after = before

def isMarked : Option Value → Bool
  | some (.string text) => isEncrypted text
  | _ => false

def encryptedNames (columns : List ColumnDef) : List String :=
  (columns.filter ColumnDef.encrypted).map ColumnDef.effectiveRemoteName

theorem mem_encryptedNames {columns : List ColumnDef} {column : ColumnDef}
    (member : column ∈ columns) (marked : column.encrypted = true) :
    column.effectiveRemoteName ∈ encryptedNames columns :=
  List.mem_map_of_mem (List.mem_filter.mpr ⟨member, marked⟩)

theorem encryptedNames_cons_of_encrypted {head : ColumnDef} {tail : List ColumnDef}
    (marked : head.encrypted = true) :
    encryptedNames (head :: tail) = head.effectiveRemoteName :: encryptedNames tail := by
  simp [encryptedNames, marked]

theorem encryptedNames_cons_of_plain {head : ColumnDef} {tail : List ColumnDef}
    (marked : head.encrypted = false) : encryptedNames (head :: tail) = encryptedNames tail := by
  simp [encryptedNames, marked]

theorem encryptedNames_cons {head : ColumnDef} {tail : List ColumnDef}
    (h : (encryptedNames (head :: tail)).Nodup) :
    (encryptedNames tail).Nodup ∧
      (head.encrypted = true → head.effectiveRemoteName ∉ encryptedNames tail) := by
  cases marked : head.encrypted <;> simp_all [encryptedNames]

theorem not_mem_encryptedNames_cons {head : ColumnDef} {tail : List ColumnDef} {key : String}
    (h : key ∉ encryptedNames (head :: tail)) :
    (head.encrypted = true → head.effectiveRemoteName ≠ key) ∧ key ∉ encryptedNames tail := by
  have part : (encryptedNames tail).Sublist (encryptedNames (head :: tail)) :=
    ((List.sublist_cons_self head tail).filter _).map _
  refine ⟨?_, fun member => h (part.subset member)⟩
  rintro marked rfl
  exact h (mem_encryptedNames List.mem_cons_self marked)

/-! Each loop touches its own column only, so a column keeps its value until its turn and
keeps the result after it. -/

section Frames

variable {config : EntityConfig} {enc : Encryption p} {user : p.Uuid} {nonces : Nat → Nonce}

theorem encryptColumn_other {state next : Map × Nat} {column : ColumnDef} {key : String}
    (h : config.encryptColumn enc user nonces state column = .ok next)
    (other : column.encrypted = true → column.effectiveRemoteName ≠ key) :
    next.1[key]? = state.1[key]? := by
  unfold EntityConfig.encryptColumn at h
  split at h
  · cases h
    rfl
  · rename_i marked
    split at h
    · split at h
      · cases h
        rfl
      · obtain ⟨cipher, _, h⟩ := bind_eq_ok.mp h
        cases h
        simp [Std.ExtTreeMap.getElem?_insert, other (by simpa using marked)]
    · cases h
      rfl

theorem encryptColumn_own {state next : Map × Nat} {column : ColumnDef}
    (h : config.encryptColumn enc user nonces state column = .ok next)
    (marked : column.encrypted = true) :
    Serialized enc user state.1[column.effectiveRemoteName]?
      next.1[column.effectiveRemoteName]? := by
  unfold EntityConfig.encryptColumn at h
  simp only [marked, Bool.not_true, Bool.false_eq_true, if_false] at h
  split at h
  · rename_i text found
    rw [found]
    unfold Serialized
    split at h
    · rename_i already
      cases h
      simp [already, found]
    · rename_i fresh
      obtain ⟨cipher, hcipher, h⟩ := bind_eq_ok.mp h
      cases h
      simp only [fresh]
      exact ⟨_, cipher, mapError_eq_ok.mp hcipher, by simp⟩
  · rename_i notText
    cases h
    unfold Serialized
    split
    · rename_i text found
      exact (notText text found).elim
    · rfl

theorem decryptColumn_other {record next : Map} {column : ColumnDef} {key : String}
    (h : decryptColumn enc user record column = .ok next)
    (other : column.encrypted = true → column.effectiveRemoteName ≠ key) :
    next[key]? = record[key]? := by
  unfold decryptColumn at h
  split at h
  · cases h
    rfl
  · rename_i marked
    split at h
    · split at h
      · obtain ⟨plain, _, h⟩ := bind_eq_ok.mp h
        cases h
        simp [Std.ExtTreeMap.getElem?_insert, other (by simpa using marked)]
      · cases h
        rfl
    · cases h
      rfl

theorem decryptColumn_own {record : Map} {column : ColumnDef}
    (marked : column.encrypted = true)
    (decryptable : Decryptable enc user record[column.effectiveRemoteName]?) :
    ∃ next, decryptColumn enc user record column = .ok next ∧
      next[column.effectiveRemoteName]? =
        restored enc user record[column.effectiveRemoteName]? := by
  unfold decryptColumn
  simp only [marked, Bool.not_true, Bool.false_eq_true, if_false]
  split
  · rename_i text found
    by_cases already : isEncrypted text = true
    · obtain ⟨plain, hplain⟩ := decryptable text found already
      simp [already, hplain, restored, found]
    · simp [already, restored, found]
  · rename_i notText
    refine ⟨record, rfl, ?_⟩
    unfold restored
    split
    · rename_i text found
      exact (notText text found).elim
    · rfl

theorem decryptColumn_own_ok {record next : Map} {column : ColumnDef}
    (h : decryptColumn enc user record column = .ok next) (marked : column.encrypted = true) :
    next[column.effectiveRemoteName]? =
        restored enc user record[column.effectiveRemoteName]? ∧
      (next[column.effectiveRemoteName]?).isSome =
        (record[column.effectiveRemoteName]?).isSome := by
  unfold decryptColumn at h
  simp only [marked, Bool.not_true, Bool.false_eq_true, if_false] at h
  split at h
  · rename_i text found
    split at h
    · rename_i already
      obtain ⟨plain, opened, h⟩ := bind_eq_ok.mp h
      cases h
      simp [restored, found, already, mapError_eq_ok.mp opened]
    · rename_i unmarked
      cases h
      simp [restored, found, unmarked]
  · rename_i notText
    cases h
    refine ⟨?_, rfl⟩
    unfold restored
    split
    · rename_i text found
      exact (notText text found).elim
    · rfl

theorem encryptLoop_spec {columns : List ColumnDef} {state final : Map × Nat}
    (names : (encryptedNames columns).Nodup)
    (h : columns.foldlM (config.encryptColumn enc user nonces) state = .ok final) :
    (∀ key, key ∉ encryptedNames columns → final.1[key]? = state.1[key]?) ∧
      ∀ column ∈ columns, column.encrypted = true →
        Serialized enc user state.1[column.effectiveRemoteName]?
          final.1[column.effectiveRemoteName]? := by
  induction columns generalizing state with
  | nil =>
    cases h
    simp
  | cons head tail ih =>
    obtain ⟨next, turn, rest⟩ := bind_eq_ok.mp h
    obtain ⟨tailNames, fresh⟩ := encryptedNames_cons names
    obtain ⟨frame, own⟩ := ih tailNames rest
    constructor
    · intro key absent
      obtain ⟨notHead, notTail⟩ := not_mem_encryptedNames_cons absent
      rw [frame key notTail]
      exact encryptColumn_other turn notHead
    · intro column member marked
      rcases List.mem_cons.mp member with rfl | later
      · rw [frame _ (fresh marked)]
        exact encryptColumn_own turn marked
      · have untouched : next.1[column.effectiveRemoteName]? =
            state.1[column.effectiveRemoteName]? := encryptColumn_other turn
          (fun headMarked same => fresh headMarked (same ▸ mem_encryptedNames later marked))
        rw [← untouched]
        exact own column later marked

theorem decryptLoop_eq {columns : List ColumnDef} {record final : Map}
    (h : columns.foldlM (decryptColumn enc user) record = .ok final) (key : String) :
    final[key]? = (restored enc user)^[(encryptedNames columns).count key] record[key]? ∧
      (final[key]?).isSome = (record[key]?).isSome := by
  induction columns generalizing record with
  | nil =>
    cases h
    exact ⟨rfl, rfl⟩
  | cons head tail ih =>
    obtain ⟨next, turn, rest⟩ := bind_eq_ok.mp h
    obtain ⟨value, present⟩ := ih rest
    by_cases own : head.encrypted = true ∧ head.effectiveRemoteName = key
    · obtain ⟨marked, rfl⟩ := own
      obtain ⟨opened, kept⟩ := decryptColumn_own_ok turn marked
      rw [value, opened, encryptedNames_cons_of_encrypted marked, List.count_cons_self,
        Function.iterate_succ_apply]
      exact ⟨rfl, by rw [← kept, ← present, value, opened]⟩
    · have untouched : next[key]? = record[key]? :=
        decryptColumn_other turn (fun marked same => own ⟨marked, same⟩)
      have visits : (encryptedNames (head :: tail)).count key =
          (encryptedNames tail).count key := by
        cases marked : head.encrypted with
        | false => rw [encryptedNames_cons_of_plain marked]
        | true =>
          have other : head.effectiveRemoteName ≠ key := fun same => own ⟨marked, same⟩
          rw [encryptedNames_cons_of_encrypted marked, List.count_cons_of_ne other]
      rw [visits, ← untouched]
      exact ⟨value, present⟩

end Frames

/-! Values that are not marked are what decryption leaves alone. -/

theorem isMarked_iff {value : Option Value} :
    isMarked value = true ↔ ∃ text, value = some (.string text) ∧ isEncrypted text = true := by
  unfold isMarked
  split
  · simp
  · rename_i notText
    simp only [Bool.false_eq_true, false_iff, not_exists]
    exact fun text both => notText text both.1

theorem isMarked_eq_false_iff {value : Option Value} :
    isMarked value = false ↔ ∀ text, value = some (.string text) → isEncrypted text = false := by
  rw [← Bool.not_eq_true, isMarked_iff]
  simp

section Once

variable {enc : Encryption p} {user : p.Uuid} {value : Option Value}

theorem restored_of_unmarked (h : isMarked value = false) : restored enc user value = value := by
  unfold restored
  split
  · rename_i text
    rw [if_neg (by simpa [isMarked] using h)]
  · rfl

theorem decryptable_of_unmarked (h : isMarked value = false) : Decryptable enc user value := by
  rintro text rfl marked
  exact absurd marked (by simpa [isMarked] using h)

variable {record next : Map} {column : ColumnDef} {columns : List ColumnDef}

/-- Every encrypted column decrypts, and none that is registered twice is marked again
afterwards. -/
structure OpensOnce (enc : Encryption p) (user : p.Uuid) (columns : List ColumnDef)
    (record : Map) : Prop where
  opens : ∀ name ∈ encryptedNames columns, Decryptable enc user record[name]?
  once : ∀ name, 1 < (encryptedNames columns).count name →
    isMarked (restored enc user record[name]?) = false

theorem OpensOnce.unmarked (h : OpensOnce enc user (column :: columns) record)
    (encrypted : column.encrypted = true)
    (own : next[column.effectiveRemoteName]? =
      restored enc user record[column.effectiveRemoteName]?)
    (again : column.effectiveRemoteName ∈ encryptedNames columns) :
    isMarked next[column.effectiveRemoteName]? = false := by
  have positive := List.count_pos_iff.mpr again
  rw [own]
  refine h.once _ ?_
  rw [encryptedNames_cons_of_encrypted encrypted, List.count_cons_self]
  omega

theorem OpensOnce.tail (h : OpensOnce enc user (column :: columns) record)
    (encrypted : column.encrypted = true)
    (own : next[column.effectiveRemoteName]? =
      restored enc user record[column.effectiveRemoteName]?)
    (frame : ∀ name, column.effectiveRemoteName ≠ name → next[name]? = record[name]?) :
    OpensOnce enc user columns next := by
  have names : encryptedNames (column :: columns) =
      column.effectiveRemoteName :: encryptedNames columns :=
    encryptedNames_cons_of_encrypted encrypted
  constructor
  · intro name member
    by_cases same : column.effectiveRemoteName = name
    · subst same
      exact decryptable_of_unmarked (h.unmarked encrypted own member)
    · rw [frame name same]
      exact h.opens name (names ▸ List.mem_cons_of_mem _ member)
  · intro name more
    by_cases same : column.effectiveRemoteName = name
    · subst same
      have unmarked := h.unmarked encrypted own (List.count_pos_iff.mp (by omega))
      rwa [restored_of_unmarked unmarked]
    · rw [frame name same]
      refine h.once name ?_
      rwa [names, List.count_cons_of_ne same]

theorem decryptLoop_of_opensOnce (h : OpensOnce enc user columns record) :
    ∃ final, columns.foldlM (decryptColumn enc user) record = .ok final ∧
      ∀ name : String, final[name]? =
        if name ∈ encryptedNames columns then
          restored enc user record[name]? else record[name]? := by
  have goes : ∃ final, columns.foldlM (decryptColumn enc user) record = .ok final := by
    induction columns generalizing record with
    | nil => exact ⟨record, rfl⟩
    | cons column rest ih =>
      cases encrypted : column.encrypted with
      | false =>
        have names : encryptedNames (column :: rest) = encryptedNames rest :=
          encryptedNames_cons_of_plain encrypted
        have idle : decryptColumn enc user record column = .ok record := by
          simp [decryptColumn, encrypted]
        obtain ⟨final, loop⟩ := ih ⟨names ▸ h.opens, names ▸ h.once⟩
        exact ⟨final, bind_eq_ok.mpr ⟨record, idle, loop⟩⟩
      | true =>
        have member : column.effectiveRemoteName ∈ encryptedNames (column :: rest) :=
          mem_encryptedNames List.mem_cons_self encrypted
        obtain ⟨next, turn, own⟩ := decryptColumn_own encrypted (h.opens _ member)
        obtain ⟨final, loop⟩ := ih (h.tail encrypted own
          (fun name other => decryptColumn_other turn (fun _ => other)))
        exact ⟨final, bind_eq_ok.mpr ⟨next, turn, loop⟩⟩
  obtain ⟨final, loop⟩ := goes
  refine ⟨final, loop, fun name => ?_⟩
  rw [(decryptLoop_eq loop name).1]
  rcases visits : (encryptedNames columns).count name with _ | _ | again
  · rw [if_neg (List.count_eq_zero.mp visits)]
    rfl
  · rw [if_pos (List.count_pos_iff.mp (by omega))]
    rfl
  · have unmarked := h.once name (by omega)
    rw [if_pos (List.count_pos_iff.mp (by omega)), Function.iterate_succ_apply]
    exact Function.iterate_fixed (restored_of_unmarked unmarked) _

end Once

theorem restored_of_serialized (lawful : p.Lawful) {enc : Encryption p} {user : p.Uuid}
    {before after : Option Value} (h : Serialized enc user before after)
    (decryptable : Decryptable enc user before) :
    Decryptable enc user after ∧ restored enc user after = restored enc user before := by
  unfold Serialized at h
  split at h
  · rename_i text
    split at h
    · subst h
      exact ⟨decryptable, rfl⟩
    · rename_i unmarked
      obtain ⟨nonce, cipher, hcipher, rfl⟩ := h
      have opened := decrypt_encrypt lawful hcipher
      refine ⟨?_, ?_⟩
      · intro _ same _
        cases same
        exact ⟨text, opened⟩
      · by_cases marked : isEncrypted cipher = true
        · simp [restored, marked, opened, unmarked]
        · have passed := decrypt_of_unmarked enc user (by simpa using marked)
          cases passed.symm.trans opened
          rfl
  · subst h
    exact ⟨decryptable, rfl⟩

/-- The wire round trip: when every marked text the payload already held in an encrypted
column decrypts for the user, decryption succeeds and restores every encrypted column. -/
theorem decrypt_serialized (lawful : p.Lawful) {config : EntityConfig} {enc : Encryption p}
    {nonces : Nat → Nonce} {userId : String} {payload serialized : Map}
    (names : (config.columns.map ColumnDef.effectiveRemoteName).Nodup)
    (userColumn : ∀ column ∈ config.columns, column.encrypted = true →
      config.includeUserId = true → config.userIdColumn ≠ some column.effectiveRemoteName)
    (sent : config.serializeForRemote (some enc) nonces userId payload = .ok serialized)
    (decryptable : ∀ column ∈ config.columns, column.encrypted = true →
      Decryptable enc (keyUserUuid p userId) payload[column.effectiveRemoteName]?) :
    ∃ record, decryptRecordColumns config serialized enc userId = .ok record ∧
      ∀ column ∈ config.columns, column.encrypted = true →
        record[column.effectiveRemoteName]? =
          restored enc (keyUserUuid p userId) payload[column.effectiveRemoteName]? := by
  have distinct : (encryptedNames config.columns).Nodup :=
    (List.filter_sublist.map _).nodup names
  have serializedColumn : ∀ column ∈ config.columns, column.encrypted = true →
      Serialized enc (keyUserUuid p userId) payload[column.effectiveRemoteName]?
        serialized[column.effectiveRemoteName]? := by
    intro column member marked
    obtain ⟨columns, encrypted, rfl⟩ := map_eq_ok.mp sent
    obtain ⟨final, loop, rfl⟩ := map_eq_ok.mp encrypted
    rw [getElem?_injectUserId (userColumn column member marked)]
    exact (encryptLoop_spec distinct loop).2 column member marked
  have same := fun column member marked => restored_of_serialized lawful
    (serializedColumn column member marked) (decryptable column member marked)
  have once : OpensOnce enc (keyUserUuid p userId) config.columns serialized := by
    refine ⟨?_, fun name twice => ?_⟩
    · rintro name named
      obtain ⟨column, member, rfl⟩ := List.mem_map.mp named
      obtain ⟨inside, marked⟩ := List.mem_filter.mp member
      exact (same column inside marked).1
    · exact absurd twice (Nat.not_lt.mpr (List.nodup_iff_count_le_one.mp distinct name))
  obtain ⟨record, loop, values⟩ := decryptLoop_of_opensOnce once
  refine ⟨record, loop, ?_⟩
  intro column member marked
  rw [values, if_pos (mem_encryptedNames member marked), (same column member marked).2]

/-! A lawful set of primitives that computes: bytes are tagged one by one and left readable. -/

def taggedDecode : List Char → Except String (List UInt8)
  | [] => .ok []
  | c :: '=' :: rest => (taggedDecode rest).map (fun bytes => c.toUInt8 :: bytes)
  | _ => .error "invalid input"

def taggedPrimitives : Primitives where
  Uuid := String
  Key := List UInt8
  parseUuid _ := none
  newV5 name := name
  uuidText uuid := uuid
  hkdf salt secret info := .ok (salt ++ secret ++ info)
  aesEncrypt _ _ plain := .ok plain
  aesDecrypt _ _ ciphertext := .ok ciphertext
  encode bytes := String.ofList (bytes.flatMap (fun byte => [Char.ofUInt8 byte, '=']))
  decode text := taggedDecode text.toList
  utf8Error _ := "invalid utf-8"

theorem taggedPrimitives_lawful : taggedPrimitives.Lawful where
  decrypt_encrypt := by
    intro _ _ plain ciphertext h
    exact h.symm
  decode_encode := by
    intro bytes
    simp only [taggedPrimitives, String.toList_ofList]
    induction bytes with
    | nil => rfl
    | cons byte rest ih =>
      simp only [List.flatMap_cons, List.cons_append, List.nil_append, taggedDecode, ih]
      unfold Char.ofUInt8
      simp [Except.map, Char.toUInt8]

def messagesEntityConfig : EntityConfig :=
  { EntityConfig.synced "messages" "Message" with
    columns := [
      ColumnDef.synced "id" "id" "id" "TEXT" "string" false,
      ColumnDef.synced "content" "content" "content" "TEXT" "string" true,
      ColumnDef.synced "version" "version" "version" "INTEGER" "integer" false,
      ColumnDef.synced "deleted" "deleted" "deleted" "INTEGER" "boolean" false]
    writePath := .edge "messages-write" "send" }

def sampleEncryption : Encryption taggedPrimitives := ⟨"secret", by decide⟩

def zeroNonce : Nonce := ⟨List.replicate 12 0, List.length_replicate⟩

/-- An ordinary text comes back from the wire. -/
theorem decrypt_serialized_hello :
    let payload : Map := (∅ : Map).insert "content" (.string "hello world")
    ∃ serialized record, messagesEntityConfig.serializeForRemote (some sampleEncryption)
        (fun _ => zeroNonce) "user-1" payload = .ok serialized ∧
      decryptRecordColumns messagesEntityConfig serialized sampleEncryption "user-1" = .ok record ∧
      record["content"]? = some (.string "hello world") := by
  intro payload
  have decryptable : ∀ column ∈ messagesEntityConfig.columns, column.encrypted = true →
      Decryptable sampleEncryption (keyUserUuid taggedPrimitives "user-1")
        payload[column.effectiveRemoteName]? := by
    intro column member marked
    have content : column.effectiveRemoteName = "content" := by
      simp only [messagesEntityConfig, List.mem_cons, List.not_mem_nil, or_false] at member
      rcases member with rfl | rfl | rfl | rfl <;> first | rfl | cases marked
    rw [content]
    intro text found prefixed
    cases found
    exact absurd prefixed (by decide)
  have sends : ∃ serialized, messagesEntityConfig.serializeForRemote (some sampleEncryption)
      (fun _ => zeroNonce) "user-1" payload = .ok serialized := ⟨_, rfl⟩
  obtain ⟨serialized, sent⟩ := sends
  obtain ⟨record, decrypted, columns⟩ :=
    decrypt_serialized taggedPrimitives_lawful (by decide) (by decide) sent decryptable
  refine ⟨serialized, record, sent, decrypted, ?_⟩
  exact columns (ColumnDef.synced "content" "content" "content" "TEXT" "string" true)
    (by decide) rfl

/-- A typed text that begins with the mark is sent as it is and fails to decrypt. -/
theorem decrypt_serialized_fails_on_typed_mark :
    let payload : Map := (∅ : Map).insert "content" (.string "enc:hello")
    taggedPrimitives.Lawful ∧
      (messagesEntityConfig.columns.map ColumnDef.effectiveRemoteName).Nodup ∧
      (∀ column ∈ messagesEntityConfig.columns, column.encrypted = true →
        messagesEntityConfig.userIdColumn ≠ some column.effectiveRemoteName) ∧
      ∃ serialized, messagesEntityConfig.serializeForRemote (some sampleEncryption)
          (fun _ => zeroNonce) "user-1" payload = .ok serialized ∧
        decryptRecordColumns messagesEntityConfig serialized sampleEncryption "user-1" =
          .error (.encryption (.operationFailed "base64: invalid input")) := by
  refine ⟨taggedPrimitives_lawful, by decide, by decide, _, rfl, rfl⟩

end Polykit.Registry.RoundTrip
