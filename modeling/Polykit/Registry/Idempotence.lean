/- Module: Polykit/Registry/Idempotence
   generality: I
   source: crates/polybase/src/registry/mod.rs, crates/polybase/src/encryption.rs
   digest: A prepared payload goes through the preparation again without a change. -/

import Polykit.Registry.RoundTrip

set_option autoImplicit false
set_option relaxedAutoImplicit false

namespace Polykit.Registry.Idempotence

open Contract Crypto Entity Errors Json Lib.Text Lib.Fallible Registry.RoundTrip

variable {p : Primitives}

/-- The cipher takes a text. HKDF-SHA256 gives a key of 32 bytes for every salt and secret, and
AES-256-GCM encrypts every text of at most 64 GiB under it. -/
structure Takes (p : Primitives) (text : String) : Prop where
  hkdf : ∀ salt secret info, ∃ key, p.hkdf salt secret info = .ok key
  aesEncrypt : ∀ key nonce, ∃ ciphertext, p.aesEncrypt key nonce (utf8Bytes text) = .ok ciphertext

/-- A value which encryption leaves alone: a marked text, the empty text, or no text. -/
def Quiet (value : Option Value) : Prop :=
  ∀ text, value = some (.string text) → isEncrypted text = true ∨ text = ""

theorem encrypt_total {text : String} (takes : Takes p text) (enc : Encryption p) (user : p.Uuid)
    (nonce : Nonce) : ∃ cipher, enc.encrypt text user nonce = .ok cipher := by
  unfold Encryption.encrypt
  split
  · exact ⟨text, rfl⟩
  · obtain ⟨key, derived⟩ := takes.hkdf (utf8Bytes (toAsciiUppercase (p.uuidText user)))
      (utf8Bytes enc.secret) (utf8Bytes hkdfInfo)
    obtain ⟨ciphertext, sealed⟩ := takes.aesEncrypt key nonce
    have keyed : enc.deriveKey user = .ok key := by simp [Encryption.deriveKey, derived]
    exact ⟨_, by rw [keyed, ok_bind, sealed, mapError_ok, ok_bind]; rfl⟩

theorem quiet_encrypt {enc : Encryption p} {user : p.Uuid} {nonce : Nonce} {text cipher : String}
    (h : enc.encrypt text user nonce = .ok cipher) : Quiet (some (.string cipher)) := by
  rintro _ ⟨⟩
  unfold Encryption.encrypt at h
  split at h
  · rename_i empty
    cases h
    exact .inr empty
  · obtain ⟨_, _, h⟩ := bind_eq_ok.mp h
    obtain ⟨_, _, h⟩ := bind_eq_ok.mp h
    cases h
    exact .inl (startsWith_append _ _)

theorem insert_self {record : Map} {key : String} {value : Value}
    (found : record[key]? = some value) : record.insert key value = record := by
  refine Std.ExtTreeMap.ext_getElem? (fun other => ?_)
  by_cases same : key = other
  · subst same
    simp [found]
  · simp [Std.ExtTreeMap.getElem?_insert, same]

theorem insert_insert (record : Map) (key : String) (old new : Value) :
    (record.insert key old).insert key new = record.insert key new := by
  refine Std.ExtTreeMap.ext_getElem? (fun other => ?_)
  by_cases same : key = other <;> simp [Std.ExtTreeMap.getElem?_insert, same]

theorem injectUserId_insert {config : EntityConfig} {userId key : String}
    (included : config.includeUserId = true) (named : config.userIdColumn = some key)
    (record : Map) (value : Value) :
    config.injectUserId userId (record.insert key value) = config.injectUserId userId record := by
  simp [EntityConfig.injectUserId, included, named, insert_insert]

theorem injectUserId_injectUserId (config : EntityConfig) (userId : String) (record : Map) :
    config.injectUserId userId (config.injectUserId userId record) =
      config.injectUserId userId record := by
  cases included : config.includeUserId <;> cases named : config.userIdColumn <;>
    simp [EntityConfig.injectUserId, included, named, insert_insert]

section Loops

variable {config : EntityConfig} {enc : Encryption p} {user : p.Uuid} {nonces : Nat → Nonce}

theorem encryptColumn_quiet {state next : Map × Nat} {column : ColumnDef} {key : String}
    (h : config.encryptColumn enc user nonces state column = .ok next)
    (quiet : Quiet state.1[key]?) : Quiet next.1[key]? := by
  unfold EntityConfig.encryptColumn at h
  split at h
  · cases h
    exact quiet
  · split at h
    · split at h
      · cases h
        exact quiet
      · obtain ⟨cipher, sealed, h⟩ := bind_eq_ok.mp h
        cases h
        have written := quiet_encrypt (mapError_eq_ok.mp sealed)
        by_cases own : column.effectiveRemoteName = key
        · simpa [own] using written
        · simpa [Std.ExtTreeMap.getElem?_insert, own] using quiet
    · cases h
      exact quiet

theorem encryptColumn_own_quiet {state next : Map × Nat} {column : ColumnDef}
    (h : config.encryptColumn enc user nonces state column = .ok next)
    (marked : column.encrypted = true) : Quiet next.1[column.effectiveRemoteName]? := by
  have own := encryptColumn_own h marked
  intro text found
  unfold Serialized at own
  split at own
  · rename_i before before_found
    split at own
    · rename_i already
      rw [own, before_found] at found
      cases found
      exact .inl already
    · obtain ⟨nonce, cipher, sealed, written⟩ := own
      exact quiet_encrypt sealed text (written ▸ found)
  · rename_i notText
    exact (notText text (own ▸ found)).elim

theorem encryptLoop_quiet {columns : List ColumnDef} {state final : Map × Nat}
    (h : columns.foldlM (config.encryptColumn enc user nonces) state = .ok final) :
    (∀ key : String, Quiet state.1[key]? → Quiet final.1[key]?) ∧
      ∀ column ∈ columns, column.encrypted = true →
        Quiet final.1[column.effectiveRemoteName]? := by
  induction columns generalizing state with
  | nil =>
    cases h
    simp
  | cons head tail ih =>
    obtain ⟨next, turn, rest⟩ := bind_eq_ok.mp h
    obtain ⟨kept, own⟩ := ih rest
    refine ⟨fun key quiet => kept key (encryptColumn_quiet turn quiet), ?_⟩
    intro column member marked
    rcases List.mem_cons.mp member with rfl | later
    · exact kept _ (encryptColumn_own_quiet turn marked)
    · exact own column later marked

/-- A record of the second pass: the injection makes the prepared payload of it, and an encrypted
column is quiet or still holds the user id that was injected over it. -/
structure Replays (config : EntityConfig) (userId : String) (serialized record : Map) : Prop where
  injects : config.injectUserId userId record = serialized
  settled : ∀ column ∈ config.columns, column.encrypted = true →
    Quiet record[column.effectiveRemoteName]? ∨
      config.includeUserId = true ∧ config.userIdColumn = some column.effectiveRemoteName ∧
        record[column.effectiveRemoteName]? = some (.string userId)

theorem Replays.insert {userId key cipher : String} {serialized record : Map}
    (h : Replays config userId serialized record)
    (same : config.injectUserId userId (record.insert key (.string cipher)) =
      config.injectUserId userId record) (quiet : Quiet (some (.string cipher))) :
    Replays config userId serialized (record.insert key (.string cipher)) := by
  refine ⟨same.trans h.injects, ?_⟩
  intro column member marked
  by_cases own : key = column.effectiveRemoteName
  · subst own
    exact .inl (by simpa using quiet)
  · simpa [Std.ExtTreeMap.getElem?_insert, own] using h.settled column member marked

theorem encryptColumn_total (takes : ∀ text, Takes p text) (column : ColumnDef)
    (state : Map × Nat) : ∃ next, config.encryptColumn enc user nonces state column = .ok next := by
  unfold EntityConfig.encryptColumn
  split
  · exact ⟨state, rfl⟩
  · split
    · rename_i text found
      split
      · exact ⟨state, rfl⟩
      · obtain ⟨cipher, sealed⟩ := encrypt_total (takes text) enc user (nonces state.2)
        exact ⟨_, by rw [sealed, mapError_ok, ok_bind]; rfl⟩
    · exact ⟨state, rfl⟩

theorem encryptColumn_replays {userId : String} {serialized : Map} (takes : Takes p userId)
    {column : ColumnDef} (member : column ∈ config.columns) (state : Map × Nat)
    (h : Replays config userId serialized state.1) :
    ∃ next, config.encryptColumn enc user nonces state column = .ok next ∧
      Replays config userId serialized next.1 := by
  by_cases marked : column.encrypted = true
  swap
  · exact ⟨state, by simp [EntityConfig.encryptColumn, marked], h⟩
  unfold EntityConfig.encryptColumn
  simp only [marked, Bool.not_true, Bool.false_eq_true, if_false]
  split
  swap
  · exact ⟨state, rfl, h⟩
  rename_i text found
  by_cases already : isEncrypted text = true
  · exact ⟨state, by rw [if_pos already], h⟩
  rw [if_neg already]
  rcases h.settled column member marked with quiet | ⟨included, named, injected⟩
  · -- The empty text is written back over itself.
    obtain rfl : text = "" := (quiet text found).resolve_left already
    have empty : enc.encrypt "" user (nonces state.2) = .ok "" := rfl
    refine ⟨_, by rw [empty, mapError_ok, ok_bind]; rfl, ?_⟩
    simpa only [insert_self found] using h
  · obtain rfl : text = userId := by simpa using found.symm.trans injected
    obtain ⟨cipher, sealed⟩ := encrypt_total takes enc user (nonces state.2)
    refine ⟨_, by rw [sealed, mapError_ok, ok_bind]; rfl, ?_⟩
    exact h.insert (injectUserId_insert included named _ _) (quiet_encrypt sealed)

end Loops

theorem replays_of_serialized {config : EntityConfig} {enc : Encryption p} {nonces : Nat → Nonce}
    {userId : String} {payload serialized : Map}
    (sent : config.serializeForRemote (some enc) nonces userId payload = .ok serialized) :
    Replays config userId serialized serialized := by
  obtain ⟨columns, encrypted, rfl⟩ := map_eq_ok.mp sent
  obtain ⟨final, loop, rfl⟩ := map_eq_ok.mp encrypted
  refine ⟨injectUserId_injectUserId config userId _, ?_⟩
  intro column member marked
  by_cases injected :
      config.includeUserId = true ∧ config.userIdColumn = some column.effectiveRemoteName
  · refine .inr ⟨injected.1, injected.2, ?_⟩
    simp [EntityConfig.injectUserId, injected.1, injected.2]
  · rw [getElem?_injectUserId (fun included named => injected ⟨included, named⟩)]
    exact .inl ((encryptLoop_quiet loop).2 column member marked)

/-- Preparing a prepared payload again for the same user gives it back, whatever nonces either
pass draws, however the columns overlap, and with the user id in an encrypted column too. -/
theorem serializeForRemote_again {config : EntityConfig} {encryption : Option (Encryption p)}
    {nonces : Nat → Nonce} {userId : String} {payload serialized : Map} (takes : Takes p userId)
    (sent : config.serializeForRemote encryption nonces userId payload = .ok serialized)
    (again : Nat → Nonce) :
    config.serializeForRemote encryption again userId serialized = .ok serialized := by
  cases encryption with
  | none =>
    obtain ⟨columns, encrypted, rfl⟩ := map_eq_ok.mp sent
    exact congrArg Except.ok (injectUserId_injectUserId config userId columns)
  | some enc =>
    obtain ⟨final, loop, replays⟩ := foldlM_keeps
      (f := config.encryptColumn enc (keyUserUuid p userId) again)
      (I := fun state => Replays config userId serialized state.1)
      (fun column member state kept => encryptColumn_replays takes member state kept)
      (s := (serialized, 0)) (replays_of_serialized sent)
    refine map_eq_ok.mpr ⟨final.1, map_eq_ok.mpr ⟨final, loop, rfl⟩, replays.injects⟩

theorem serializeForRemote_total (takes : ∀ text, Takes p text) (config : EntityConfig)
    (enc : Encryption p) (nonces : Nat → Nonce) (userId : String) (payload : Map) :
    ∃ serialized, config.serializeForRemote (some enc) nonces userId payload = .ok serialized := by
  obtain ⟨final, loop, -⟩ := foldlM_keeps
    (f := config.encryptColumn enc (keyUserUuid p userId) nonces) (I := fun _ => True)
    (fun column _ state _ =>
      (encryptColumn_total takes column state).imp (fun _ turn => ⟨turn, trivial⟩))
    (s := (payload, 0)) trivial
  exact ⟨_, map_eq_ok.mpr ⟨final.1, map_eq_ok.mpr ⟨final, loop, rfl⟩, rfl⟩⟩

/-- Messages whose author is an encrypted column, the one the user id is injected into, and whose
content is registered twice. -/
def authoredEntityConfig : EntityConfig :=
  { messagesEntityConfig with
    columns := messagesEntityConfig.columns ++ [
      ColumnDef.synced "body" "body" "content" "TEXT" "string" true,
      ColumnDef.synced "user_id" "user_id" "user_id" "TEXT" "string" true] }

def oneNonce : Nonce := ⟨List.replicate 12 1, List.length_replicate⟩

/-- A message replayed under another nonce stays as it was queued. -/
theorem serializeForRemote_again_authored :
    let payload : Map := (∅ : Map).insert "content" (.string "hello world")
    ∃ serialized, authoredEntityConfig.serializeForRemote (some sampleEncryption)
        (fun _ => zeroNonce) "user-1" payload = .ok serialized ∧
      authoredEntityConfig.serializeForRemote (some sampleEncryption) (fun _ => oneNonce) "user-1"
        serialized = .ok serialized := by
  intro payload
  have takes : ∀ text, Takes taggedPrimitives text :=
    fun _ => ⟨fun _ _ _ => ⟨_, rfl⟩, fun _ _ => ⟨_, rfl⟩⟩
  obtain ⟨serialized, sent⟩ := serializeForRemote_total takes authoredEntityConfig
    sampleEncryption (fun _ => zeroNonce) "user-1" payload
  exact ⟨serialized, sent, serializeForRemote_again (takes "user-1") sent (fun _ => oneNonce)⟩

end Polykit.Registry.Idempotence
