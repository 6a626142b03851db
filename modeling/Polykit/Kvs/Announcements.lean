/- Module: Polykit/Kvs/Announcements
   generality: I
   source: crates/polybase/src/kvs.rs, crates/polybase/src/sync/coordinator.rs
   digest: The change events of the key-value writes, and the deletes that publish none. -/

import Polykit.Kvs.Isolation
import Polykit.Sync.Routes

set_option autoImplicit false
set_option relaxedAutoImplicit false

namespace Polykit.Kvs.Announcements

open Crypto Entity Errors Json Kvs.Isolation Kvs.Schema Kvs.Store Kvs.Versions Lib.Text
open Sync Sync.Calls Sync.Routes Wire.Http Wire.Push

variable {p : Primitives} {Mirror Queue : Type}

structure KvsChange where
  namespace_ : String
  key : String
  deleted : Bool
  deriving DecidableEq

def relay : PolyEvent → Option KvsChange
  | .kvsChanged namespace_ key deleted => some ⟨namespace_, key, deleted⟩
  | _ => none

def mutate (c : Coordinator p Mirror Queue) (env : CallEnv) (w : World Mirror Queue)
    (namespace_ key : String) : KvsWrite → World Mirror Queue × Except PolyError Unit
  | .set encoded => Store.set (fun _ : Unit => encoded) c env w namespace_ key ()
  | .delete => Store.delete c env w namespace_ key

def changeOf (namespace_ key : String) : KvsWrite → KvsChange
  | .set _ => ⟨namespace_, key, false⟩
  | .delete => ⟨namespace_, key, true⟩

/-- Between the two states this change was published, and no other change of the store. -/
def Announces (before after : World Mirror Queue) (change : KvsChange) : Prop :=
  ∃ news, after.events = news ++ before.events ∧ news.filterMap relay = [change]

def accepted : Reply → Bool
  | .failed _ => false
  | .responded status _ => status.isSuccess

/-! What a settlement publishes is decided by the arm that its result takes. -/

/-- The events of an arm that returns ok, apart from the depth of the queue. -/
def eventsOf (s : Settlement) : Disposition → List PolyEvent
  | .success => s.onSuccess
  | .benign => s.onBenign
  | .enqueue => s.onQueued
  | .permanent => []

theorem disposition_of_settle_ok {c : Coordinator p Mirror Queue} {env : CallEnv} {s : Settlement}
    {w : World Mirror Queue} {result : Except PolyError Unit}
    (ok : (c.settle env s w result).2 = .ok ()) : disposition result ≠ .permanent := by
  intro lasting
  cases result with
  | ok _ => cases lasting
  | error error =>
    rw [settle_permanent c env s w lasting] at ok
    cases ok

theorem settle_events (c : Coordinator p Mirror Queue) (env : CallEnv) (s : Settlement)
    (w : World Mirror Queue) {result : Except PolyError Unit}
    (ok : (c.settle env s w result).2 = .ok ()) :
    ∃ news, (c.settle env s w result).1.events = news ++ w.events ∧
      news.filterMap relay = ((eventsOf s (disposition result)).filterMap relay).reverse := by
  cases arm : disposition result with
  | success =>
    rw [settle_success c env s w arm, publishAll_eq]
    exact ⟨_, rfl, List.filterMap_reverse⟩
  | benign =>
    rw [settle_benign c env s w arm, publishAll_eq]
    exact ⟨_, rfl, List.filterMap_reverse⟩
  | enqueue =>
    cases result with
    | ok _ => cases arm
    | error error =>
      rw [settle_enqueue c env s w arm] at ok ⊢
      unfold Coordinator.enqueueForRetry at ok ⊢
      split at ok
      · cases ok
      · dsimp only
        rw [publishAll_eq]
        refine ⟨_, rfl, ?_⟩
        rw [List.filterMap_reverse]
        rfl
  | permanent => exact absurd arm (disposition_of_settle_ok ok)

theorem announces_settle_iff {c : Coordinator p Mirror Queue} {env : CallEnv} {s : Settlement}
    {w before : World Mirror Queue} {result : Except PolyError Unit}
    (ok : (c.settle env s w result).2 = .ok ()) (same : w.events = before.events)
    (change : KvsChange) :
    Announces before (c.settle env s w result).1 change ↔
      (eventsOf s (disposition result)).filterMap relay = [change] := by
  obtain ⟨news, published, relayed⟩ := settle_events c env s w ok
  constructor
  · rintro ⟨news', published', relayed'⟩
    obtain rfl : news = news' := by
      rw [published, same] at published'
      exact List.append_cancel_right published'
    rwa [relayed, List.reverse_eq_iff, List.reverse_singleton] at relayed'
  · intro arm
    exact ⟨news, same ▸ published, by rw [relayed, arm]; rfl⟩

theorem dispatchWrite_events (c : Coordinator p Mirror Queue) (env : CallEnv) (table : String)
    (prepared : Prepared) (op : Option String) (w : World Mirror Queue) :
    (c.dispatchWrite env table prepared op w).1.events = w.events := by
  obtain ⟨echo, requests, same⟩ := dispatchWrite_world c env table prepared op w
  rw [same]

theorem dispatchDelete_events (c : Coordinator p Mirror Queue) (env : CallEnv)
    (table entityId : String) (version : Int64) (config : EntityConfig) (accessToken : String)
    (w : World Mirror Queue) :
    (c.dispatchDelete env table entityId version config accessToken w).1.events = w.events := by
  obtain ⟨echo, requests, same⟩ :=
    dispatchDelete_world c env table entityId version config accessToken w
  rw [same]

section Writes

variable {c : Coordinator p Mirror Queue} {env : CallEnv} {w after : World Mirror Queue}
variable {namespace_ key : String}

theorem kvsEvent_prepared (registered : c.registry.configForTable kvsTable = some kvsEntityConfig)
    {encoded : Value} {version : Int64} {prepared : Prepared}
    (ready : c.prepare w.session env.nonces kvsTable
      (kvsRecord namespace_ key encoded version env.utcNow) = .ok prepared) :
    kvsEvent prepared.record false = [.kvsChanged namespace_ key false] := by
  obtain ⟨registered', -, -, serialized⟩ := prepare_eq_ok ready
  have config : prepared.config = kvsEntityConfig :=
    Option.some.inj (registered'.symm.trans registered)
  rw [config, serializeForRemote_plain (by decide)] at serialized
  have kept : ∀ name : String, name ≠ "user_id" → prepared.record[name]? =
      (kvsRecord namespace_ key encoded version env.utcNow)[name]? := by
    intro name other
    rw [← Except.ok.inj serialized]
    refine getElem?_injectUserId (fun _ same => other ?_)
    exact (Option.some.inj same).symm
  have first : prepared.record["namespace"]? = some (.string namespace_) := by
    rw [kept "namespace" (by decide)]
    simp [kvsRecord, Std.ExtTreeMap.getElem_insert]
  have second : prepared.record["key"]? = some (.string key) := by
    rw [kept "key" (by decide)]
    simp [kvsRecord, Std.ExtTreeMap.getElem_insert]
  simp [kvsEvent, first, second, Value.asStr]

theorem set_announces {T : Type} {toValue : T → Except String Value} {value : T}
    (registered : c.registry.configForTable kvsTable = some kvsEntityConfig)
    (ok : Store.set toValue c env w namespace_ key value = (after, .ok ())) :
    Announces w after ⟨namespace_, key, false⟩ := by
  obtain ⟨version, encoded, -, persisted⟩ := set_ok ok
  unfold Coordinator.persistChange Coordinator.persistChangeWithOp at persisted
  split at persisted
  · cases congrArg Prod.snd persisted
  · rename_i prepared ready
    split at persisted
    · cases congrArg Prod.snd persisted
    · rename_i mirror stored
      obtain rfl := congrArg Prod.fst persisted
      have settled := congrArg Prod.snd persisted
      refine (announces_settle_iff settled (dispatchWrite_events ..) _).mpr ?_
      have lasting := disposition_of_settle_ok settled
      have event := kvsEvent_prepared registered ready
      generalize disposition _ = arm at lasting ⊢
      cases arm with
      | permanent => exact absurd rfl lasting
      | success | benign | enqueue => simp [eventsOf, writeSettlement, event, relay]

theorem relay_deleteSettlement (version : Int64) (arm : Disposition) :
    (eventsOf (deleteSettlement kvsTable (encodeId namespace_ key) version) arm).filterMap relay =
        [⟨namespace_, key, true⟩] ↔
      arm = .success ∧ decodeId (encodeId namespace_ key) = some (namespace_, key) := by
  cases arm with
  | success =>
    cases decoded : decodeId (encodeId namespace_ key) with
    | none => simp [eventsOf, deleteSettlement, decoded]
    | some pair => simp [eventsOf, deleteSettlement, decoded, relay, Prod.ext_iff]
  | benign | enqueue | permanent => simp [eventsOf, deleteSettlement]

theorem disposition_eq_success_iff {result : Except PolyError Unit} :
    disposition result = .success ↔ result = .ok () := by
  unfold disposition
  split
  · simp
  · simp
  · split <;> simp

theorem updateTombstoneResult_eq_ok_iff (table : String) (reply : Reply) :
    updateTombstoneResult table reply = .ok () ↔ accepted reply = true := by
  cases reply with
  | failed error => simp [updateTombstoneResult, accepted]
  | responded status body =>
    unfold updateTombstoneResult accepted
    split <;> simp_all

theorem delete_announces_iff
    (registered : c.registry.configForTable kvsTable = some kvsEntityConfig)
    (ok : Store.delete c env w namespace_ key = (after, .ok ())) :
    Announces w after ⟨namespace_, key, true⟩ ↔
      accepted env.reply = true ∧ contains (namespace_ ++ ":") "::" = false := by
  unfold Store.delete at ok
  split at ok
  · cases congrArg Prod.snd ok
  · rename_i version next
    unfold Coordinator.delete at ok
    simp only [registered] at ok
    split at ok
    · cases congrArg Prod.snd ok
    · rename_i session signedIn
      split at ok
      · cases congrArg Prod.snd ok
      · rename_i mirror marked
        obtain rfl := congrArg Prod.fst ok
        have settled := congrArg Prod.snd ok
        refine (announces_settle_iff settled (dispatchDelete_events ..) _).trans ?_
        rw [relay_deleteSettlement, decodeId_encodeId_iff, disposition_eq_success_iff]
        exact and_congr_left' (updateTombstoneResult_eq_ok_iff kvsTable env.reply)

/-- Sets that return ok are always announced, a delete that returns ok exactly when the server
took it and its namespace, followed by a colon, holds no separator. -/
theorem mutate_announces_iff
    (registered : c.registry.configForTable kvsTable = some kvsEntityConfig) {op : KvsWrite}
    (ok : mutate c env w namespace_ key op = (after, .ok ())) :
    Announces w after (changeOf namespace_ key op) ↔
      (op = .delete → accepted env.reply = true ∧ contains (namespace_ ++ ":") "::" = false) := by
  cases op with
  | set encoded =>
    have written : Store.set (fun _ : Unit => encoded) c env w namespace_ key () =
        (after, .ok ()) := ok
    exact iff_of_true (set_announces registered written) nofun
  | delete =>
    rw [forall_prop_of_true rfl]
    exact delete_announces_iff registered ok

end Writes

/-- A delete the server took is announced under its key. -/
theorem mutate_announces_iff_accepted :
    Announces (signedInWorld .new)
      (mutate (kvsCoordinator memoryQueue) (callAt 0 created) (signedInWorld .new) "prefs" "theme"
        .delete).1 ⟨"prefs", "theme", true⟩ := by
  have registered : (kvsCoordinator memoryQueue).registry.configForTable kvsTable =
      some kvsEntityConfig := by decide
  have ok : mutate (kvsCoordinator memoryQueue) (callAt 0 created) (signedInWorld .new) "prefs"
      "theme" .delete = (_, .ok ()) := rfl
  exact (mutate_announces_iff registered ok).mpr (fun _ => by decide)

/-- A delete that was queued publishes the depth of the queue only, and a delete whose namespace
holds the separator is announced under the key of another namespace. -/
theorem delete_unannounced :
    let queued := mutate (kvsCoordinator memoryQueue) (callAt 0 (.failed "connection refused"))
      (signedInWorld .new) "prefs" "theme" .delete
    let split := mutate (kvsCoordinator memoryQueue) (callAt 0 created) (signedInWorld .new) "a::b"
      "theme" .delete
    queued.2 = .ok () ∧ queued.1.events = [.offlineQueueChanged 1 false] ∧
      ¬ Announces (signedInWorld .new) queued.1 ⟨"prefs", "theme", true⟩ ∧
      split.2 = .ok () ∧ split.1.events = [.kvsChanged "a" "b::theme" true] ∧
      ¬ Announces (signedInWorld .new) split.1 ⟨"a::b", "theme", true⟩ := by
  refine ⟨rfl, rfl, ?_, rfl, rfl, ?_⟩
  · rintro ⟨news, published, relayed⟩
    obtain rfl : [.offlineQueueChanged 1 false] = news := published.trans (List.append_nil news)
    cases relayed
  · rintro ⟨news, published, relayed⟩
    obtain rfl : [.kvsChanged "a" "b::theme" true] = news := published.trans (List.append_nil news)
    exact absurd relayed (by decide)

end Polykit.Kvs.Announcements
