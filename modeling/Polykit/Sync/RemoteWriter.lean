/- Module: Polykit/Sync/RemoteWriter
   generality: I
   source: crates/polybase/src/sync/remote.rs, crates/polybase/src/sync/push.rs
   digest: The live writer, and when it and the coordinator's pusher read a rejection alike. -/

import Polykit.Sync.Echo

set_option autoImplicit false
set_option relaxedAutoImplicit false

namespace Polykit.Sync.RemoteWriter

open Contract Echo Errors Json Lib.Text Wire.Http Wire.Push

structure UpsertRequest where
  table : String
  records : List Map
  onConflict : String
  accessToken : String

/-- What a write does: the tracker it leaves, the request it sent and what it returns. -/
structure Written where
  echo : EchoTracker
  request : Option UpsertRequest
  result : Except PolyError Unit

/-- The mark of a record, left out when it has no `id` text. -/
def markRecord (now : Nat) (table : String) (echo : EchoTracker) (record : Map) : EchoTracker :=
  match record["id"]?.bind Value.asStr with
  | some id => echo.markPushed now table id
  | none => echo

def classified (table : String) (status : StatusCode) (body : String) : Except PolyError Unit :=
  .error (.push (classifyPushErrorMessage table (failureMessage status body)))

def upsertRecordResult (table : String) : Reply → Except PolyError Unit
  | .failed error => .error (.http error)
  | .responded status body =>
      if status.isSuccess then .ok ()
      else
        let lower := toAsciiLowercase (bodyOrDefault body)
        if contains lower "same-version mutation" || contains lower "ignored" then
          .error (.push (.sameVersionMutationIgnored table))
        else classified table status (bodyOrDefault body)

/-- `SupabaseRemoteWriter::upsert_record` -/
def upsertRecord (echo : EchoTracker) (now : Nat) (table : String) (record : Map)
    (accessToken : String) (reply : Reply) : Written where
  echo := markRecord now table echo record
  request := some ⟨table, [record], "id", accessToken⟩
  result := upsertRecordResult table reply

def upsertRecordsResult (table : String) : Reply → Except PolyError Unit
  | .failed error => .error (.http error)
  | .responded status body =>
      if status.isSuccess then .ok () else classified table status (bodyOrDefault body)

/-- `SupabaseRemoteWriter::upsert_records` -/
def upsertRecords (echo : EchoTracker) (now : Nat) (table : String) (records : List Map)
    (accessToken : String) (reply : Reply) : Written :=
  if records.isEmpty then ⟨echo, none, .ok ()⟩
  else
    { echo := records.foldl (markRecord now table) echo
      request := some ⟨table, records, "id", accessToken⟩
      result := upsertRecordsResult table reply }

inductive Variant
  | transient | permanent | sameVersionMutationIgnored
  deriving DecidableEq

def variant : Except PolyError Unit → Option Variant
  | .error (.push (.transient _ _)) => some .transient
  | .error (.push (.permanent _ _)) => some .permanent
  | .error (.push (.sameVersionMutationIgnored _)) => some .sameVersionMutationIgnored
  | _ => none

section

variable {table : String} {status : StatusCode} {body : Except String String}

theorem variant_classified (table : String) (status : StatusCode) (text : String) :
    variant (classified table status text) =
      some (if isPermanentPushErrorMessage text then .permanent else .transient) := by
  unfold classified classifyPushErrorMessage
  rw [isPermanentPushErrorMessage_failureMessage_eq]
  cases isPermanentPushErrorMessage text <;> rfl

theorem variant_upsertRecordResult (failed : status.isSuccess = false) :
    variant (upsertRecordResult table (.responded status body)) =
      some (if isSameVersionMutationMessage (bodyOrDefault body) ||
          contains (toAsciiLowercase (bodyOrDefault body)) "ignored" then
        .sameVersionMutationIgnored
      else if isPermanentPushErrorMessage (bodyOrDefault body) then .permanent
      else .transient) := by
  have marker : ∀ text, contains (toAsciiLowercase text) "same-version mutation" =
      isSameVersionMutationMessage text := fun _ => rfl
  simp only [upsertRecordResult, failed, Bool.false_eq_true, if_false, marker]
  split
  · rfl
  · exact variant_classified _ _ _

theorem variant_upsertRecordsResult (failed : status.isSuccess = false) :
    variant (upsertRecordsResult table (.responded status body)) =
      some (if isPermanentPushErrorMessage (bodyOrDefault body) then .permanent
        else .transient) := by
  simp only [upsertRecordsResult, failed, Bool.false_eq_true, if_false]
  exact variant_classified _ _ _

theorem variant_upsertResult (failed : status.isSuccess = false) :
    variant (upsertResult table (.responded status body)) =
      some (if isSameVersionMutationMessage (bodyOrDefault body) then .sameVersionMutationIgnored
      else if isPermanentPushErrorMessage (bodyOrDefault body) then .permanent
      else .transient) := by
  simp only [upsertResult, failed, Bool.false_eq_true, if_false]
  split
  · rfl
  · exact variant_classified _ _ _

end

/-- One rejection of one record is the same variant for the writer's single upsert, for its batch
and for the coordinator's push exactly if the body names neither a same-version mutation nor
anything ignored, and the record has an id or the body is permanent for all of them. -/
theorem uniform_iff {Mirror Queue : Type} {echo : EchoTracker} {now : Nat} {env : CallEnv}
    {w : World Mirror Queue} {table conflictTarget accessToken : String} {record : Map}
    {status : StatusCode} {body : Except String String} (failed : status.isSuccess = false)
    (reply : env.reply = .responded status body) :
    (∃ v, variant (upsertRecord echo now table record accessToken env.reply).result = some v ∧
      variant (upsertRecords echo now table [record] accessToken env.reply).result = some v ∧
      variant (pushUpsert env table record conflictTarget accessToken w).2 = some v) ↔
    (isSameVersionMutationMessage (bodyOrDefault body) = false ∧
        contains (toAsciiLowercase (bodyOrDefault body)) "ignored" = false) ∧
      ((record["id"]?.bind Value.asStr).isSome = true ∨
        isPermanentPushErrorMessage (bodyOrDefault body) = true) := by
  have single : variant (upsertRecord echo now table record accessToken env.reply).result = _ :=
    (congrArg (fun r => variant (upsertRecordResult table r)) reply).trans
      (variant_upsertRecordResult failed)
  have batch : variant (upsertRecords echo now table [record] accessToken env.reply).result = _ :=
    (congrArg (fun r => variant (upsertRecordsResult table r)) reply).trans
      (variant_upsertRecordsResult failed)
  have internal : variant (pushUpsert env table record conflictTarget accessToken w).2 =
      if (record["id"]?.bind Value.asStr).isSome then variant (upsertResult table env.reply)
      else some .permanent := by
    unfold pushUpsert
    cases record["id"]?.bind Value.asStr <;> rfl
  rw [single, batch, internal, reply, variant_upsertResult failed]
  cases isSameVersionMutationMessage (bodyOrDefault body) <;>
    cases contains (toAsciiLowercase (bodyOrDefault body)) "ignored" <;>
    cases isPermanentPushErrorMessage (bodyOrDefault body) <;>
    cases (record["id"]?.bind Value.asStr).isSome <;> simp

/-- What the three make of one record that was turned down with status 400. -/
def verdicts (record : Map) (text : String) : List (Option Variant) :=
  let env := Calls.callAt 0 (.responded ⟨400, Wire.Http.valid_400⟩ (.ok text))
  let echo := EchoTracker.withDefaultWindow
  let w : World Unit Unit := { session := none, mirror := (), queue := () }
  [variant (upsertRecord echo 0 "notes" record "token" env.reply).result,
    variant (upsertRecords echo 0 "notes" [record] "token" env.reply).result,
    variant (pushUpsert env "notes" record "id" "token" w).2]

def note : Map := (∅ : Map).insert "id" (.string "n1")

/-- The batch drops what the others take as written, the single upsert takes as written what the
others retry, and only the pusher drops a record without an id. -/
theorem writers_disagree :
    verdicts note "Same-version mutation ignored" =
        [some .sameVersionMutationIgnored, some .permanent, some .sameVersionMutationIgnored] ∧
      verdicts note "request ignored: rate limit" =
        [some .sameVersionMutationIgnored, some .transient, some .transient] ∧
      verdicts ∅ "timeout" = [some .transient, some .transient, some .permanent] := by
  decide +kernel

theorem uniform_iff_timeout :
    let env := Calls.callAt 0 (.responded ⟨400, by decide⟩ (.ok "timeout"))
    let w : World Unit Unit := { session := none, mirror := (), queue := () }
    ∃ v, variant (upsertRecord .withDefaultWindow 0 "notes" note "token" env.reply).result =
        some v ∧
      variant (upsertRecords .withDefaultWindow 0 "notes" [note] "token" env.reply).result =
        some v ∧
      variant (pushUpsert env "notes" note "id" "token" w).2 = some v := by
  intro env w
  exact (uniform_iff rfl rfl).mpr ⟨⟨by decide, by decide⟩, .inl (by decide)⟩

end Polykit.Sync.RemoteWriter
