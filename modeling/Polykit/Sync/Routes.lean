/- Module: Polykit/Sync/Routes
   generality: I
   source: crates/polybase/src/sync/coordinator.rs, crates/polybase/src/sync/push.rs, crates/polybase/src/edge.rs
   digest: What becomes of a rejected write on each of the four routes, and when they agree. -/

import Polykit.Sync.Coordinator

set_option autoImplicit false
set_option relaxedAutoImplicit false

namespace Polykit.Sync.Routes

open Contract Crypto Errors Json Lib.Text
open Wire.Edge Wire.Http Wire.Push

inductive Disposition
  | success | benign | enqueue | permanent
  deriving DecidableEq

def disposition : Except PolyError Unit → Disposition
  | .ok () => .success
  | .error (.push (.sameVersionMutationIgnored _)) => .benign
  | .error error => if isTransient error then .enqueue else .permanent

/-- The two write operations on each of the two write paths. -/
inductive Route
  | persistPostgREST | deletePostgREST | persistEdge | deleteEdge
  deriving DecidableEq

/-- The result a route ends its dispatch with. On the Edge path `target` is the function, on
the PostgREST path the table. Both Edge operations end in the same call. -/
def Route.result (fromStr : EnvelopeDecoder) (target : String) (reply : Reply) :
    Route → Except PolyError Unit
  | .persistPostgREST => upsertResult target reply
  | .deletePostgREST => updateTombstoneResult target reply
  | .persistEdge | .deleteEdge => (callResult fromStr target reply).map (fun _ => ())

section Coordinator

variable {p : Primitives} {Mirror Queue : Type} (c : Coordinator p Mirror Queue)

theorem dispatchWrite_result (env : CallEnv) (table : String) (prepared : Prepared)
    (op : Option String) (w : World Mirror Queue)
    (id : (prepared.record["id"]?.bind Value.asStr).isSome) :
    (c.dispatchWrite env table prepared op w).2 =
      match prepared.config.writePath with
      | .postgREST => Route.persistPostgREST.result c.fromStr table env.reply
      | .edge function _ => Route.persistEdge.result c.fromStr function env.reply := by
  unfold Coordinator.dispatchWrite
  cases prepared.config.writePath with
  | postgREST =>
    obtain ⟨entityId, found⟩ := Option.isSome_iff_exists.mp id
    simp [pushUpsert, found, Route.result]
  | edge function defaultOp => rfl

theorem dispatchDelete_result (env : CallEnv) (table entityId : String) (version : Int64)
    (config : Entity.EntityConfig) (accessToken : String) (w : World Mirror Queue) :
    (c.dispatchDelete env table entityId version config accessToken w).2 =
      match config.writePath with
      | .postgREST => Route.deletePostgREST.result c.fromStr table env.reply
      | .edge function _ => Route.deleteEdge.result c.fromStr function env.reply := by
  unfold Coordinator.dispatchDelete
  cases config.writePath <;> rfl

/-! The arms of the match, one lemma each. -/

section Settle

variable (env : CallEnv) (s : Settlement) (w : World Mirror Queue) {error : PolyError}

theorem settle_success {result : Except PolyError Unit} (h : disposition result = .success) :
    c.settle env s w result = (w.publishAll s.onSuccess, .ok ()) := by
  unfold disposition at h
  split at h
  · rfl
  · cases h
  · split at h <;> cases h

theorem settle_benign {result : Except PolyError Unit} (h : disposition result = .benign) :
    c.settle env s w result = (w.publishAll s.onBenign, .ok ()) := by
  unfold disposition at h
  split at h
  · cases h
  · rfl
  · split at h <;> cases h

private theorem settle_other (notBenign : disposition (.error error) ≠ .benign) :
    disposition (.error error) = (if isTransient error then .enqueue else .permanent) ∧
      c.settle env s w (.error error) =
        if isTransient error then c.enqueueForRetry env s error w
        else if isVersionRegression error then
          (w.publish (.versionRegressionDetected s.table s.entityId), .error error)
        else (w, .error error) := by
  have other : ∀ table, error ≠ .push (.sameVersionMutationIgnored table) := by
    rintro table rfl
    exact notBenign rfl
  unfold disposition Coordinator.settle
  constructor <;> split <;> simp_all

theorem settle_enqueue (h : disposition (.error error) = .enqueue) :
    c.settle env s w (.error error) = c.enqueueForRetry env s error w := by
  have notBenign : disposition (.error error) ≠ .benign := by simp [h]
  obtain ⟨arm, settled⟩ := settle_other c env s w notBenign
  rw [h] at arm
  split at arm
  · rename_i transient
    simpa [transient] using settled
  · cases arm

theorem settle_permanent (h : disposition (.error error) = .permanent) :
    c.settle env s w (.error error) =
      (if isVersionRegression error then
        w.publish (.versionRegressionDetected s.table s.entityId) else w, .error error) := by
  have notBenign : disposition (.error error) ≠ .benign := by simp [h]
  obtain ⟨arm, settled⟩ := settle_other c env s w notBenign
  rw [h] at arm
  split at arm
  · cases arm
  · rename_i lasting
    rw [settled]
    cases isVersionRegression error <;> simp [lasting]

end Settle

end Coordinator

/-! Every rejection that carries a marker is permanent on the delete path, benign on the
upsert path when it is a same-version one, and on the Edge path a matter of the status. -/

section Rejections

variable {status : StatusCode} {message code : String} {details : Option Value}

theorem disposition_upsert (table : String)
    (rejected : status.isClientError = true ∨ status.isServerError = true)
    (marked : isPermanentPushErrorMessage message = true) :
    disposition (upsertResult table (.responded status (.ok message))) =
      if isSameVersionMutationMessage message then .benign else .permanent := by
  have failed := StatusCode.not_success_of_error rejected
  have permanent := (isPermanentPushErrorMessage_failureMessage_eq status message).trans marked
  by_cases same : isSameVersionMutationMessage message = true
  · simp [upsertResult, failed, bodyOrDefault, same, disposition]
  · simp [upsertResult, failed, bodyOrDefault, same, classifyPushErrorMessage, permanent,
      disposition, isTransient]

theorem disposition_updateTombstone (table : String)
    (rejected : status.isClientError = true ∨ status.isServerError = true)
    (marked : isPermanentPushErrorMessage message = true) :
    disposition (updateTombstoneResult table (.responded status (.ok message))) =
      .permanent := by
  have failed := StatusCode.not_success_of_error rejected
  have permanent := (isPermanentPushErrorMessage_failureMessage_eq status message).trans marked
  simp [updateTombstoneResult, failed, bodyOrDefault, classifyPushErrorMessage, permanent,
    disposition, isTransient]

theorem disposition_classifyError (function : String)
    (signedIn : status.asU16 ≠ 401 ∧ status.asU16 ≠ 403) :
    disposition (.error (classifyError function status ⟨code, message, details⟩)) =
      if status.isServerError && !eqIgnoreAsciiCase code "permanent" then .enqueue
      else .permanent := by
  unfold classifyError
  simp only [signedIn.1, signedIn.2, or_self, if_false]
  by_cases server : status.isServerError = true
  · by_cases hint : eqIgnoreAsciiCase code "permanent" = true
    · simp [server, hint, disposition, isTransient]
    · simp [server, hint, disposition, isTransient]
  · simp only [server, Bool.false_eq_true, if_false, Bool.false_and]
    split <;> simp [disposition, isTransient]

theorem disposition_call {fromStr : EnvelopeDecoder} {body : String} {envelope : RawEnvelope}
    (function : String)
    (rejected : status.isClientError = true ∨ status.isServerError = true)
    (signedIn : status.asU16 ≠ 401 ∧ status.asU16 ≠ 403)
    (decoded : fromStr body = .ok envelope)
    (carried : envelope.error = some ⟨code, message, details⟩) :
    disposition ((callResult fromStr function (.responded status (.ok body))).map
        (fun _ => ())) =
      if status.isServerError && !eqIgnoreAsciiCase code "permanent" then .enqueue
      else .permanent := by
  have failed := StatusCode.not_success_of_error rejected
  have result : (callResult fromStr function (.responded status (.ok body))).map (fun _ => ()) =
      .error (classifyError function status ⟨code, message, details⟩) := by
    simp [callResult, failed, decoded, carried, Except.toOption, Except.map]
  rw [result]
  exact disposition_classifyError function signedIn

end Rejections

/-- The disposition of a rejection whose message reaches the PostgREST routes as the body and
the Edge routes as the message of the envelope that `edgeBody` decodes to. -/
def rejection (fromStr : EnvelopeDecoder) (target : String) (status : StatusCode)
    (message edgeBody : String) (route : Route) : Disposition :=
  disposition (route.result fromStr target (.responded status (.ok
    (if route = .persistEdge ∨ route = .deleteEdge then edgeBody else message))))

/-- All routes dispose of the rejection alike, a same-version one as benign and a version
regression as permanent. -/
structure RoutesAgree (fromStr : EnvelopeDecoder) (target : String) (status : StatusCode)
    (message edgeBody : String) : Prop where
  alike : ∀ route route', rejection fromStr target status message edgeBody route =
    rejection fromStr target status message edgeBody route'
  sameVersion : isSameVersionMutationMessage message = true →
    ∀ route, rejection fromStr target status message edgeBody route = .benign
  regression : isVersionRegressionMessage message = true →
    ∀ route, rejection fromStr target status message edgeBody route = .permanent

/-- The routes agree on a marked rejection exactly when it is no same-version one and comes
with a status below 500 or with the code that forbids a retry. -/
theorem routesAgree_iff {fromStr : EnvelopeDecoder} {target edgeBody message code : String}
    {status : StatusCode} {envelope : RawEnvelope} {details : Option Value}
    (rejected : status.isClientError = true ∨ status.isServerError = true)
    (signedIn : status.asU16 ≠ 401 ∧ status.asU16 ≠ 403)
    (marked : isPermanentPushErrorMessage message = true)
    (decoded : fromStr edgeBody = .ok envelope)
    (carried : envelope.error = some ⟨code, message, details⟩) :
    RoutesAgree fromStr target status message edgeBody ↔
      isSameVersionMutationMessage message = false ∧
        (status.isServerError = false ∨ eqIgnoreAsciiCase code "permanent" = true) := by
  have persisted : rejection fromStr target status message edgeBody .persistPostgREST =
      if isSameVersionMutationMessage message then .benign else .permanent :=
    disposition_upsert target rejected marked
  have deleted : rejection fromStr target status message edgeBody .deletePostgREST =
      .permanent := disposition_updateTombstone target rejected marked
  have called : ∀ route, route = .persistEdge ∨ route = .deleteEdge →
      rejection fromStr target status message edgeBody route =
        if status.isServerError && !eqIgnoreAsciiCase code "permanent" then .enqueue
        else .permanent := by
    rintro route (rfl | rfl) <;> exact disposition_call target rejected signedIn decoded carried
  constructor
  · intro agree
    have noSameVersion : isSameVersionMutationMessage message = false := by
      by_contra same
      have benign := agree.sameVersion (by simpa using same) .deletePostgREST
      rw [deleted] at benign
      cases benign
    refine ⟨noSameVersion, ?_⟩
    have edge := (called .persistEdge (.inl rfl)).symm.trans
      ((agree.alike .persistEdge .deletePostgREST).trans deleted)
    by_contra retried
    push Not at retried
    simp [retried] at edge
  · rintro ⟨noSameVersion, noRetry⟩
    have settled : ∀ route, rejection fromStr target status message edgeBody route =
        .permanent := by
      have edge : (status.isServerError && !eqIgnoreAsciiCase code "permanent") = false := by
        rcases noRetry with h | h <;> simp [h]
      intro route
      cases route with
      | persistPostgREST => rw [persisted, noSameVersion]; rfl
      | deletePostgREST => exact deleted
      | persistEdge => rw [called _ (.inl rfl), edge]; rfl
      | deleteEdge => rw [called _ (.inr rfl), edge]; rfl
    exact {
      alike := fun route route' => (settled route).trans (settled route').symm
      sameVersion := fun same => by rw [noSameVersion] at same; cases same
      regression := fun _ => settled }

/-- A rejection as the guard trigger words it, in an envelope that carries the same text. -/
def conflictBody (message : String) : String :=
  "\x7b\"success\":false,\"error\":\x7b\"code\":\"version_conflict\",\"message\":\"" ++ message ++
    "\"\x7d\x7d"

def decodeConflict (message : String) : EnvelopeDecoder := fun body =>
  if body = conflictBody message then
    .ok ⟨false, none, some ⟨"version_conflict", message, none⟩, none⟩
  else .error "expected value"

/-- A version regression answered with 409 is permanent on every route. -/
theorem routesAgree_regression :
    RoutesAgree (decodeConflict "version regression") "messages" ⟨409, by decide⟩
      "version regression" (conflictBody "version regression") := by
  have decoded : decodeConflict "version regression" (conflictBody "version regression") =
      .ok ⟨false, none, some ⟨"version_conflict", "version regression", none⟩, none⟩ := rfl
  exact (routesAgree_iff (by decide) (by decide) (by decide) decoded rfl).mpr (by decide)

/-- A same-version mutation answered with 409 is benign for an upsert and permanent for a
delete. -/
theorem routes_disagree_on_sameVersion :
    let status : StatusCode := ⟨409, by decide⟩
    let message := "same-version mutation"
    status.isClientError = true ∧ status.asU16 ≠ 401 ∧ status.asU16 ≠ 403 ∧
      isPermanentPushErrorMessage message = true ∧
      (decodeConflict message (conflictBody message)).toOption.bind RawEnvelope.error =
        some ⟨"version_conflict", message, none⟩ ∧
      ¬ RoutesAgree (decodeConflict message) "messages" status message
        (conflictBody message) := by
  refine ⟨by decide, by decide, by decide, by decide, rfl, ?_⟩
  intro agree
  exact absurd (agree.alike .persistPostgREST .deletePostgREST) (by decide)

end Polykit.Sync.Routes
