/- Module: Polykit/Sync/Confirmed
   generality: I
   source: crates/polybase/src/sync/coordinator.rs, crates/polybase/src/edge.rs
   digest: What a call reports for each answer of its Edge Function. -/

import Polykit.Sync.Redispatch
import Polykit.Wire.Envelope

set_option autoImplicit false
set_option relaxedAutoImplicit false

namespace Polykit.Sync.Confirmed

open Calls Contract Crypto Delivery Entity Errors Freshness Json OfflineQueue.Memory Redispatch
open Routes Wire.Edge Wire.Envelope Wire.Http

variable {p : Primitives} {Mirror Queue : Type}

/-- The call sent a request to the Edge Function its table is registered with. -/
structure SentToEdge (c : Coordinator p Mirror Queue) (env : CallEnv) (w : World Mirror Queue)
    (call : Call) (function : String) : Prop where
  routed : ∃ config defaultOp, c.registry.configForTable call.table = some config ∧
    config.writePath = .edge function defaultOp
  sent : (runCall c env w call).1.requests ≠ w.requests

/-- The reply is a readable envelope of a 2xx answer with the flag set. -/
def Confirms (fromStr : EnvelopeDecoder) : Reply → Prop
  | .responded status (.ok body) =>
      status.isSuccess = true ∧ ∃ envelope, fromStr body = .ok envelope ∧ envelope.success = true
  | _ => False

variable {c : Coordinator p Mirror Queue} {env : CallEnv} {w : World Mirror Queue} {call : Call}
  {function : String}

theorem SentToEdge.settled (h : SentToEdge c env w call function) :
    ∃ s sent, sent.queue = w.queue ∧ (∀ error, QueuedFor env call (s.queuedOperation env error)) ∧
      intent c env w.session call = some s.kind ∧
      runCall c env w call =
        c.settle env s sent ((callResult c.fromStr function env.reply).map (fun _ => ())) := by
  obtain ⟨config, defaultOp, registered, path⟩ := h.routed
  cases stage : localStage c env w call with
  | mk mirror result =>
    cases result with
    | error error => exact absurd (by rw [runCall_early stage]) h.sent
    | ok _ =>
      obtain ⟨config', s, sent, sending⟩ := runCall_late stage
      have same : config = config' :=
        Option.some.inj (registered.symm.trans sending.registered)
      have settled := sending.settled
      rw [← same, path] at settled
      refine ⟨s, sent, sending.queue, sending.queued, sending.kind, settled.trans ?_⟩
      cases call <;> rfl

theorem callResult_envelope {fromStr : EnvelopeDecoder} {status : StatusCode} {body : String}
    {envelope : RawEnvelope} (success : status.isSuccess = true)
    (decoded : fromStr body = .ok envelope) (flag : envelope.success = true) :
    callResult fromStr function (.responded status (.ok body)) =
      match envelope.data with
      | none => .error (.edge (.decode function
          "envelope.success was true but data was missing"))
      | some data => .ok ⟨data, envelope.requestId⟩ := by
  cases data : envelope.data with
  | none => simp only [callResult, success, decoded, flag, data, if_true]
  | some data' => simp only [callResult, success, decoded, flag, data, if_true]

theorem confirms_of_callResult {fromStr : EnvelopeDecoder} {reply : Reply} {ok : EdgeOk}
    (h : callResult fromStr function reply = .ok ok) : Confirms fromStr reply := by
  unfold callResult at h
  split at h
  · cases h
  · cases h
  · split at h
    · rename_i success
      split at h
      · cases h
      · rename_i envelope decoded
        split at h
        · rename_i flag
          exact ⟨success, envelope, decoded, flag⟩
        · cases h
    · cases h

theorem enqueued_of_settle {s : Settlement} {sent : World Mirror Queue} {error : PolyError}
    (edge : ∃ e, error = .edge e) (h : (c.settle env s sent (.error error)).2 = .ok ()) :
    c.queue.enqueue sent.queue (s.queuedOperation env error) =
      ((c.settle env s sent (.error error)).1.queue, .ok ()) := by
  obtain ⟨e, rfl⟩ := edge
  cases arm : disposition (.error (.edge e)) with
  | success => simp [disposition] at arm; split at arm <;> cases arm
  | benign => simp [disposition] at arm; split at arm <;> cases arm
  | enqueue =>
    rw [settle_enqueue c env s sent arm] at h ⊢
    unfold Coordinator.enqueueForRetry at h ⊢
    split at h
    · cases h
    · rename_i queue taken
      simp only [taken, publishAll_queue]
  | permanent =>
    rw [settle_permanent c env s sent arm] at h
    cases h

/-- A call that sent its request to an Edge Function returns ok for every envelope with the flag
set and data in it, and gives up without enqueueing where the data is left out. For any answer
that confirms nothing it returns ok only if its operation was enqueued. -/
theorem edge_answers {text : EnvelopeText} (decoder : c.fromStr = text.decoder)
    (h : SentToEdge c env w call function) :
    (∀ (status : StatusCode) (body : String) (entries : List (String × Value)),
      env.reply = .responded status (.ok body) → status.isSuccess = true →
      text.parse body = .ok (.object entries) →
      (∀ data, data ≠ .null → IsEnvelope true (some data) entries →
        (runCall c env w call).2 = .ok ()) ∧
      (IsEnvelope true none entries →
        (runCall c env w call).2 = .error (.edge (.decode function
          "envelope.success was true but data was missing")) ∧
        (runCall c env w call).1.queue = w.queue)) ∧
    (¬ Confirms text.decoder env.reply → (runCall c env w call).2 = .ok () →
      ∃ op, QueuedFor env call op ∧ intent c env w.session call = some op.kind ∧
        c.queue.enqueue w.queue op = ((runCall c env w call).1.queue, .ok ())) := by
  obtain ⟨s, sent, queue, queued, kind, settled⟩ := h.settled
  constructor
  · intro status body entries reply success parsed
    have decodes : ∀ {data}, IsEnvelope true data entries → ∃ envelope,
        c.fromStr body = .ok envelope ∧ envelope.success = true ∧
          optional decodeValue data = .ok envelope.data := by
      intro data envelope
      obtain ⟨error, requestId, kept, optional, decoded⟩ := decodeEnvelope_of_isEnvelope envelope
      refine ⟨⟨true, kept, error, requestId⟩, ?_, rfl, optional⟩
      simp only [decoder, EnvelopeText.decoder, parsed, decoded]
      rfl
    constructor
    · intro data present envelope
      obtain ⟨raw, decoded, flag, kept⟩ := decodes envelope
      rw [optional_decodeValue present] at kept
      rw [settled, reply, callResult_envelope success decoded flag, ← Except.ok.inj kept]
      rfl
    · intro envelope
      obtain ⟨raw, decoded, flag, kept⟩ := decodes envelope
      rw [settled, reply, callResult_envelope success decoded flag,
        ← Except.ok.inj (show Except.ok none = Except.ok raw.data from kept)]
      have arm : disposition (.error (.edge (.decode function
          "envelope.success was true but data was missing"))) = .permanent := rfl
      simp only [Except.map, settle_permanent c env s sent arm, true_and]
      split
      · exact queue
      · exact queue
  · intro unconfirmed reported
    cases result : callResult c.fromStr function env.reply with
    | ok ok =>
      rw [decoder] at result
      exact absurd (confirms_of_callResult result) unconfirmed
    | error error =>
      rw [result] at settled
      have edge := callResult_error result
      rw [settled] at reported ⊢
      have enqueued := enqueued_of_settle edge reported
      rw [queue] at enqueued
      exact ⟨s.queuedOperation env error, queued error, kind, enqueued⟩

/-! The table of notes again, with a decoder that reads two bodies. -/

def acceptedBody : String := "\x7b\"success\":true,\"data\":1\x7d"

def bareBody : String := "\x7b\"success\":true\x7d"

def acceptedEntries : List (String × Value) :=
  [("success", .bool true), ("data", .number (Number.ofInt64 1))]

def bareEntries : List (String × Value) := [("success", .bool true)]

def sampleText : EnvelopeText where
  parse body :=
    if body = acceptedBody then .ok (.object acceptedEntries)
    else if body = bareBody then .ok (.object bareEntries)
    else .error "expected value"
  display _ _ := "invalid envelope"

def edgeNotes : Coordinator Registry.RoundTrip.taggedPrimitives Unit MemoryQueue :=
  { notesCoordinator with fromStr := sampleText.decoder }

def ok200 : StatusCode := ⟨200, Wire.Http.valid_200⟩

def createNote (body : String) : World Unit MemoryQueue × Except PolyError Unit :=
  runCall edgeNotes (callAt 1 (.responded ok200 (.ok body))) (signedInWorld .new)
    (writeNote "create")

theorem createNote_sent (body : String) :
    SentToEdge edgeNotes (callAt 1 (.responded ok200 (.ok body))) (signedInWorld .new)
      (writeNote "create") "notes-write" where
  routed := ⟨notesConfig, "create",
    (by decide : edgeNotes.registry.configForTable "notes" = some notesConfig), rfl⟩
  sent := by
    have stage : localStage edgeNotes (callAt 1 (.responded ok200 (.ok body)))
        (signedInWorld .new) (writeNote "create") = ((), .ok ()) := rfl
    obtain ⟨config, s, sent, sending⟩ := runCall_late stage
    obtain ⟨request, logged⟩ := sending.logged
    rw [logged]
    simp

theorem createNote_accepted : (createNote acceptedBody).2 = .ok () := by
  have envelope : IsEnvelope true (some (.number (Number.ofInt64 1))) acceptedEntries :=
    ⟨rfl, rfl, ⟨none, none, rfl, rfl⟩, ⟨none, none, rfl, rfl⟩⟩
  have decoder : edgeNotes.fromStr = sampleText.decoder := rfl
  exact ((edge_answers decoder (createNote_sent acceptedBody)).1 ok200 acceptedBody
    acceptedEntries rfl rfl rfl).1 _ (by simp) envelope

/-- A confirmation without data is reported as a failure, and nothing is queued. -/
theorem createNote_bare :
    Confirms sampleText.decoder (.responded ok200 (.ok bareBody)) ∧
      (createNote bareBody).2 = .error (.edge (.decode "notes-write"
        "envelope.success was true but data was missing")) ∧
      (createNote bareBody).1.queue.inner = [] :=
  ⟨⟨rfl, ⟨true, none, none, none⟩, rfl, rfl⟩, rfl, rfl⟩

end Polykit.Sync.Confirmed
