/- Module: Polykit/Realtime/Phoenix
   generality: I
   source: crates/polybase/src/realtime/mod.rs
   digest: One Phoenix connection, what it makes of replies, and what its supervisor announces. -/

import Polykit.Json
import Polykit.Realtime.Supervisor

set_option autoImplicit false
set_option relaxedAutoImplicit false

namespace Polykit.Realtime.Phoenix

open Json Lib.History Lib.Runs Supervisor

abbrev FromStr := String → Except String Value

def buildPhoenixArray (joinRef : Option String) (refField topic event : String)
    (payload : Value) : Value :=
  .array [(joinRef.map Value.string).getD .null, .string refField, .string topic, .string event,
    payload]

structure PhoenixMessage where
  topic : String
  event : String
  payload : Value
  refField : Option String

def parsePhoenixMessage (fromStr : FromStr) (msg : String) : Option PhoenixMessage :=
  match fromStr msg with
  | .ok (.array [_, refField, topic, event, payload]) =>
      match topic.asStr, event.asStr with
      | some topic, some event => some ⟨topic, event, payload, refField.asStr⟩
      | _, _ => none
  | _ => none

inductive RealtimeOp
  | insert | update | delete
  deriving DecidableEq

structure RealtimeChange where
  table : String
  op : RealtimeOp
  record : Option (List (String × Value))
  oldRecord : Option (List (String × Value))

def asObject : Value → Option (List (String × Value))
  | .object entries => some entries
  | _ => none

def parseOp (typeStr : String) : Option RealtimeOp :=
  if typeStr = "INSERT" then some .insert
  else if typeStr = "UPDATE" then some .update
  else if typeStr = "DELETE" then some .delete
  else none

def parsePostgresChanges (payload : Value) : Option RealtimeChange := do
  let data ← payload.get "data"
  let table ← (← data.get "table").asStr
  let op ← parseOp (← (← data.get "type").asStr)
  some ⟨table, op, (data.get "record").bind asObject, (data.get "old_record").bind asObject⟩

/-- What the socket yields. A stream may also just end. -/
inductive Inbound
  | text (text : String)
  | ping | pong | other | close | error | ended

/-- Where a probing task stands: before its next tick, or waiting for the reply to its probe. -/
inductive Probe
  | ticking (nextRef : UInt64)
  | waiting (refId : String) (nextRef : UInt64)
  | stopped

/-- The state the tasks of a connection share, and where each stands. Changes and outgoing
messages are listed newest first, disconnect reasons in the order they were sent. -/
structure Connection where
  reading : Bool := true
  writing : Bool := true
  heartbeat : Probe := .ticking 100
  liveness : Probe := .ticking 5000
  heartbeatTracker : Std.ExtTreeMap String Nat compare := ∅
  lastInboundAt : Nat
  outgoing : List Value
  changes : List RealtimeChange := []
  disconnects : List DisconnectReason := []

def joinRef : String := "1"

def joinRefField : String := "join-1"

def joinTopic : String := "realtime:polybase-sync"

def joinPayload (tables : List String) (accessToken : String) : Value :=
  .object [("access_token", .string accessToken),
    ("config", .object [
      ("broadcast", .object [("ack", .bool false), ("self", .bool false)]),
      ("postgres_changes", .array (tables.map (fun table => .object [
        ("event", .string "*"), ("schema", .string "public"), ("table", .string table)]))),
      ("presence", .object [("enabled", .bool false)]),
      ("private", .bool false)])]

def joinMessage (tables : List String) (accessToken : String) : Value :=
  buildPhoenixArray (some joinRef) joinRefField joinTopic "phx_join"
    (joinPayload tables accessToken)

/-- As `connect` leaves it: the join is queued, and nothing has been read. -/
def opened (tables : List String) (instant : Nat) (accessToken : String) : Connection where
  lastInboundAt := instant
  outgoing := [joinMessage tables accessToken]

def Connection.disconnect (c : Connection) (reason : DisconnectReason) : Connection :=
  { c with disconnects := c.disconnects ++ [reason] }

def Connection.endReading (c : Connection) (reason : DisconnectReason) : Connection :=
  { c.disconnect reason with reading := false }

/-- A reply settles its ref and nothing else, whatever its status. -/
def Connection.settleRef (c : Connection) : Option String → Connection
  | some refId => { c with heartbeatTracker := c.heartbeatTracker.erase refId }
  | none => c

def Connection.handle (c : Connection) (message : PhoenixMessage) : Connection :=
  if message.event = "postgres_changes" then
    match parsePostgresChanges message.payload with
    | some change => { c with changes := change :: c.changes }
    | none => c
  else if message.event = "phx_reply" then c.settleRef message.refField
  else if message.event = "system" then
    if (message.payload.get "status").bind Value.asStr = some "ok" then c
    else c.endReading .channelClosed
  else if message.event = "phx_error" ∨ message.event = "phx_close" then
    c.endReading .channelClosed
  else c

def Connection.read (fromStr : FromStr) (c : Connection) (instant : Nat) :
    Inbound → Connection
  | .text text =>
      let heard := { c with lastInboundAt := instant }
      match parsePhoenixMessage fromStr text with
      | some message => heard.handle message
      | none => heard
  | .ping | .pong => { c with lastInboundAt := instant }
  | .other => c
  | .close => c.endReading .channelClosed
  | .error => c.endReading .websocketError
  | .ended => { c with reading := false }

/-- A heartbeat with its ref. It is tracked before it is sent, and goes nowhere once the write
task has ended. -/
def Connection.probe (c : Connection) (instant : Nat) (refId : String) : Connection :=
  { c with
    heartbeatTracker := c.heartbeatTracker.insert refId instant
    outgoing := if c.writing then
        buildPhoenixArray none refId "phoenix" "heartbeat" (.object []) :: c.outgoing
      else c.outgoing }

/-- The probe is out, or could not be sent, which ends its task. -/
def Connection.probed (c : Connection) (refId : String) (nextRef : UInt64) : Probe :=
  if c.writing then .waiting refId (nextRef + 1) else .stopped

inductive TaskEvent
  | inbound (instant : Nat) (message : Inbound)
  | heartbeatTick (instant : Nat)
  | heartbeatCheck
  | livenessTick (instant : Nat)
  | livenessCheck
  | writeEnded

def Connection.step (fromStr : FromStr) (config : TransportConfig) (c : Connection) :
    TaskEvent → Option Connection
  | .inbound instant message => if c.reading then some (c.read fromStr instant message) else none
  | .heartbeatTick instant =>
      match c.heartbeat with
      | .ticking nextRef =>
          let refId := "hb-" ++ toString nextRef
          some { c.probe instant refId with heartbeat := c.probed refId nextRef }
      | _ => none
  | .heartbeatCheck =>
      match c.heartbeat with
      | .waiting refId nextRef =>
          if c.heartbeatTracker.contains refId then
            some { c.disconnect .heartbeatTimeout with heartbeat := .stopped }
          else some { c with heartbeat := .ticking nextRef }
      | _ => none
  | .livenessTick instant =>
      match c.liveness with
      | .ticking nextRef =>
          if instant - c.lastInboundAt < config.livenessTimeout then some c
          else
            let refId := "live-" ++ toString nextRef
            some { c.probe instant refId with liveness := c.probed refId nextRef }
      | _ => none
  | .livenessCheck =>
      match c.liveness with
      | .waiting refId nextRef =>
          if c.heartbeatTracker.contains refId then
            some { c.disconnect .livenessTimeout with liveness := .stopped }
          else some { c with liveness := .ticking nextRef }
      | _ => none
  | .writeEnded => some { c with writing := false }

def Probe.hasEnded : Probe → Bool
  | .stopped => true
  | _ => false

/-- The senders are the reading and the two probing tasks. -/
def Connection.recv (c : Connection) : Option (Option DisconnectReason) :=
  match c.disconnects with
  | reason :: _ => some (some reason)
  | [] =>
      if !c.reading && c.heartbeat.hasEnded && c.liveness.hasEnded then some none else none

def phoenix (fromStr : FromStr) (config : TransportConfig) (tables : List String) :
    Connections Connection TaskEvent where
  opened := opened tables
  step := Connection.step fromStr config
  recv := Connection.recv

def joinStatus (fromStr : FromStr) : Inbound → Option String
  | .text text =>
      match parsePhoenixMessage fromStr text with
      | some message =>
          if message.event = "phx_reply" ∧ message.refField = some joinRefField then
            (message.payload.get "status").bind Value.asStr
          else none
      | none => none
  | _ => none

def answersJoin (fromStr : FromStr) (status : String) : Happening TaskEvent → Bool
  | .inner (.inbound _ message) => joinStatus fromStr message == some status
  | _ => false

/-- A connection is announced only after the server has accepted its join, and one whose join
was rejected is about to end. -/
structure JoinHonest (fromStr : FromStr) (s : State Connection TaskEvent) : Prop where
  announced : ∀ newer event older, s.log = newer ++ event :: older → event.isAlive = true →
    ∃ entry ∈ sinceAttempt older, answersJoin fromStr "ok" entry = true
  rejected : ∀ c seen, s.phase = .session c seen →
    (∃ entry ∈ sinceAttempt s.log, answersJoin fromStr "error" entry = true) →
    c.recv.isSome = true

/-- Every connection that opens is announced before its join is answered, so the one way to
keep to the rule is that none opens. -/
theorem joinHonest_iff {fromStr : FromStr} {config : TransportConfig} {tables : List String}
    {labels : List (Label TaskEvent)} {s : State Connection TaskEvent}
    (run : Run (Steps (poll (phoenix fromStr config tables) config)) {} labels s) :
    JoinHonest fromStr s ↔ ∀ label ∈ labels, label.isEstablished = false := by
  have announces := run_announces run
  constructor
  · intro honest label member
    by_contra established
    rw [Bool.not_eq_false] at established
    obtain ⟨event, logged, alive⟩ := announces.established.mp ⟨label, member, established⟩
    obtain ⟨newer, older, log⟩ := List.append_of_mem logged
    obtain ⟨entry, since, answered⟩ := honest.announced newer event older log alive
    have outer := announces.announced newer event older log alive entry since
    cases entry with
    | inner event => cases outer
    | _ => cases answered
  · intro none_opened
    have quiet : ¬ ∃ label ∈ labels, label.isEstablished = true := by
      rintro ⟨label, member, established⟩
      rw [none_opened label member] at established
      cases established
    constructor
    · intro newer event older log alive
      have logged : event ∈ s.log := log ▸ List.mem_append_right _ List.mem_cons_self
      exact absurd (announces.established.mpr ⟨event, logged, alive⟩) quiet
    · intro c seen here
      exact absurd (announces.session c seen here) quiet

/-! A rejected join goes unnoticed: a connection reads every reply to one ref alike. -/

/-- Both messages are replies to the same ref, or they are the same message. -/
def SameRef (fromStr : FromStr) (first second : Inbound) : Prop :=
  first = second ∨ ∃ text other message reply, first = .text text ∧ second = .text other ∧
    parsePhoenixMessage fromStr text = some message ∧
    parsePhoenixMessage fromStr other = some reply ∧ message.event = "phx_reply" ∧
    reply.event = "phx_reply" ∧ message.refField = reply.refField

inductive SameTask (fromStr : FromStr) : TaskEvent → TaskEvent → Prop
  | inbound (instant : Nat) (first second : Inbound) : SameRef fromStr first second →
      SameTask fromStr (.inbound instant first) (.inbound instant second)
  | refl (event : TaskEvent) : SameTask fromStr event event

theorem read_sameRef {fromStr : FromStr} {first second : Inbound}
    (h : SameRef fromStr first second) (c : Connection) (instant : Nat) :
    c.read fromStr instant first = c.read fromStr instant second := by
  rcases h with rfl | ⟨text, other, message, reply, rfl, rfl, parsed, parsed', event, event', ref⟩
  · rfl
  · simp [Connection.read, parsed, parsed', Connection.handle, event, event', ref]

theorem step_sameTask {fromStr : FromStr} {config : TransportConfig} {first second : TaskEvent}
    (h : SameTask fromStr first second) (c : Connection) :
    c.step fromStr config first = c.step fromStr config second := by
  cases h with
  | refl => rfl
  | inbound instant first second same => simp only [Connection.step, read_sameRef same c instant]

/-- What a connection comes to does not depend on the status of its replies, so one whose join
was rejected ends when, and only when, it would have ended otherwise. -/
theorem run_sameTask {fromStr : FromStr} {config : TransportConfig} {c d : Connection}
    {events others : List TaskEvent}
    (run : Run (Steps (Connection.step fromStr config)) c events d)
    (same : List.Forall₂ (SameTask fromStr) events others) :
    Run (Steps (Connection.step fromStr config)) c others d := by
  induction run generalizing others with
  | refl =>
    cases same
    exact .refl
  | tail older edge ih =>
    cases same with
    | cons task rest =>
      refine (ih rest).tail ?_
      unfold Steps at edge ⊢
      rw [← step_sameTask task]
      exact edge

/-! A server that rejects the join and goes on answering heartbeats. -/

def reply (refField status : String) : Value :=
  buildPhoenixArray (some joinRef) refField joinTopic "phx_reply"
    (.object [("status", .string status)])

def sampleFromStr : FromStr := fun text =>
  if text = "join rejected" then .ok (reply joinRefField "error")
  else if text = "heartbeat answered" then .ok (reply "hb-100" "ok")
  else .error "expected value"

def samplePoll : State Connection TaskEvent → Label TaskEvent →
    Option (State Connection TaskEvent) :=
  poll (phoenix sampleFromStr {} ["messages"]) {}

/-- No connect succeeds, and nothing is announced. -/
theorem joinHonest_unreachable :
    ∃ s : State Connection TaskEvent, s.log.length = 3 ∧ JoinHonest sampleFromStr s := by
  let labels : List (Label TaskEvent) :=
    [.slept, .connected (.error (.connectFailed "refused")) default,
      .refreshed signedIn default, .check]
  have computed : (execute samplePoll {} labels).map (fun s => s.log.length) = some 3 := by decide
  obtain ⟨s, computed, length⟩ := Option.map_eq_some_iff.mp computed
  refine ⟨s, length, (joinHonest_iff (run_of_execute computed)).mpr ?_⟩
  simp [labels, Label.isEstablished]

/-- Whether a connection is up whose tasks have given no reason to end it. -/
def livesOn (s : State Connection TaskEvent) : Bool :=
  match s.phase with
  | .session c _ => c.recv.isNone
  | _ => false

/-- The join is rejected after the connection was announced, and the connection lives on. -/
theorem rejected_join_looks_alive :
    ∃ labels, ∃ s : State Connection TaskEvent, Run (Steps samplePoll) {} labels s ∧
      (sinceAttempt s.log).any Happening.isAlive = true ∧
      (sinceAttempt s.log).any (answersJoin sampleFromStr "ok") = false ∧
      (sinceAttempt s.log).any (answersJoin sampleFromStr "error") = true ∧
      livesOn s = true ∧ ¬ JoinHonest sampleFromStr s := by
  let labels : List (Label TaskEvent) :=
    [.inner .heartbeatCheck, .inner (.inbound 3 (.text "heartbeat answered")),
      .inner (.heartbeatTick 2), .inner (.inbound 1 (.text "join rejected")),
      .connected (.ok 0) default, .refreshed signedIn default, .check]
  have computed : (execute samplePoll {} labels).map (fun s =>
      ((sinceAttempt s.log).any Happening.isAlive,
        (sinceAttempt s.log).any (answersJoin sampleFromStr "ok"),
        (sinceAttempt s.log).any (answersJoin sampleFromStr "error"), livesOn s)) =
      some (true, false, true, true) := by decide
  obtain ⟨s, computed, facts⟩ := Option.map_eq_some_iff.mp computed
  simp only [Prod.mk.injEq] at facts
  obtain ⟨announced, unaccepted, rejected, living⟩ := facts
  refine ⟨labels, s, run_of_execute computed, announced, unaccepted, rejected, living, ?_⟩
  intro honest
  have found : ∃ entry ∈ sinceAttempt s.log, answersJoin sampleFromStr "error" entry = true :=
    List.any_eq_true.mp rejected
  unfold livesOn at living
  split at living
  · rename_i c seen here
    have ends := honest.rejected c seen here found
    rw [Option.isNone_iff_eq_none.mp living] at ends
    cases ends
  · cases living

end Polykit.Realtime.Phoenix
