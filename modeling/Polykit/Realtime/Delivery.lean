/- Module: Polykit/Realtime/Delivery
   generality: I
   source: crates/polybase/src/realtime/mod.rs
   digest: What `next` of a subscription returns of the changes that all its connections read. -/

import Polykit.Lib.Broadcast
import Polykit.Realtime.Phoenix

set_option autoImplicit false
set_option relaxedAutoImplicit false

namespace Polykit.Realtime.Delivery

open Json Lib.Broadcast Lib.Runs Realtime.Phoenix Realtime.Supervisor

def changeChannelCapacity : Nat := 512

def RealtimeChange.entityId (change : RealtimeChange) : Option String := do
  let data ← change.record.or change.oldRecord
  ((Value.object data).get "id").bind Value.asStr

/-- A supervisor at work beside the subscription it feeds. What `next` returned is listed newest
first. -/
structure Subscription where
  supervisor : State Connection TaskEvent := {}
  rx : Subscriber RealtimeChange changeChannelCapacity := .new
  returned : List (Option RealtimeChange) := []

def Connection.news (before after : Connection) : List RealtimeChange :=
  (after.changes.take (after.changes.length - before.changes.length)).reverse

/-- What a step of the supervisor broadcasts. A connection that opens has read nothing. -/
def broadcast (before after : State Connection TaskEvent) : List RealtimeChange :=
  match before.phase, after.phase with
  | .session c _, .session d _ => Connection.news c d
  | _, _ => []

/-- Every sender of the channel is gone: the supervisor's with its task, and the handle's with
`unsubscribe` or the transport. -/
def Subscription.closed (s : Subscription) : Bool :=
  match s.supervisor.phase with
  | .exited => s.supervisor.shutdown.value || s.supervisor.shutdown.closed
  | _ => false

/-- A step of the supervisor or its connection, or one turn of the loop in `next`. -/
inductive Turn
  | supervisor (label : Label TaskEvent)
  | next

def turn (fromStr : FromStr) (config : TransportConfig) (tables : List String)
    (s : Subscription) : Turn → Option Subscription
  | .supervisor label =>
      (poll (phoenix fromStr config tables) config s.supervisor label).map (fun after =>
        { s with supervisor := after, rx := s.rx.sendAll (broadcast s.supervisor after) })
  | .next =>
      match s.rx.told with
      | some (.value change) =>
          some { s with rx := s.rx.recv, returned := some change :: s.returned }
      | some (.lagged _) => some { s with rx := s.rx.recv }
      | none => if s.closed then some { s with returned := none :: s.returned } else none

def changeIn (fromStr : FromStr) : Inbound → Option RealtimeChange
  | .text text =>
      match parsePhoenixMessage fromStr text with
      | some message =>
          if message.event = "postgres_changes" then parsePostgresChanges message.payload else none
      | none => none
  | _ => none

def readIn (fromStr : FromStr) : Turn → Option RealtimeChange
  | .supervisor (.inner (.inbound _ message)) => changeIn fromStr message
  | _ => none

/-- The changes that all the connections of a run have read, oldest first. -/
def changesRead (fromStr : FromStr) (turns : List Turn) : List RealtimeChange :=
  turns.reverse.filterMap (readIn fromStr)

/-- What `next` has returned before the end, oldest first. -/
def Subscription.handedOver (s : Subscription) : List RealtimeChange :=
  s.returned.reverse.filterMap id

/-! A connection broadcasts the change of each message it reads, and nothing else. -/

section Steps

variable {fromStr : FromStr} {config : TransportConfig} {c d : Connection}

theorem handle_changes (c : Connection) (message : PhoenixMessage) :
    (c.handle message).changes =
      (if message.event = "postgres_changes" then parsePostgresChanges message.payload
        else none).toList ++ c.changes := by
  unfold Connection.handle
  split_ifs
  · cases parsed : parsePostgresChanges message.payload <;> rfl
  · cases ref : message.refField <;> rfl
  all_goals rfl

theorem read_changes (c : Connection) (instant : Nat) (message : Inbound) :
    (c.read fromStr instant message).changes =
      (changeIn fromStr message).toList ++ c.changes := by
  cases message with
  | text text =>
    simp only [Connection.read, changeIn]
    cases parsePhoenixMessage fromStr text with
    | none => rfl
    | some message => exact handle_changes _ message
  | _ => rfl

theorem step_changes {event : TaskEvent} (edge : c.step fromStr config event = some d) :
    d.changes = (readIn fromStr (.supervisor (.inner event))).toList ++ c.changes := by
  cases event with
  | inbound instant message =>
    simp only [Connection.step, Option.ite_none_right_eq_some, Option.some.injEq] at edge
    obtain ⟨_, rfl⟩ := edge
    exact read_changes c instant message
  | writeEnded =>
    cases edge
    rfl
  | heartbeatTick instant | heartbeatCheck | livenessTick instant | livenessCheck =>
    simp only [Connection.step] at edge
    split at edge
    all_goals first
      | cases edge
      | skip
    all_goals first
      | rfl
      | (split at edge <;> cases edge <;> rfl)

theorem news_of_changes {news : List RealtimeChange} (same : d.changes = news ++ c.changes) :
    Connection.news c d = news.reverse := by
  unfold Connection.news
  rw [same, List.length_append, Nat.add_sub_cancel, List.take_left]

theorem broadcast_of_same {s t : State Connection TaskEvent} (same : t.phase = s.phase) :
    broadcast s t = [] := by
  unfold broadcast
  rw [same]
  split
  · rename_i first second
    rw [first] at second
    cases second
    exact news_of_changes (List.nil_append _).symm
  · rfl

theorem broadcast_of_outside {s t : State Connection TaskEvent}
    (outside : (∀ c seen, s.phase ≠ .session c seen) ∨ ∀ d seen, t.phase ≠ .session d seen) :
    broadcast s t = [] := by
  unfold broadcast
  split
  · rename_i before after
    rcases outside with first | last
    · exact absurd before (first _ _)
    · exact absurd after (last _ _)
  · rfl

theorem ended_outside (s : State Connection TaskEvent) (config : TransportConfig)
    (sample : UnitSample) (reason : DisconnectReason) (d : Connection) (seen : Nat) :
    (s.ended config sample reason).phase ≠ .session d seen := by
  unfold State.ended
  intro here
  split at here <;> cases here

theorem broadcast_of_poll {tables : List String} {s t : State Connection TaskEvent}
    {label : Label TaskEvent}
    (edge : poll (phoenix fromStr config tables) config s label = some t) :
    broadcast s t = (readIn fromStr (.supervisor label)).toList := by
  cases moves_of_poll edge with
  | inner event conn next seen here =>
    simp only [poll, here, Option.map_eq_some_iff] at edge
    obtain ⟨d, stepped, same⟩ := edge
    obtain rfl : d = next := by
      injection congrArg State.phase same
    unfold broadcast
    rw [here]
    show Connection.news conn d = _
    rw [news_of_changes (step_changes stepped)]
    cases readIn fromStr (.supervisor (.inner event)) <;> rfl
  | signal quiet opened => exact broadcast_of_same rfl
  | dropSender opened => exact broadcast_of_same rfl
  | disconnected conn seen sample reason here =>
    exact broadcast_of_outside (.inr (ended_outside s config sample reason))
  | sessionChanged conn seen sample reason here =>
    exact broadcast_of_outside (.inr (ended_outside s config sample reason))
  | _ =>
    -- the other steps are taken outside a session
    refine broadcast_of_outside (.inl (fun c seen session => ?_))
    simp_all

theorem closed_iff {s : Subscription} : s.closed = true ↔
    s.supervisor.phase = .exited ∧
      (s.supervisor.shutdown.value = true ∨ s.supervisor.shutdown.closed = true) := by
  unfold Subscription.closed
  split
  · rename_i here
    simp [here]
  · rename_i other
    constructor
    · exact fun closed => absurd closed Bool.false_ne_true
    · exact fun both => absurd both.1 other

theorem closed_of_turn {tables : List String} {s t : Subscription} {label : Turn}
    (edge : turn fromStr config tables s label = some t) (closed : s.closed = true) :
    t.closed = true := by
  obtain ⟨exited, gone⟩ := closed_iff.mp closed
  apply closed_iff.mpr
  cases label with
  | supervisor label =>
    obtain ⟨after, stepped, rfl⟩ := Option.map_eq_some_iff.mp edge
    cases moves_of_poll stepped with
    | signal quiet opened => exact ⟨exited, .inl rfl⟩
    | dropSender opened => exact ⟨exited, .inr rfl⟩
    | _ => simp_all
  | next =>
    simp only [turn] at edge
    repeat' split at edge
    all_goals
      cases edge
      exact ⟨exited, gone⟩

end Steps

/-- What `next` has returned, measured against what the connections have read. -/
structure Delivers (fromStr : FromStr) (turns : List Turn) (s : Subscription) : Prop where
  sent : s.rx.sent = changesRead fromStr turns
  handed : s.handedOver = s.rx.received
  ended : none ∈ s.returned → s.closed = true ∧ s.rx.passed = s.rx.sent.length

section Runs

variable {fromStr : FromStr} {config : TransportConfig} {tables : List String}
variable {s t : Subscription} {label : Turn} {turns : List Turn}

theorem changesRead_cons (label : Turn) (turns : List Turn) :
    changesRead fromStr (label :: turns) =
      changesRead fromStr turns ++ (readIn fromStr label).toList := by
  unfold changesRead
  rw [List.reverse_cons, List.filterMap_append]
  cases read : readIn fromStr label <;> simp [read]

theorem handedOver_return (supervisor : State Connection TaskEvent)
    (rx : Subscriber RealtimeChange changeChannelCapacity) (result : Option RealtimeChange) :
    Subscription.handedOver ⟨supervisor, rx, result :: s.returned⟩ =
      s.handedOver ++ result.toList := by
  unfold Subscription.handedOver
  rw [List.reverse_cons, List.filterMap_append]
  cases result <;> rfl

theorem delivers_turn (h : Delivers fromStr turns s)
    (edge : turn fromStr config tables s label = some t) : Delivers fromStr (label :: turns) t := by
  have closed := closed_of_turn edge
  cases label with
  | supervisor label =>
    obtain ⟨after, stepped, rfl⟩ := Option.map_eq_some_iff.mp edge
    refine ⟨?_, h.handed.trans (sendAll_received _).symm, fun finished => ?_⟩
    · rw [sendAll_sent, h.sent, broadcast_of_poll stepped, changesRead_cons]
    · obtain ⟨ended, caught⟩ := h.ended finished
      have exited := (closed_iff.mp ended).1
      have silent : broadcast s.supervisor after = [] :=
        broadcast_of_outside (.inl (fun c seen session => by rw [exited] at session; cases session))
      refine ⟨closed ended, ?_⟩
      rw [silent]
      exact caught
  | next =>
    have unread : changesRead fromStr (.next :: turns) = changesRead fromStr turns := by
      rw [changesRead_cons]
      exact List.append_nil _
    simp only [turn] at edge
    cases s.rx.asks with
    | lagged gap lost told behind received =>
      rw [told] at edge
      cases edge
      refine ⟨h.sent.trans unread.symm, h.handed.trans received.symm, fun finished => ?_⟩
      have caught := (h.ended finished).2
      rw [s.rx.unread_eq] at behind
      omega
    | value change told close here passed received =>
      rw [told] at edge
      cases edge
      refine ⟨h.sent.trans unread.symm, ?_, fun finished => ?_⟩
      · show Subscription.handedOver ⟨_, _, some change :: s.returned⟩ = s.rx.recv.received
        rw [handedOver_return, received, ← h.handed]
        rfl
      · have returned : none ∈ s.returned := by simpa using finished
        rw [(h.ended returned).2, List.getElem?_eq_none le_rfl] at here
        cases here
    | pending told caught received =>
      rw [told] at edge
      simp only [Option.ite_none_right_eq_some, Option.some.injEq] at edge
      obtain ⟨ended, rfl⟩ := edge
      refine ⟨h.sent.trans unread.symm, ?_, fun _ => ⟨ended, caught⟩⟩
      show Subscription.handedOver ⟨_, _, none :: s.returned⟩ = s.rx.received
      rw [handedOver_return, ← h.handed]
      exact List.append_nil _

theorem run_delivers (run : Run (Steps (turn fromStr config tables)) {} turns s) :
    Delivers fromStr turns s := by
  refine run.history_invariant ⟨rfl, rfl, fun finished => absurd finished List.not_mem_nil⟩ ?_
  intro older s label t holds edge
  exact delivers_turn holds edge

/-- Nobody asks while more is unread than the channel holds. -/
def keepsUp (s : Subscription) : Turn → Bool
  | .next => decide (s.rx.unread ≤ changeChannelCapacity)
  | .supervisor _ => true

theorem unlagged_turn (unlagged : ∀ report ∈ s.rx.reports, report.isLag = false)
    (keeps : keepsUp s label = true) (edge : turn fromStr config tables s label = some t) :
    ∀ report ∈ t.rx.reports, report.isLag = false := by
  cases label with
  | supervisor label =>
    obtain ⟨after, _, rfl⟩ := Option.map_eq_some_iff.mp edge
    rwa [sendAll_reports]
  | next =>
    simp only [turn] at edge
    cases s.rx.asks with
    | lagged gap lost told behind received =>
      have close : s.rx.unread ≤ changeChannelCapacity := of_decide_eq_true keeps
      omega
    | value change told close here passed received =>
      rw [told] at edge
      cases edge
      intro report member
      rw [recv_reports, told, List.mem_append] at member
      rcases member with older | newest
      · exact unlagged report older
      · rw [List.mem_singleton.mp newest]
        rfl
    | pending told caught received =>
      rw [told] at edge
      simp only [Option.ite_none_right_eq_some, Option.some.injEq] at edge
      obtain ⟨_, rfl⟩ := edge
      exact unlagged

/-- Over all the connections of a run, what `next` returns are the changes that were read, in
order and each once, but for stretches that the receiver was told it had missed. It misses none
as long as it keeps up, and `None` comes only after everything, from a supervisor that exited. -/
theorem subscription_delivers (run : Run (Steps (turn fromStr config tables)) {} turns s) :
    Accounts ((changesRead fromStr turns).take s.rx.passed) s.rx.reports ∧
      s.handedOver = values s.rx.reports ∧
      (none ∈ s.returned → s.supervisor.phase = .exited ∧
        s.rx.passed = (changesRead fromStr turns).length) ∧
      (Run (Guarded (fun s label => keepsUp s label = true)
          (Steps (turn fromStr config tables))) {} turns s →
        s.handedOver = (changesRead fromStr turns).take s.rx.passed) := by
  have delivers := run_delivers run
  have covered := s.rx.accounts
  rw [delivers.sent] at covered
  refine ⟨covered, delivers.handed, fun finished => ?_, fun guarded => ?_⟩
  · obtain ⟨ended, caught⟩ := delivers.ended finished
    exact ⟨(closed_iff.mp ended).1, delivers.sent ▸ caught⟩
  · have unlagged : ∀ report ∈ s.rx.reports, report.isLag = false := by
      refine guarded.invariant (I := fun s => ∀ report ∈ s.rx.reports, report.isLag = false)
        (fun report member => absurd member List.not_mem_nil) ?_
      intro s label t holds edge
      exact unlagged_turn holds edge.2 edge.1
    rw [delivers.handed]
    exact covered.complete_iff.mpr unlagged

end Runs

/-! A change is read by one connection, and another one by the next. -/

def insertedRow (id : String) : Value :=
  buildPhoenixArray none "" joinTopic "postgres_changes" (.object [("data", .object [
    ("record", .object [("id", .string id)]), ("table", .string "messages"),
    ("type", .string "INSERT")])])

def rowFromStr : FromStr := fun text =>
  if text = "first" then .ok (insertedRow "m1")
  else if text = "second" then .ok (insertedRow "m2")
  else .error "expected value"

def connects (instant : Nat) : List Turn :=
  [.supervisor (.connected (.ok instant) default), .supervisor (.refreshed signedIn default),
    .supervisor .check]

def reads (instant : Nat) (message : Inbound) : Turn :=
  .supervisor (.inner (.inbound instant message))

/-- Both are returned, and after `unsubscribe` the end. -/
theorem subscription_delivers_reconnected :
    ∃ turns, ∃ s : Subscription, (changesRead rowFromStr turns).map RealtimeChange.entityId =
        [some "m1", some "m2"] ∧ none ∈ s.returned ∧
      s.handedOver = (changesRead rowFromStr turns).take s.rx.passed := by
  let turns : List Turn := [.next, .next, .supervisor (.sessionChanged default),
      .supervisor .signal, .next, reads 5 (.text "second")] ++ connects 4 ++ [.supervisor .slept,
      .supervisor (.disconnected default), reads 2 .close, reads 1 (.text "first")] ++ connects 0
  have computed : (execute (restrict keepsUp (turn rowFromStr {} ["messages"])) {} turns).map
      (fun s => s.returned.map (fun change => change.map RealtimeChange.entityId)) =
      some [none, some (some "m2"), some (some "m1")] := by decide
  obtain ⟨s, computed, returned⟩ := Option.map_eq_some_iff.mp computed
  have guarded := guarded_of_execute computed
  have run := guarded.mono (fun _ _ _ step => step.1)
  refine ⟨turns, s, by decide, ?_, (subscription_delivers run).2.2.2 guarded⟩
  cases finished : s.returned with
  | nil => rw [finished] at returned; cases returned
  | cons last older =>
    rw [finished] at returned
    cases last with
    | none => exact List.mem_cons_self
    | some change => cases returned

end Polykit.Realtime.Delivery
