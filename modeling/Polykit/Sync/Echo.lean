/- Module: Polykit/Sync/Echo
   generality: I
   source: crates/polybase/src/sync/echo.rs, crates/polybase/src/sync/push.rs, crates/polybase/src/sync/coordinator.rs
   digest: The echo tracker over time, and which echoes of an outstanding push it recognises. -/

import Polykit.Sync.Concurrent
import Polykit.Sync.Ingest

set_option autoImplicit false
set_option relaxedAutoImplicit false

namespace Polykit.Sync.Echo

open Auth Calls Concurrent Contract Crypto Entity Errors Ingest Json Lib.Runs Registry.RoundTrip
open Wire.Http

def echoExpiryWindowSecs : Nat := 5

/-- Instants and durations are in nanoseconds. -/
def fromSecs (n : Nat) : Nat := n * 10 ^ 9

structure EchoTracker where
  inner : Std.ExtTreeMap String Nat compare := ∅
  window : Nat

def EchoTracker.withWindow (window : Nat) : EchoTracker := { window := window }

def EchoTracker.withDefaultWindow : EchoTracker := .withWindow (fromSecs echoExpiryWindowSecs)

def EchoTracker.markPushed (tracker : EchoTracker) (now : Nat) (table entityId : String) :
    EchoTracker :=
  { tracker with inner := tracker.inner.insert (echoTrackerKey table entityId) now }

/-- A mark that is found too old is removed. -/
def EchoTracker.wasRecentlyPushed (tracker : EchoTracker) (now : Nat) (table entityId : String) :
    EchoTracker × Bool :=
  let key := echoTrackerKey table entityId
  match tracker.inner[key]? with
  | some marked =>
      if now - marked < tracker.window then (tracker, true)
      else ({ tracker with inner := tracker.inner.erase key }, false)
  | none => (tracker, false)

def EchoTracker.vacuum (tracker : EchoTracker) (now : Nat) : EchoTracker :=
  { tracker with
    inner := tracker.inner.filter (fun _ marked => decide (now - marked < tracker.window)) }

variable {p : Primitives} {Mirror Queue : Type}

/-- The tracker that a coordinator's pushes mark and its subscribers ask. -/
def tracker (window : Nat) (w : World Mirror Queue) : EchoTracker := ⟨w.echo, window⟩

/-- The row that a push marks before its request leaves. An upsert takes the id from the record it
sends, an Edge call the id it was prepared for. -/
def markedRow : Pending → Option (String × String)
  | .write table prepared _ =>
      match prepared.config.writePath with
      | .postgREST => (prepared.record["id"]?.bind Value.asStr).map (fun id => (table, id))
      | .edge _ _ => some (table, prepared.entityId)
  | .tombstone table entityId _ _ _ => some (table, entityId)

theorem dispatch_marks (c : Coordinator p Mirror Queue) (env : CallEnv) (w : World Mirror Queue)
    {pending : Pending} {row : String × String} (marks : markedRow pending = some row) :
    (pending.dispatch c env w).1.echo = w.echo.insert (echoTrackerKey row.1 row.2) env.instant ∧
      ∃ request, (pending.dispatch c env w).1.requests = request :: w.requests := by
  cases pending with
  | write table prepared op =>
    simp only [markedRow] at marks
    simp only [Pending.dispatch, Coordinator.dispatchWrite]
    cases path : prepared.config.writePath with
    | postgREST =>
      simp only [path] at marks
      obtain ⟨id, found, rfl⟩ := Option.map_eq_some_iff.mp marks
      simp only [pushUpsert, found]
      exact ⟨rfl, _, rfl⟩
    | edge function defaultOp =>
      simp only [path] at marks
      cases marks
      exact ⟨rfl, _, rfl⟩
  | tombstone table entityId version config session =>
    cases marks
    simp only [Pending.dispatch, Coordinator.dispatchDelete]
    cases config.writePath <;> exact ⟨rfl, _, rfl⟩

structure Push where
  row : String × String
  sentAt : Nat
  committed : Bool
  result : Except PolyError Unit

/-- A realtime event of an outstanding push that was committed: how long after the request and
after the last mark of its key it came, and what the tracker answered. -/
structure Delivery where
  sinceSent : Nat
  sinceMark : Nat
  recognised : Bool

/-- `marks` holds every mark with its key and instant, newest first. -/
structure State (Mirror Queue : Type) where
  now : Nat := 0
  world : World Mirror Queue
  pushes : Nat → Option Push := fun _ => none
  marks : List (String × Nat) := []
  deliveries : List Delivery := []

inductive Label (Mirror Queue : Type)
  | pass (duration : Nat)
  | send (id : Nat) (env : CallEnv) (pending : Pending)
  | mark (table entityId : String)
  | commit (id : Nat)
  | deliver (id : Nat)
  | check (table entityId : String)
  | vacuum
  | finish (id : Nat)
  | elsewhere (world : World Mirror Queue)

def lastMark (marks : List (String × Nat)) (key : String) : Option Nat :=
  (marks.find? (fun mark => mark.1 == key)).map Prod.snd

def State.asked (s : State Mirror Queue) (window : Nat) (row : String × String) :
    State Mirror Queue × Bool :=
  let answer := (tracker window s.world).wasRecentlyPushed s.now row.1 row.2
  ({ s with world := { s.world with echo := answer.1.inner } }, answer.2)

def State.setPush (s : State Mirror Queue) (id : Nat) (push : Option Push) : State Mirror Queue :=
  { s with pushes := Function.update s.pushes id push }

/-- The stretches of any number of pushes, of the server and of the subscribers, in any order.
Other steps of the client leave the tracker as it is. -/
def poll (c : Coordinator p Mirror Queue) (window : Nat) (s : State Mirror Queue) :
    Label Mirror Queue → Option (State Mirror Queue)
  | .pass duration => some { s with now := s.now + duration }
  | .send id env pending =>
      match s.pushes id, markedRow pending with
      | none, some row =>
          let sent := pending.dispatch c { env with instant := s.now } s.world
          some ({ s with
            world := sent.1
            marks := (echoTrackerKey row.1 row.2, s.now) :: s.marks }.setPush id
              (some ⟨row, s.now, false, sent.2⟩))
      | _, _ => none
  | .mark table entityId => some { s with
      world := s.world.markPushed s.now table entityId
      marks := (echoTrackerKey table entityId, s.now) :: s.marks }
  | .commit id =>
      (s.pushes id).map (fun push => s.setPush id (some { push with committed := true }))
  | .deliver id =>
      match s.pushes id with
      | some ⟨row, sentAt, true, _⟩ =>
          let answer := s.asked window row
          let marked := (lastMark s.marks (echoTrackerKey row.1 row.2)).getD sentAt
          some { answer.1 with
            deliveries := ⟨s.now - sentAt, s.now - marked, answer.2⟩ :: s.deliveries }
      | _ => none
  | .check table entityId => some (s.asked window (table, entityId)).1
  | .vacuum => some { s with
      world := { s.world with echo := ((tracker window s.world).vacuum s.now).inner } }
  | .finish id => (s.pushes id).map (fun _ => s.setPush id none)
  | .elsewhere world => some { s with world := { world with echo := s.world.echo } }

def start (w : World Mirror Queue) : State Mirror Queue := { world := { w with echo := ∅ } }

/-! What the tracker knows of the marks. -/

/-- The tracker holds last marks only, and every one that is within the window. -/
structure Faithful (tracker : EchoTracker) (now : Nat) (marks : List (String × Nat)) : Prop where
  known : ∀ key marked, tracker.inner[key]? = some marked → lastMark marks key = some marked
  fresh : ∀ key marked, lastMark marks key = some marked → now - marked < tracker.window →
    tracker.inner[key]? = some marked

section

variable {tracker : EchoTracker} {now : Nat} {marks : List (String × Nat)} {table entityId : String}

theorem lastMark_cons (key other : String) (instant : Nat) (marks : List (String × Nat)) :
    lastMark ((key, instant) :: marks) other =
      if key = other then some instant else lastMark marks other := by
  unfold lastMark
  by_cases same : key = other
  · simp [same]
  · simp [same]

theorem Faithful.pass (h : Faithful tracker now marks) (duration : Nat) :
    Faithful tracker (now + duration) marks where
  known := h.known
  fresh key marked last young := h.fresh key marked last (by omega)

theorem inner_markPushed (tracker : EchoTracker) (now : Nat) (table entityId key : String) :
    (tracker.markPushed now table entityId).inner[key]? =
      if echoTrackerKey table entityId = key then some now else tracker.inner[key]? := by
  simp [EchoTracker.markPushed, Std.ExtTreeMap.getElem?_insert]

theorem Faithful.markPushed (h : Faithful tracker now marks) (instant : Nat) :
    Faithful (tracker.markPushed instant table entityId) now
      ((echoTrackerKey table entityId, instant) :: marks) where
  known key marked := by
    rw [inner_markPushed, lastMark_cons]
    split
    · exact id
    · exact h.known key marked
  fresh key marked := by
    rw [inner_markPushed, lastMark_cons]
    split
    · exact fun last _ => last
    · exact h.fresh key marked

theorem Faithful.shrink (h : Faithful tracker now marks) {smaller : EchoTracker}
    (window : smaller.window = tracker.window)
    (part : ∀ (key : String) (marked : Nat), smaller.inner[key]? = some marked →
      tracker.inner[key]? = some marked)
    (kept : ∀ (key : String) (marked : Nat), tracker.inner[key]? = some marked →
      now - marked < tracker.window → smaller.inner[key]? = some marked) :
    Faithful smaller now marks where
  known key marked found := h.known key marked (part key marked found)
  fresh key marked last young := by
    rw [window] at young
    exact kept key marked (h.fresh key marked last young) young

theorem Faithful.vacuum (h : Faithful tracker now marks) :
    Faithful (tracker.vacuum now) now marks := by
  have filtered : ∀ key : String, (tracker.vacuum now).inner[key]? =
      tracker.inner[key]?.filter (fun marked => decide (now - marked < tracker.window)) :=
    fun key => Std.ExtTreeMap.getElem?_filter'
  refine h.shrink rfl (fun key marked found => ?_) (fun key marked found young => ?_)
  · rw [filtered] at found
    exact (Option.filter_eq_some_iff.mp found).1
  · rw [filtered, found]
    simp [young]

theorem wasRecentlyPushed_window (tracker : EchoTracker) (now : Nat) (table entityId : String) :
    (tracker.wasRecentlyPushed now table entityId).1.window = tracker.window := by
  simp only [EchoTracker.wasRecentlyPushed]
  split
  · split <;> rfl
  · rfl

theorem Faithful.wasRecentlyPushed (h : Faithful tracker now marks) :
    Faithful (tracker.wasRecentlyPushed now table entityId).1 now marks := by
  simp only [EchoTracker.wasRecentlyPushed]
  split
  · rename_i marked found
    split
    · exact h
    · rename_i old
      have erased : ∀ key : String, (tracker.inner.erase (echoTrackerKey table entityId))[key]? =
          if echoTrackerKey table entityId = key then none else tracker.inner[key]? := by
        intro key
        simp [Std.ExtTreeMap.getElem?_erase]
      refine h.shrink rfl (fun key other there => ?_) (fun key other there young => ?_)
      · rw [erased] at there
        split at there
        · cases there
        · exact there
      · rw [erased, if_neg, there]
        rintro rfl
        rw [there] at found
        exact old (Option.some.inj found ▸ young)
  · exact h

theorem Faithful.answer_iff (h : Faithful tracker now marks) :
    (tracker.wasRecentlyPushed now table entityId).2 = true ↔
      ∃ marked, lastMark marks (echoTrackerKey table entityId) = some marked ∧
        now - marked < tracker.window := by
  simp only [EchoTracker.wasRecentlyPushed]
  constructor
  · intro answer
    split at answer
    · rename_i marked found
      split at answer
      · rename_i young
        exact ⟨marked, h.known _ marked found, young⟩
      · cases answer
    · cases answer
  · rintro ⟨marked, last, young⟩
    rw [h.fresh _ marked last young]
    simp [young]

end

/-! What holds in every run. -/

structure Tracks (window : Nat) (s : State Mirror Queue) : Prop where
  faithful : Faithful (tracker window s.world) s.now s.marks
  outstanding : ∀ id push, s.pushes id = some push → push.sentAt ≤ s.now ∧
    ∃ marked, lastMark s.marks (echoTrackerKey push.row.1 push.row.2) = some marked ∧
      push.sentAt ≤ marked
  deliveries : ∀ d ∈ s.deliveries,
    (d.recognised = true ↔ d.sinceMark < window) ∧ d.sinceMark ≤ d.sinceSent

section

variable {c : Coordinator p Mirror Queue} {window : Nat} {s t : State Mirror Queue}

theorem Tracks.marked (h : Tracks window s) {world : World Mirror Queue} {table entityId : String}
    (echo : world.echo = s.world.echo.insert (echoTrackerKey table entityId) s.now) :
    Tracks window { s with
      world := world
      marks := (echoTrackerKey table entityId, s.now) :: s.marks } where
  faithful := by
    have marked : tracker window world =
        (tracker window s.world).markPushed s.now table entityId := by
      simp only [tracker, EchoTracker.markPushed, echo]
    simp only [marked]
    exact h.faithful.markPushed s.now
  outstanding id push found := by
    obtain ⟨sent, marked, last, later⟩ := h.outstanding id push found
    refine ⟨sent, ?_⟩
    rw [lastMark_cons]
    split
    · exact ⟨s.now, rfl, sent⟩
    · exact ⟨marked, last, later⟩
  deliveries := h.deliveries

theorem Tracks.setPush (h : Tracks window s) (id : Nat) {push : Option Push}
    (marked : ∀ found, push = some found → found.sentAt ≤ s.now ∧
      ∃ marked, lastMark s.marks (echoTrackerKey found.row.1 found.row.2) = some marked ∧
        found.sentAt ≤ marked) : Tracks window (s.setPush id push) where
  faithful := h.faithful
  outstanding other found there := by
    by_cases same : other = id
    · subst same
      exact marked found (by simpa [State.setPush] using there)
    · exact h.outstanding other found (by simpa [State.setPush, same] using there)
  deliveries := h.deliveries

theorem Tracks.asked (h : Tracks window s) (row : String × String) :
    Tracks window (s.asked window row).1 where
  faithful := by
    have kept : Faithful ((tracker window s.world).wasRecentlyPushed s.now row.1 row.2).1 s.now
        s.marks := h.faithful.wasRecentlyPushed
    have same : window = ((tracker window s.world).wasRecentlyPushed s.now row.1 row.2).1.window :=
      (wasRecentlyPushed_window (tracker window s.world) s.now row.1 row.2).symm
    have whole : tracker window (s.asked window row).1.world =
        ((tracker window s.world).wasRecentlyPushed s.now row.1 row.2).1 :=
      congrArg (EchoTracker.mk _) same
    rw [whole]
    exact kept
  outstanding := h.outstanding
  deliveries := h.deliveries

theorem tracks_poll {label : Label Mirror Queue} (h : Tracks window s)
    (edge : poll c window s label = some t) : Tracks window t := by
  cases label with
  | pass duration =>
    cases edge
    refine ⟨h.faithful.pass duration, fun id push found => ?_, h.deliveries⟩
    obtain ⟨sent, marked⟩ := h.outstanding id push found
    exact ⟨Nat.le_add_right_of_le sent, marked⟩
  | send id env pending =>
    simp only [poll] at edge
    split at edge
    · rename_i row _ marks
      cases edge
      obtain ⟨echo, _⟩ := dispatch_marks c { env with instant := s.now } s.world marks
      refine (h.marked echo).setPush id (fun found same => ?_)
      cases same
      exact ⟨le_rfl, s.now, by rw [lastMark_cons, if_pos rfl], le_rfl⟩
    · cases edge
  | mark table entityId =>
    cases edge
    exact h.marked rfl
  | commit id =>
    obtain ⟨push, found, rfl⟩ := Option.map_eq_some_iff.mp edge
    refine h.setPush id (fun other same => ?_)
    cases same
    exact h.outstanding id push found
  | deliver id =>
    simp only [poll] at edge
    split at edge
    · rename_i row sentAt result found
      cases edge
      obtain ⟨_, marked, last, later⟩ := h.outstanding id _ found
      have asked := h.asked row
      refine ⟨asked.faithful, asked.outstanding, fun d member => ?_⟩
      rcases List.mem_cons.mp member with rfl | older
      · simp only [last, Option.getD_some]
        refine ⟨h.faithful.answer_iff.trans ?_, Nat.sub_le_sub_left later s.now⟩
        simp [last, tracker]
      · exact h.deliveries d older
    · cases edge
  | check table entityId =>
    cases edge
    exact h.asked (table, entityId)
  | vacuum =>
    cases edge
    exact ⟨h.faithful.vacuum, h.outstanding, h.deliveries⟩
  | finish id =>
    obtain ⟨push, _, rfl⟩ := Option.map_eq_some_iff.mp edge
    exact h.setPush id nofun
  | elsewhere world =>
    cases edge
    exact ⟨h.faithful, h.outstanding, h.deliveries⟩

end

/-- In every run of any number of pushes the echo of an outstanding one that was committed is
recognised exactly when it comes within five seconds of the last mark of its key, which is its
own mark or a later one. -/
theorem run_echo {c : Coordinator p Mirror Queue} {w : World Mirror Queue}
    {labels : List (Label Mirror Queue)} {s : State Mirror Queue}
    (run : Run (Steps (poll c EchoTracker.withDefaultWindow.window)) (start w) labels s) :
    ∀ d ∈ s.deliveries, (d.recognised = true ↔ d.sinceMark < fromSecs echoExpiryWindowSecs) ∧
      d.sinceMark ≤ d.sinceSent := by
  have initial : Tracks EchoTracker.withDefaultWindow.window (start w) := by
    refine ⟨⟨fun key marked found => ?_, fun _ _ => nofun⟩, fun _ _ => nofun, fun _ => nofun⟩
    simp [start, tracker] at found
  exact (run.invariant initial (fun _ _ _ h edge => tracks_poll h edge)).deliveries

/-! The pushes of a message and of its delete, and an upsert of the same record. -/

def samplePushes : List Pending :=
  let session : SessionPayload := ⟨"user-1", "token", "refresh", 4102444800, 1⟩
  let upserted : EntityConfig := { messagesEntityConfig with writePath := .postgREST }
  [.write "messages" ⟨messagesEntityConfig, "m1", session, helloMessage⟩ none,
    .write "messages" ⟨upserted, "m1", session, helloMessage⟩ none,
    .tombstone "messages" "m1" 2 upserted session]

/-- The push is committed some time after its mark, and its echo comes at once. -/
def committedAfter (duration : Nat) (pending : Pending) :
    List (Label Map OfflineQueue.Memory.MemoryQueue) :=
  [.deliver 0, .commit 0, .pass duration, .send 0 (callAt 1 created) pending]

def samplePoll : State Map OfflineQueue.Memory.MemoryQueue →
    Label Map OfflineQueue.Memory.MemoryQueue →
    Option (State Map OfflineQueue.Memory.MemoryQueue) :=
  poll messagesCoordinator EchoTracker.withDefaultWindow.window

/-- What the run delivers, if it can be taken: the age of the last mark, and the answer. -/
def deliversAs (duration : Nat) (pending : Pending) : Option (List (Nat × Bool)) :=
  (execute samplePoll (start messagesWorld) (committedAfter duration pending)).map (fun s =>
    s.deliveries.map (fun d => (d.sinceMark, d.recognised)))

/-- Each of the pushes that the server commits after six seconds is delivered as if it were
another's. -/
theorem late_echo_unrecognised : samplePushes.map (deliversAs (fromSecs 6)) =
    List.replicate 3 (some [(fromSecs 6, false)]) := by
  decide

/-- One that it commits after a second is recognised. -/
theorem run_echo_in_time : ∃ s, ∃ d ∈ s.deliveries, d.recognised = true ∧
    Run (Steps samplePoll) (start messagesWorld)
      (committedAfter (fromSecs 1) (.tombstone "messages" "m1" 2 messagesEntityConfig
        ⟨"user-1", "token", "refresh", 4102444800, 1⟩)) s := by
  have computed : (execute samplePoll (start messagesWorld)
      (committedAfter (fromSecs 1) (.tombstone "messages" "m1" 2 messagesEntityConfig
        ⟨"user-1", "token", "refresh", 4102444800, 1⟩))).map
          (fun s => s.deliveries.map Delivery.sinceMark) = some [fromSecs 1] := by decide
  obtain ⟨s, computed, ages⟩ := Option.map_eq_some_iff.mp computed
  have run := run_of_execute computed
  obtain ⟨d, member, age⟩ : ∃ d ∈ s.deliveries, d.sinceMark = fromSecs 1 :=
    List.mem_map.mp (by rw [ages]; exact List.mem_cons_self)
  refine ⟨s, d, member, (run_echo run d member).1.mpr ?_, run⟩
  rw [age]
  decide

end Polykit.Sync.Echo
