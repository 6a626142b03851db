/- Module: Polykit/Sync/Timestamps
   generality: I
   source: crates/polybase/src/sync/coordinator.rs, crates/polybase/src/contract.rs, crates/polybase/src/offline_queue/mod.rs
   digest: The queue's timestamp contract holds exactly as far as the wall clock advances. -/

import Polykit.Lib.Runs
import Polykit.Lib.Worklist
import Polykit.Sync.Calls

set_option autoImplicit false
set_option relaxedAutoImplicit false

namespace Polykit.Sync.Timestamps

open Auth Calls Contract Crypto Json Lib.Runs Lib.Worklist OfflineQueue.Memory
open Wire.Http

/-- A memory queue beside the log of all that was ever enqueued, newest first. -/
structure LoggedQueue where
  queue : MemoryQueue
  log : List QueuedOperation

def loggedQueue : OfflineQueue LoggedQueue where
  enqueue logged op := (⟨logged.queue.enqueue op, op :: logged.log⟩, .ok ())
  depth logged := .ok logged.queue.depth

/-- A coordinator at work beside its drains. `readings` are the wall clock readings of the
calls that ended in the queue, newest first. A snapshot is kept with the length of the log
when it was taken. `lost` collects what finalizes dropped although it was enqueued after
their snapshot. -/
structure DrainState (Mirror : Type) where
  world : World Mirror LoggedQueue
  readings : List Int64 := []
  taken : List (List QueuedOperation × Nat) := []
  lost : List QueuedOperation := []

def enqueuedSince (log : List QueuedOperation) (mark : Nat) : List QueuedOperation :=
  log.take (log.length - mark)

/-- Keys are compared by their text. -/
local instance keyLawfulBEq : LawfulBEq (String × String) := inferInstance

/-- The entries whose key was enqueued since the mark and is missing afterwards. -/
def lostBy (before : LoggedQueue) (mark : Nat) (after : MemoryQueue) : List QueuedOperation :=
  before.queue.inner.filter (fun entry =>
    decide (entry.key ∈ (enqueuedSince before.log mark).map QueuedOperation.key) &&
      decide (entry.key ∉ after.inner.map QueuedOperation.key))

inductive DrainEvent
  | call (env : CallEnv) (call : Call)
  | signIn (session : Option SessionPayload)
  | snapshot
  | finalize (snapshot failed : List QueuedOperation)

variable {p : Primitives} {Mirror : Type}

def DrainState.afterCall (c : Coordinator p Mirror LoggedQueue) (s : DrainState Mirror)
    (env : CallEnv) (call : Call) : DrainState Mirror :=
  { s with
    world := (runCall c env s.world call).1
    readings :=
      if (runCall c env s.world call).1.queue.log.length = s.world.queue.log.length then
        s.readings
      else nowMicros env.epochMicros :: s.readings }

def DrainState.afterFinalize (s : DrainState Mirror) (snapshot : List QueuedOperation)
    (mark : Nat) (failed : List QueuedOperation) : DrainState Mirror :=
  let after := s.world.queue.queue.finalizeAfterProcessing snapshot failed
  { s with
    world := { s.world with queue := { s.world.queue with queue := after } }
    lost := lostBy s.world.queue mark after ++ s.lost }

inductive DrainStep (c : Coordinator p Mirror LoggedQueue) :
    DrainState Mirror → DrainEvent → DrainState Mirror → Prop
  | call (s : DrainState Mirror) (env : CallEnv) (call : Call) :
      DrainStep c s (.call env call) (s.afterCall c env call)
  | signIn (s : DrainState Mirror) (session : Option SessionPayload) :
      DrainStep c s (.signIn session) { s with world := { s.world with session := session } }
  | snapshot (s : DrainState Mirror) :
      DrainStep c s .snapshot
        { s with taken := (s.world.queue.queue.snapshot, s.world.queue.log.length) :: s.taken }
  | finalize (s : DrainState Mirror) (snapshot : List QueuedOperation) (mark : Nat)
      (failed : List QueuedOperation) (earlier : (snapshot, mark) ∈ s.taken)
      (drawn : ∀ f ∈ failed, f.toContract ∈ snapshot.map QueuedOperation.toContract) :
      DrainStep c s (.finalize snapshot failed) (s.afterFinalize snapshot mark failed)

/-- Stamps increase in the order of enqueueing, and no drain drops a later write. -/
structure KeepsContract (s : DrainState Mirror) : Prop where
  increasing : (s.world.queue.log.map QueuedOperation.queuedAtMicros).Pairwise (· > ·)
  kept : s.lost = []

def logDiscipline : Discipline QueuedOperation QueuedOperation (String × String) where
  key := QueuedOperation.key
  submitted := some
  settles _ _ := False

/-- Entries are the last of their key in the log, snapshots were enqueued before their mark,
and nothing is lost while the readings advance. -/
structure Tracks (s : DrainState Mirror) : Prop where
  stamps : s.world.queue.log.map QueuedOperation.queuedAtMicros = s.readings
  entries : ∀ entry ∈ s.world.queue.queue.inner, ∃ op newer,
    SubmittedLast logDiscipline s.world.queue.log op newer ∧ op.toContract = entry.toContract
  oneEach : ∀ t ∈ s.taken, (t.1.map QueuedOperation.key).Nodup
  marked : ∀ t ∈ s.taken, t.2 ≤ s.world.queue.log.length ∧ ∀ entry ∈ t.1,
    ∃ op ∈ s.world.queue.log.drop (s.world.queue.log.length - t.2),
      op.toContract = entry.toContract
  kept : s.readings.Pairwise (· > ·) → s.lost = []

/-- In a log of decreasing stamps, the last operation of a key that was enqueued among the
first `n` has a stamp above all that lie behind them. -/
theorem stamp_lt_of_enqueuedSince {log newer : List QueuedOperation} {op behind : QueuedOperation}
    {n : Nat} (decreasing : (log.map QueuedOperation.queuedAtMicros).Pairwise (· > ·))
    (last : SubmittedLast logDiscipline log op newer)
    (since : op.key ∈ (log.take n).map QueuedOperation.key) (member : behind ∈ log.drop n) :
    behind.queuedAtMicros < op.queuedAtMicros := by
  obtain ⟨submission, older, rfl, same, quiet⟩ := last
  cases same
  have front : op ∈ (newer ++ op :: older).take n := by
    obtain ⟨o, taken, hkey⟩ := List.mem_map.mp since
    rw [List.take_append] at taken ⊢
    rcases List.mem_append.mp taken with before | own
    · exact (quiet o (List.mem_of_mem_take before) o rfl hkey).elim
    · cases room : n - newer.length with
      | zero => simp [room] at own
      | succ m => simp
  rw [← List.take_append_drop n (newer ++ op :: older), List.map_append,
    List.pairwise_append] at decreasing
  exact decreasing.2.2 _ (List.mem_map_of_mem front) _ (List.mem_map_of_mem member)

theorem tracks_enqueue {s : DrainState Mirror} (h : Tracks s) {t : DrainState Mirror}
    (op : QueuedOperation) (queue : t.world.queue = (loggedQueue.enqueue s.world.queue op).1)
    (readings : t.readings = op.queuedAtMicros :: s.readings) (taken : t.taken = s.taken)
    (lost : t.lost = s.lost) : Tracks t where
  stamps := by
    rw [queue, readings, ← h.stamps]
    rfl
  entries := by
    rw [queue]
    intro entry member
    rcases (mem_enqueue _ _ _).mp member with rfl | ⟨earlier, other⟩
    · exact ⟨entry, [], submittedLast_head rfl, rfl⟩
    · obtain ⟨older, newer, last, same⟩ := h.entries entry earlier
      refine ⟨older, op :: newer, last.cons ?_, same⟩
      rintro new ⟨⟩ clash
      exact other ((congrArg ContractOperation.key same).symm.trans clash.symm)
  oneEach := by
    rw [taken]
    exact h.oneEach
  marked := by
    rw [taken, queue]
    intro t member
    obtain ⟨bound, held⟩ := h.marked t member
    have shift : (loggedQueue.enqueue s.world.queue op).1.log.length - t.2 =
        (s.world.queue.log.length - t.2) + 1 := by
      simp only [loggedQueue, List.length_cons]
      omega
    refine ⟨by simp only [loggedQueue, List.length_cons]; omega, ?_⟩
    intro entry hentry
    rw [shift]
    exact held entry hentry
  kept := by
    rw [readings, lost]
    exact fun advancing => h.kept (List.pairwise_cons.mp advancing).2

theorem tracks_call {c : Coordinator p Mirror LoggedQueue} (logged : c.queue = loggedQueue)
    {s : DrainState Mirror} (h : Tracks s) (env : CallEnv) (call : Call) :
    Tracks (s.afterCall c env call) := by
  rcases call_queue c env s.world call with kept | ⟨op, queued, enqueued⟩
  · have readings : (s.afterCall c env call).readings = s.readings := by
      simp [DrainState.afterCall, kept]
    have queue : (s.afterCall c env call).world.queue = s.world.queue := kept
    exact {
      stamps := by rw [queue, readings, h.stamps]
      entries := by rw [queue]; exact h.entries
      oneEach := h.oneEach
      marked := by rw [queue]; exact h.marked
      kept := by rw [readings]; exact h.kept }
  · rw [logged] at enqueued
    refine tracks_enqueue h op enqueued ?_ rfl rfl
    have grown : (runCall c env s.world call).1.queue.log.length ≠
        s.world.queue.log.length := by
      rw [enqueued]
      simp [loggedQueue]
    simp only [DrainState.afterCall, grown, if_false, queued.stamp]

theorem tracks_snapshot {s : DrainState Mirror} (h : Tracks s) :
    Tracks { s with
      taken := (s.world.queue.queue.snapshot, s.world.queue.log.length) :: s.taken } where
  stamps := h.stamps
  entries := h.entries
  oneEach := by
    intro t member
    rcases List.mem_cons.mp member with rfl | earlier
    · exact s.world.queue.queue.distinct
    · exact h.oneEach t earlier
  marked := by
    intro t member
    rcases List.mem_cons.mp member with rfl | earlier
    · refine ⟨Nat.le_refl _, ?_⟩
      intro entry hentry
      obtain ⟨op, newer, ⟨event, older, split, submitted, _⟩, same⟩ := h.entries entry hentry
      cases submitted
      exact ⟨op, by simp [split], same⟩
    · exact h.marked t earlier
  kept := h.kept

theorem tracks_finalize {s : DrainState Mirror} (h : Tracks s)
    {snapshot failed : List QueuedOperation} {mark : Nat} (earlier : (snapshot, mark) ∈ s.taken)
    (drawn : ∀ f ∈ failed, f.toContract ∈ snapshot.map QueuedOperation.toContract) :
    Tracks (s.afterFinalize snapshot mark failed) where
  stamps := h.stamps
  entries := by
    intro entry member
    obtain ⟨origin, horigin, same⟩ := List.mem_map.mp
      ((identity_mem_finalize (h.oneEach _ earlier) drawn entry.identity).mp
        (List.mem_map_of_mem member)).1
    obtain ⟨op, newer, last, hop⟩ := h.entries origin horigin
    exact ⟨op, newer, last, hop.trans (congrArg Prod.fst same)⟩
  oneEach := h.oneEach
  marked := h.marked
  kept := by
    intro advancing
    have before := h.kept advancing
    have decreasing : (s.world.queue.log.map QueuedOperation.queuedAtMicros).Pairwise
        (· > ·) := by
      rw [h.stamps]
      exact advancing
    suffices none : lostBy s.world.queue mark
        (s.world.queue.queue.finalizeAfterProcessing snapshot failed) = [] by
      simp [DrainState.afterFinalize, none, before]
    rw [lostBy, List.filter_eq_nil_iff]
    intro entry member
    simp only [Bool.and_eq_true, decide_eq_true_eq, not_and, not_not]
    intro since
    obtain ⟨op, newer, last, same⟩ := h.entries entry member
    have sameKey : op.key = entry.key := congrArg ContractOperation.key same
    have absent : entry.toContract ∉ snapshot.map QueuedOperation.toContract := by
      intro held
      obtain ⟨old, hold, hcontract⟩ := List.mem_map.mp held
      obtain ⟨behind, hbehind, hsame⟩ := (h.marked _ earlier).2 old hold
      have later := stamp_lt_of_enqueuedSince decreasing last (sameKey ▸ since) hbehind
      have equal : behind.queuedAtMicros = op.queuedAtMicros :=
        congrArg ContractOperation.queuedAtMicros (hsame.trans (hcontract.trans same.symm))
      rw [equal] at later
      exact Int64.lt_irrefl later
    have stays : entry.identity ∈ (s.world.queue.queue.finalizeAfterProcessing snapshot
        failed).inner.map QueuedOperation.identity :=
      (identity_mem_finalize (h.oneEach _ earlier) drawn entry.identity).mpr
        ⟨List.mem_map_of_mem member, .inl absent⟩
    obtain ⟨left, hleft, hidentity⟩ := List.mem_map.mp stays
    exact List.mem_map.mpr ⟨left, hleft, key_of_identity hidentity⟩

theorem run_tracks {c : Coordinator p Mirror LoggedQueue} (logged : c.queue = loggedQueue)
    {w : World Mirror LoggedQueue} (empty : w.queue = ⟨MemoryQueue.new, []⟩)
    {events : List DrainEvent} {s : DrainState Mirror}
    (run : Run (DrainStep c) { world := w } events s) : Tracks s := by
  refine run.invariant ?_ ?_
  · exact {
      stamps := by simp [empty]
      entries := by simp [empty, MemoryQueue.new]
      oneEach := by simp
      marked := by simp
      kept := fun _ => rfl }
  · intro s event t before step
    cases step with
    | call env call => exact tracks_call logged before env call
    | signIn session => exact ⟨before.1, before.2, before.3, before.4, before.5⟩
    | snapshot => exact tracks_snapshot before
    | finalize snapshot mark failed earlier drawn => exact tracks_finalize before earlier drawn

/-- Over every run from an empty queue, the contract is kept exactly when the wall clock, as
`nowMicros` reads it, advances from each call that ends in the queue to the next. -/
theorem keepsContract_iff {c : Coordinator p Mirror LoggedQueue} (logged : c.queue = loggedQueue)
    {w : World Mirror LoggedQueue} (empty : w.queue = ⟨MemoryQueue.new, []⟩)
    {events : List DrainEvent} {s : DrainState Mirror}
    (run : Run (DrainStep c) { world := w } events s) :
    KeepsContract s ↔ s.readings.Pairwise (· > ·) := by
  have tracks := run_tracks logged empty run
  constructor
  · intro keeps
    rw [← tracks.stamps]
    exact keeps.increasing
  · intro advancing
    exact ⟨by rw [tracks.stamps]; exact advancing, tracks.kept advancing⟩

/-- Under a stalled clock two writes of a row share a stamp, and the drain that replayed the
first drops the second. -/
theorem stalled_clock_loses_write :
    let c := kvsCoordinator loggedQueue
    let w := signedInWorld (⟨MemoryQueue.new, []⟩ : LoggedQueue)
    ∃ events s, Run (DrainStep c) { world := w } events s ∧ ¬ KeepsContract s := by
  intro c w
  let start : DrainState Unit := { world := w }
  let first := start.afterCall c (callAt 5 (.failed "offline")) (writeTheme 1)
  let held : DrainState Unit :=
    { first with taken := (first.world.queue.queue.snapshot, 1) :: first.taken }
  let second := held.afterCall c (callAt 5 (.failed "offline")) (writeTheme 2)
  let done := second.afterFinalize first.world.queue.queue.snapshot 1 []
  have run : Run (DrainStep c) start _ done :=
    (((Run.refl.tail (.call start _ _)).tail (.snapshot first)).tail (.call held _ _)).tail
      (.finalize second first.world.queue.queue.snapshot 1 [] List.mem_cons_self (by simp))
  refine ⟨_, done, run, ?_⟩
  intro keeps
  have dropped : done.lost.length = 1 := by decide
  rw [keeps.kept] at dropped
  cases dropped

/-- Two failed writes under an advancing clock, with a drain of the first in between. -/
theorem keepsContract_iff_advancing :
    let c := kvsCoordinator loggedQueue
    let w := signedInWorld (⟨MemoryQueue.new, []⟩ : LoggedQueue)
    ∃ events s, Run (DrainStep c) { world := w } events s ∧ s.world.queue.queue.depth = 1 ∧
      KeepsContract s := by
  intro c w
  let start : DrainState Unit := { world := w }
  let first := start.afterCall c (callAt 5 (.failed "offline")) (writeTheme 1)
  let held : DrainState Unit :=
    { first with taken := (first.world.queue.queue.snapshot, 1) :: first.taken }
  let second := held.afterCall c (callAt 6 (.failed "offline")) (writeTheme 2)
  let done := second.afterFinalize first.world.queue.queue.snapshot 1 []
  have run : Run (DrainStep c) start _ done :=
    (((Run.refl.tail (.call start _ _)).tail (.snapshot first)).tail (.call held _ _)).tail
      (.finalize second first.world.queue.queue.snapshot 1 [] List.mem_cons_self (by simp))
  exact ⟨_, done, run, by decide, (keepsContract_iff rfl rfl run).mpr (by decide)⟩

end Polykit.Sync.Timestamps
