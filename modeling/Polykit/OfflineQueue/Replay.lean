/- Module: Polykit/OfflineQueue/Replay
   generality: I
   source: crates/polybase/src/offline_queue/mod.rs
   digest: Over every run of enqueues and overlapping drains the queue is its pending work. -/

import Polykit.OfflineQueue.Memory

set_option autoImplicit false
set_option relaxedAutoImplicit false

namespace Polykit.OfflineQueue.Replay

open Contract Lib.Runs Lib.Worklist Memory

structure Drains where
  queue : MemoryQueue
  taken : List (List QueuedOperation)

inductive QueueEvent
  | enqueue (op : QueuedOperation)
  | snapshot
  | finalize (snapshot failed : List QueuedOperation)

/-- A finalize receives an earlier snapshot and failures drawn from it. The caller may have
written its own error into a failed operation. -/
inductive Step : Drains → QueueEvent → Drains → Prop
  | enqueue (s : Drains) (op : QueuedOperation) :
      Step s (.enqueue op) { s with queue := s.queue.enqueue op }
  | snapshot (s : Drains) :
      Step s .snapshot { s with taken := s.queue.snapshot :: s.taken }
  | finalize (s : Drains) (snapshot failed : List QueuedOperation)
      (earlier : snapshot ∈ s.taken)
      (drawn : ∀ f ∈ failed, f.identity ∈ snapshot.map QueuedOperation.identity) :
      Step s (.finalize snapshot failed)
        { s with queue := s.queue.finalizeAfterProcessing snapshot failed }

def start : Drains := ⟨MemoryQueue.new, []⟩

/-- Enqueues submit work. A finalize settles what its snapshot held and did not fail. -/
def discipline : Discipline QueueEvent QueuedOperation (String × String) where
  key := QueuedOperation.key
  submitted
    | .enqueue op => some op
    | _ => none
  settles
    | .finalize snapshot failed, op =>
        op.identity ∈ snapshot.map QueuedOperation.identity ∧
          op.identity ∉ failed.map QueuedOperation.identity
    | _, _ => False

def enqueued (events : List QueueEvent) : List QueuedOperation :=
  events.filterMap discipline.submitted

def DistinctStamps (events : List QueueEvent) : Prop :=
  (enqueued events).Pairwise
    (fun a b => a.key = b.key → a.queuedAtMicros ≠ b.queuedAtMicros)

/-- The queue holds its pending work, and snapshots hold enqueued work, one entry a key. -/
structure Tracks (events : List QueueEvent) (s : Drains) : Prop where
  entries : ∀ i, i ∈ s.queue.inner.map QueuedOperation.identity ↔
    ∃ op, Pending discipline events op ∧ op.identity = i
  oneEach : ∀ snapshot ∈ s.taken, (snapshot.map QueuedOperation.key).Nodup
  known : ∀ snapshot ∈ s.taken, ∀ entry ∈ snapshot,
    ∃ op ∈ enqueued events, op.identity = entry.identity

theorem pending_enqueued {events : List QueueEvent} {op : QueuedOperation}
    (h : Pending discipline events op) : op ∈ enqueued events := by
  obtain ⟨event, member, submitted⟩ := h.submitted
  exact List.mem_filterMap.mpr ⟨event, member, submitted⟩

theorem DistinctStamps.older {event : QueueEvent} {events : List QueueEvent}
    (h : DistinctStamps (event :: events)) : DistinctStamps events := by
  have part : (enqueued events).Sublist (enqueued (event :: events)) :=
    (List.sublist_cons_self event events).filterMap _
  exact List.Pairwise.sublist part h

theorem enqueued_eq {events : List QueueEvent} (distinct : DistinctStamps events)
    {a b : QueuedOperation} (ha : a ∈ enqueued events) (hb : b ∈ enqueued events)
    (same : a.toContract = b.toContract) : a = b := by
  have apart : ((enqueued events).map QueuedOperation.toContract).Nodup := by
    refine List.pairwise_map.mpr (distinct.imp ?_)
    intro x y stamps same
    exact stamps (congrArg ContractOperation.key same)
      (congrArg ContractOperation.queuedAtMicros same)
  exact List.inj_on_of_nodup_map apart ha hb same

theorem identity_mem_iff {events : List QueueEvent} (distinct : DistinctStamps events)
    {ops : List QueuedOperation}
    (known : ∀ entry ∈ ops, ∃ op ∈ enqueued events, op.identity = entry.identity)
    {op : QueuedOperation} (member : op ∈ enqueued events) :
    op.identity ∈ ops.map QueuedOperation.identity ↔
      op.toContract ∈ ops.map QueuedOperation.toContract := by
  constructor
  · intro h
    obtain ⟨entry, hentry, same⟩ := List.mem_map.mp h
    exact List.mem_map.mpr ⟨entry, hentry, congrArg Prod.fst same⟩
  · intro h
    obtain ⟨entry, hentry, same⟩ := List.mem_map.mp h
    obtain ⟨origin, horigin, hidentity⟩ := known entry hentry
    have sameKey : origin.toContract = op.toContract :=
      (congrArg Prod.fst hidentity).trans same
    rw [enqueued_eq distinct horigin member sameKey] at hidentity
    exact List.mem_map.mpr ⟨entry, hentry, hidentity.symm⟩

theorem tracks_start : Tracks [] start where
  entries := by simp [start, MemoryQueue.new, Pending]
  oneEach := by simp [start]
  known := by simp [start]

private theorem known_older {event : QueueEvent} {events : List QueueEvent}
    {entry : QueuedOperation} (h : ∃ op ∈ enqueued events, op.identity = entry.identity) :
    ∃ op ∈ enqueued (event :: events), op.identity = entry.identity := by
  obtain ⟨op, member, same⟩ := h
  exact ⟨op, ((List.sublist_cons_self event events).filterMap _).subset member, same⟩

theorem Tracks.enqueue {events : List QueueEvent} {s : Drains} (h : Tracks events s)
    (op : QueuedOperation) :
    Tracks (.enqueue op :: events) { s with queue := s.queue.enqueue op } where
  entries i := by
    rw [identity_mem_enqueue, h.entries]
    simp only [Pending, discipline, Option.some.injEq, not_false_eq_true, true_and]
    constructor
    · rintro (rfl | ⟨⟨older, pending, rfl⟩, other⟩)
      · exact ⟨op, .inl rfl, rfl⟩
      · exact ⟨older, .inr ⟨fun new hnew => hnew ▸ Ne.symm other, pending⟩, rfl⟩
    · rintro ⟨older, rfl | ⟨other, pending⟩, rfl⟩
      · exact .inl rfl
      · exact .inr ⟨⟨older, pending, rfl⟩, Ne.symm (other op rfl)⟩
  oneEach := h.oneEach
  known snapshot taken entry member := known_older (h.known snapshot taken entry member)

theorem Tracks.snapshot {events : List QueueEvent} {s : Drains} (h : Tracks events s) :
    Tracks (.snapshot :: events) { s with taken := s.queue.snapshot :: s.taken } where
  entries i := by
    rw [h.entries]
    simp [Pending, discipline]
  oneEach := by
    intro snapshot member
    rcases List.mem_cons.mp member with rfl | earlier
    · exact s.queue.distinct
    · exact h.oneEach snapshot earlier
  known := by
    intro snapshot member entry hentry
    rcases List.mem_cons.mp member with rfl | earlier
    · obtain ⟨op, pending, same⟩ := (h.entries entry.identity).mp (List.mem_map_of_mem hentry)
      exact known_older ⟨op, pending_enqueued pending, same⟩
    · exact known_older (h.known snapshot earlier entry hentry)

theorem Tracks.finalize {events : List QueueEvent} {s : Drains} (h : Tracks events s)
    (distinct : DistinctStamps events) {snapshot failed : List QueuedOperation}
    (earlier : snapshot ∈ s.taken)
    (drawn : ∀ f ∈ failed, f.identity ∈ snapshot.map QueuedOperation.identity) :
    Tracks (.finalize snapshot failed :: events)
      { s with queue := s.queue.finalizeAfterProcessing snapshot failed } where
  entries i := by
    have drawnKeys : ∀ f ∈ failed, f.toContract ∈ snapshot.map QueuedOperation.toContract := by
      intro f hf
      obtain ⟨entry, hentry, same⟩ := List.mem_map.mp (drawn f hf)
      exact List.mem_map.mpr ⟨entry, hentry, congrArg Prod.fst same⟩
    have knownFailed : ∀ f ∈ failed, ∃ op ∈ enqueued events, op.identity = f.identity := by
      intro f hf
      obtain ⟨entry, hentry, same⟩ := List.mem_map.mp (drawn f hf)
      rw [← same]
      exact h.known snapshot earlier entry hentry
    rw [identity_mem_finalize (h.oneEach snapshot earlier) drawnKeys, h.entries]
    simp only [Pending, discipline, reduceCtorEq, false_or, not_and, not_not,
      IsEmpty.forall_iff, implies_true, true_and]
    constructor
    · rintro ⟨⟨op, pending, rfl⟩, survives⟩
      have member := pending_enqueued pending
      refine ⟨op, ⟨?_, pending⟩, rfl⟩
      rw [identity_mem_iff distinct (h.known snapshot earlier) member,
        identity_mem_iff distinct knownFailed member]
      exact fun held => survives.resolve_left (not_not.mpr held)
    · rintro ⟨op, ⟨unsettled, pending⟩, rfl⟩
      have member := pending_enqueued pending
      rw [identity_mem_iff distinct (h.known snapshot earlier) member,
        identity_mem_iff distinct knownFailed member] at unsettled
      exact ⟨⟨op, pending, rfl⟩, Classical.or_iff_not_imp_left.mpr
        (fun held => unsettled (not_not.mp held))⟩
  oneEach := h.oneEach
  known snapshot taken entry member := known_older (h.known snapshot taken entry member)

theorem run_tracks {events : List QueueEvent} {s : Drains} (run : Run Step start events s)
    (distinct : DistinctStamps events) : Tracks events s := by
  refine run.history_invariant (I := fun events s => DistinctStamps events → Tracks events s)
    (fun _ => tracks_start) ?_ distinct
  intro older s event t ih edge stamps
  have before := ih stamps.older
  cases edge with
  | enqueue op => exact before.enqueue op
  | snapshot => exact before.snapshot
  | finalize snapshot failed earlier drawn => exact before.finalize stamps.older earlier drawn

/-- At any point of any run a key has at most one entry, the entry is the last operation
enqueued for the key, and the key is missing exactly when it was never enqueued or a finalize
issued after that last enqueue had the operation in its snapshot and not among its failures. -/
theorem memoryQueue_holds_last_unsettled {events : List QueueEvent} {s : Drains}
    (run : Run Step start events s) (distinct : DistinctStamps events)
    (key : String × String) :
    (s.queue.inner.map QueuedOperation.key).Nodup ∧
      (∀ entry ∈ s.queue.inner, entry.key = key →
        ∃ op newer, SubmittedLast discipline events op newer ∧
          entry.identity = op.identity) ∧
      ((∀ entry ∈ s.queue.inner, entry.key ≠ key) ↔
        (∀ op ∈ enqueued events, op.key ≠ key) ∨
          ∃ op newer snapshot failed, SubmittedLast discipline events op newer ∧
            op.key = key ∧ QueueEvent.finalize snapshot failed ∈ newer ∧
            op.identity ∈ snapshot.map QueuedOperation.identity ∧
            op.identity ∉ failed.map QueuedOperation.identity) := by
  have tracks := run_tracks run distinct
  refine ⟨s.queue.distinct, ?_, ?_⟩
  · intro entry member _
    obtain ⟨op, pending, same⟩ :=
      (tracks.entries entry.identity).mp (List.mem_map_of_mem member)
    obtain ⟨newer, last, _⟩ := pending_iff.mp pending
    exact ⟨op, newer, last, same.symm⟩
  · have absent : (∀ entry ∈ s.queue.inner, entry.key ≠ key) ↔
        ∀ op, Pending discipline events op → discipline.key op ≠ key := by
      constructor
      · intro missing op pending hkey
        obtain ⟨entry, member, same⟩ :=
          List.mem_map.mp ((tracks.entries op.identity).mpr ⟨op, pending, rfl⟩)
        exact missing entry member ((key_of_identity same).trans hkey)
      · intro none entry member hkey
        obtain ⟨op, pending, same⟩ :=
          (tracks.entries entry.identity).mp (List.mem_map_of_mem member)
        exact none op pending ((key_of_identity same).trans hkey)
    rw [absent, no_pending_iff]
    refine or_congr ?_ ?_
    · simp only [enqueued, List.mem_filterMap]
      exact ⟨fun h op ⟨e, member, submitted⟩ => h e member op submitted,
        fun h e member op submitted => h op ⟨e, member, submitted⟩⟩
    · constructor
      · rintro ⟨op, newer, last, hkey, event, member, settled⟩
        cases event with
        | finalize snapshot failed =>
          exact ⟨op, newer, snapshot, failed, last, hkey, member, settled⟩
        | enqueue _ => exact settled.elim
        | snapshot => exact settled.elim
      · rintro ⟨op, newer, snapshot, failed, last, hkey, member, settled⟩
        exact ⟨op, newer, last, hkey, _, member, settled⟩

/-- A drain that succeeds empties its key. -/
theorem memoryQueue_holds_last_unsettled_drained :
    let op : QueuedOperation := ⟨"kvs", "a", .hardDelete, 1, 0, none⟩
    let events : List QueueEvent := [.finalize [op] [], .snapshot, .enqueue op]
    ∃ s, Run Step start events s ∧ DistinctStamps events ∧
      ∀ entry ∈ s.queue.inner, entry.key ≠ ("kvs", "a") := by
  intro op events
  have distinct : DistinctStamps events := by
    simp [DistinctStamps, enqueued, events, discipline]
  have run : Run Step start events _ :=
    ((Run.refl.tail (.enqueue start op)).tail (.snapshot _)).tail
      (.finalize _ [op] [] List.mem_cons_self (by simp))
  have holds := memoryQueue_holds_last_unsettled run distinct ("kvs", "a")
  refine ⟨_, run, distinct, holds.2.2.mpr (.inr ?_)⟩
  refine ⟨op, [.finalize [op] [], .snapshot], [op], [], ?_, rfl, by simp, by simp, by simp⟩
  exact ⟨.enqueue op, [], rfl, rfl, by simp [discipline]⟩

end Polykit.OfflineQueue.Replay
