/- Module: Polykit/Sync/EchoHistory
   generality: I
   source: crates/polybase/src/sync/echo.rs, crates/polybase/src/contract.rs
   digest: What the echo tracker answers after any history of calls, and what it forgets. -/

import Polykit.Lib.History
import Polykit.Sync.Echo

set_option autoImplicit false
set_option relaxedAutoImplicit false

namespace Polykit.Sync.Echo

open Contract Lib.Text

def EchoTracker.clear (tracker : EchoTracker) : EchoTracker := { tracker with inner := ∅ }

inductive Operation
  | markPushed (table entityId : String)
  | wasRecentlyPushed (table entityId : String)
  | vacuum
  | clear
  deriving DecidableEq

structure Event where
  instant : Nat
  operation : Operation
  deriving DecidableEq

def EchoTracker.perform (tracker : EchoTracker) (event : Event) : EchoTracker :=
  match event.operation with
  | .markPushed table entityId => tracker.markPushed event.instant table entityId
  | .wasRecentlyPushed table entityId =>
      (tracker.wasRecentlyPushed event.instant table entityId).1
  | .vacuum => tracker.vacuum event.instant
  | .clear => tracker.clear

def trackerAfter (window : Nat) (history : List Event) : EchoTracker :=
  history.foldr (fun event tracker => tracker.perform event) (.withWindow window)

def answerAt (window : Nat) (history : List Event) (now : Nat) (table entityId : String) : Bool :=
  ((trackerAfter window history).wasRecentlyPushed now table entityId).2

/-- The clock never goes back, and no table's name has a colon. -/
structure Regular (history : List Event) : Prop where
  clock : history.Pairwise (fun later earlier => earlier.instant ≤ later.instant)
  tables : ∀ event ∈ history, ∀ table entityId,
    event.operation = .markPushed table entityId → ':' ∉ table.toList

def LastMarked (history : List Event) (table entityId : String) (marked : Nat) : Prop :=
  ∃ newer older, history = newer ++ ⟨marked, .markPushed table entityId⟩ :: older ∧
    ∀ event ∈ newer, event.operation ≠ .clear ∧ event.operation ≠ .markPushed table entityId

theorem echoTrackerKey_inj {table entityId table' entityId' : String} (h : ':' ∉ table.toList)
    (h' : ':' ∉ table'.toList) :
    echoTrackerKey table entityId = echoTrackerKey table' entityId' ↔
      table = table' ∧ entityId = entityId' := by
  have chars : ∀ t i : String, (echoTrackerKey t i).toList = t.toList ++ ':' :: i.toList := by
    intro t i
    simp [echoTrackerKey]
  rw [← String.toList_inj, chars, chars, append_cons_inj h h', String.toList_inj, String.toList_inj]

/-- The marks since the last clear, as the tracker keys them. -/
def marksOf : List Event → List (String × Nat)
  | [] => []
  | event :: older =>
      match event.operation with
      | .markPushed table entityId => (echoTrackerKey table entityId, event.instant) :: marksOf older
      | .clear => []
      | _ => marksOf older

theorem faithful_clear {tracker : EchoTracker} {now : Nat} : Faithful tracker.clear now [] where
  known key marked found := by simp [EchoTracker.clear] at found
  fresh key marked last := by cases last

theorem Faithful.perform {tracker : EchoTracker} {older : List Event} (event : Event)
    (h : Faithful tracker event.instant (marksOf older)) :
    Faithful (tracker.perform event) event.instant (marksOf (event :: older)) := by
  obtain ⟨instant, operation⟩ := event
  cases operation with
  | markPushed table entityId => exact h.markPushed instant
  | wasRecentlyPushed table entityId => exact h.wasRecentlyPushed
  | vacuum => exact h.vacuum
  | clear => exact faithful_clear

theorem perform_window (tracker : EchoTracker) (event : Event) :
    (tracker.perform event).window = tracker.window := by
  obtain ⟨instant, operation⟩ := event
  cases operation with
  | wasRecentlyPushed table entityId => exact wasRecentlyPushed_window tracker instant _ _
  | _ => rfl

theorem trackerAfter_window (window : Nat) (history : List Event) :
    (trackerAfter window history).window = window := by
  induction history with
  | nil => rfl
  | cons event older ih => exact (perform_window _ event).trans ih

theorem faithful_trackerAfter {window now : Nat} {history : List Event}
    (clock : history.Pairwise (fun later earlier => earlier.instant ≤ later.instant))
    (late : ∀ event ∈ history, event.instant ≤ now) :
    Faithful (trackerAfter window history) now (marksOf history) := by
  induction history generalizing now with
  | nil => exact ⟨fun _ _ found => by simp [trackerAfter, EchoTracker.withWindow] at found, nofun⟩
  | cons event older ih =>
    obtain ⟨before, rest⟩ := List.pairwise_cons.mp clock
    obtain ⟨duration, rfl⟩ := Nat.exists_eq_add_of_le (late event List.mem_cons_self)
    exact ((ih rest before).perform event).pass duration

theorem lastMarked_cons {event : Event} {older : List Event} {table entityId : String}
    {marked : Nat} :
    LastMarked (event :: older) table entityId marked ↔
      event = ⟨marked, .markPushed table entityId⟩ ∨
        (event.operation ≠ .clear ∧ event.operation ≠ .markPushed table entityId ∧
          LastMarked older table entityId marked) := by
  constructor
  · rintro ⟨newer, rest, split, quiet⟩
    rcases Lib.History.split_cons split with ⟨rfl, rfl, rfl⟩ | ⟨between, rfl, shorter⟩
    · exact .inl rfl
    · obtain ⟨kept, other⟩ := quiet event List.mem_cons_self
      exact .inr ⟨kept, other, between, rest, shorter,
        fun e member => quiet e (List.mem_cons_of_mem _ member)⟩
  · rintro (rfl | ⟨kept, other, newer, rest, rfl, quiet⟩)
    · exact ⟨[], older, rfl, nofun⟩
    · refine ⟨event :: newer, rest, rfl, fun e member => ?_⟩
      rcases List.mem_cons.mp member with rfl | member
      · exact ⟨kept, other⟩
      · exact quiet e member

theorem lastMark_marksOf {history : List Event} {table entityId : String} {marked : Nat}
    (tables : ∀ event ∈ history, ∀ t i, event.operation = .markPushed t i → ':' ∉ t.toList)
    (plain : ':' ∉ table.toList) :
    lastMark (marksOf history) (echoTrackerKey table entityId) = some marked ↔
      LastMarked history table entityId marked := by
  induction history with
  | nil => simp [marksOf, lastMark, LastMarked]
  | cons event older ih =>
    have ofOlder := ih (fun e member => tables e (List.mem_cons_of_mem _ member))
    obtain ⟨instant, operation⟩ := event
    rw [lastMarked_cons]
    cases operation with
    | markPushed t i =>
      have other : ':' ∉ t.toList := tables _ List.mem_cons_self t i rfl
      rw [marksOf, lastMark_cons, ← ofOlder]
      simp only [echoTrackerKey_inj other plain]
      by_cases same : t = table ∧ i = entityId
      · simp [same]
      · simp [same]
    | clear => simp [marksOf, lastMark]
    | wasRecentlyPushed t i | vacuum => simp [marksOf, ofOlder]

theorem answerAt_iff {window now : Nat} {history : List Event} {table entityId : String}
    (regular : Regular history) (late : ∀ event ∈ history, event.instant ≤ now)
    (plain : ':' ∉ table.toList) :
    answerAt window history now table entityId = true ↔
      ∃ marked, LastMarked history table entityId marked ∧ now < marked + window := by
  have faithful : Faithful (trackerAfter window history) now (marksOf history) :=
    faithful_trackerAfter regular.clock late
  rw [answerAt, faithful.answer_iff, trackerAfter_window]
  refine exists_congr (fun marked => ?_)
  rw [lastMark_marksOf regular.tables plain]
  refine and_congr_right (fun last => ?_)
  obtain ⟨newer, older, split, _⟩ := last
  have past : marked ≤ now := late ⟨marked, .markPushed table entityId⟩ (by simp [split])
  omega

theorem lastMarked_filter {history : List Event} {keep : Event → Bool}
    (checks : ∀ event, keep event = false → ∀ table entityId,
      event.operation ≠ .markPushed table entityId ∧ event.operation ≠ .clear)
    {table entityId : String} {marked : Nat} :
    LastMarked (history.filter keep) table entityId marked ↔
      LastMarked history table entityId marked := by
  induction history with
  | nil => rfl
  | cons event older ih =>
    cases kept : keep event with
    | true => rw [List.filter_cons_of_pos kept, lastMarked_cons, lastMarked_cons, ih]
    | false =>
      have quiet := checks event kept table entityId
      rw [List.filter_cons_of_neg (by simp [kept]), lastMarked_cons, ih]
      constructor
      · exact fun before => .inr ⟨quiet.2, quiet.1, before⟩
      · rintro (rfl | ⟨_, _, before⟩)
        · exact absurd rfl quiet.1
        · exact before

/-- The tracker answers whether the last mark of a row since the last clear is less than the
window ago, and would answer the same without any of the checks and vacuums before. -/
theorem answerAt_exact {window now : Nat} {history : List Event} {table entityId : String}
    (regular : Regular history) (late : ∀ event ∈ history, event.instant ≤ now)
    (plain : ':' ∉ table.toList) :
    (answerAt window history now table entityId = true ↔
      ∃ marked, LastMarked history table entityId marked ∧ now < marked + window) ∧
    ∀ keep : Event → Bool,
      (∀ event, keep event = false → ∀ t i,
        event.operation ≠ .markPushed t i ∧ event.operation ≠ .clear) →
      answerAt window (history.filter keep) now table entityId =
        answerAt window history now table entityId := by
  refine ⟨answerAt_iff regular late plain, fun keep checks => ?_⟩
  have rest : Regular (history.filter keep) :=
    ⟨regular.clock.filter keep, fun event member =>
      regular.tables event (List.mem_of_mem_filter member)⟩
  have lateRest : ∀ event ∈ history.filter keep, event.instant ≤ now :=
    fun event member => late event (List.mem_of_mem_filter member)
  rw [Bool.eq_iff_iff, answerAt_iff rest lateRest plain, answerAt_iff regular late plain]
  exact exists_congr (fun marked => and_congr_left' (lastMarked_filter checks))

/-- Marked, checked while fresh, marked again, and asked after a vacuum and one second more. -/
theorem answerAt_exact_again :
    let history : List Event := [⟨9, .vacuum⟩, ⟨7, .markPushed "notes" "n:1"⟩,
      ⟨3, .wasRecentlyPushed "notes" "n:1"⟩, ⟨2, .markPushed "notes" "n:1"⟩, ⟨1, .clear⟩]
    answerAt 5 history 10 "notes" "n:1" = true ∧ answerAt 5 history 12 "notes" "n:1" = false := by
  intro history
  have regular : Regular history := by
    refine ⟨by decide, ?_⟩
    simp [history]
  have last : LastMarked history "notes" "n:1" 7 := ⟨[⟨9, .vacuum⟩], _, rfl, by decide⟩
  refine ⟨(answerAt_exact regular (by decide) (by decide)).1.mpr ⟨7, last, by decide⟩, ?_⟩
  have unvacuumed : answerAt 5 (history.filter (fun event => event.operation != .vacuum)) 12
      "notes" "n:1" = answerAt 5 history 12 "notes" "n:1" :=
    (answerAt_exact regular (by decide) (by decide)).2 _ (by simp +contextual)
  rw [← unvacuumed]
  decide

end Polykit.Sync.Echo
