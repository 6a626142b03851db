/- Module: Polykit/Lib/Broadcast
   generality: G
   source: none(general)
   digest: A bounded broadcast channel with lagging receivers, and a channel of the latest value. -/

import Mathlib.Tactic

set_option autoImplicit false
set_option relaxedAutoImplicit false

namespace Polykit.Lib.Broadcast

variable {α : Type*} {capacity : Nat}

/-- The values that are still held, oldest first, behind those that were overwritten. -/
structure Channel (α : Type*) (capacity : Nat) where
  dropped : Nat
  held : List α
  bounded : held.length ≤ capacity

/-- What a receiver is told: a value, or how many values it has missed. -/
inductive Report (α : Type*)
  | value (value : α)
  | lagged (missed : Nat)
  deriving DecidableEq

def Channel.empty : Channel α capacity := ⟨0, [], Nat.zero_le capacity⟩

/-- The position of the next value to be sent, where a new receiver begins. -/
def Channel.tail (c : Channel α capacity) : Nat := c.dropped + c.held.length

/-- Once the channel is full, a value takes the place of the oldest one. -/
def Channel.send (c : Channel α capacity) (value : α) : Channel α capacity where
  dropped := c.dropped + (c.held.length + 1 - capacity)
  held := (c.held ++ [value]).drop (c.held.length + 1 - capacity)
  bounded := by
    rw [List.length_drop, List.length_append, List.length_singleton]
    omega

/-- What a receiver at the position is told, if anything, and where it stands then. -/
def Channel.recv (c : Channel α capacity) (next : Nat) : Option (Report α) × Nat :=
  if next < c.dropped then (some (.lagged (c.dropped - next)), c.dropped)
  else
    match c.held[next - c.dropped]? with
    | some value => (some (.value value), next + 1)
    | none => (none, next)

def Report.value? : Report α → Option α
  | .value sent => some sent
  | .lagged _ => none

def Report.isLag : Report α → Bool
  | .value _ => false
  | .lagged _ => true

def Report.span : Report α → Nat
  | .value _ => 1
  | .lagged missed => missed

def values (reports : List (Report α)) : List α := reports.filterMap Report.value?

@[simp] theorem values_nil : values ([] : List (Report α)) = [] := rfl

@[simp] theorem values_append (reports later : List (Report α)) :
    values (reports ++ later) = values reports ++ values later :=
  List.filterMap_append

@[simp] theorem values_value (value : α) : values [Report.value value] = [value] := rfl

@[simp] theorem values_lagged (missed : Nat) :
    values [(Report.lagged missed : Report α)] = [] := rfl

/-- Read in order, the reports cover the log: each stretch of it was handed over, or its length
was reported. -/
inductive Accounts : List α → List (Report α) → Prop
  | nil : Accounts [] []
  | value {log : List α} {reports : List (Report α)} (value : α) (rest : Accounts log reports) :
      Accounts (value :: log) (.value value :: reports)
  | lagged {log : List α} {reports : List (Report α)} (lost : List α) (some : lost ≠ [])
      (rest : Accounts log reports) :
      Accounts (lost ++ log) (.lagged lost.length :: reports)

/-- The stretches of the log that the reports pass over. -/
def lost : List α → List (Report α) → List α
  | _, [] => []
  | log, .value _ :: reports => lost (log.drop 1) reports
  | log, .lagged missed :: reports => log.take missed ++ lost (log.drop missed) reports

section Reports

variable {log more : List α} {reports later : List (Report α)}

theorem Accounts.append (h : Accounts log reports) (rest : Accounts more later) :
    Accounts (log ++ more) (reports ++ later) := by
  induction h with
  | nil => exact rest
  | value value _ ih => exact ih.value value
  | lagged lost some _ ih =>
    rw [List.append_assoc]
    exact ih.lagged lost some

theorem Accounts.sublist (h : Accounts log reports) : (values reports).Sublist log := by
  induction h with
  | nil => exact .slnil
  | value value _ ih => exact ih.cons_cons value
  | lagged lost _ _ ih => exact ih.trans (List.sublist_append_right lost _)

theorem Accounts.length (h : Accounts log reports) :
    log.length = (reports.map Report.span).sum := by
  induction h with
  | nil => rfl
  | value value _ ih =>
    rw [List.length_cons, List.map_cons, List.sum_cons, ← ih, Report.span]
    omega
  | lagged lost _ _ ih =>
    rw [List.length_append, List.map_cons, List.sum_cons, ← ih, Report.span]

theorem Accounts.perm (h : Accounts log reports) :
    log.Perm (values reports ++ lost log reports) := by
  induction h with
  | nil => exact .nil
  | value value _ ih =>
    show (value :: _).Perm (value :: (values _ ++ lost _ _))
    exact ih.cons value
  | @lagged log reports gap _ _ ih =>
    have whole : lost (gap ++ log) (.lagged gap.length :: reports) = gap ++ lost log reports := by
      rw [lost, List.take_left, List.drop_left]
    show (gap ++ log).Perm (values reports ++ lost (gap ++ log) _)
    rw [whole, ← List.append_assoc]
    refine (ih.append_left gap).trans ?_
    rw [← List.append_assoc]
    exact List.perm_append_comm.append_right _

theorem Accounts.filterMap_values {β : Type*} {f : α → Option β} (h : Accounts log reports)
    (useless : (lost log reports).filterMap f = []) :
    (values reports).filterMap f = log.filterMap f := by
  induction h with
  | nil => rfl
  | value value _ ih =>
    show (value :: values _).filterMap f = _
    rw [List.filterMap_cons, List.filterMap_cons, ih useless]
  | lagged gap _ _ ih =>
    rw [lost, List.take_left, List.drop_left, List.filterMap_append] at useless
    obtain ⟨first, rest⟩ := List.append_eq_nil_iff.mp useless
    rw [List.filterMap_append, first, List.nil_append, ← ih rest]
    rfl

theorem Accounts.complete_iff (h : Accounts log reports) :
    values reports = log ↔ ∀ report ∈ reports, report.isLag = false := by
  induction h with
  | nil => simp
  | value value rest ih =>
    show value :: values _ = value :: _ ↔ _
    rw [List.cons.injEq, ih]
    simp [Report.isLag]
  | @lagged log reports lost some rest ih =>
    constructor
    · intro whole
      -- what is left of the log is too short for it
      have fits := rest.sublist.length_le
      have same : (values reports).length = (lost ++ log).length := congrArg List.length whole
      rw [List.length_append] at same
      have positive := List.length_pos_iff.mpr some
      omega
    · intro quiet
      exact absurd (quiet _ List.mem_cons_self).symm Bool.false_ne_true

theorem lost_eq_nil (h : Accounts log reports)
    (quiet : ∀ report ∈ reports, report.isLag = false) : lost log reports = [] := by
  have whole := h.complete_iff.mpr quiet
  have size := h.perm.length_eq
  rw [whole, List.length_append] at size
  exact List.eq_nil_of_length_eq_zero (by omega)

end Reports

/-! A channel beside the log of all that was sent on it. -/

/-- The channel holds the end of the log, and has dropped nothing before it was full. -/
structure Channel.Holds (c : Channel α capacity) (log : List α) : Prop where
  within : c.dropped ≤ log.length
  held : c.held = log.drop c.dropped
  full : 0 < c.dropped → c.held.length = capacity

/-- A receiver that began at `start` stands at `next`, and its reports cover the log between. -/
structure Tracks (log : List α) (start next : Nat) (reports : List (Report α)) : Prop where
  begun : start ≤ next
  within : next ≤ log.length
  accounts : Accounts ((log.take next).drop start) reports

section Log

variable {c : Channel α capacity} {log : List α} {start next : Nat} {reports : List (Report α)}

theorem holds_empty : (Channel.empty : Channel α capacity).Holds [] where
  within := le_rfl
  held := rfl
  full := fun positive => absurd positive (lt_irrefl 0)

theorem Channel.Holds.send (h : c.Holds log) (value : α) :
    (c.send value).Holds (log ++ [value]) where
  within := by
    have size := congrArg List.length h.held
    have bounded := c.bounded
    have within := h.within
    rw [List.length_drop] at size
    rw [List.length_append, List.length_singleton]
    show c.dropped + (c.held.length + 1 - capacity) ≤ log.length + 1
    omega
  held := by
    show (c.held ++ [value]).drop _ = (log ++ [value]).drop (c.dropped + _)
    rw [← List.drop_drop, List.drop_append_of_le_length h.within, ← h.held]
  full := by
    intro positive
    have bounded := c.bounded
    change 0 < c.dropped + (c.held.length + 1 - capacity) at positive
    show ((c.held ++ [value]).drop (c.held.length + 1 - capacity)).length = capacity
    rw [List.length_drop, List.length_append, List.length_singleton]
    rcases Nat.eq_zero_or_pos c.dropped with none | some
    · omega
    · have full := h.full some
      omega

theorem Channel.Holds.tail (h : c.Holds log) : c.tail = log.length := by
  have size := congrArg List.length h.held
  have within := h.within
  rw [List.length_drop] at size
  unfold Channel.tail
  omega

theorem tracks_new (log : List α) : Tracks log log.length log.length [] where
  begun := le_rfl
  within := le_rfl
  accounts := by
    rw [List.take_length, List.drop_length]
    exact .nil

theorem Tracks.send (h : Tracks log start next reports) (more : List α) :
    Tracks (log ++ more) start next reports where
  begun := h.begun
  within := by
    have within := h.within
    rw [List.length_append]
    omega
  accounts := by
    rw [List.take_append_of_le_length h.within]
    exact h.accounts

theorem Tracks.report (h : Tracks log start next reports) {stretch : List α} {report : Report α}
    (here : stretch <+: log.drop next) (told : Accounts stretch [report]) :
    Tracks log start (next + stretch.length) (reports ++ [report]) where
  begun := by
    have begun := h.begun
    omega
  within := by
    have size := here.length_le
    have within := h.within
    rw [List.length_drop] at size
    omega
  accounts := by
    obtain ⟨rest, split⟩ := here
    have taken : log.take (next + stretch.length) = log.take next ++ stretch := by
      rw [List.take_add, ← split, List.take_left]
    have begun : start ≤ (log.take next).length := by
      have begun := h.begun
      have within := h.within
      rw [List.length_take]
      omega
    rw [taken, List.drop_append_of_le_length begun]
    exact h.accounts.append told

/-- The three things a receiver can come upon: it has fallen behind by more than the channel
holds, the next value is there, or it has come to the end. -/
theorem Channel.Holds.recv_cases (h : c.Holds log) (within : next ≤ log.length) :
    (capacity < log.length - next ∧ ∃ lost, lost ≠ [] ∧ lost <+: log.drop next ∧
      c.recv next = (some (.lagged lost.length), next + lost.length)) ∨
    (log.length - next ≤ capacity ∧ ∃ value rest, log.drop next = value :: rest ∧
      c.recv next = (some (.value value), next + 1)) ∨
    (next = log.length ∧ c.recv next = (none, next)) := by
  have size := congrArg List.length h.held
  rw [List.length_drop] at size
  have bounded := c.bounded
  have dropped := h.within
  unfold Channel.recv
  by_cases behind : next < c.dropped
  · have full := h.full (by omega)
    have length : ((log.drop next).take (c.dropped - next)).length = c.dropped - next := by
      rw [List.length_take, List.length_drop]
      omega
    refine .inl ⟨by omega, (log.drop next).take (c.dropped - next), ?_, List.take_prefix _ _, ?_⟩
    · apply List.ne_nil_of_length_pos
      omega
    · rw [if_pos behind, length, Nat.add_sub_cancel' (by omega)]
  · have position : c.held[next - c.dropped]? = log[next]? := by
      rw [h.held, List.getElem?_drop, Nat.add_sub_cancel' (by omega)]
    rw [if_neg behind, position]
    rcases within.lt_or_eq with inside | last
    · refine .inr (.inl ⟨by omega, log[next], log.drop (next + 1),
        List.drop_eq_getElem_cons inside, ?_⟩)
      rw [List.getElem?_eq_getElem inside]
    · refine .inr (.inr ⟨last, ?_⟩)
      rw [List.getElem?_eq_none (by omega)]

theorem Channel.Holds.tracks_recv (h : c.Holds log) (t : Tracks log start next reports) :
    Tracks log start (c.recv next).2 (reports ++ (c.recv next).1.toList) := by
  rcases h.recv_cases t.within with ⟨_, lost, some, here, told⟩ | ⟨_, value, rest, here, told⟩ |
    ⟨_, told⟩
  · rw [told]
    have stretch : Accounts lost [.lagged lost.length] := by
      simpa using Accounts.nil.lagged lost some
    exact t.report here stretch
  · rw [told]
    have stretch : [value] <+: log.drop next := ⟨rest, by rw [here, List.singleton_append]⟩
    exact t.report stretch (.value value .nil)
  · rw [told, Option.toList_none, List.append_nil]
    exact t

end Log

/-- A receiver with its channel, beside the log of all that was sent and the reports it got. -/
structure Subscriber (α : Type*) (capacity : Nat) where
  channel : Channel α capacity
  log : List α
  start : Nat
  next : Nat
  reports : List (Report α)
  holds : channel.Holds log
  tracks : Tracks log start next reports

def Subscriber.attach (c : Channel α capacity) (log : List α) (holds : c.Holds log) :
    Subscriber α capacity :=
  ⟨c, log, log.length, log.length, [], holds, tracks_new log⟩

def Subscriber.new : Subscriber α capacity := .attach .empty [] holds_empty

def Subscriber.send (s : Subscriber α capacity) (value : α) : Subscriber α capacity :=
  ⟨s.channel.send value, s.log ++ [value], s.start, s.next, s.reports, s.holds.send value,
    s.tracks.send [value]⟩

def Subscriber.sendAll (s : Subscriber α capacity) (sent : List α) : Subscriber α capacity :=
  sent.foldl Subscriber.send s

def Subscriber.told (s : Subscriber α capacity) : Option (Report α) := (s.channel.recv s.next).1

def Subscriber.recv (s : Subscriber α capacity) : Subscriber α capacity :=
  ⟨s.channel, s.log, s.start, (s.channel.recv s.next).2, s.reports ++ s.told.toList, s.holds,
    s.holds.tracks_recv s.tracks⟩

def Subscriber.sent (s : Subscriber α capacity) : List α := s.log.drop s.start

def Subscriber.passed (s : Subscriber α capacity) : Nat := s.next - s.start

def Subscriber.unread (s : Subscriber α capacity) : Nat := s.log.length - s.next

def Subscriber.received (s : Subscriber α capacity) : List α := values s.reports

section Subscribers

variable {s : Subscriber α capacity} {value : α}

@[simp] theorem send_reports : (s.send value).reports = s.reports := rfl

@[simp] theorem send_received : (s.send value).received = s.received := rfl

@[simp] theorem send_passed : (s.send value).passed = s.passed := rfl

@[simp] theorem send_sent : (s.send value).sent = s.sent ++ [value] := by
  have begun := s.tracks.begun
  have within := s.tracks.within
  show (s.log ++ [value]).drop s.start = s.log.drop s.start ++ [value]
  rw [List.drop_append_of_le_length (by omega)]

@[simp] theorem sendAll_received (more : List α) : (s.sendAll more).received = s.received := by
  induction more generalizing s with
  | nil => rfl
  | cons value more ih => exact ih

@[simp] theorem sendAll_reports (more : List α) : (s.sendAll more).reports = s.reports := by
  induction more generalizing s with
  | nil => rfl
  | cons value more ih => exact ih

@[simp] theorem sendAll_passed (more : List α) : (s.sendAll more).passed = s.passed := by
  induction more generalizing s with
  | nil => rfl
  | cons value more ih => exact ih

@[simp] theorem sendAll_sent (more : List α) : (s.sendAll more).sent = s.sent ++ more := by
  induction more generalizing s with
  | nil => rw [List.append_nil]; rfl
  | cons value more ih =>
    show ((s.send value).sendAll more).sent = _
    rw [ih, send_sent, List.append_assoc, List.singleton_append]

@[simp] theorem recv_sent : s.recv.sent = s.sent := rfl

@[simp] theorem recv_reports : s.recv.reports = s.reports ++ s.told.toList := rfl

theorem Subscriber.accounts (s : Subscriber α capacity) :
    Accounts (s.sent.take s.passed) s.reports := by
  have begun := s.tracks.begun
  have covered := s.tracks.accounts
  have same : (s.log.take s.next).drop s.start = s.sent.take s.passed := by
    rw [Subscriber.sent, Subscriber.passed, List.drop_take]
  rwa [same] at covered

theorem Subscriber.passed_le (s : Subscriber α capacity) : s.passed ≤ s.sent.length := by
  have within := s.tracks.within
  rw [Subscriber.passed, Subscriber.sent, List.length_drop]
  omega

theorem Subscriber.unread_eq (s : Subscriber α capacity) :
    s.unread = s.sent.length - s.passed := by
  have begun := s.tracks.begun
  rw [Subscriber.unread, Subscriber.passed, Subscriber.sent, List.length_drop]
  omega

theorem Subscriber.received_sublist (s : Subscriber α capacity) : s.received.Sublist s.sent :=
  s.accounts.sublist.trans (List.take_sublist _ _)

inductive Subscriber.Asks (s : Subscriber α capacity) : Prop
  | lagged (gap : List α) (lost : gap ≠ []) (told : s.told = some (.lagged gap.length))
      (behind : capacity < s.unread) (received : s.recv.received = s.received)
  | value (value : α) (told : s.told = some (.value value)) (close : s.unread ≤ capacity)
      (here : s.sent[s.passed]? = some value) (passed : s.recv.passed = s.passed + 1)
      (received : s.recv.received = s.received ++ [value])
  | pending (told : s.told = none) (caught : s.passed = s.sent.length)
      (received : s.recv.received = s.received)

theorem Subscriber.asks (s : Subscriber α capacity) : s.Asks := by
  have begun := s.tracks.begun
  have within := s.tracks.within
  have received : s.recv.received = s.received ++ values s.told.toList := by
    show values (s.reports ++ s.told.toList) = _
    rw [values_append]
    rfl
  rcases s.holds.recv_cases s.tracks.within with ⟨far, gap, lost, _, told⟩ |
    ⟨close, value, rest, here, told⟩ | ⟨last, told⟩
  · have told' : s.told = some (.lagged gap.length) := congrArg Prod.fst told
    refine .lagged gap lost told' far ?_
    rw [received, told', Option.toList_some, values_lagged, List.append_nil]
  · have told' : s.told = some (.value value) := congrArg Prod.fst told
    refine .value value told' close ?_ ?_ ?_
    · rw [Subscriber.sent, Subscriber.passed, List.getElem?_drop, Nat.add_sub_cancel' begun,
        ← List.head?_drop, here, List.head?_cons]
    · have moved : s.recv.next = s.next + 1 := congrArg Prod.snd told
      show s.recv.next - s.start = s.next - s.start + 1
      omega
    · rw [received, told', Option.toList_some, values_value]
  · have told' : s.told = none := congrArg Prod.fst told
    refine .pending told' ?_ ?_
    · rw [Subscriber.passed, Subscriber.sent, List.length_drop]
      omega
    · rw [received, told', Option.toList_none, values_nil, List.append_nil]

end Subscribers

end Polykit.Lib.Broadcast

/-! A watch channel: one value with its version, and what a receiver sees of a change. -/

namespace Polykit.Lib.Latest

/-- The shared part. A receiver is the version it has seen last. -/
structure Watch (α : Type*) where
  value : α
  version : Nat := 0
  closed : Bool := false

inductive Changed
  | seen (version : Nat)
  | senderDropped
  deriving DecidableEq

variable {α : Type*}

def Watch.send (w : Watch α) (value : α) : Watch α :=
  { w with value := value, version := w.version + 1 }

def Watch.dropSender (w : Watch α) : Watch α := { w with closed := true }

/-- What a receiver that waits for a change gets at once, if anything. An unseen value comes
before the news that the sender is gone. -/
def Watch.changed (w : Watch α) (seen : Nat) : Option Changed :=
  if w.version ≠ seen then some (.seen w.version)
  else if w.closed then some .senderDropped
  else none

theorem changed_of_unseen {w : Watch α} {seen : Nat} (h : w.version ≠ seen) :
    w.changed seen = some (.seen w.version) := if_pos h

end Polykit.Lib.Latest
