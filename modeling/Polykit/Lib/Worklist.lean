/- Module: Polykit/Lib/Worklist
   generality: G
   source: none(general)
   digest: Which submitted work is still pending after a history of submissions and settlements. -/

import Mathlib.Tactic

set_option autoImplicit false
set_option relaxedAutoImplicit false

namespace Polykit.Lib.Worklist

/-- Events that submit keyed work and events that settle some of it. -/
structure Discipline (Event Op Key : Type*) where
  key : Op → Key
  submitted : Event → Option Op
  settles : Event → Op → Prop

variable {Event Op Key : Type*} (d : Discipline Event Op Key)

/-- Pending work after a history, newest event first: a submission displaces the work of its
key, a settlement removes what it settles. -/
def Pending : List Event → Op → Prop
  | [], _ => False
  | event :: older, op =>
      d.submitted event = some op ∨
        (∀ new, d.submitted event = some new → d.key new ≠ d.key op) ∧
          ¬ d.settles event op ∧ Pending older op

/-- `op` is the last work submitted under its key, and `newer` is what happened since. -/
def SubmittedLast (history : List Event) (op : Op) (newer : List Event) : Prop :=
  ∃ event older, history = newer ++ event :: older ∧ d.submitted event = some op ∧
    ∀ e ∈ newer, ∀ new, d.submitted e = some new → d.key new ≠ d.key op

variable {d} {event : Event} {history newer : List Event} {op : Op}

theorem submittedLast_head (h : d.submitted event = some op) :
    SubmittedLast d (event :: history) op [] :=
  ⟨event, history, rfl, h, by simp⟩

theorem SubmittedLast.cons (h : SubmittedLast d history op newer)
    (other : ∀ new, d.submitted event = some new → d.key new ≠ d.key op) :
    SubmittedLast d (event :: history) op (event :: newer) := by
  obtain ⟨submission, older, rfl, submitted, quiet⟩ := h
  refine ⟨submission, older, rfl, submitted, ?_⟩
  intro e member
  rcases List.mem_cons.mp member with rfl | member
  · exact other
  · exact quiet e member

theorem submittedLast_cons_iff :
    SubmittedLast d (event :: history) op newer ↔
      newer = [] ∧ d.submitted event = some op ∨
        ∃ rest, newer = event :: rest ∧ SubmittedLast d history op rest ∧
          ∀ new, d.submitted event = some new → d.key new ≠ d.key op := by
  constructor
  · rintro ⟨submission, older, split, submitted, quiet⟩
    cases newer with
    | nil =>
      cases split
      exact .inl ⟨rfl, submitted⟩
    | cons head rest =>
      cases split
      exact .inr ⟨rest, rfl,
        ⟨submission, older, rfl, submitted, fun e he => quiet e (List.mem_cons_of_mem _ he)⟩,
        quiet event List.mem_cons_self⟩
  · rintro (⟨rfl, submitted⟩ | ⟨rest, rfl, last, other⟩)
    · exact submittedLast_head submitted
    · exact last.cons other

theorem submittedLast_unique {op' : Op} {newer' : List Event}
    (h : SubmittedLast d history op newer) (h' : SubmittedLast d history op' newer')
    (same : d.key op = d.key op') : op = op' ∧ newer = newer' := by
  induction history generalizing newer newer' with
  | nil =>
    obtain ⟨_, _, split, _⟩ := h
    simp at split
  | cons event older ih =>
    rcases submittedLast_cons_iff.mp h with ⟨rfl, now⟩ | ⟨rest, rfl, last, other⟩
    · rcases submittedLast_cons_iff.mp h' with ⟨rfl, now'⟩ | ⟨rest', rfl, last', other'⟩
      · exact ⟨Option.some.inj (now.symm.trans now'), rfl⟩
      · exact (other' op now same).elim
    · rcases submittedLast_cons_iff.mp h' with ⟨rfl, now'⟩ | ⟨rest', rfl, last', other'⟩
      · exact (other op' now' same.symm).elim
      · obtain ⟨rfl, rfl⟩ := ih last last'
        exact ⟨rfl, rfl⟩

theorem exists_submittedLast {k : Key} (member : event ∈ history)
    (submitted : d.submitted event = some op) (hk : d.key op = k) :
    ∃ last newer, SubmittedLast d history last newer ∧ d.key last = k := by
  induction history with
  | nil => cases member
  | cons head older ih =>
    by_cases now : ∃ new, d.submitted head = some new ∧ d.key new = k
    · obtain ⟨new, hnew, hkey⟩ := now
      exact ⟨new, [], submittedLast_head hnew, hkey⟩
    · rcases List.mem_cons.mp member with rfl | earlier
      · exact (now ⟨op, submitted, hk⟩).elim
      · obtain ⟨last, newer, hlast, hkey⟩ := ih earlier
        refine ⟨last, head :: newer, hlast.cons ?_, hkey⟩
        intro new hnew clash
        exact now ⟨new, hnew, clash.trans hkey⟩

theorem Pending.submitted (h : Pending d history op) :
    ∃ e ∈ history, d.submitted e = some op := by
  induction history with
  | nil => exact h.elim
  | cons event older ih =>
    rcases h with now | ⟨_, _, earlier⟩
    · exact ⟨event, List.mem_cons_self, now⟩
    · obtain ⟨e, member, submitted⟩ := ih earlier
      exact ⟨e, List.mem_cons_of_mem _ member, submitted⟩

theorem pending_iff :
    Pending d history op ↔
      ∃ newer, SubmittedLast d history op newer ∧ ∀ e ∈ newer, ¬ d.settles e op := by
  induction history with
  | nil =>
    constructor
    · exact False.elim
    · rintro ⟨newer, ⟨_, _, split, _⟩, _⟩
      simp at split
  | cons event older ih =>
    simp only [Pending, ih]
    constructor
    · rintro (now | ⟨other, open_, newer, last, unsettled⟩)
      · exact ⟨[], submittedLast_head now, by simp⟩
      · refine ⟨event :: newer, last.cons other, ?_⟩
        intro e member
        rcases List.mem_cons.mp member with rfl | member
        · exact open_
        · exact unsettled e member
    · rintro ⟨newer, last, unsettled⟩
      rcases submittedLast_cons_iff.mp last with ⟨_, now⟩ | ⟨rest, rfl, last, other⟩
      · exact .inl now
      · exact .inr ⟨other, unsettled event List.mem_cons_self, rest, last,
          fun e he => unsettled e (List.mem_cons_of_mem _ he)⟩

theorem no_pending_iff {k : Key} :
    (∀ op, Pending d history op → d.key op ≠ k) ↔
      (∀ e ∈ history, ∀ op, d.submitted e = some op → d.key op ≠ k) ∨
        ∃ op newer, SubmittedLast d history op newer ∧ d.key op = k ∧
          ∃ e ∈ newer, d.settles e op := by
  constructor
  · intro absent
    by_cases ever : ∃ e ∈ history, ∃ op, d.submitted e = some op ∧ d.key op = k
    · obtain ⟨e, member, op, submitted, hk⟩ := ever
      obtain ⟨last, newer, hlast, hkey⟩ := exists_submittedLast member submitted hk
      refine .inr ⟨last, newer, hlast, hkey, ?_⟩
      by_contra unsettled
      push Not at unsettled
      exact absent last (pending_iff.mpr ⟨newer, hlast, unsettled⟩) hkey
    · push Not at ever
      exact .inl ever
  · rintro (never | ⟨op, newer, last, hk, e, member, settled⟩) other pending hkey
    · obtain ⟨_, ⟨event, older, rfl, submitted, _⟩, _⟩ := pending_iff.mp pending
      exact never event (by simp) other submitted hkey
    · obtain ⟨_, last', unsettled⟩ := pending_iff.mp pending
      obtain ⟨rfl, rfl⟩ := submittedLast_unique last last' (hk.trans hkey.symm)
      exact unsettled e member settled

end Polykit.Lib.Worklist
