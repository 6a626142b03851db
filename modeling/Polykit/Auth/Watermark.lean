/- Module: Polykit/Auth/Watermark
   generality: I
   source: crates/polybase/src/auth.rs
   digest: What a session watermark says at a later point of a run. -/

import Polykit.Auth.SignIns

set_option autoImplicit false
set_option relaxedAutoImplicit false

namespace Polykit.Auth.Machine

open Errors Lib.Runs

/-- Zero where no session is stored. -/
def currentUpdatedAt (s : Store) : UInt64 := (s.session.map SessionPayload.updatedAt).getD 0

def isSessionValid (s : Store) (minUpdatedAt : UInt64) : Bool :=
  (s.session.map (fun session => decide (session.updatedAt ≥ minUpdatedAt))).getD false

/-- Every state from the first to the last of a run has a session of this user. -/
def Throughout (decode : RefreshDecoder) (userId : String) (s : Store) (labels : List Label) :
    Prop :=
  ∀ later earlier middle, labels = later ++ earlier → Run (Steps (poll decode)) s earlier middle →
    middle.session.map SessionPayload.userId = some userId

/-- A call that waits to write a session under the lock, with the watermark it drew. -/
def Pc.drawn : Pc → Option UInt64
  | .setWrite _ updatedAt _ _ => some updatedAt
  | _ => none

theorem mutating_of_drawn {pc : Pc} {updatedAt : UInt64} (h : pc.drawn = some updatedAt) :
    pc.mutating = true := by
  cases pc <;> first | rfl | cases h

theorem resume_counter {decode : RefreshDecoder} {s t : Store} {id : Nat} {env : Env} {pc next : Pc}
    (edge : resume decode s id env pc = some t) (found : t.tasks id = some next) :
    t.updateCounter = s.updateCounter ∧ next.drawn = none ∨
      t.updateCounter = s.updateCounter + 1 ∧ next.drawn = some s.updateCounter ∧
        t.session = s.session ∧ pc.mutating = true := by
  cases pc with
  | setRead payload origin =>
    simp only [resume] at edge
    split at edge
    · cases edge
      cases origin <;>
        (obtain rfl := Store.eq_of_go found
         exact .inl ⟨rfl, rfl⟩)
    · cases edge
      obtain rfl := Store.eq_of_go found
      exact .inr ⟨rfl, rfl, rfl, rfl⟩
  | setWrite payload updatedAt kind origin =>
    cases edge
    cases origin <;>
      (obtain rfl := Store.eq_of_go found
       exact .inl ⟨rfl, rfl⟩)
  | clearSlot hadSession cause =>
    cases edge
    cases cause <;>
      (obtain rfl := Store.eq_of_go found
       exact .inl ⟨rfl, rfl⟩)
  | watching channel =>
    obtain ⟨outcome, _, rfl⟩ := Option.map_eq_some_iff.mp edge
    obtain rfl := Store.eq_of_go found
    exact .inl ⟨rfl, rfl⟩
  | done returned => cases edge
  | _ =>
    left
    simp only [resume, Store.unlessFresh, Store.publish] at edge
    repeat' split at edge
    all_goals
      cases edge
      obtain rfl := Store.eq_of_go found
      exact ⟨rfl, rfl⟩

def Store.Drawn (s : Store) (updatedAt : UInt64) : Prop :=
  ∃ id pc, s.tasks id = some pc ∧ pc.drawn = some updatedAt

/-- What a step does to watermarks: nothing, a sign-out, a draw under the lock, or the write of
the one that was drawn. -/
inductive WatermarkChange (s t : Store) : Prop
  | quiet (counter : t.updateCounter = s.updateCounter)
      (session : t.session = s.session ∨ t.session = none)
      (drawn : ∀ n, t.Drawn n → s.Drawn n)
  | draw (counter : t.updateCounter = s.updateCounter + 1) (session : t.session = s.session)
      (drawn : ∀ n, t.Drawn n → n = s.updateCounter)
  | write (n : UInt64) (session : SessionPayload) (counter : t.updateCounter = s.updateCounter)
      (waiting : s.Drawn n) (stored : t.session = some session) (mark : session.updatedAt = n)
      (drawn : ∀ n, ¬ t.Drawn n)

theorem watermarkChange_poll {decode : RefreshDecoder} {s t : Store} {label : Label}
    (order : InOrder none s) (edge : poll decode s label = some t) : WatermarkChange s t := by
  cases poll_cases edge with
  | begins id call absent =>
    refine .quiet rfl (.inl rfl) ?_
    rintro n ⟨other, pc, found, drawn⟩
    rcases update_some_cases found with ⟨rfl, rfl⟩ | ⟨_, found⟩
    · cases call <;> cases drawn
    · exact ⟨other, pc, found, drawn⟩
  | resumes id env pc task ready edge =>
    obtain ⟨next, tasks, _, _⟩ := resume_stretch edge
    have own : t.tasks id = some next := by rw [tasks, Function.update_self]
    have others : ∀ n, t.Drawn n → next.drawn = some n ∨ ∃ other opc, other ≠ id ∧
        s.tasks other = some opc ∧ opc.drawn = some n := by
      rintro n ⟨other, opc, found, drawn⟩
      rcases update_some_cases (tasks ▸ found) with ⟨rfl, rfl⟩ | ⟨same, found⟩
      · exact .inl drawn
      · exact .inr ⟨other, opc, same, found, drawn⟩
    have alone : pc.mutating = true → ∀ n other opc, other ≠ id → s.tasks other = some opc →
        opc.drawn ≠ some n := by
      intro mutating n other opc different found drawn
      have held := order.holder id pc nofun task mutating
      have also := order.holder other opc nofun found (mutating_of_drawn drawn)
      exact different (Option.some.inj (also.symm.trans held))
    rcases resume_counter edge own with ⟨counter, free⟩ | ⟨counter, drew, session, mutating⟩
    · have older : ∀ n, t.Drawn n → ∃ other opc, other ≠ id ∧ s.tasks other = some opc ∧
          opc.drawn = some n := by
        intro n drawn
        rcases others n drawn with now | before
        · rw [free] at now
          cases now
        · exact before
      rcases resume_session edge with ⟨session, _⟩ | ⟨payload, n, kind, origin, rfl, stored, _⟩ |
        ⟨_, _, _, erased, _⟩
      · refine .quiet counter (.inl session) (fun n drawn => ?_)
        obtain ⟨other, opc, _, found, waits⟩ := older n drawn
        exact ⟨other, opc, found, waits⟩
      · refine .write n _ counter ⟨id, _, task, rfl⟩ stored rfl (fun m drawn => ?_)
        obtain ⟨other, opc, different, found, waits⟩ := older m drawn
        exact alone rfl m other opc different found waits
      · refine .quiet counter (.inr erased) (fun n drawn => ?_)
        obtain ⟨other, opc, _, found, waits⟩ := older n drawn
        exact ⟨other, opc, found, waits⟩
    · refine .draw counter session (fun n drawn => ?_)
      rcases others n drawn with now | ⟨other, opc, different, found, waits⟩
      · exact Option.some.inj (now.symm.trans drew)
      · exact absurd waits (alone mutating n other opc different found)

/-- The stored watermark is below the one that waits, and both are below the counter. -/
structure Watermarked (steps : Nat) (s : Store) : Prop where
  order : InOrder none s
  counted : s.updateCounter.toNat ≤ steps + 1
  stored : ∀ session, s.session = some session → session.updatedAt < s.updateCounter
  waiting : ∀ n, s.Drawn n → n < s.updateCounter ∧
    ∀ session, s.session = some session → session.updatedAt < n

theorem watermarked_initial : Watermarked 0 {} where
  order := inOrder_initial
  counted := by decide
  stored _ found := by cases found
  waiting := by
    rintro n ⟨_, _, found, _⟩
    cases found

theorem Watermarked.room {steps : Nat} {s : Store} (h : Watermarked steps s)
    (few : steps + 2 < 2 ^ 64) : (s.updateCounter + 1).toNat = s.updateCounter.toNat + 1 := by
  have counted := h.counted
  rw [UInt64.toNat_add]
  exact Nat.mod_eq_of_lt (by simp only [UInt64.toNat_one]; omega)

theorem watermarked_poll {decode : RefreshDecoder} {s t : Store} {label : Label} {steps : Nat}
    (h : Watermarked steps s) (few : steps + 2 < 2 ^ 64)
    (edge : poll decode s label = some t) : Watermarked (steps + 1) t := by
  have order := inOrder_poll h.order edge
  have counted := h.counted
  cases watermarkChange_poll h.order edge with
  | quiet counter session drawn =>
    refine ⟨order, by rw [counter]; omega, ?_, ?_⟩
    · intro payload found
      rw [counter]
      rcases session with same | erased
      · exact h.stored payload (same ▸ found)
      · rw [erased] at found
        cases found
    · intro n waits
      obtain ⟨below, above⟩ := h.waiting n (drawn n waits)
      refine ⟨counter ▸ below, fun payload found => ?_⟩
      rcases session with same | erased
      · exact above payload (same ▸ found)
      · rw [erased] at found
        cases found
  | draw counter session drawn =>
    have next := h.room few
    have grown : s.updateCounter < t.updateCounter := by
      rw [counter, UInt64.lt_iff_toNat_lt, next]
      omega
    refine ⟨order, by rw [counter, next]; omega, ?_, ?_⟩
    · intro payload found
      exact UInt64.lt_trans (h.stored payload (session ▸ found)) grown
    · intro n waits
      have same := drawn n waits
      subst same
      exact ⟨grown, fun payload found => h.stored payload (session ▸ found)⟩
  | write n session counter waiting stored mark drawn =>
    refine ⟨order, by rw [counter]; omega, ?_, fun m waits => absurd waits (drawn m)⟩
    intro payload found
    rw [stored, Option.some.injEq] at found
    rw [← found, mark, counter]
    exact (h.waiting n waiting).1

/-- Every watermark that is stored or waits to be is at least `mark`. -/
structure AtLeast (mark : UInt64) (s : Store) : Prop where
  counter : mark < s.updateCounter
  stored : ∀ session, s.session = some session → mark ≤ session.updatedAt
  waiting : ∀ n, s.Drawn n → mark ≤ n

theorem Watermarked.atLeast {steps : Nat} {s : Store} {session : SessionPayload}
    (h : Watermarked steps s) (active : s.session = some session) :
    AtLeast session.updatedAt s where
  counter := h.stored session active
  stored found same := by
    rw [active, Option.some.injEq] at same
    exact same ▸ UInt64.le_refl _
  waiting n waits := UInt64.le_of_lt ((h.waiting n waits).2 session active)

theorem atLeast_poll {decode : RefreshDecoder} {s t : Store} {label : Label} {steps : Nat}
    {mark : UInt64} (h : AtLeast mark s) (marked : Watermarked steps s)
    (few : steps + 2 < 2 ^ 64) (edge : poll decode s label = some t) : AtLeast mark t := by
  cases watermarkChange_poll marked.order edge with
  | quiet counter session drawn =>
    refine ⟨counter ▸ h.counter, fun payload found => ?_, fun n waits => h.waiting n (drawn n waits)⟩
    rcases session with same | erased
    · exact h.stored payload (same ▸ found)
    · rw [erased] at found
      cases found
  | draw counter session drawn =>
    have next := marked.room few
    have grown : s.updateCounter < t.updateCounter := by
      rw [counter, UInt64.lt_iff_toNat_lt, next]
      omega
    refine ⟨UInt64.lt_trans h.counter grown, fun payload found => h.stored payload
      (session ▸ found), fun n waits => ?_⟩
    rw [drawn n waits]
    exact UInt64.le_of_lt h.counter
  | write n session counter waiting stored mark drawn =>
    refine ⟨counter ▸ h.counter, fun payload found => ?_, fun m waits => absurd waits (drawn m)⟩
    rw [stored, Option.some.injEq] at found
    rw [← found, mark]
    exact h.waiting n waiting

/-- A watermark read off a session is valid later exactly while some session is stored. -/
theorem isSessionValid_iff_present {decode : RefreshDecoder} {s t : Store}
    {session : SessionPayload} {older newer : List Label}
    (before : Run (Steps (poll decode)) {} older s) (active : s.session = some session)
    (run : Run (Steps (poll decode)) s newer t) (few : newer.length + older.length + 1 < 2 ^ 64) :
    isSessionValid t (currentUpdatedAt s) = true ↔ t.session ≠ none := by
  have first : older.length + 1 < 2 ^ 64 → Watermarked older.length s := by
    refine before.history_invariant (I := fun labels s => labels.length + 1 < 2 ^ 64 →
      Watermarked labels.length s) (fun _ => watermarked_initial) ?_
    intro labels s label t earlier edge short
    have length : (label :: labels).length = labels.length + 1 := rfl
    exact watermarked_poll (earlier (by omega)) (by omega) edge
  have marked := first (by omega)
  have later : newer.length + older.length + 1 < 2 ^ 64 →
      Watermarked (newer.length + older.length) t ∧ AtLeast session.updatedAt t := by
    refine run.history_invariant (I := fun labels t =>
      labels.length + older.length + 1 < 2 ^ 64 →
        Watermarked (labels.length + older.length) t ∧ AtLeast session.updatedAt t) ?_ ?_
    · intro short
      exact ⟨by simpa using marked, marked.atLeast active⟩
    · intro labels s label t earlier edge short
      have length : (label :: labels).length + older.length = labels.length + older.length + 1 := by
        rw [List.length_cons]
        omega
      rw [length] at short ⊢
      obtain ⟨held, above⟩ := earlier (by omega)
      exact ⟨watermarked_poll held (by omega) edge, atLeast_poll above held (by omega) edge⟩
  have above := (later few).2
  have mark : currentUpdatedAt s = session.updatedAt := by simp [currentUpdatedAt, active]
  rw [mark]
  cases found : t.session with
  | none => simp [isSessionValid, found]
  | some stored =>
    have valid := above.stored stored found
    simp [isSessionValid, found, valid]

/-- Alice's watermark is worth as much as Bob's session is there, after he followed her. -/
theorem isSessionValid_iff_present_switched :
    ∃ s t, Run (Steps (poll sampleDecode)) {} (signsIn 0 "alice") s ∧
      Run (Steps (poll sampleDecode)) s (signsIn 2 "bob" ++ signsOut 1) t ∧
      (isSessionValid t (currentUpdatedAt s) = true ↔ t.session ≠ none) := by
  have computed : ((execute (poll sampleDecode) {} (signsIn 0 "alice")).map (fun s =>
      (s.session, (execute (poll sampleDecode) s (signsIn 2 "bob" ++ signsOut 1)).isSome))) =
      some (some { expiredSession "alice" with updatedAt := 1 }, true) := by decide
  obtain ⟨s, first, facts⟩ := Option.map_eq_some_iff.mp computed
  obtain ⟨alice, after⟩ := Prod.mk.inj facts
  obtain ⟨t, second⟩ := Option.isSome_iff_exists.mp after
  have before := run_of_execute first
  have run := run_of_execute second
  exact ⟨s, t, before, run, isSessionValid_iff_present before alice run (by decide)⟩

/-- Alice's watermark is still good after she signed out and Bob signed in. -/
theorem watermark_outlives_signOut :
    ∃ s t, Run (Steps (poll sampleDecode)) {} (signsIn 0 "alice") s ∧
      Run (Steps (poll sampleDecode)) s (signsIn 2 "bob" ++ signsOut 1) t ∧
      s.session.map SessionPayload.userId = some "alice" ∧
      t.session.map SessionPayload.userId = some "bob" ∧
      isSessionValid t (currentUpdatedAt s) = true ∧
      ¬ Throughout sampleDecode "alice" s (signsIn 2 "bob" ++ signsOut 1) := by
  have computed : ((execute (poll sampleDecode) {} (signsIn 0 "alice")).map (fun s =>
      (s.session.map SessionPayload.userId,
        (execute (poll sampleDecode) s (signsIn 2 "bob" ++ signsOut 1)).map (fun t =>
          (t.session.map SessionPayload.userId, isSessionValid t (currentUpdatedAt s)))))) =
      some (some "alice", some (some "bob", true)) := by decide
  obtain ⟨s, first, facts⟩ := Option.map_eq_some_iff.mp computed
  obtain ⟨alice, after⟩ := Prod.mk.inj facts
  obtain ⟨t, second, facts⟩ := Option.map_eq_some_iff.mp after
  obtain ⟨bob, valid⟩ := Prod.mk.inj facts
  refine ⟨s, t, run_of_execute first, run_of_execute second, alice, bob, valid, fun stays => ?_⟩
  have last := stays [] _ t rfl (run_of_execute second)
  rw [bob] at last
  exact absurd last (by decide)

end Polykit.Auth.Machine
