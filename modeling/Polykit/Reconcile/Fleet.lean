/- Module: Polykit/Reconcile/Fleet
   generality: I
   source: crates/polybase/src/sync/reconcile.rs, crates/polybase/src/contract.rs
   digest: Any number of devices that reconcile with one server, in any order. -/

import Polykit.Reconcile.Convergence

set_option autoImplicit false
set_option relaxedAutoImplicit false

namespace Polykit.Reconcile.Fleet

open Contract Convergence Planner

structure Replicas (Device : Type) where
  server : List VersionTriple
  mirror : Device → List VersionTriple

/-- A device stores a row, changed there or delivered; a row arrives at the server, at once or
late; a device carries out a round. -/
inductive Event (Device : Type)
  | write (device : Device) (row : VersionTriple)
  | push (row : VersionTriple)
  | round (device : Device)

variable {Device : Type} [DecidableEq Device]

def Replicas.setMirror (f : Replicas Device) (device : Device) (rows : List VersionTriple) :
    Replicas Device :=
  { f with mirror := Function.update f.mirror device rows }

def Replicas.round (f : Replicas Device) (device : Device) : Replicas Device :=
  let after := reconcileRound (f.mirror device) f.server
  { f.setMirror device after.1 with server := after.2 }

def Replicas.step (f : Replicas Device) : Event Device → Replicas Device
  | .write device row => f.setMirror device (putRow (f.mirror device) row)
  | .push row => { f with server := serverWrite f.server row }
  | .round device => f.round device

def Replicas.run (f : Replicas Device) (events : List (Event Device)) : Replicas Device :=
  events.foldl Replicas.step f

def Replicas.rounds (f : Replicas Device) (devices : List Device) : Replicas Device :=
  devices.foldl Replicas.round f

def Replicas.held (f : Replicas Device) (id : String) : Option VersionTriple := index f.server id

def Replicas.own (f : Replicas Device) (device : Device) (id : String) : Option VersionTriple :=
  index (f.mirror device) id

/-! One row of the server over time. -/

def Advances : Option VersionTriple → Option VersionTriple → Prop
  | none, _ => True
  | some _, none => False
  | some r, some r' => r' = r ∨ r.version < r'.version

theorem advances_refl (s : Option VersionTriple) : Advances s s := by
  cases s with
  | none => trivial
  | some r => exact .inl rfl

theorem Advances.trans {a b c : Option VersionTriple} (first : Advances a b)
    (second : Advances b c) : Advances a c := by
  cases a with
  | none => trivial
  | some r =>
    cases b with
    | none => exact first.elim
    | some r' =>
      cases c with
      | none => exact second.elim
      | some r'' =>
        rcases first with rfl | less
        · exact second
        · rcases second with rfl | less'
          · exact .inr less
          · exact .inr (Int64.lt_trans less less')

theorem accepted_newer {r l : VersionTriple} (h : serverAccepts (some r) l = true) :
    r.version < l.version := by
  have delta : undeleteVersionDelta.toInt = 1000 := by decide
  unfold serverAccepts at h
  dsimp only at h
  split at h
  · have jump := of_decide_eq_true h
    rw [Int64.lt_iff_toInt_lt]
    omega
  · exact of_decide_eq_true h

theorem advances_written (s : Option VersionTriple) (l : VersionTriple) :
    Advances s (written s l) := by
  cases s with
  | none => trivial
  | some r =>
    unfold written
    split
    · rename_i accepted
      exact .inr (accepted_newer accepted)
    · exact .inl rfl

/-- What a round does to one row of the server, and to the device's own. -/
def roundHeld (l s : Option VersionTriple) : Option VersionTriple :=
  match l, s with
  | some l, some r => if rowAction l r = .push then written (some r) l else some r
  | some l, none => some l
  | none, s => s

def roundOwn (l s : Option VersionTriple) : Option VersionTriple :=
  match l, s with
  | some l, some r =>
      if rowAction l r = .pull ∨ rowAction l r = .adoptTombstone then some r else some l
  | some l, none => some l
  | none, s => s

theorem held_round (f : Replicas Device) (device : Device) (id : String) :
    (f.round device).held id = roundHeld (f.own device id) (f.held id) := by
  show index (reconcileRound (f.mirror device) f.server).2 id = _
  rw [index_round_remote, Replicas.own, Replicas.held]
  cases index (f.mirror device) id <;> cases index f.server id <;> rfl

theorem own_round (f : Replicas Device) (device : Device) (id : String) :
    (f.round device).own device id = roundOwn (f.own device id) (f.held id) := by
  show index (Function.update f.mirror device (reconcileRound (f.mirror device) f.server).1
    device) id = _
  rw [Function.update_self, index_round_local, Replicas.own, Replicas.held]
  cases index (f.mirror device) id <;> cases index f.server id <;> rfl

theorem own_round_of_ne (f : Replicas Device) {device other : Device} (h : other ≠ device)
    (id : String) : (f.round device).own other id = f.own other id := by
  show index (Function.update f.mirror device _ other) id = _
  rw [Function.update_of_ne h]
  rfl

theorem advances_roundHeld (l s : Option VersionTriple) : Advances s (roundHeld l s) := by
  cases s with
  | none => trivial
  | some r =>
    cases l with
    | none => exact .inl rfl
    | some l =>
      unfold roundHeld
      dsimp only
      split
      · exact advances_written (some r) l
      · exact .inl rfl

theorem advances_step (f : Replicas Device) (event : Event Device) (id : String) :
    Advances (f.held id) ((f.step event).held id) := by
  cases event with
  | write device row => exact advances_refl _
  | push row =>
    show Advances (index f.server id) (index (serverWrite f.server row) id)
    rw [index_serverWrite]
    split
    · exact advances_written _ row
    · exact advances_refl _
  | round device =>
    show Advances _ ((f.round device).held id)
    rw [held_round]
    exact advances_roundHeld _ _

theorem advances_run (f : Replicas Device) (events : List (Event Device)) (id : String) :
    Advances (f.held id) ((f.run events).held id) := by
  induction events generalizing f with
  | nil => exact advances_refl _
  | cons event events ih => exact (advances_step f event id).trans (ih (f.step event))

theorem advances_rounds (f : Replicas Device) (devices : List Device) (id : String) :
    Advances (f.held id) ((f.rounds devices).held id) := by
  induction devices generalizing f with
  | nil => exact advances_refl _
  | cons device devices ih =>
    exact (advances_step f (.round device) id).trans (ih (f.round device))

/-! A device behind the server. -/

def Stale (l r : VersionTriple) : Prop :=
  l.deleted = true ∧ r.deleted = false ∧ l.version ≤ r.version

def Behind : Option VersionTriple → Option VersionTriple → Prop
  | none, _ => True
  | some _, none => False
  | some l, some r => l = r ∨ l.version < r.version ∨ Stale l r

/-- The device has the server's row, or a tombstone that the guard refuses. -/
def Settled (l s : Option VersionTriple) : Prop :=
  l = s ∨ ∃ tombstone r, l = some tombstone ∧ s = some r ∧ Stale tombstone r

theorem Settled.behind {l s : Option VersionTriple} (h : Settled l s) : Behind l s := by
  rcases h with rfl | ⟨tombstone, r, rfl, rfl, stale⟩
  · cases l with
    | none => trivial
    | some l => exact .inl rfl
  · exact .inr (.inr stale)

theorem Behind.mono {l s s' : Option VersionTriple} (behind : Behind l s)
    (advances : Advances s s') : Behind l s' := by
  cases l with
  | none => trivial
  | some l =>
    cases s with
    | none => exact behind.elim
    | some r =>
      cases s' with
      | none => exact advances.elim
      | some r' =>
        rcases advances with rfl | newer
        · exact behind
        · rcases behind with rfl | older | ⟨-, -, atMost⟩
          · exact .inr (.inl newer)
          · exact .inr (.inl (Int64.lt_trans older newer))
          · exact .inr (.inl (Int64.lt_of_le_of_lt atMost newer))

theorem roundHeld_behind {l s : Option VersionTriple} (behind : Behind l s) :
    roundHeld l s = s := by
  cases l with
  | none => cases s <;> rfl
  | some l =>
    cases s with
    | none => exact behind.elim
    | some r =>
      have notNewer : ¬ r.version < l.version := by
        rcases behind with rfl | older | stale
        · exact Int64.lt_irrefl
        · exact Int64.lt_asymm older
        · exact Int64.not_lt.mpr stale.2.2
      have refused : serverAccepts (some r) l = false := by
        rw [Bool.eq_false_iff]
        exact fun accepted => notNewer (accepted_newer accepted)
      unfold roundHeld written
      dsimp only
      rw [refused, if_neg Bool.false_ne_true, ite_self]

/-- A row whose undelete threshold is within 64 bits. -/
def Bounded (s : Option VersionTriple) : Prop :=
  ∀ r, s = some r → r.version ≤ 9223372036854774807

theorem round_settled {l s : Option VersionTriple} (bounded : Bounded s)
    (same : ∀ a b, l = some a → s = some b → a.id = b.id) :
    Settled (roundOwn l s) (roundHeld l s) := by
  cases l with
  | none => exact .inl (by cases s <;> rfl)
  | some l =>
    cases s with
    | none => exact .inl rfl
    | some r =>
      unfold roundOwn roundHeld
      dsimp only
      cases action : rowAction l r with
      | pull => exact .inl rfl
      | adoptTombstone => exact .inl rfl
      | push =>
        cases accepted : serverAccepts (some r) l with
        | true => exact .inl (by simp [written, accepted])
        | false =>
          have stale := (refused_push (bounded r rfl) action).mp accepted
          exact .inr ⟨l, r, by simp, by simp [written, accepted], stale⟩
      | skip =>
        have equal : l = r := by
          have name := same l r rfl rfl
          unfold rowAction determineReconcileAction at action
          cases l with
          | mk id version deleted =>
            cases r with
            | mk id' version' deleted' =>
              dsimp only at name action
              cases deleted <;> cases deleted' <;> grind
        exact .inl (by simp [equal])

theorem round_fixed {l s : Option VersionTriple} (settled : Settled l s) :
    roundOwn l s = l ∧ roundHeld l s = s := by
  refine ⟨?_, roundHeld_behind settled.behind⟩
  rcases settled with rfl | ⟨tombstone, r, rfl, rfl, deleted, live, -⟩
  · cases l with
    | none => rfl
    | some l => simp [roundOwn]
  · simp [roundOwn, rowAction_stale deleted live]

/-! Rounds of several devices. -/

def Replicas.Bounded (f : Replicas Device) : Prop :=
  ∀ id, Fleet.Bounded (f.held id) ∧ ∀ device, Fleet.Bounded (f.own device id)

omit [DecidableEq Device] in
theorem same_id (f : Replicas Device) (device : Device) (id : String) :
    ∀ a b, f.own device id = some a → f.held id = some b → a.id = b.id :=
  fun _ _ own held => (index_id own).trans (index_id held).symm

theorem round_among (l s : Option VersionTriple) :
    (roundHeld l s = l ∨ roundHeld l s = s) ∧ (roundOwn l s = l ∨ roundOwn l s = s) := by
  cases l with
  | none => exact ⟨.inr (by cases s <;> rfl), .inr (by cases s <;> rfl)⟩
  | some l =>
    cases s with
    | none => exact ⟨.inl rfl, .inl rfl⟩
    | some r =>
      unfold roundHeld roundOwn written
      dsimp only
      constructor
      · split_ifs
        · exact .inl rfl
        · exact .inr rfl
        · exact .inr rfl
      · split_ifs
        · exact .inr rfl
        · exact .inl rfl

theorem bounded_round {f : Replicas Device} (bounded : f.Bounded) (device : Device) :
    (f.round device).Bounded := by
  intro id
  obtain ⟨held, own⟩ := bounded id
  obtain ⟨heldAmong, ownAmong⟩ := round_among (f.own device id) (f.held id)
  constructor
  · rw [held_round]
    rcases heldAmong with same | same <;> rw [same]
    · exact own device
    · exact held
  · intro other
    by_cases self : other = device
    · rw [self, own_round]
      rcases ownAmong with same | same <;> rw [same]
      · exact own device
      · exact held
    · rw [own_round_of_ne f self]
      exact own other

theorem bounded_rounds {f : Replicas Device} (bounded : f.Bounded) (devices : List Device) :
    (f.rounds devices).Bounded := by
  induction devices generalizing f with
  | nil => exact bounded
  | cons device devices ih => exact ih (bounded_round bounded device)

theorem behind_rounds {f : Replicas Device} (bounded : f.Bounded) (devices : List Device)
    (device : Device) (id : String)
    (start : device ∈ devices ∨ Behind (f.own device id) (f.held id)) :
    Behind ((f.rounds devices).own device id) ((f.rounds devices).held id) := by
  induction devices generalizing f with
  | nil => exact start.resolve_left List.not_mem_nil
  | cons head tail ih =>
    apply ih (bounded_round bounded head)
    by_cases own : device = head
    · right
      rw [own, own_round, held_round]
      exact (round_settled (bounded id).1 (same_id f head id)).behind
    · rcases start with member | behind
      · exact .inl ((List.mem_cons.mp member).resolve_left own)
      · right
        rw [own_round_of_ne f own]
        exact behind.mono (advances_step f (.round head) id)

theorem rounds_of_behind {f : Replicas Device} (bounded : f.Bounded) (devices : List Device)
    (id : String) (behind : ∀ device ∈ devices, Behind (f.own device id) (f.held id)) :
    (f.rounds devices).held id = f.held id ∧
      ∀ device, device ∈ devices ∨ Settled (f.own device id) (f.held id) →
        Settled ((f.rounds devices).own device id) (f.held id) := by
  induction devices generalizing f with
  | nil => exact ⟨rfl, fun device start => start.resolve_left List.not_mem_nil⟩
  | cons head tail ih =>
    rw [List.forall_mem_cons] at behind
    have held : (f.round head).held id = f.held id := by
      rw [held_round, roundHeld_behind behind.1]
    have headSettled : Settled ((f.round head).own head id) (f.held id) := by
      have settled := round_settled (bounded id).1 (same_id f head id)
      rw [roundHeld_behind behind.1] at settled
      rw [own_round]
      exact settled
    have rest : ∀ device ∈ tail,
        Behind ((f.round head).own device id) ((f.round head).held id) := by
      intro device member
      rw [held]
      by_cases own : device = head
      · rw [own]
        exact headSettled.behind
      · rw [own_round_of_ne f own]
        exact behind.2 device member
    obtain ⟨kept, settled⟩ := ih (bounded_round bounded head) rest
    rw [held] at kept settled
    refine ⟨kept, fun device start => settled device ?_⟩
    by_cases own : device = head
    · rw [own]
      exact .inr headSettled
    · rw [own_round_of_ne f own]
      rcases start with member | before
      · exact .inl ((List.mem_cons.mp member).resolve_left own)
      · exact .inr before

theorem rounds_of_settled (f : Replicas Device) (devices : List Device) (id : String)
    (settled : ∀ device ∈ devices, Settled (f.own device id) (f.held id)) :
    (f.rounds devices).held id = f.held id ∧
      ∀ device, (f.rounds devices).own device id = f.own device id := by
  induction devices generalizing f with
  | nil => exact ⟨rfl, fun _ => rfl⟩
  | cons head tail ih =>
    rw [List.forall_mem_cons] at settled
    obtain ⟨ownFixed, heldFixed⟩ := round_fixed settled.1
    have held : (f.round head).held id = f.held id := by rw [held_round, heldFixed]
    have own : ∀ device, (f.round head).own device id = f.own device id := by
      intro device
      by_cases self : device = head
      · rw [self, own_round, ownFixed]
      · exact own_round_of_ne f self id
    have rest : ∀ device ∈ tail,
        Settled ((f.round head).own device id) ((f.round head).held id) := by
      intro device member
      rw [own, held]
      exact settled.2 device member
    obtain ⟨kept, same⟩ := ih (f.round head) rest
    refine ⟨kept.trans held, fun device => (same device).trans (own device)⟩

/-! Rounds after a run of any events. -/

def Event.Bounded : Event Device → Prop
  | .write _ row => row.version ≤ 9223372036854774807
  | .push row => row.version ≤ 9223372036854774807
  | .round _ => True

theorem bounded_step {f : Replicas Device} (bounded : f.Bounded) {event : Event Device}
    (small : event.Bounded) : (f.step event).Bounded := by
  cases event with
  | write device row =>
    intro id
    refine ⟨(bounded id).1, fun other => ?_⟩
    show Fleet.Bounded (index (Function.update f.mirror device (putRow (f.mirror device) row) other)
      id)
    by_cases self : other = device
    · rw [self, Function.update_self, index_putRow]
      split
      · rintro r ⟨⟩
        exact small
      · exact (bounded id).2 device
    · rw [Function.update_of_ne self]
      exact (bounded id).2 other
  | push row =>
    intro id
    refine ⟨?_, (bounded id).2⟩
    show Fleet.Bounded (index (serverWrite f.server row) id)
    rw [index_serverWrite]
    unfold written
    split_ifs
    · rintro r ⟨⟩
      exact small
    · exact (bounded id).1
    · exact (bounded id).1
  | round device => exact bounded_round bounded device

theorem bounded_run {f : Replicas Device} (bounded : f.Bounded) {events : List (Event Device)}
    (small : ∀ event ∈ events, event.Bounded) : (f.run events).Bounded := by
  induction events generalizing f with
  | nil => exact bounded
  | cons event events ih =>
    rw [List.forall_mem_cons] at small
    exact ih (bounded_step bounded small.1) small.2

/-- Whatever devices write and whatever reaches the server, no row of the server is taken back.
Once the writes stop, one round of each device fixes the server's rows, and a second one leaves
each device with the server's row or with a tombstone that the guard refuses; no further round
changes any place. -/
theorem fleet_settles {start : Replicas Device} (bounded : start.Bounded)
    {events : List (Event Device)} (small : ∀ event ∈ events, event.Bounded)
    {first second : List Device} (cover : ∀ device ∈ second, device ∈ first) :
    let once := (start.run events).rounds first
    let twice := once.rounds second
    (∀ id, Advances (start.held id) (twice.held id)) ∧
      (∀ id, twice.held id = once.held id) ∧
      (∀ device ∈ second, ∀ id, Settled (twice.own device id) (twice.held id)) ∧
      ∀ more : List Device, (∀ device ∈ more, device ∈ second) → ∀ id,
        (twice.rounds more).held id = twice.held id ∧
          ∀ device, (twice.rounds more).own device id = twice.own device id := by
  intro once twice
  have boundedRun := bounded_run bounded small
  have boundedOnce : once.Bounded := bounded_rounds boundedRun first
  have behind : ∀ id, ∀ device ∈ second, Behind (once.own device id) (once.held id) :=
    fun id device member => behind_rounds boundedRun first device id (.inl (cover device member))
  have pass : ∀ id, twice.held id = once.held id ∧ ∀ device ∈ second,
      Settled (twice.own device id) (twice.held id) := by
    intro id
    obtain ⟨kept, settled⟩ := rounds_of_behind boundedOnce second id (behind id)
    refine ⟨kept, fun device member => ?_⟩
    rw [show twice.held id = once.held id from kept]
    exact settled device (.inl member)
  refine ⟨fun id => ?_, fun id => (pass id).1, fun device member id => (pass id).2 device member,
    fun more among id => ?_⟩
  · exact ((advances_run start events id).trans (advances_rounds _ first id)).trans
      (advances_rounds once second id)
  · exact rounds_of_settled twice more id fun device member =>
      (pass id).2 device (among device member)

/-- Two devices that wrote one row apart. -/
theorem fleet_settles_two :
    let start : Replicas Bool := ⟨[⟨"a", 1, false⟩], fun _ => [⟨"a", 1, false⟩]⟩
    let events : List (Event Bool) := [.write false ⟨"a", 2, false⟩, .write true ⟨"a", 3, false⟩]
    let twice := ((start.run events).rounds [false, true]).rounds [true, false]
    ∀ device, Settled (twice.own device "a") (twice.held "a") := by
  intro start events twice
  have bounded : start.Bounded := by
    intro id
    have row : Fleet.Bounded (index [⟨"a", 1, false⟩] id) := by
      intro r found
      rw [List.mem_singleton.mp (index_mem found)]
      decide
    exact ⟨row, fun _ => row⟩
  have small : ∀ event ∈ events, event.Bounded := by
    have below : (2 : Int64) ≤ 9223372036854774807 ∧ (3 : Int64) ≤ 9223372036854774807 := by
      decide
    simp only [events, List.forall_mem_cons]
    exact ⟨below.1, below.2, fun _ => (absurd · List.not_mem_nil)⟩
  have cover : ∀ device ∈ [true, false], device ∈ [false, true] := by decide
  obtain ⟨-, -, settled, -⟩ := fleet_settles bounded small cover
  intro device
  exact settled device (by cases device <;> decide) "a"

end Polykit.Reconcile.Fleet
