/- Module: Polykit/Kvs/Versions
   generality: I
   source: crates/polybase/src/kvs.rs, crates/polybase/src/sync/coordinator.rs
   digest: Interleaved writes of one key, and when the versions they write keep growing. -/

import Polykit.Kvs.Survival
import Polykit.Lib.Runs

set_option autoImplicit false
set_option relaxedAutoImplicit false

namespace Polykit.Kvs.Versions

open Auth Crypto Entity Errors Json Kvs.Schema Kvs.Store Kvs.Survival Lib.Runs
open Sqlite.Manager Sqlite.Storage Sqlite.Store Sync Sync.Calls Wire.Http

/-- The two writes of the key-value API. A value comes with what encoding it gave. -/
inductive KvsWrite
  | set (encoded : Except String Value)
  | delete

inductive Stored
  | write (prepared : Prepared)
  | tombstone (config : EntityConfig) (session : SessionPayload) (version : Int64)

inductive Phase
  | readVersion
  | localWrite (version : Int64)
  | network (stored : Stored)
  | settle (stored : Stored) (result : Except PolyError Unit)
  | done (result : Except PolyError Unit)

structure Activity where
  env : CallEnv
  op : KvsWrite
  phase : Phase

variable {p : Primitives} {Queue : Type}

/-- `log` holds the versions of the local writes under the key, newest first. -/
structure State (Queue : Type) where
  world : World DbManager Queue
  calls : Nat → Option Activity := fun _ => none
  log : List Int64 := []

inductive Label
  | start (id : Nat) (env : CallEnv) (op : KvsWrite)
  | advance (id : Nat)

def State.move (s : State Queue) (id : Nat) (a : Activity) (phase : Phase) : State Queue :=
  { s with calls := Function.update s.calls id (some { a with phase := phase }) }

def State.withMirror (s : State Queue) (mirror : DbManager) : State Queue :=
  { s with world := { s.world with mirror := mirror } }

def State.wrote (s : State Queue) (version : Int64) : State Queue :=
  { s with log := version :: s.log }

def localWrite (c : Coordinator p DbManager Queue) (namespace_ key : String) (env : CallEnv)
    (w : World DbManager Queue) (version : Int64) :
    KvsWrite → DbManager × Except PolyError Stored
  | .set (.error error) => (w.mirror, .error (.json error))
  | .set (.ok value) =>
      match c.prepare w.session env.nonces kvsTable
          (kvsRecord namespace_ key value version env.utcNow) with
      | .error error => (w.mirror, .error error)
      | .ok prepared =>
          match c.localStore.upsertRecord w.mirror kvsTable
              (prepared.config.mapRemoteToLocal prepared.record) with
          | (mirror, .error error) => (mirror, .error error)
          | (mirror, .ok ()) => (mirror, .ok (.write prepared))
  | .delete =>
      match c.registry.configForTable kvsTable with
      | none => (w.mirror, .error (.registry (.tableNotRegistered kvsTable)))
      | some config =>
          match w.session with
          | none => (w.mirror, .error .noSession)
          | some session =>
              match c.localStore.markDeleted w.mirror kvsTable (encodeId namespace_ key) version with
              | (mirror, .error error) => (mirror, .error error)
              | (mirror, .ok ()) => (mirror, .ok (.tombstone config session version))

def dispatch (c : Coordinator p DbManager Queue) (namespace_ key : String) (env : CallEnv)
    (w : World DbManager Queue) : Stored → World DbManager Queue × Except PolyError Unit
  | .write prepared => c.dispatchWrite env kvsTable prepared none w
  | .tombstone config session version =>
      c.dispatchDelete env kvsTable (encodeId namespace_ key) version config session.accessToken w

def settlement (namespace_ key : String) : Stored → Settlement
  | .write prepared => writeSettlement kvsTable prepared
  | .tombstone _ _ version => deleteSettlement kvsTable (encodeId namespace_ key) version

def advance (c : Coordinator p DbManager Queue) (namespace_ key : String) (s : State Queue)
    (id : Nat) (a : Activity) : Option (State Queue) :=
  match a.phase with
  | .readVersion =>
      match nextVersionFor c s.world (encodeId namespace_ key) with
      | .error error => some (s.move id a (.done (.error error)))
      | .ok version => some (s.move id a (.localWrite version))
  | .localWrite version =>
      match localWrite c namespace_ key a.env s.world version a.op with
      | (mirror, .error error) => some ((s.withMirror mirror).move id a (.done (.error error)))
      | (mirror, .ok stored) =>
          some (((s.withMirror mirror).wrote version).move id a (.network stored))
  | .network stored =>
      let sent := dispatch c namespace_ key a.env s.world stored
      some ({ s with world := sent.1 }.move id a (.settle stored sent.2))
  | .settle stored result =>
      let settled := c.settle a.env (settlement namespace_ key stored) s.world result
      some ({ s with world := settled.1 }.move id a (.done settled.2))
  | .done _ => none

def poll (c : Coordinator p DbManager Queue) (namespace_ key : String) (s : State Queue) :
    Label → Option (State Queue)
  | .start id env op =>
      match s.calls id with
      | none => some { s with
          calls := Function.update s.calls id (some ⟨env, op, .readVersion⟩) }
      | some _ => none
  | .advance id => (s.calls id).bind (advance c namespace_ key s id)

def runWrite (c : Coordinator p DbManager Queue) (namespace_ key : String) (env : CallEnv)
    (w : World DbManager Queue) : KvsWrite → World DbManager Queue × Except PolyError Unit
  | .set encoded => Store.set (fun _ : Unit => encoded) c env w namespace_ key ()
  | .delete => Store.delete c env w namespace_ key

/-- A call is its version, its local write, its dispatch and its settlement, in this order. -/
theorem runWrite_eq (c : Coordinator p DbManager Queue) (namespace_ key : String) (env : CallEnv)
    (w : World DbManager Queue) (op : KvsWrite) :
    runWrite c namespace_ key env w op =
      match nextVersionFor c w (encodeId namespace_ key) with
      | .error error => (w, .error error)
      | .ok version =>
          match localWrite c namespace_ key env w version op with
          | (mirror, .error error) => ({ w with mirror := mirror }, .error error)
          | (mirror, .ok stored) =>
              let sent := dispatch c namespace_ key env { w with mirror := mirror } stored
              c.settle env (settlement namespace_ key stored) sent.1 sent.2 := by
  cases op with
  | set encoded =>
    simp only [runWrite, Store.set]
    cases nextVersionFor c w (encodeId namespace_ key) with
    | error error => rfl
    | ok version =>
      cases encoded with
      | error error => rfl
      | ok value =>
        simp only [Coordinator.persistChange, Coordinator.persistChangeWithOp, localWrite]
        cases c.prepare w.session env.nonces kvsTable
            (kvsRecord namespace_ key value version env.utcNow) with
        | error error => rfl
        | ok prepared =>
          dsimp only
          rcases c.localStore.upsertRecord w.mirror kvsTable
            (prepared.config.mapRemoteToLocal prepared.record) with ⟨mirror, error | _⟩ <;> rfl
  | delete =>
    simp only [runWrite, Store.delete]
    cases nextVersionFor c w (encodeId namespace_ key) with
    | error error => rfl
    | ok version =>
      simp only [Coordinator.delete, localWrite]
      cases c.registry.configForTable kvsTable with
      | none => rfl
      | some config =>
        obtain ⟨session, mirror, queue, echo, requests, events⟩ := w
        cases session with
        | none => rfl
        | some session =>
          dsimp only
          rcases c.localStore.markDeleted mirror kvsTable (encodeId namespace_ key) version with
            ⟨mirror, error | _⟩ <;> rfl

theorem poll_move (c : Coordinator p DbManager Queue) (namespace_ key : String) (s : State Queue)
    (id : Nat) (a : Activity) (phase : Phase) :
    poll c namespace_ key (s.move id a phase) (.advance id) =
      advance c namespace_ key (s.move id a phase) id { a with phase := phase } := by
  simp [poll, State.move]

theorem phase_move (s : State Queue) (id : Nat) (a : Activity) (phase : Phase) :
    ((s.move id a phase).calls id).map Activity.phase = some phase := by
  simp [State.move]

/-- A call that nothing interrupts does what the API's function does. -/
theorem execute_undisturbed (c : Coordinator p DbManager Queue) (namespace_ key : String)
    (s : State Queue) (id : Nat) (env : CallEnv) (op : KvsWrite) (free : s.calls id = none) :
    ∃ count t, execute (poll c namespace_ key) s
        (List.replicate count (.advance id) ++ [.start id env op]) = some t ∧
      (t.calls id).map Activity.phase =
        some (.done (runWrite c namespace_ key env s.world op).2) ∧
      t.world = (runWrite c namespace_ key env s.world op).1 := by
  let a : Activity := ⟨env, op, .readVersion⟩
  let started := s.move id a .readVersion
  have begun : execute (poll c namespace_ key) s [.start id env op] = some started := by
    simp [execute, poll, free, started, State.move, a]
  have next : ∀ count phase (s' t : State Queue),
      execute (poll c namespace_ key) s
        (List.replicate count (.advance id) ++ [.start id env op]) = some (s'.move id a phase) →
      advance c namespace_ key (s'.move id a phase) id { a with phase := phase } = some t →
      execute (poll c namespace_ key) s
        (List.replicate (count + 1) (.advance id) ++ [.start id env op]) = some t := by
    intro count phase s' t before edge
    have unfolded : execute (poll c namespace_ key) s
        (List.replicate (count + 1) (.advance id) ++ [.start id env op]) =
          (execute (poll c namespace_ key) s
            (List.replicate count (.advance id) ++ [.start id env op])).bind
              (fun s => poll c namespace_ key s (.advance id)) := by
      rw [List.replicate_succ, List.cons_append, execute]
    rw [unfolded, before, Option.bind_some, poll_move]
    exact edge
  rw [runWrite_eq]
  cases version : nextVersionFor c s.world (encodeId namespace_ key) with
  | error error =>
    have read : advance c namespace_ key started id a =
        some (started.move id a (.done (.error error))) := by
      have same : nextVersionFor c started.world (encodeId namespace_ key) = .error error := version
      simp only [advance, a, same]
    exact ⟨1, _, next 0 _ s _ begun read, phase_move .., rfl⟩
  | ok version' =>
    have read : advance c namespace_ key started id a =
        some (started.move id a (.localWrite version')) := by
      have same : nextVersionFor c started.world (encodeId namespace_ key) = .ok version' := version
      simp only [advance, a, same]
    have first := next 0 _ s _ begun read
    dsimp only
    cases wrote : localWrite c namespace_ key env s.world version' op with
    | mk mirror result =>
      cases result with
      | error error =>
        have failed : advance c namespace_ key (started.move id a (.localWrite version')) id
            { a with phase := .localWrite version' } = some (((started.move id a
              (.localWrite version')).withMirror mirror).move id a (.done (.error error))) := by
          have same : localWrite c namespace_ key env
              (started.move id a (.localWrite version')).world version' op =
                (mirror, .error error) := wrote
          simp only [advance, a, same]
          rfl
        exact ⟨2, _, next 1 _ _ _ first failed, phase_move .., rfl⟩
      | ok stored =>
        let written := ((started.move id a (.localWrite version')).withMirror mirror).wrote version'
        have landed : advance c namespace_ key (started.move id a (.localWrite version')) id
            { a with phase := .localWrite version' } =
              some (written.move id a (.network stored)) := by
          have same : localWrite c namespace_ key env
              (started.move id a (.localWrite version')).world version' op =
                (mirror, .ok stored) := wrote
          simp only [advance, a, same]
          rfl
        have second := next 1 _ _ _ first landed
        let sent := dispatch c namespace_ key env { s.world with mirror := mirror } stored
        let answered : State Queue :=
          { written.move id a (.network stored) with world := sent.1 }
        have third := next 2 _ _ (answered.move id a (.settle stored sent.2)) second rfl
        have fourth := next 3 _ _ _ third rfl
        exact ⟨4, _, fourth, phase_move .., rfl⟩

/-- Below the last version of 64 bits there is room for one more. -/
def hasNext (version : Int64) : Bool := version != Int64.maxValue

/-- A local write finds the row at the version its call has read, or is the first of the run. -/
def freshWrite (c : Coordinator p DbManager Queue) (namespace_ key : String) (s : State Queue) :
    Label → Bool
  | .start _ _ _ => true
  | .advance id =>
      match (s.calls id).map Activity.phase with
      | some (.localWrite version) =>
          s.log.isEmpty ||
            match c.readRecord s.world kvsTable (encodeId namespace_ key) with
            | .ok (some row) => hasNext (rowVersion row) && version == rowVersion row + 1
            | _ => false
      | _ => true

/-- A mirror with the bundled table, no call under way, nothing written yet. -/
structure Start (s : State Queue) : Prop where
  shape : MirrorHasSchema s.world.mirror kvsTable kvsSchema
  idle : ∀ id, s.calls id = none
  quiet : s.log = []

section

variable {codec : Codec} {c : Coordinator p DbManager Queue} {namespace_ key : String}

theorem dispatch_mirror (env : CallEnv) (w : World DbManager Queue) (stored : Stored) :
    (dispatch c namespace_ key env w stored).1.mirror = w.mirror := by
  cases stored with
  | write prepared => exact dispatchWrite_mirror ..
  | tombstone config session version => exact dispatchDelete_mirror ..

theorem localWrite_error (store : c.localStore = sqliteLocalStore codec) {env : CallEnv}
    {w : World DbManager Queue} {version : Int64} {op : KvsWrite} {mirror : DbManager}
    {error : PolyError}
    (h : localWrite c namespace_ key env w version op = (mirror, .error error)) :
    mirror = w.mirror := by
  unfold localWrite at h
  rw [store] at h
  split at h
  · cases h
    rfl
  · split at h
    · cases h
      rfl
    · split at h
      · rename_i failed
        cases h
        exact upsertRecord_error failed
      · cases h
  · split at h
    · cases h
      rfl
    · split at h
      · cases h
        rfl
      · split at h
        · rename_i failed
          cases h
          exact markDeleted_error failed
        · cases h

theorem localWrite_set_ok (store : c.localStore = sqliteLocalStore codec)
    (registered : c.registry.configForTable kvsTable = some kvsEntityConfig) {env : CallEnv}
    {w : World DbManager Queue} {version : Int64} {encoded : Except String Value}
    {mirror : DbManager} {stored : Stored} (shape : MirrorHasSchema w.mirror kvsTable kvsSchema)
    (h : localWrite c namespace_ key env w version (.set encoded) = (mirror, .ok stored)) :
    MirrorHasSchema mirror kvsTable kvsSchema ∧
      ∃ row, readRecord mirror kvsTable (encodeId namespace_ key) = .ok (some row) ∧
        rowDeleted row = false ∧ rowVersion row = version := by
  cases encoded with
  | error error => cases h
  | ok value =>
    simp only [localWrite, store] at h
    split at h
    · cases h
    · rename_i prepared ready
      split at h
      · cases h
      · rename_i written
        cases h
        obtain ⟨row, found, live, versioned, _⟩ :=
          readRecord_localWrite registered shape ready written
        have kept := mirrorHasSchema_upsertRecord shape codec
          (prepared.config.mapRemoteToLocal prepared.record)
        have final : (upsertRecord codec w.mirror kvsTable
            (prepared.config.mapRemoteToLocal prepared.record)).1 = mirror :=
          congrArg Prod.fst written
        exact ⟨final ▸ kept, row, found, live, versioned⟩

/-- After a local write under the key its row, if there is one, has the version written, and
there is one unless a delete found none. -/
theorem localWrite_ok (store : c.localStore = sqliteLocalStore codec)
    (registered : c.registry.configForTable kvsTable = some kvsEntityConfig) {env : CallEnv}
    {w : World DbManager Queue} {version : Int64} {op : KvsWrite} {mirror : DbManager}
    {stored : Stored} (shape : MirrorHasSchema w.mirror kvsTable kvsSchema)
    (h : localWrite c namespace_ key env w version op = (mirror, .ok stored)) :
    MirrorHasSchema mirror kvsTable kvsSchema ∧
      (readRecord w.mirror kvsTable (encodeId namespace_ key) = .ok none ∧
          readRecord mirror kvsTable (encodeId namespace_ key) = .ok none ∨
        ∃ row, readRecord mirror kvsTable (encodeId namespace_ key) = .ok (some row) ∧
          rowVersion row = version) := by
  cases op with
  | set encoded =>
    obtain ⟨kept, row, found, _, versioned⟩ := localWrite_set_ok store registered shape h
    exact ⟨kept, .inr ⟨row, found, versioned⟩⟩
  | delete =>
    simp only [localWrite, store] at h
    split at h
    · cases h
    · split at h
      · cases h
      · split at h
        · cases h
        · rename_i written
          cases h
          have kept := mirrorHasSchema_markDeleted shape codec (encodeId namespace_ key) version
          have final : (markDeleted codec w.mirror kvsTable (encodeId namespace_ key)
              version).1 = mirror := congrArg Prod.fst written
          refine ⟨final ▸ kept, ?_⟩
          rcases readRecord_markDeleted shape (by decide) (by decide) written with
            absent | ⟨_, row, _, found, versioned, _⟩
          · exact .inl absent
          · exact .inr ⟨row, found, rowVersion_of_number versioned⟩

def nextVersionOn (m : DbManager) (namespace_ key : String) : Except PolyError Int64 :=
  match readRecord m kvsTable (encodeId namespace_ key) with
  | .error error => .error error
  | .ok none => .ok 1
  | .ok (some row) => .ok (rowVersion row + 1)

theorem nextVersionFor_sqlite (store : c.localStore = sqliteLocalStore codec)
    (w : World DbManager Queue) :
    nextVersionFor c w (encodeId namespace_ key) = nextVersionOn w.mirror namespace_ key := by
  unfold nextVersionFor nextVersionOn Coordinator.readRecord
  rw [store]
  rfl

/-- `id` waits to write `version`. -/
def Pending (s : State Queue) (id : Nat) (version : Int64) : Prop :=
  (s.calls id).map Activity.phase = some (.localWrite version)

theorem pending_move {s : State Queue} {id other : Nat} {a : Activity} {phase : Phase}
    {version : Int64} (h : Pending (s.move id a phase) other version) :
    other = id ∧ phase = .localWrite version ∨ Pending s other version := by
  by_cases same : other = id
  · subst same
    unfold Pending at h
    rw [phase_move] at h
    exact .inl ⟨rfl, Option.some.inj h⟩
  · right
    simpa [Pending, State.move, same] using h

theorem pending_of_move {s : State Queue} {id other : Nat} {a : Activity} {phase : Phase}
    {version : Int64} (h : Pending (s.move id a phase) other version)
    (elsewhere : phase ≠ .localWrite version) : Pending s other version := by
  rcases pending_move h with ⟨_, writing⟩ | older
  · exact absurd writing elsewhere
  · exact older

/-- A step is a local write under the key, or it leaves log and mirror alone and what it adds
to the pending versions was just read. -/
theorem poll_cases (store : c.localStore = sqliteLocalStore codec) {s t : State Queue}
    {label : Label} (edge : poll c namespace_ key s label = some t) :
    (t.log = s.log ∧ t.world.mirror = s.world.mirror ∧
        ∀ id version, Pending t id version →
          Pending s id version ∨ nextVersionOn s.world.mirror namespace_ key = .ok version) ∨
      ∃ id version, ∃ a : Activity, ∃ mirror stored,
        label = .advance id ∧ Pending s id version ∧
        localWrite c namespace_ key a.env s.world version a.op = (mirror, .ok stored) ∧
        t.log = version :: s.log ∧ t.world.mirror = mirror ∧
        ∀ id version, Pending t id version → Pending s id version := by
  cases label with
  | start id env op =>
    left
    simp only [poll] at edge
    split at edge
    · cases edge
      refine ⟨rfl, rfl, fun other version pending => .inl ?_⟩
      exact pending_of_move (a := ⟨env, op, .readVersion⟩) pending nofun
    · cases edge
  | advance id =>
    obtain ⟨a, task, edge⟩ := Option.bind_eq_some_iff.mp edge
    unfold advance at edge
    split at edge
    · left
      rename_i phase
      split at edge
      · cases edge
        refine ⟨rfl, rfl, fun other version pending => .inl ?_⟩
        exact pending_of_move pending nofun
      · rename_i version read
        cases edge
        refine ⟨rfl, rfl, fun other version' pending => ?_⟩
        rcases pending_move pending with ⟨_, now⟩ | older
        · cases now
          rw [← nextVersionFor_sqlite store]
          exact .inr read
        · exact .inl older
    · rename_i version phase
      have waiting : Pending s id version := by simp [Pending, task, phase]
      split at edge
      · rename_i mirror error failed
        cases edge
        left
        refine ⟨rfl, localWrite_error store failed, fun other version' pending => .inl ?_⟩
        exact pending_of_move pending nofun
      · rename_i mirror stored written
        cases edge
        right
        refine ⟨id, version, a, mirror, stored, rfl, waiting, written, rfl, rfl, ?_⟩
        intro other version' pending
        exact pending_of_move pending nofun
    · rename_i stored phase
      cases edge
      left
      refine ⟨rfl, dispatch_mirror .., fun other version pending => .inl ?_⟩
      exact pending_of_move pending nofun
    · rename_i stored result phase
      cases edge
      left
      refine ⟨rfl, settle_mirror .., fun other version pending => .inl ?_⟩
      exact pending_of_move pending nofun
    · cases edge

/-- The log grows, and its head is the version of the row. A pending version is the next one
or was overtaken. -/
structure Ordered (namespace_ key : String) (s : State Queue) : Prop where
  shape : MirrorHasSchema s.world.mirror kvsTable kvsSchema
  increasing : s.log.Pairwise (fun newer older => older < newer)
  current : ∀ newest older, s.log = newest :: older →
    (readRecord s.world.mirror kvsTable (encodeId namespace_ key) = .ok none → newest = 1) ∧
      ∀ row, readRecord s.world.mirror kvsTable (encodeId namespace_ key) = .ok (some row) →
        rowVersion row = newest
  pending : ∀ id version, Pending s id version →
    nextVersionOn s.world.mirror namespace_ key = .ok version ∨
      ∃ newest older, s.log = newest :: older ∧ version ≤ newest

theorem Start.ordered {s : State Queue} (h : Start s) : Ordered namespace_ key s where
  shape := h.shape
  increasing := by simp [h.quiet]
  current newest older log := by
    rw [h.quiet] at log
    cases log
  pending id version waiting := by
    rw [Pending, h.idle id] at waiting
    cases waiting

theorem lt_add_one_iff (version : Int64) : version < version + 1 ↔ hasNext version = true := by
  have low := version.le_toInt
  have high := version.toInt_lt
  have last : hasNext version = true ↔ version.toInt ≠ 9223372036854775807 := by
    have top : Int64.maxValue.toInt = 9223372036854775807 := by decide
    rw [hasNext, bne_iff_ne, ne_eq, ← Int64.toInt_inj, top]
  rw [last, Int64.lt_iff_toInt_lt, Int64.toInt_add]
  have one : (1 : Int64).toInt = 1 := by decide
  rw [one]
  by_cases room : version.toInt = 9223372036854775807
  · rw [room]
    decide
  · have inside : (version.toInt + 1).bmod (2 ^ 64) = version.toInt + 1 :=
      Int.bmod_eq_of_le (by omega) (by omega)
    rw [inside]
    omega

theorem nextVersionOn_eq_ok {m : DbManager} {version : Int64}
    (h : nextVersionOn m namespace_ key = .ok version) :
    readRecord m kvsTable (encodeId namespace_ key) = .ok none ∧ version = 1 ∨
      ∃ row, readRecord m kvsTable (encodeId namespace_ key) = .ok (some row) ∧
        version = rowVersion row + 1 := by
  unfold nextVersionOn at h
  split at h
  · cases h
  · rename_i absent
    cases h
    exact .inl ⟨absent, rfl⟩
  · rename_i row found
    cases h
    exact .inr ⟨row, found, rfl⟩

theorem freshWrite_iff (store : c.localStore = sqliteLocalStore codec) {s : State Queue} {id : Nat}
    {version : Int64} (h : Ordered namespace_ key s) (waiting : Pending s id version) :
    freshWrite c namespace_ key s (.advance id) = true ↔ ∀ older ∈ s.log, older < version := by
  have reads : c.readRecord s.world kvsTable (encodeId namespace_ key) =
      readRecord s.world.mirror kvsTable (encodeId namespace_ key) := by
    rw [Coordinator.readRecord, store]
    rfl
  have phase : (s.calls id).map Activity.phase = some (.localWrite version) := waiting
  simp only [freshWrite, phase, reads]
  cases log : s.log with
  | nil => simp
  | cons newest rest =>
    have above : (∀ older ∈ newest :: rest, older < version) ↔ newest < version := by
      have growing := log ▸ h.increasing
      rw [List.forall_mem_cons]
      refine and_iff_left_of_imp (fun larger older member => ?_)
      exact Int64.lt_trans ((List.pairwise_cons.mp growing).1 older member) larger
    have overtaken : nextVersionOn s.world.mirror namespace_ key ≠ .ok version →
        ¬ newest < version := by
      intro other
      rcases h.pending id version waiting with next | ⟨newest', rest', log', small⟩
      · exact absurd next other
      · cases log.symm.trans log'
        exact Int64.not_lt.mpr small
    obtain ⟨first, current⟩ := h.current newest rest log
    rw [above]
    simp only [List.isEmpty_cons, Bool.false_or]
    cases row : readRecord s.world.mirror kvsTable (encodeId namespace_ key) with
    | error error =>
      have other : nextVersionOn s.world.mirror namespace_ key ≠ .ok version := by
        simp [nextVersionOn, row]
      simpa using overtaken other
    | ok found =>
      cases found with
      | none =>
        have one : newest = 1 := first row
        by_cases next : nextVersionOn s.world.mirror namespace_ key = .ok version
        · have same : version = 1 := by
            rcases nextVersionOn_eq_ok next with ⟨_, same⟩ | ⟨_, found, _⟩
            · exact same
            · rw [row] at found
              cases found
          simp [one, same]
        · simpa using overtaken next
      | some stored =>
        have head : rowVersion stored = newest := current stored row
        simp only [head, Bool.and_eq_true, beq_iff_eq, ← lt_add_one_iff]
        constructor
        · rintro ⟨room, rfl⟩
          exact room
        · intro larger
          have next : nextVersionOn s.world.mirror namespace_ key = .ok version := by
            by_contra other
            exact overtaken other larger
          have same : version = newest + 1 := by
            simp only [nextVersionOn, row, head] at next
            exact (Except.ok.inj next).symm
          exact ⟨same ▸ larger, same⟩

theorem ordered_step (store : c.localStore = sqliteLocalStore codec)
    (registered : c.registry.configForTable kvsTable = some kvsEntityConfig)
    {s t : State Queue} {label : Label} (h : Ordered namespace_ key s)
    (edge : poll c namespace_ key s label = some t)
    (fresh : freshWrite c namespace_ key s label = true) : Ordered namespace_ key t := by
  rcases poll_cases store edge with ⟨log, mirror, pending⟩ |
    ⟨id, version, a, mirror, stored, rfl, waiting, written, log, landed, pending⟩
  · refine ⟨mirror ▸ h.shape, log ▸ h.increasing, ?_, ?_⟩
    · rw [log, mirror]
      exact h.current
    · intro id version waiting
      rw [log, mirror]
      rcases pending id version waiting with older | read
      · exact h.pending id version older
      · exact .inl read
  · have larger := (freshWrite_iff store h waiting).mp fresh
    obtain ⟨shape, row⟩ := localWrite_ok store registered h.shape written
    rw [← landed] at shape row
    have next : nextVersionOn s.world.mirror namespace_ key = .ok version := by
      rcases h.pending id version waiting with next | ⟨newest, rest, before, small⟩
      · exact next
      · have above := larger newest (before ▸ List.mem_cons_self)
        exact absurd above (Int64.not_lt.mpr small)
    have highest : ∀ other version', Pending s other version' → version' ≤ version := by
      intro other version' older
      rcases h.pending other version' older with same | ⟨newest, rest, before, small⟩
      · have equal : version' = version := Except.ok.inj (same.symm.trans next)
        exact equal ▸ Int64.le_refl _
      · have above := larger newest (before ▸ List.mem_cons_self)
        exact Int64.le_trans small (Int64.le_of_lt above)
    refine ⟨shape, ?_, ?_, ?_⟩
    · rw [log]
      exact List.pairwise_cons.mpr ⟨larger, h.increasing⟩
    · intro newest older equal
      rw [log] at equal
      cases equal
      refine ⟨fun absent => ?_, fun found located => ?_⟩
      · rcases row with ⟨before, _⟩ | ⟨_, present, _⟩
        · rcases nextVersionOn_eq_ok next with ⟨_, one⟩ | ⟨_, present, _⟩
          · exact one
          · rw [before] at present
            cases present
        · rw [absent] at present
          cases present
      · rcases row with ⟨_, absent⟩ | ⟨_, present, versioned⟩
        · rw [absent] at located
          cases located
        · rw [present] at located
          cases located
          exact versioned
    · intro other version' older
      exact .inr ⟨version, s.log, log, highest other version' (pending other version' older)⟩

theorem run_ordered (store : c.localStore = sqliteLocalStore codec)
    (registered : c.registry.configForTable kvsTable = some kvsEntityConfig)
    {start s : State Queue} {labels : List Label} (initial : Start start)
    (run : Run (Guarded (fun s label => freshWrite c namespace_ key s label = true)
      (Steps (poll c namespace_ key))) start labels s) : Ordered namespace_ key s := by
  refine run.invariant initial.ordered ?_
  intro s label t ordered edge
  exact ordered_step store registered ordered edge.1 edge.2

/-- However the calls interleave, while every local write finds the row at the version its
call has read, each version written is above all written before. -/
theorem run_versions_increase (store : c.localStore = sqliteLocalStore codec)
    (registered : c.registry.configForTable kvsTable = some kvsEntityConfig)
    {start s : State Queue} {labels : List Label} (initial : Start start)
    (run : Run (Guarded (fun s label => freshWrite c namespace_ key s label = true)
      (Steps (poll c namespace_ key))) start labels s) :
    s.log.Pairwise (fun newer older => older < newer) :=
  (run_ordered store registered initial run).increasing

theorem stale_write_breaks (store : c.localStore = sqliteLocalStore codec)
    (registered : c.registry.configForTable kvsTable = some kvsEntityConfig)
    {start s t : State Queue} {labels : List Label} {label : Label} (initial : Start start)
    (run : Run (Guarded (fun s label => freshWrite c namespace_ key s label = true)
      (Steps (poll c namespace_ key))) start labels s)
    (edge : poll c namespace_ key s label = some t) (wrote : t.log ≠ s.log)
    (stale : freshWrite c namespace_ key s label = false) :
    ¬ t.log.Pairwise (fun newer older => older < newer) := by
  have ordered := run_ordered store registered initial run
  rcases poll_cases store edge with ⟨log, _⟩ |
    ⟨id, version, _, _, _, rfl, waiting, _, log, _⟩
  · exact absurd log wrote
  · intro increasing
    rw [log] at increasing
    have larger := (List.pairwise_cons.mp increasing).1
    have fresh := (freshWrite_iff store ordered waiting).mpr larger
    rw [stale] at fresh
    cases fresh

end

/-! Two calls on a fresh key, over the sample mirror: one after the other, and with both
versions read before the first local write. -/

section Sample

def sampleState : State OfflineQueue.Memory.MemoryQueue where
  world := sampleWorld

theorem sampleState_start : Start sampleState where
  shape := sampleMirror_shape
  idle _ := rfl
  quiet := rfl

def setTheme (id : Nat) (theme : String) : Label :=
  .start id (callAt 0 created) (.set (.ok (.string theme)))

def samplePoll : State OfflineQueue.Memory.MemoryQueue → Label →
    Option (State OfflineQueue.Memory.MemoryQueue) :=
  poll sampleCoordinator "prefs" "theme"

/-- Both calls write version 1. -/
theorem versions_collide :
    ∃ s, Run (Steps samplePoll) sampleState
        ([.advance 1, .advance 0, .advance 1, .advance 0] ++
          [setTheme 1 "light", setTheme 0 "dark"]) s ∧ s.log = [1, 1] := by
  have computed : (execute samplePoll sampleState
      ([.advance 1, .advance 0, .advance 1, .advance 0] ++
        [setTheme 1 "light", setTheme 0 "dark"])).map State.log = some [1, 1] := by decide
  obtain ⟨s, ran, log⟩ := Option.map_eq_some_iff.mp computed
  exact ⟨s, run_of_execute ran, log⟩

theorem run_versions_increase_serial :
    ∃ s, Run (Steps samplePoll) sampleState
        ([.advance 1, .advance 1] ++ [setTheme 1 "light", .advance 0, .advance 0] ++
          [setTheme 0 "dark"]) s ∧
      s.log = [2, 1] ∧ s.log.Pairwise (fun newer older => older < newer) := by
  have computed : (execute (restrict (freshWrite sampleCoordinator "prefs" "theme") samplePoll)
      sampleState ([.advance 1, .advance 1] ++ [setTheme 1 "light", .advance 0, .advance 0] ++
        [setTheme 0 "dark"])).map State.log = some [2, 1] := by decide
  obtain ⟨s, ran, log⟩ := Option.map_eq_some_iff.mp computed
  have guarded := guarded_of_execute ran
  exact ⟨s, guarded.mono (fun _ _ _ edge => edge.1), log,
    run_versions_increase rfl (by decide) sampleState_start guarded⟩

end Sample

end Polykit.Kvs.Versions
