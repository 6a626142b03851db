/- Module: Polykit/Sync/Arrivals
   generality: I
   source: crates/polybase/src/sync/coordinator.rs, crates/polybase-sqlite/src/store.rs
   digest: Ingested rows overwrite in the order they arrive, whatever versions they carry. -/

import Polykit.Kvs.Survival
import Polykit.Lib.Runs
import Polykit.Sync.Ingest

set_option autoImplicit false
set_option relaxedAutoImplicit false

namespace Polykit.Sync.Arrivals

open Crypto Entity Errors Json Kvs.Schema Kvs.Survival Ingest Lib.Fallible Lib.Runs
open Sqlite.Manager Sqlite.Storage Sqlite.Store

variable {p : Primitives} {Queue : Type}

def mirrorVersion (m : DbManager) (table id : String) : Option Int64 :=
  (readRecord m table id).toOption.join.bind (fun row => row["version"]?.bind Value.asI64)

def mirrorRow (c : Coordinator p DbManager Queue) (config : EntityConfig)
    (record : Map) (userId : String) : Except PolyError Map :=
  (decryptColumns c config record userId).map config.mapRemoteToLocal

/-- One ingestion of a version of the row, with what the mirror held before and after. -/
structure Arrival where
  record : Map
  version : Int64
  result : Except PolyError Unit
  before : Option Int64
  after : Option Int64

/-- The table a row arrives in, as the registry and the mirror know it. -/
structure Destination (c : Coordinator p DbManager Queue) (codec : Codec) (table : String)
    (config : EntityConfig) (schema : TableSchema) : Prop where
  store : c.localStore = sqliteLocalStore codec
  registered : c.registry.configForTable table = some config
  textId : schema.affinity "id" = .text
  integerVersion : schema.affinity "version" = .integer

/-- A record of the row `id` arrives, and ingesting it leads from one state to the next. -/
structure Arrives (c : Coordinator p DbManager Queue) (table userId id : String)
    (config : EntityConfig) (w : World DbManager Queue) (arrival : Arrival)
    (next : World DbManager Queue) : Prop where
  named : ∀ row, mirrorRow c config arrival.record userId = .ok row →
    row["id"]? = some (.string id)
  versioned : ∀ row, mirrorRow c config arrival.record userId = .ok row →
    row["version"]? = some (.number (Number.ofInt64 arrival.version))
  applied : applyRemoteRecord c w table arrival.record userId = (next, arrival.result)
  before : arrival.before = mirrorVersion w.mirror table id
  after : arrival.after = mirrorVersion next.mirror table id

theorem affinity_integer_member {schema : TableSchema} {name : String}
    (integer : schema.affinity name = .integer) :
    ∃ column ∈ schema.columns, column.name = name := by
  unfold TableSchema.affinity at integer
  cases found : schema.columns.find? (fun column => column.name == name) with
  | none => simp [found] at integer
  | some column =>
    exact ⟨column, List.mem_of_find?_eq_some found, by simpa using List.find?_some found⟩

section

variable {c : Coordinator p DbManager Queue} {codec : Codec} {table userId id : String}
  {config : EntityConfig} {schema : TableSchema} {w next : World DbManager Queue}
  {arrival : Arrival}

theorem applyRemoteRecord_statement (destination : Destination c codec table config schema)
    (w : World DbManager Queue) (record : Map) (userId : String) :
    ((applyRemoteRecord c w table record userId).1.mirror = w.mirror ∧
        ∃ error, (applyRemoteRecord c w table record userId).2 = .error error) ∨
      ∃ row, mirrorRow c config record userId = .ok row ∧
        upsertRecord codec w.mirror table row =
          ((applyRemoteRecord c w table record userId).1.mirror,
            (applyRemoteRecord c w table record userId).2) := by
  cases decrypted : decryptColumns c config record userId with
  | error error =>
    left
    simp [applyRemoteRecord, destination.registered, decrypted]
  | ok opened =>
    right
    refine ⟨config.mapRemoteToLocal opened, by simp [mirrorRow, decrypted, Except.map], ?_⟩
    simp only [applyRemoteRecord, destination.registered, decrypted, destination.store,
      sqliteLocalStore]
    rcases upsertRecord codec w.mirror table (config.mapRemoteToLocal opened) with
      ⟨mirror, error | _⟩
    · rfl
    · dsimp only
      rw [Calls.publishAll_mirror]

/-- An ingestion that returns ok leaves the mirror at the version that arrived, and one that
fails leaves the mirror. -/
theorem arrives_version (destination : Destination c codec table config schema)
    (shape : MirrorHasSchema w.mirror table schema)
    (arrives : Arrives c table userId id config w arrival next) :
    MirrorHasSchema next.mirror table schema ∧
      ((arrival.result = .ok () ∧ arrival.after = some arrival.version) ∨
        ((∃ error, arrival.result = .error error) ∧ next.mirror = w.mirror)) := by
  have statement := applyRemoteRecord_statement destination w arrival.record userId
  rw [arrives.applied] at statement
  rcases statement with ⟨same, failed⟩ | ⟨row, mapped, written⟩
  · exact ⟨same ▸ shape, .inr ⟨failed, same⟩⟩
  · have kept := mirrorHasSchema_upsertRecord shape codec row
    rw [written] at kept
    refine ⟨kept, ?_⟩
    cases outcome : arrival.result with
    | error error =>
      rw [outcome] at written
      exact .inr ⟨⟨error, rfl⟩, upsertRecord_error written⟩
    | ok _ =>
      rw [outcome] at written
      obtain ⟨stored, found, columns⟩ :=
        readRecord_upsertRecord shape destination.textId (arrives.named row mapped) written
      obtain ⟨column, member, name⟩ := affinity_integer_member destination.integerVersion
      have field := (columns column member _
        (name ▸ arrives.versioned row mapped)).1
      have reads : columnToJson (storedAs codec schema column.name
          (.number (Number.ofInt64 arrival.version))) =
            .number (Number.ofInt64 arrival.version) := by
        simp [name, storedAs, destination.integerVersion, bindJsonValue, Number.asI64_ofInt64,
          Affinity.apply, columnToJson]
      rw [reads, name] at field
      refine .inl ⟨rfl, ?_⟩
      simp [arrives.after, mirrorVersion, found, Except.toOption, field, Value.asI64,
        Number.asI64_ofInt64]

def applied (arrivals : List Arrival) : List Int64 :=
  arrivals.filterMap (fun arrival => arrival.result.toOption.map (fun _ => arrival.version))

/-- No ingestion left the mirror at a lower version, or without the row. -/
def NeverBack (arrivals : List Arrival) : Prop :=
  ∀ arrival ∈ arrivals, ∀ old, arrival.before = some old →
    ∃ new, arrival.after = some new ∧ old ≤ new

/-- What a run of ingestions knows: the mirror stands at the last version that was taken, and
it went back unless the versions taken kept growing from its own. -/
structure Tracked (table id : String) (schema : TableSchema) (start : World DbManager Queue)
    (arrivals : List Arrival) (w : World DbManager Queue) : Prop where
  shape : MirrorHasSchema w.mirror table schema
  last : mirrorVersion w.mirror table id =
    (applied arrivals ++ (mirrorVersion start.mirror table id).toList).head?
  ordered : NeverBack arrivals ↔
    (applied arrivals ++ (mirrorVersion start.mirror table id).toList).IsChain (· ≥ ·)

theorem tracked_step (destination : Destination c codec table config schema)
    {start : World DbManager Queue} {older : List Arrival}
    (tracked : Tracked table id schema start older w)
    (arrives : Arrives c table userId id config w arrival next) :
    Tracked table id schema start (arrival :: older) next := by
  have split : NeverBack (arrival :: older) ↔
      (∀ old, arrival.before = some old → ∃ new, arrival.after = some new ∧ old ≤ new) ∧
        NeverBack older := List.forall_mem_cons
  obtain ⟨shape, ⟨ok, taken⟩ | ⟨⟨error, failed⟩, same⟩⟩ :=
    arrives_version destination tracked.shape arrives
  · have grown : applied (arrival :: older) = arrival.version :: applied older := by
      simp [applied, ok, Except.toOption]
    refine ⟨shape, ?_, ?_⟩
    · rw [grown, ← arrives.after, taken]
      rfl
    · rw [split, grown, List.cons_append, List.isChain_cons, ← tracked.ordered, ← tracked.last,
        ← arrives.before, taken]
      simp
  · have kept : applied (arrival :: older) = applied older := by
      simp [applied, failed, Except.toOption]
    refine ⟨shape, ?_, ?_⟩
    · rw [kept, same]
      exact tracked.last
    · have still : ∀ old, arrival.before = some old →
          ∃ new, arrival.after = some new ∧ old ≤ new := by
        intro old held
        exact ⟨old, by rw [arrives.after, same, ← arrives.before, held], Int64.le_refl old⟩
      rw [split, kept, tracked.ordered]
      exact and_iff_right still

/-- Ingestion takes the rows as they arrive. The mirror ends at the version taken last, and it
never went back if and only if each version taken was at least the one the mirror had, in
which case it ends at the highest of them. -/
theorem arrivals_versions (destination : Destination c codec table config schema)
    {start : World DbManager Queue} {arrivals : List Arrival}
    (shape : MirrorHasSchema start.mirror table schema)
    (run : Run (Arrives c table userId id config) start arrivals w) :
    let versions := applied arrivals ++ (mirrorVersion start.mirror table id).toList
    mirrorVersion w.mirror table id = versions.head? ∧
      (NeverBack arrivals ↔ versions.Pairwise (fun newer older => older ≤ newer)) ∧
      (versions.Pairwise (fun newer older => older ≤ newer) →
        ∀ final, mirrorVersion w.mirror table id = some final →
          ∀ version ∈ versions, version ≤ final) := by
  have tracked : Tracked table id schema start arrivals w := by
    refine run.history_invariant ⟨shape, ?_, ?_⟩ (fun _ _ _ _ => tracked_step destination)
    · cases mirrorVersion start.mirror table id <;> rfl
    · constructor
      · intro _
        cases mirrorVersion start.mirror table id <;> simp [applied]
      · intro _ _ absent
        cases absent
  intro versions
  refine ⟨tracked.last, tracked.ordered.trans List.isChain_iff_pairwise, ?_⟩
  intro descending final ends version member
  rw [tracked.last] at ends
  obtain ⟨rest, shape⟩ := List.head?_eq_some_iff.mp ends
  rw [show versions = final :: rest from shape] at descending member
  rcases List.mem_cons.mp member with rfl | later
  · exact Int64.le_refl _
  · exact (List.pairwise_cons.mp descending).1 version later

end

/-! Two versions of one key arrive in either order. -/

def themeRow (version : Int64) : Map :=
  Kvs.Store.kvsRecord "prefs" "theme" (.string "dark") version
    (Calls.callAt 0 Calls.created).utcNow

def arriveTheme (w : World DbManager OfflineQueue.Memory.MemoryQueue) (version : Int64) :
    World DbManager OfflineQueue.Memory.MemoryQueue × Except PolyError Unit :=
  applyRemoteRecord sampleCoordinator w kvsTable (themeRow version) "user-1"

def themeVersion (w : World DbManager OfflineQueue.Memory.MemoryQueue) : Option Int64 :=
  mirrorVersion w.mirror kvsTable "prefs::theme"

def themeArrival (version : Int64) (before : Option Int64) : Arrival :=
  ⟨themeRow version, version, .ok (), before, some version⟩

/-- The older version arrives late and takes the mirror back. In the other order it does not. -/
theorem late_arrival_goes_back :
    (arriveTheme sampleWorld 2).2 = .ok () ∧
      themeVersion (arriveTheme sampleWorld 2).1 = some 2 ∧
      (arriveTheme (arriveTheme sampleWorld 2).1 1).2 = .ok () ∧
      themeVersion (arriveTheme (arriveTheme sampleWorld 2).1 1).1 = some 1 ∧
      themeVersion (arriveTheme (arriveTheme sampleWorld 1).1 2).1 = some 2 := by
  decide

theorem arrivals_versions_theme :
    themeVersion (arriveTheme (arriveTheme sampleWorld 1).1 2).1 = some 2 ∧
      NeverBack [themeArrival 2 (some 1), themeArrival 1 none] := by
  have arrives : ∀ (w : World DbManager OfflineQueue.Memory.MemoryQueue) (version : Int64)
      (before : Option Int64), (arriveTheme w version).2 = .ok () → themeVersion w = before →
        themeVersion (arriveTheme w version).1 = some version →
          Arrives sampleCoordinator kvsTable "user-1" "prefs::theme" kvsEntityConfig w
            (themeArrival version before) (arriveTheme w version).1 := by
    intro w version before ok held left
    refine ⟨?_, ?_, Prod.ext rfl ok, held.symm, left.symm⟩
    · rintro _ ⟨⟩
      rfl
    · rintro _ ⟨⟩
      rfl
  have destination : Destination sampleCoordinator sampleCodec kvsTable kvsEntityConfig
      kvsSchema := ⟨rfl, by decide, by decide, by decide⟩
  have facts := arrivals_versions destination sampleMirror_shape
    (.tail (.tail .refl (arrives sampleWorld 1 none (by decide) (by decide) (by decide)))
      (arrives (arriveTheme sampleWorld 1).1 2 (some 1) (by decide) (by decide) (by decide)))
  refine ⟨facts.1.trans (by decide), facts.2.1.mpr (by decide)⟩

end Polykit.Sync.Arrivals
