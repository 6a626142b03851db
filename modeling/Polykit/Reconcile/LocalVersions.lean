/- Module: Polykit/Reconcile/LocalVersions
   generality: I
   source: crates/polybase-sqlite/src/store.rs, crates/polybase/src/sync/coordinator.rs
   digest: What a plan decides when its local versions are read from the mirror. -/

import Polykit.Kvs.Survival
import Polykit.Reconcile.Partition
import Polykit.Reconcile.Range
import Polykit.Sqlite.Mirror

set_option autoImplicit false
set_option relaxedAutoImplicit false

namespace Polykit.Reconcile.LocalVersions

open Contract Errors Json Lib.Fallible Planner Range Reconcile.Partition Sqlite.Manager
open Sqlite.Mirror Sqlite.Storage Sqlite.Store Sync

def counters : List String := ["version", "deleted"]

def integerOf : Value → Option Int64
  | .bool b => some (if b then 1 else 0)
  | .number n => n.asI64
  | _ => none

/-- A version and a deleted flag in integer columns, with integers by default. -/
structure Counts (schema : TableSchema) : Prop where
  textId : schema.affinity "id" = .text
  idColumn : "id" ∈ schema.columns.map SqlColumn.name
  counter : ∀ name ∈ counters, ∃ notNull n,
    schema.columns.find? (fun column => column.name == name) =
      some ⟨name, .integer, notNull, .value (.integer n)⟩

/-- A write that brings integers for the two, if it brings them. -/
def Counted : Op → Prop
  | .upsert write _ => ∀ name ∈ counters, ∀ value, write.record[name]? = some value →
      (integerOf value).isSome = true
  | _ => True

def CountedRows (contents : Contents) : Prop :=
  ∀ id row, contents id = some row → ∀ name ∈ counters, ∃ n, row name = .integer n

theorem bindJsonValue_integerOf {json : JsonText} {value : Value} {n : Int64}
    (h : integerOf value = some n) : bindJsonValue json value = .integer n := by
  cases value with
  | bool b => exact congrArg SqlValue.integer (Option.some.inj h)
  | number number =>
    have integer : number.asI64 = some n := h
    simp only [bindJsonValue, integer]
  | null => cases h
  | string s => cases h
  | array values => cases h
  | object fields => cases h

section Rows

variable {codec : Codec} {schema : TableSchema} {contents : Contents} (counts : Counts schema)

include counts

theorem affinity_counter {name : String} (among : name ∈ counters) :
    schema.affinity name = .integer := by
  obtain ⟨_, _, found⟩ := counts.counter name among
  rw [TableSchema.affinity, found]
  rfl

theorem counter_column {name : String} (among : name ∈ counters) :
    name ∈ schema.columns.map SqlColumn.name := by
  obtain ⟨_, _, found⟩ := counts.counter name among
  exact List.mem_map.mpr ⟨_, List.mem_of_find?_eq_some found, rfl⟩

theorem counted_merged {write : Write} {now : String} (counted : CountedRows contents)
    (brings : Counted (.upsert write now)) {name : String} (among : name ∈ counters) :
    ∃ n, merged codec schema contents write now name = .integer n := by
  unfold merged
  cases field : write.record[name]? with
  | some value =>
    obtain ⟨n, integer⟩ := Option.isSome_iff_exists.mp (brings name among value field)
    refine ⟨n, ?_⟩
    show storedAs codec schema name value = _
    rw [storedAs, bindJsonValue_integerOf integer, affinity_counter counts among]
    rfl
  | none =>
    cases old : contents write.id with
    | some row => exact counted write.id row old name among
    | none =>
      obtain ⟨_, n, found⟩ := counts.counter name among
      exact ⟨n, by simp only [found]⟩

theorem counted_tombstoned {row : Row} {version : Int64} {name : String}
    (held : ∃ n, row name = .integer n) (among : name ∈ counters) :
    ∃ n, tombstoned schema codec.sql version row name = .integer n := by
  have integer := affinity_counter counts among
  unfold tombstoned
  split
  · exact ⟨1, by rw [integer]; rfl⟩
  · split
    · exact ⟨version, by rw [integer]; rfl⟩
    · exact held

theorem counted_effect (counted : CountedRows contents) {op : Op} (brings : Counted op) :
    CountedRows (effect codec schema contents op) := by
  intro id row found name among
  cases op with
  | upsert write now =>
    rw [effect, Function.update_apply] at found
    split at found
    · rw [← Option.some.inj found]
      exact counted_merged counts counted brings among
    · exact counted id row found name among
  | markDeleted own version =>
    rw [effect, Function.update_apply] at found
    split at found
    · obtain ⟨old, before, rfl⟩ := Option.map_eq_some_iff.mp found
      exact counted_tombstoned counts (counted own old before name among) among
    · exact counted id row found name among
  | hardDelete own =>
    rw [effect, Function.update_apply] at found
    split at found
    · cases found
    · exact counted id row found name among

theorem counted_contentsAfter {table : String} (counted : CountedRows contents)
    {calls : List (TableId × Op)} (brings : ∀ call ∈ calls, call.1.1 = table → Counted call.2) :
    CountedRows (contentsAfter codec schema table contents calls) := by
  induction calls with
  | nil => exact counted
  | cons call older ih =>
    rw [List.forall_mem_cons] at brings
    rw [contentsAfter]
    split
    · rename_i taken
      exact counted_effect counts (ih brings.2) (brings.1 taken.1)
    · exact ih brings.2

end Rows

/-! Reading the triples of the mirror. -/

def intOf : SqlValue → Int64
  | .integer n => n
  | _ => 0

def rowVersions (row : Row) : VersionRow :=
  ⟨idOf row, intOf (row "version"), intOf (row "deleted") != 0⟩

def tripleOf (row : VersionRow) : VersionTriple := ⟨row.id, row.version, row.deleted⟩

section Read

variable {driver : Driver} {m : DbManager} {table : String} {schema : TableSchema}
  {contents : Contents} (counts : Counts schema) (held : Represents m table schema contents)
  (counted : CountedRows contents)

theorem versionRow_eq {row : Row} {id : String} (own : row "id" = .text id)
    (integers : ∀ name ∈ counters, ∃ n, row name = .integer n) :
    versionRow driver row = .ok (rowVersions row) := by
  obtain ⟨version, isVersion⟩ := integers "version" List.mem_cons_self
  obtain ⟨deleted, isDeleted⟩ := integers "deleted" (by simp [counters])
  unfold versionRow rowVersions
  rw [own, driver.text_text, isVersion, driver.int64_integer, isDeleted, driver.int64_integer,
    idOf_eq own]
  rfl

theorem hasIdIn_iff {ids : List String} {row : Row} :
    hasIdIn ids row = true ↔ ∃ id ∈ ids, row "id" = .text id := by
  simp [hasIdIn, hasId_text]

variable (driver) in
include counts held counted in
/-- A read of versions fails if it asks for more ids than a statement may bind, and else gives the
triples of the asked rows, each once. -/
theorem readVersions_spec (ids : List String) : ∃ versions : List VersionRow,
    readVersions driver m table ids =
        (if driver.maxVariables < ids.length then .error (.localStore "too many SQL variables")
        else .ok versions) ∧
      (versions.map VersionRow.id).Nodup ∧
      ∀ version, version ∈ versions ↔
        version.id ∈ ids ∧ (contents version.id).map rowVersions = some version := by
  obtain ⟨t, opened, rfl, keyed, rfl⟩ := held.opened
  have perm := driver.perm (t.rows.filter (hasIdIn ids))
  refine ⟨(driver.order (t.rows.filter (hasIdIn ids))).map rowVersions, ?_, ?_, ?_⟩
  · unfold readVersions
    cases ids with
    | nil =>
      have none : t.rows.filter (hasIdIn []) = [] := by simp [hasIdIn]
      rw [none] at perm
      rw [none, perm.eq_nil,
        if_neg (show ¬ driver.maxVariables < ([] : List String).length from Nat.not_lt_zero _)]
      rfl
    | cons first rest =>
      have known : ∀ name ∈ ["id", "version", "deleted"],
          name ∈ t.schema.columns.map SqlColumn.name := by
        intro name among
        rcases List.mem_cons.mp among with rfl | counter
        · exact counts.idColumn
        · exact counter_column counts counter
      have decoded : ∀ row ∈ driver.order (t.rows.filter (hasIdIn (first :: rest))),
          versionRow driver row = .ok (rowVersions row) := by
        intro row member
        have stored := (List.mem_filter.mp (perm.mem_iff.mp member)).1
        obtain ⟨id, own⟩ := keyed.named row stored
        exact versionRow_eq own
          (counted id row ((selectById_eq_some_iff keyed).mpr ⟨stored, own⟩))
      rw [if_neg (by simp), query_eq held.named.1 opened]
      split
      · rfl
      · rw [selectRows_eq known, ok_bind, mapM_eq_ok decoded]
        rfl
  · rw [List.map_map]
    exact (perm.map idOf).nodup_iff.mpr
      ((nodup_idOf keyed).sublist (List.filter_sublist.map _))
  · intro version
    rw [(perm.map rowVersions).mem_iff, List.mem_map, Option.map_eq_some_iff]
    constructor
    · rintro ⟨row, member, rfl⟩
      obtain ⟨stored, asked⟩ := List.mem_filter.mp member
      obtain ⟨id, among, own⟩ := hasIdIn_iff.mp asked
      rw [show (rowVersions row).id = id from idOf_eq own]
      exact ⟨among, row, (selectById_eq_some_iff keyed).mpr ⟨stored, own⟩, rfl⟩
    · rintro ⟨among, row, found, same⟩
      obtain ⟨stored, own⟩ := (selectById_eq_some_iff keyed).mp found
      exact ⟨row, List.mem_filter.mpr ⟨stored, hasIdIn_iff.mpr ⟨_, among, own⟩⟩, same⟩

include counts held counted in
theorem index_readVersions {ids : List String}
    (all : ∀ id, id ∈ ids ↔ (contents id).isSome = true) {versions : List VersionRow}
    (read : readVersions driver m table ids = .ok versions) (id : String) :
    index (versions.map tripleOf) id =
      (contents id).map (fun row => tripleOf (rowVersions row)) := by
  obtain ⟨listed, outcome, distinct, among⟩ := readVersions_spec driver counts held counted ids
  rw [read] at outcome
  split at outcome
  · cases outcome
  · cases outcome
    have keys : (versions.map tripleOf).map VersionTriple.id = versions.map VersionRow.id := by
      rw [List.map_map]
      rfl
    refine Option.ext fun triple => ?_
    rw [index_eq_some_of_nodup (keys ▸ distinct), List.mem_map, Option.map_eq_some_iff]
    constructor
    · rintro ⟨⟨version, member, rfl⟩, own⟩
      obtain ⟨-, found⟩ := (among version).mp member
      rw [show version.id = id from own] at found
      obtain ⟨row, stored, same⟩ := Option.map_eq_some_iff.mp found
      exact ⟨row, stored, congrArg tripleOf same⟩
    · rintro ⟨row, stored, rfl⟩
      have own : (rowVersions row).id = id := by
        obtain ⟨t, -, rfl, keyed, rfl⟩ := held.opened
        exact idOf_eq ((selectById_eq_some_iff keyed).mp stored).2
      refine ⟨⟨rowVersions row, (among _).mpr ?_, rfl⟩, own⟩
      rw [own, stored]
      exact ⟨(all id).mpr (by rw [stored]; rfl), rfl⟩

end Read

/-! The plan. -/

def placed : Option VersionTriple → Option VersionTriple → Option Bucket
  | some localRow, some remoteRow => some (.decided (rowAction localRow remoteRow))
  | some _, none => some .createRemote
  | none, some _ => some .createLocal
  | none, none => none

section Plan

variable {p : Crypto.Primitives} {Mirror Queue : Type} (c : Coordinator p Mirror Queue)
  (w : World Mirror Queue) (codec : Codec) (driver : Driver) {start : DbManager}
  {table : String} {schema : TableSchema} {contents : Contents}

end Plan

theorem counts_kvsSchema : Counts kvsSchema where
  textId := rfl
  idColumn := by decide
  counter := by
    intro name among
    simp only [counters, List.mem_cons, List.not_mem_nil, or_false] at among
    rcases among with rfl | rfl
    · exact ⟨true, 1, rfl⟩
    · exact ⟨true, 0, rfl⟩

def deletedTheme : Value :=
  .object [("deleted", .bool true), ("id", .string "prefs::theme"),
    ("version", .number (.posInt 5))]

theorem kvsWrite_counted (key : String) : Counted (.upsert (kvsWrite key) "noon") := by
  intro name among value field
  simp only [counters, List.mem_cons, List.not_mem_nil, or_false] at among
  rcases among with rfl | rfl
  · have version : (kvsRecord key)["version"]? = some (.number (.posInt 1)) := rfl
    rw [← Option.some.inj (version.symm.trans field)]
    rfl
  · have absent : (kvsRecord key)["deleted"]? = none := rfl
    cases absent.symm.trans field

end Polykit.Reconcile.LocalVersions
