/- Module: Polykit/Sqlite/Mirror
   generality: I
   source: crates/polybase-sqlite/src/store.rs
   digest: Over any run of writes, a table of the local store is a map from ids to rows. -/

import Polykit.Lib.Keyed
import Polykit.Sqlite.Store

set_option autoImplicit false
set_option relaxedAutoImplicit false

namespace Polykit.Sqlite.Mirror

open Errors Json Lib.Fallible Lib.Keyed Lib.Sql Manager Storage Store

/-- What the store relies on of SQLite and of the library that decodes its rows. A read without
`ORDER BY` comes in an order of SQLite's own. -/
structure Driver where
  order : List Row → List Row
  perm : ∀ rows, (order rows).Perm rows
  text : SqlValue → Except String String
  text_text : ∀ s, text (.text s) = .ok s
  int64 : SqlValue → Except String Int64
  int64_integer : ∀ n, int64 (.integer n) = .ok n
  maxVariables : Nat

/-- `SELECT names FROM ..` with a condition on the id. -/
def selectRows (driver : Driver) (t : Table) (names : List String) (keep : Row → Bool) :
    Except String (List Row) :=
  if names.all (fun name => (t.schema.columns.map SqlColumn.name).contains name) then
    .ok (driver.order (t.rows.filter keep))
  else .error "no such column"

def query {α : Type} (m : DbManager) (table : String) (read : Table → Except String α) :
    Except PolyError α :=
  match m.pool with
  | none => .error poolRequired
  | some handle =>
      (m.execute handle
        (withTable table (fun t => (read t).map (fun result => (t, result))))).2.mapError
        PolyError.localStore

structure VersionRow where
  id : String
  version : Int64
  deleted : Bool
  deriving DecidableEq

def versionRow (driver : Driver) (row : Row) : Except String VersionRow := do
  let id ← driver.text (row "id")
  let version ← driver.int64 (row "version")
  let deleted ← driver.int64 (row "deleted")
  return { id := id, version := version, deleted := deleted != 0 }

/-- `WHERE id IN (?, ..)`. -/
def hasIdIn (ids : List String) (row : Row) : Bool := ids.any (fun id => hasId (.text id) row)

def readVersions (driver : Driver) (m : DbManager) (table : String) (ids : List String) :
    Except PolyError (List VersionRow) :=
  if ids.isEmpty then .ok []
  else query m table (fun t =>
    if driver.maxVariables < ids.length then .error "too many SQL variables"
    else do
      (← selectRows driver t ["id", "version", "deleted"] (hasIdIn ids)).mapM (versionRow driver))

def readAllIds (driver : Driver) (m : DbManager) (table : String) :
    Except PolyError (List String) :=
  query m table (fun t => do
    (← selectRows driver t ["id"] (fun _ => true)).mapM (fun row => driver.text (row "id")))

/-- `DELETE FROM .. WHERE id = ?`. -/
def deleteById (t : Table) (id : String) : Table :=
  { t with rows := t.rows.filter (fun row => !hasId (.text id) row) }

def hardDelete (m : DbManager) (table id : String) : DbManager × Except PolyError Unit :=
  match m.pool with
  | none => (m, .error poolRequired)
  | some handle =>
      let result := m.execute handle (withTable table (fun t => .ok (deleteById t id, ())))
      (result.1, result.2.mapError PolyError.localStore)

/-- A name in lowercase that stands without quotation marks: SQLite takes it for no other. -/
def Spelled (name : String) : Prop := isName name = true ∧ folded name = name

instance (name : String) : Decidable (Spelled name) :=
  inferInstanceAs (Decidable (isName name = true ∧ folded name = name))

abbrev TableId := { name : String // Spelled name }

/-- A record with its id, under names of that kind. -/
structure Write where
  record : Map
  id : String
  named : record["id"]? = some (.string id)
  spelled : ∀ name ∈ record.keys, Spelled name

/-- A write on a table. SQLite's clock is read when the statement runs. -/
inductive Op
  | upsert (write : Write) (now : String)
  | markDeleted (id : String) (version : Int64)
  | hardDelete (id : String)

def perform (codec : Codec) (m : DbManager) (table : String) :
    Op → DbManager × Except PolyError Unit
  | .upsert write now => upsertRecord codec { m with sqlNow := now } table write.record
  | .markDeleted id version => markDeleted codec m table id version
  | .hardDelete id => hardDelete m table id

/-- The manager after calls on any of its tables, the newest first. -/
def storeAfter (codec : Codec) (start : DbManager) : List (TableId × Op) → DbManager
  | [] => start
  | call :: older => (perform codec (storeAfter codec start older) call.1.1 call.2).1

/-! What a table is for: a row for each of some ids. -/

abbrev Contents := String → Option Row

/-- The row of an id once a record is written: the record's values, else the earlier ones, else
the defaults. -/
def merged (codec : Codec) (schema : TableSchema) (contents : Contents) (write : Write)
    (now : String) : Row := fun name =>
  match write.record[name]? with
  | some value => storedAs codec schema name value
  | none =>
      match contents write.id with
      | some old => old name
      | none =>
          match schema.columns.find? (fun column => column.name == name) with
          | some ⟨_, _, _, .value v⟩ => v
          | some ⟨_, _, _, .now⟩ => .text now
          | _ => .null

/-- Two rows that a unique constraint does not let stand beside each other. -/
def Collide (schema : TableSchema) (a b : Row) : Prop :=
  ∃ names ∈ schema.unique, ∀ name ∈ names, a name = b name ∧ a name ≠ .null

/-- The writes that the table takes. A required column counts as if the id were new. -/
structure TakesUpsert (codec : Codec) (schema : TableSchema) (contents : Contents)
    (write : Write) (now : String) : Prop where
  wide : ∃ name ∈ write.record.keys, name ≠ "id"
  known : ∀ name ∈ write.record.keys, name ∈ schema.columns.map SqlColumn.name
  filled : ∀ column ∈ schema.columns, column.notNull = true →
    merged codec schema (fun _ => none) write now column.name ≠ .null
  apart : ∀ other, other ≠ write.id → ∀ row, contents other = some row →
    ¬ Collide schema (merged codec schema contents write now) row

def Takes (codec : Codec) (schema : TableSchema) (contents : Contents) : Op → Prop
  | .upsert write now => TakesUpsert codec schema contents write now
  | .markDeleted _ _ => ∀ name ∈ ["deleted", "version"], name ∈ schema.columns.map SqlColumn.name
  | .hardDelete _ => True

def effect (codec : Codec) (schema : TableSchema) (contents : Contents) : Op → Contents
  | .upsert write now =>
      Function.update contents write.id (some (merged codec schema contents write now))
  | .markDeleted id version => Function.update contents id
      ((contents id).map (tombstoned schema codec.sql version))
  | .hardDelete id => Function.update contents id none

open scoped Classical in
/-- The map after the calls on one of the tables. A write that is not taken changes nothing. -/
noncomputable def contentsAfter (codec : Codec) (schema : TableSchema) (table : String)
    (start : Contents) : List (TableId × Op) → Contents
  | [] => start
  | call :: older =>
      let contents := contentsAfter codec schema table start older
      if call.1.1 = table ∧ Takes codec schema contents call.2 then
        effect codec schema contents call.2
      else contents

/-! A table whose rows have ids of their own is such a map. -/

structure Keyed (rows : List Row) : Prop where
  named : ∀ row ∈ rows, ∃ id, row "id" = .text id
  distinct : (rows.map (fun row => row "id")).Nodup

theorem hasId_text (id : String) (row : Row) :
    hasId (.text id) row = (row "id" == .text id) := by
  simp [hasId]

theorem selectById_eq_some_iff {t : Table} (keyed : Keyed t.rows) {id : String} {row : Row} :
    t.selectById id = some row ↔ row ∈ t.rows ∧ row "id" = .text id := by
  unfold Table.selectById
  simp only [hasId_text]
  exact find_eq_some_iff keyed.distinct

theorem selectById_eq_none_iff {t : Table} {id : String} :
    t.selectById id = none ↔ ∀ row ∈ t.rows, row "id" ≠ .text id := by
  simp [Table.selectById, hasId_text]

theorem forall_others_iff {t : Table} (keyed : Keyed t.rows) (id : String) (P : Row → Prop) :
    (∀ row ∈ t.rows.filter (fun row => !hasId (.text id) row), P row) ↔
      ∀ other, other ≠ id → ∀ row, t.selectById other = some row → P row := by
  simp only [List.mem_filter, hasId_text, Bool.not_eq_true', beq_eq_false_iff_ne]
  constructor
  · intro all other different row found
    obtain ⟨member, own⟩ := (selectById_eq_some_iff keyed).mp found
    refine all row ⟨member, ?_⟩
    rw [own]
    exact fun same => different (SqlValue.text.inj same)
  · rintro all row ⟨member, different⟩
    obtain ⟨other, own⟩ := keyed.named row member
    refine all other ?_ row ((selectById_eq_some_iff keyed).mpr ⟨member, own⟩)
    rintro rfl
    exact different own

theorem uniqueHolds_iff {schema : TableSchema} {row : Row} {others : List Row} :
    schema.uniqueHolds row others = true ↔ ∀ other ∈ others, ¬ Collide schema row other := by
  simp only [TableSchema.uniqueHolds, List.all_eq_true, Bool.not_eq_true', Collide]
  constructor
  · rintro holds other among ⟨names, listed, equal⟩
    have differs := holds names listed other among
    rw [← Bool.not_eq_true, List.all_eq_true] at differs
    exact differs fun name member => by simpa using equal name member
  · intro apart names listed other among
    rw [← Bool.not_eq_true, List.all_eq_true]
    intro equal
    exact apart other among ⟨names, listed, fun name member => by simpa using equal name member⟩

theorem keyed_rewrite {rows : List Row} {f : Row → Row} (keyed : Keyed rows)
    (sameId : ∀ row ∈ rows, f row "id" = row "id") : Keyed (rows.map f) := by
  constructor
  · intro row member
    obtain ⟨old, among, rfl⟩ := List.mem_map.mp member
    rw [sameId old among]
    exact keyed.named old among
  · have ids : (rows.map f).map (fun row => row "id") = rows.map (fun row => row "id") := by
      rw [List.map_map]
      exact List.map_congr_left sameId
    rw [ids]
    exact keyed.distinct

theorem selectById_rewrite {t : Table} {f : Row → Row} (keyed : Keyed t.rows)
    (sameId : ∀ row ∈ t.rows, f row "id" = row "id") (id : String) :
    ({ t with rows := t.rows.map f } : Table).selectById id = (t.selectById id).map f := by
  refine Option.ext fun row => ?_
  rw [selectById_eq_some_iff (keyed_rewrite keyed sameId), Option.map_eq_some_iff]
  constructor
  · rintro ⟨member, own⟩
    obtain ⟨old, among, rfl⟩ := List.mem_map.mp member
    rw [sameId old among] at own
    exact ⟨old, (selectById_eq_some_iff keyed).mpr ⟨among, own⟩, rfl⟩
  · rintro ⟨old, found, rfl⟩
    obtain ⟨among, own⟩ := (selectById_eq_some_iff keyed).mp found
    exact ⟨List.mem_map_of_mem among, (sameId old among).trans own⟩

theorem rewriteOne {t : Table} (keyed : Keyed t.rows) (id : String) (g : Row → Row)
    (sameId : ∀ row ∈ t.rows, row "id" = .text id → g row "id" = .text id) :
    let rows := t.rows.map (fun row => if hasId (.text id) row then g row else row)
    Keyed rows ∧ ({ t with rows := rows } : Table).selectById =
      Function.update t.selectById id ((t.selectById id).map g) := by
  have kept : ∀ row ∈ t.rows,
      (if hasId (.text id) row then g row else row) "id" = row "id" := by
    intro row member
    by_cases hit : hasId (.text id) row = true
    · have own : row "id" = .text id := by simpa [hasId_text] using hit
      rw [if_pos hit, sameId row member own, own]
    · rw [if_neg hit]
  refine ⟨keyed_rewrite keyed kept, funext fun other => ?_⟩
  rw [selectById_rewrite keyed kept]
  by_cases same : other = id
  · subst same
    rw [Function.update_self]
    refine Option.map_congr fun row found => ?_
    rw [if_pos]
    simpa [hasId_text] using ((selectById_eq_some_iff keyed).mp found).2
  · rw [Function.update_of_ne same]
    refine (Option.map_congr fun row found => ?_).trans Option.map_id'
    rw [if_neg]
    simpa [hasId_text, ((selectById_eq_some_iff keyed).mp found).2] using same

theorem keyed_append {rows : List Row} {row : Row} {id : String} (keyed : Keyed rows)
    (own : row "id" = .text id) (fresh : ∀ old ∈ rows, old "id" ≠ .text id) :
    Keyed (rows ++ [row]) := by
  constructor
  · intro other member
    rcases List.mem_append.mp member with among | single
    · exact keyed.named other among
    · rw [List.mem_singleton.mp single]
      exact ⟨id, own⟩
  · rw [List.map_append, List.map_singleton, List.nodup_append]
    refine ⟨keyed.distinct, List.nodup_singleton _, ?_⟩
    intro a among b single same
    obtain ⟨old, member, rfl⟩ := List.mem_map.mp among
    exact fresh old member ((same.trans (List.mem_singleton.mp single)).trans own)

theorem selectById_append {t : Table} {row : Row} {id : String}
    (own : row "id" = .text id) (fresh : ∀ old ∈ t.rows, old "id" ≠ .text id) :
    ({ t with rows := t.rows ++ [row] } : Table).selectById =
      Function.update t.selectById id (some row) := by
  funext other
  show (t.rows ++ [row]).find? (hasId (.text other)) = _
  rw [List.find?_append]
  by_cases same : other = id
  · subst same
    have absent := selectById_eq_none_iff.mpr fresh
    rw [Table.selectById] at absent
    rw [Function.update_self, absent, Option.none_or, List.find?_singleton, hasId_text, own,
      if_pos (beq_self_eq_true _)]
  · rw [Function.update_of_ne same, List.find?_singleton, hasId_text, own, if_neg, Option.or_none]
    · rfl
    · simpa using Ne.symm same

/-! One write on a table. -/

def Op.on (codec : Codec) (t : Table) : Op → Except String Table
  | .upsert write now => t.upsert codec.sql now write.record.keys
      (fun name => write.record[name]?.map (bindJsonValue codec.json))
  | .markDeleted id version => t.updateDeleted codec.sql id version
  | .hardDelete id => .ok (deleteById t id)

section Step

variable {codec : Codec} {t : Table} (textId : t.schema.affinity "id" = .text)
  (keyed : Keyed t.rows)

theorem insertedRow_eq (write : Write) (now : String) :
    t.insertedRow codec.sql now (fun name => write.record[name]?.map (bindJsonValue codec.json)) =
      merged codec t.schema (fun _ => none) write now := by
  funext name
  unfold Table.insertedRow merged Table.assigned
  beta_reduce
  generalize write.record[name]? = field
  cases field <;> rfl

include textId keyed in
theorem updatedRow_eq {write : Write} {now : String} {old : Row}
    (found : t.selectById write.id = some old) :
    t.updatedRow codec.sql (fun name => write.record[name]?.map (bindJsonValue codec.json)) old =
      merged codec t.schema t.selectById write now := by
  funext name
  unfold Table.updatedRow merged Table.assigned
  by_cases primary : name = "id"
  · subst primary
    rw [if_pos rfl, write.named, ((selectById_eq_some_iff keyed).mp found).2]
    simp [storedAs, textId, bindJsonValue, Affinity.apply]
  · rw [if_neg primary, found]
    cases field : write.record[name]? with
    | none => simp only [field, Option.map_none, Option.getD_none]
    | some value => simp only [field, Option.map_some, Option.getD_some]; rfl

variable (codec) in
include textId in
theorem merged_id (contents : Contents) (write : Write) (now : String) :
    merged codec t.schema contents write now "id" = .text write.id := by
  simp [merged, write.named, storedAs, textId, bindJsonValue, Affinity.apply]

theorem notNullHolds_iff {schema : TableSchema} {row : Row} :
    schema.notNullHolds row = true ↔
      ∀ column ∈ schema.columns, column.notNull = true → row column.name ≠ .null := by
  simp [TableSchema.notNullHolds, imp_iff_not_or]

/-- What a write that was taken makes of the table. -/
structure Written (codec : Codec) (t : Table) (op : Op) (after : Table) : Prop where
  schema : after.schema = t.schema
  keyed : Keyed after.rows
  contents : after.selectById = effect codec t.schema t.selectById op

def Apart (t : Table) (id : String) (row : Row) : Prop :=
  ∀ other, other ≠ id → ∀ old, t.selectById other = some old → ¬ Collide t.schema row old

include keyed in
theorem uniqueHolds_others_iff (id : String) (row : Row) :
    t.schema.uniqueHolds row (t.rows.filter (fun row => !hasId (.text id) row)) = true ↔
      Apart t id row :=
  uniqueHolds_iff.trans (forall_others_iff keyed id _)

include textId keyed in
theorem written_found {write : Write} {now : String} {old : Row}
    (found : t.selectById write.id = some old) :
    Written codec t (.upsert write now) { t with
      rows := t.rows.map (fun row => if hasId (.text write.id) row then
        merged codec t.schema t.selectById write now else row) } := by
  obtain ⟨rewritten, selected⟩ := rewriteOne keyed write.id
    (fun _ => merged codec t.schema t.selectById write now)
    (fun _ _ _ => merged_id codec textId t.selectById write now)
  refine ⟨rfl, rewritten, selected.trans ?_⟩
  rw [found, Option.map_some, effect]

include textId keyed in
theorem written_absent {write : Write} {now : String} (absent : t.selectById write.id = none) :
    Written codec t (.upsert write now) { t with
      rows := t.rows ++ [merged codec t.schema t.selectById write now] } := by
  have fresh := selectById_eq_none_iff.mp absent
  have own := merged_id codec textId t.selectById write now
  exact ⟨rfl, keyed_append keyed own fresh, selectById_append own fresh⟩

include textId keyed in
theorem on_upsert (write : Write) (now : String) :
    (¬ TakesUpsert codec t.schema t.selectById write now ∧
        ∃ e, Op.on codec t (.upsert write now) = .error e) ∨
      (TakesUpsert codec t.schema t.selectById write now ∧
        ∃ after, Op.on codec t (.upsert write now) = .ok after ∧
          Written codec t (.upsert write now) after) := by
  have plain : (!write.record.keys.all isName) = false := by
    rw [Bool.not_eq_false', List.all_eq_true]
    exact fun name among => (write.spelled name among).1
  unfold Op.on Table.upsert
  dsimp only
  rw [plain, if_neg Bool.false_ne_true]
  by_cases wide : (write.record.keys.all (· == "id")) = true
  · refine .inl ⟨fun takes => ?_, _, if_pos wide⟩
    obtain ⟨name, among, other⟩ := takes.wide
    exact other (by simpa using List.all_eq_true.mp wide name among)
  rw [if_neg wide]
  by_cases unknown : (!write.record.keys.all fun name =>
      (t.schema.columns.map SqlColumn.name).contains name) = true
  · refine .inl ⟨fun takes => ?_, _, if_pos unknown⟩
    rw [Bool.not_eq_true', ← Bool.not_eq_true, List.all_eq_true] at unknown
    exact unknown fun name among => List.contains_iff_mem.mpr (takes.known name among)
  rw [if_neg unknown, insertedRow_eq, merged_id codec textId]
  by_cases null : (!t.schema.notNullHolds (merged codec t.schema (fun _ => none) write now)) = true
  · refine .inl ⟨fun takes => ?_, _, if_pos null⟩
    rw [Bool.not_eq_true', ← Bool.not_eq_true, notNullHolds_iff] at null
    exact null takes.filled
  rw [if_neg null]
  have takes_iff : TakesUpsert codec t.schema t.selectById write now ↔
      Apart t write.id (merged codec t.schema t.selectById write now) := by
    refine ⟨TakesUpsert.apart, fun apart => ⟨?_, ?_, ?_, apart⟩⟩
    · simpa using wide
    · simpa using unknown
    · simpa [notNullHolds_iff] using null
  cases found : t.selectById write.id with
  | some old =>
    rw [show t.rows.find? (hasId (.text write.id)) = some old from found]
    dsimp only
    rw [updatedRow_eq textId keyed found]
    by_cases apart : Apart t write.id (merged codec t.schema t.selectById write now)
    · exact .inr ⟨takes_iff.mpr apart, _, if_pos ((uniqueHolds_others_iff keyed _ _).mpr apart),
        written_found textId keyed found⟩
    · exact .inl ⟨fun takes => apart (takes_iff.mp takes), _,
        if_neg fun holds => apart ((uniqueHolds_others_iff keyed _ _).mp holds)⟩
  | none =>
    rw [show t.rows.find? (hasId (.text write.id)) = none from found]
    dsimp only
    have inserted : merged codec t.schema (fun _ => none) write now =
        merged codec t.schema t.selectById write now := by
      funext name
      unfold merged
      rw [found]
    have all : t.rows.filter (fun row => !hasId (.text write.id) row) = t.rows := by
      rw [List.filter_eq_self]
      intro row member
      simpa [hasId_text] using selectById_eq_none_iff.mp found row member
    have holds_iff := uniqueHolds_others_iff keyed write.id
      (merged codec t.schema t.selectById write now)
    rw [all] at holds_iff
    rw [inserted]
    by_cases apart : Apart t write.id (merged codec t.schema t.selectById write now)
    · exact .inr ⟨takes_iff.mpr apart, _, if_pos (holds_iff.mpr apart),
        written_absent textId keyed found⟩
    · exact .inl ⟨fun takes => apart (takes_iff.mp takes), _,
        if_neg fun holds => apart (holds_iff.mp holds)⟩

include keyed in
theorem on_markDeleted (id : String) (version : Int64) :
    (¬ Takes codec t.schema t.selectById (.markDeleted id version) ∧
        ∃ e, Op.on codec t (.markDeleted id version) = .error e) ∨
      (Takes codec t.schema t.selectById (.markDeleted id version) ∧
        ∃ after, Op.on codec t (.markDeleted id version) = .ok after ∧
          Written codec t (.markDeleted id version) after) := by
  unfold Op.on Table.updateDeleted
  dsimp only
  by_cases unknown : (["deleted", "version"].any fun name =>
      !(t.schema.columns.map SqlColumn.name).contains name) = true
  · refine .inl ⟨fun takes => ?_, _, if_pos unknown⟩
    obtain ⟨name, among, missing⟩ := List.any_eq_true.mp unknown
    exact absurd (takes name among) (by simpa using missing)
  · obtain ⟨rewritten, selected⟩ := rewriteOne keyed id
      (tombstoned t.schema codec.sql version) (fun _ _ own => own)
    refine .inr ⟨fun name among => ?_, _, if_neg unknown, rfl, rewritten, selected⟩
    by_contra missing
    exact unknown (List.any_eq_true.mpr ⟨name, among, by simpa using missing⟩)

include keyed in
theorem on_hardDelete (id : String) :
    Written codec t (.hardDelete id) (deleteById t id) := by
  have among : ∀ {row : Row}, row ∈ (deleteById t id).rows ↔
      row ∈ t.rows ∧ row "id" ≠ .text id := by
    intro row
    simp [deleteById, hasId_text]
  have kept : Keyed (deleteById t id).rows :=
    ⟨fun row member => keyed.named row (among.mp member).1,
      keyed.distinct.sublist (List.filter_sublist.map _)⟩
  refine ⟨rfl, kept, funext fun other => Option.ext fun row => ?_⟩
  rw [selectById_eq_some_iff kept, among, effect]
  by_cases same : other = id
  · subst same
    rw [Function.update_self]
    constructor
    · rintro ⟨⟨_, different⟩, own⟩
      exact absurd own different
    · rintro ⟨⟩
  · rw [Function.update_of_ne same, selectById_eq_some_iff keyed]
    constructor
    · rintro ⟨⟨member, _⟩, own⟩
      exact ⟨member, own⟩
    · rintro ⟨member, own⟩
      refine ⟨⟨member, ?_⟩, own⟩
      rw [own]
      simpa using same

variable (codec) in
include textId keyed in
theorem on_cases (op : Op) :
    (¬ Takes codec t.schema t.selectById op ∧ ∃ e, op.on codec t = .error e) ∨
      (Takes codec t.schema t.selectById op ∧
        ∃ after, op.on codec t = .ok after ∧ Written codec t op after) := by
  cases op with
  | upsert write now => exact on_upsert textId keyed write now
  | markDeleted id version => exact on_markDeleted keyed id version
  | hardDelete id => exact .inr ⟨trivial, _, rfl, on_hardDelete keyed id⟩

end Step

/-! The table that the active pool reaches. -/

def openTable (m : DbManager) (table : String) : Option Table :=
  m.pool.bind fun handle => (m.pools[handle]?).bind fun pool =>
    if pool.closed then none else (m.disk[pool.user]?).bind fun db => db.tables[table]?

theorem openTable_eq_some_iff {m : DbManager} {table : String} {t : Table} :
    openTable m table = some t ↔ ∃ handle pool db, m.pool = some handle ∧
      m.pools[handle]? = some pool ∧ pool.closed = false ∧ m.disk[pool.user]? = some db ∧
      db.tables[table]? = some t := by
  simp [openTable, Option.bind_eq_some_iff]

section Statement

variable {α : Type} {m : DbManager} {handle : Nat} {table other : String} {t after : Table}
  (statement : Table → Except String (Table × α)) {result : α} {e : String}

theorem execute_refused (plain : isName table = true) (active : m.pool = some handle) (opened : openTable m table = some t)
    (ran : statement t = .error e) :
    m.execute handle (withTable table statement) = (m, .error e) := by
  obtain ⟨own, pool, db, running, hpool, usable, hdb, found⟩ := openTable_eq_some_iff.mp opened
  cases Option.some.inj (running.symm.trans active)
  simp [DbManager.execute, hpool, usable, hdb, withTable, plain, found, ran, Except.map]

theorem execute_taken (plain : isName table = true) (active : m.pool = some handle) (opened : openTable m table = some t)
    (ran : statement t = .ok (after, result)) :
    (m.execute handle (withTable table statement)).2 = .ok result ∧
      openTable (m.execute handle (withTable table statement)).1 table = some after := by
  obtain ⟨own, pool, db, running, hpool, usable, hdb, found⟩ := openTable_eq_some_iff.mp opened
  cases Option.some.inj (running.symm.trans active)
  have written : withTable table statement db =
      .ok ({ db with tables := db.tables.insert table after }, result) := by
    simp [withTable, plain, found, ran, Except.map]
  rw [execute_open hpool usable hdb written]
  refine ⟨rfl, openTable_eq_some_iff.mpr ⟨handle, pool, _, active, hpool, usable,
    Std.ExtTreeMap.getElem?_insert_self, Std.ExtTreeMap.getElem?_insert_self⟩⟩

theorem openTable_execute_ne (active : m.pool = some handle) (different : other ≠ table) :
    openTable (m.execute handle (withTable table statement)).1 other = openTable m other := by
  cases ran : m.execute handle (withTable table statement) with
  | mk final outcome =>
    cases outcome with
    | error e => rw [execute_eq_error ran]
    | ok result =>
      obtain ⟨pool, db, written, hpool, usable, hdb, run, rfl⟩ := execute_eq_ok ran
      obtain ⟨_, changed, _, _, rfl⟩ := withTable_eq_ok run
      simp [openTable, active, hpool, usable, hdb, Std.ExtTreeMap.getElem?_insert,
        Ne.symm different]

end Statement

def Op.clock (m : DbManager) : Op → DbManager
  | .upsert _ now => { m with sqlNow := now }
  | _ => m

theorem openTable_clock (m : DbManager) (op : Op) (table : String) :
    openTable (op.clock m) table = openTable m table := by
  cases op <;> rfl

theorem pool_clock (m : DbManager) (op : Op) : (op.clock m).pool = m.pool := by
  cases op <;> rfl

section Perform

variable {codec : Codec} {m : DbManager} {table other : String} {op : Op}

theorem perform_inactive (inactive : m.pool = none) :
    openTable (perform codec m table op).1 other = openTable m other := by
  cases op <;> simp [perform, upsertRecord, markDeleted, hardDelete, inactive, openTable]

theorem perform_active {handle : Nat} (active : m.pool = some handle) :
    perform codec m table op =
      let ran := (op.clock m).execute handle
        (withTable table (fun t => (op.on codec t).map (fun t => (t, ()))))
      (ran.1, ran.2.mapError PolyError.localStore) := by
  cases op with
  | upsert write now =>
    have filled : write.record.isEmpty = false := by
      by_contra empty
      rw [Bool.not_eq_false, Std.ExtTreeMap.isEmpty_iff] at empty
      have named := write.named
      rw [empty] at named
      simp at named
    simp [perform, upsertRecord, upsertRecordOn, active, filled, Op.on, Op.clock]
  | markDeleted id version => simp [perform, markDeleted, active, Op.on, Op.clock]
  | hardDelete id => simp [perform, hardDelete, active, Op.on, Op.clock, Except.map]

theorem openTable_perform_ne (different : other ≠ table) :
    openTable (perform codec m table op).1 other = openTable m other := by
  cases pool : m.pool with
  | none => exact perform_inactive pool
  | some handle =>
    rw [perform_active pool]
    dsimp only
    rw [openTable_execute_ne _ ((pool_clock m op).trans pool) different, openTable_clock]

variable (codec op) in
theorem perform_cases {t : Table} (plain : isName table = true) (opened : openTable m table = some t)
    (textId : t.schema.affinity "id" = .text) (keyed : Keyed t.rows) :
    (¬ Takes codec t.schema t.selectById op ∧
        (∃ e, (perform codec m table op).2 = .error e) ∧
        openTable (perform codec m table op).1 table = some t) ∨
      (Takes codec t.schema t.selectById op ∧ (perform codec m table op).2 = .ok () ∧
        ∃ after, openTable (perform codec m table op).1 table = some after ∧
          Written codec t op after) := by
  obtain ⟨handle, -, -, active, -⟩ := openTable_eq_some_iff.mp opened
  have clocked := (openTable_clock m op table).trans opened
  have running := (pool_clock m op).trans active
  rw [perform_active active]
  dsimp only
  rcases on_cases codec textId keyed op with ⟨refused, e, ran⟩ | ⟨takes, after, ran, written⟩
  · have outcome := execute_refused (fun t => (op.on codec t).map (fun t => (t, ()))) plain running
      clocked (congrArg (Except.map (fun t => (t, ()))) ran)
    rw [outcome]
    exact .inl ⟨refused, ⟨_, rfl⟩, clocked⟩
  · obtain ⟨outcome, stored⟩ := execute_taken (fun t => (op.on codec t).map (fun t => (t, ())))
      plain running clocked (congrArg (Except.map (fun t => (t, ()))) ran)
    rw [outcome]
    exact .inr ⟨takes, rfl, after, stored, written⟩

end Perform

/-! A run of writes. -/

/-- The manager's table is the map, and its columns are spelled in lowercase. -/
structure Represents (m : DbManager) (table : String) (schema : TableSchema)
    (contents : Contents) : Prop where
  named : Spelled table
  spelled : ∀ column ∈ schema.columns, folded column.name = column.name
  opened : ∃ t, openTable m table = some t ∧ t.schema = schema ∧ Keyed t.rows ∧
    t.selectById = contents

section Run

variable {codec : Codec} {start : DbManager} {table : String} {schema : TableSchema}
  {contents : Contents}

variable (codec) in
theorem Represents.perform {m : DbManager} (textId : schema.affinity "id" = .text)
    (held : Represents m table schema contents) (op : Op) :
    (¬ Takes codec schema contents op ∧ (∃ e, (perform codec m table op).2 = .error e) ∧
        Represents (perform codec m table op).1 table schema contents) ∨
      (Takes codec schema contents op ∧ (perform codec m table op).2 = .ok () ∧
        Represents (perform codec m table op).1 table schema
          (effect codec schema contents op)) := by
  obtain ⟨t, opened, rfl, keyed, rfl⟩ := held.opened
  rcases perform_cases codec op held.named.1 opened textId keyed with
    ⟨refused, failed, same⟩ | ⟨takes, done, after, stored, written⟩
  · exact .inl ⟨refused, failed, held.named, held.spelled, t, same, rfl, keyed, rfl⟩
  · exact .inr ⟨takes, done, held.named, held.spelled, after, stored, written.schema,
      written.keyed, written.contents⟩

theorem represents_storeAfter (textId : schema.affinity "id" = .text)
    (held : Represents start table schema contents) (calls : List (TableId × Op)) :
    Represents (storeAfter codec start calls) table schema
      (contentsAfter codec schema table contents calls) := by
  induction calls with
  | nil => exact held
  | cons call older ih =>
    rw [storeAfter, contentsAfter]
    by_cases own : call.1.1 = table
    · rw [own]
      rcases ih.perform codec textId call.2 with
        ⟨refused, -, kept⟩ | ⟨takes, -, changed⟩
      · rw [if_neg fun both => refused both.2]
        exact kept
      · rw [if_pos ⟨rfl, takes⟩]
        exact changed
    · rw [if_neg fun both => own both.1]
      obtain ⟨t, opened, rest⟩ := ih.opened
      exact ⟨held.named, held.spelled, t, (openTable_perform_ne (Ne.symm own)).trans opened, rest⟩

end Run

/-! Reads. -/

section Read

variable {driver : Driver} {m : DbManager} {table : String} {t : Table}

theorem query_eq {α : Type} (plain : isName table = true) (opened : openTable m table = some t)
    (read : Table → Except String α) :
    query m table read = (read t).mapError PolyError.localStore := by
  obtain ⟨handle, -, -, active, -⟩ := openTable_eq_some_iff.mp opened
  unfold query
  rw [active]
  dsimp only
  cases ran : read t with
  | error e =>
    rw [execute_refused _ plain active opened
      (congrArg (Except.map (fun result => (t, result))) ran)]
  | ok result =>
    rw [(execute_taken _ plain active opened
      (congrArg (Except.map (fun result => (t, result))) ran)).1]

theorem readRecord_eq_query (id : String) : readRecord m table id =
    query m table (fun t => .ok ((t.selectById id).map (rowToRecord t.schema))) := rfl

def idOf (row : Row) : String :=
  match row "id" with
  | .text id => id
  | _ => ""

theorem idOf_eq {row : Row} {id : String} (own : row "id" = .text id) : idOf row = id := by
  rw [idOf, own]

theorem nodup_idOf {rows : List Row} (keyed : Keyed rows) : (rows.map idOf).Nodup := by
  have ids : rows.map (fun row => row "id") = (rows.map idOf).map SqlValue.text := by
    rw [List.map_map]
    apply List.map_congr_left
    intro row member
    obtain ⟨id, own⟩ := keyed.named row member
    rw [Function.comp_apply, idOf_eq own, own]
  have distinct := keyed.distinct
  rw [ids] at distinct
  exact distinct.of_map _

theorem selectRows_eq {names : List String} {keep : Row → Bool}
    (known : ∀ name ∈ names, name ∈ t.schema.columns.map SqlColumn.name) :
    selectRows driver t names keep = .ok (driver.order (t.rows.filter keep)) := by
  rw [selectRows, if_pos]
  rw [List.all_eq_true]
  exact fun name among => List.contains_iff_mem.mpr (known name among)

variable (driver) in
theorem readAllIds_spec {schema : TableSchema} {contents : Contents}
    (held : Represents m table schema contents)
    (idColumn : "id" ∈ schema.columns.map SqlColumn.name) :
    ∃ ids, readAllIds driver m table = .ok ids ∧ ids.Nodup ∧
      ∀ id, id ∈ ids ↔ (contents id).isSome = true := by
  obtain ⟨t, opened, rfl, keyed, rfl⟩ := held.opened
  have perm := driver.perm (t.rows.filter fun _ => true)
  rw [List.filter_true] at perm
  have decoded : ∀ row ∈ driver.order (t.rows.filter fun _ => true),
      driver.text (row "id") = .ok (idOf row) := by
    intro row member
    rw [List.filter_true] at member
    obtain ⟨id, own⟩ := keyed.named row (perm.mem_iff.mp member)
    rw [own, driver.text_text, idOf_eq own]
  refine ⟨(driver.order (t.rows.filter fun _ => true)).map idOf, ?_, ?_, ?_⟩
  · unfold readAllIds
    rw [query_eq held.named.1 opened, selectRows_eq (by simpa using idColumn), ok_bind, mapM_eq_ok decoded]
    rfl
  · rw [List.filter_true]
    exact (perm.map idOf).nodup_iff.mpr (nodup_idOf keyed)
  · intro id
    rw [List.filter_true, (perm.map idOf).mem_iff, List.mem_map, Option.isSome_iff_exists]
    constructor
    · rintro ⟨row, member, rfl⟩
      obtain ⟨id, own⟩ := keyed.named row member
      rw [idOf_eq own]
      exact ⟨row, (selectById_eq_some_iff keyed).mpr ⟨member, own⟩⟩
    · rintro ⟨row, found⟩
      obtain ⟨member, own⟩ := (selectById_eq_some_iff keyed).mp found
      exact ⟨row, member, idOf_eq own⟩

end Read

section Refines

variable (codec : Codec) (driver : Driver) {start : DbManager} {table : String}
  {schema : TableSchema} {contents : Contents}

end Refines

def plainCodec : Codec where
  sql := ⟨fun n => n.toInt.repr, fun _ => "0.0", .text, .real⟩
  json := ⟨fun _ => "null", fun _ => .error "expected value", id, Int64.toUInt64⟩

def plainDriver : Driver where
  order := id
  perm _ := .refl _
  text value := match value with
    | .text s => .ok s
    | _ => .error "mismatched types"
  text_text _ := rfl
  int64 value := match value with
    | .integer n => .ok n
    | _ => .error "mismatched types"
  int64_integer _ := rfl
  maxVariables := 32766

def freshMirror : DbManager :=
  (DbManager.switchUser { polybaseMigrator := true, appMigrator := none }
    ⟨.ok (), .ok (), .ok (), .ok (), .ok ()⟩ "user-1").1

def kvsRecord (key : String) : Map :=
  (∅ : Map).insert "id" (.string ("prefs::" ++ key))
    |>.insert "key" (.string key) |>.insert "namespace" (.string "prefs")
    |>.insert "value" (.string "dark") |>.insert "version" (.number (.posInt 1))

theorem kvsRecord_named (key : String) :
    (kvsRecord key)["id"]? = some (.string ("prefs::" ++ key)) := rfl

theorem kvsRecord_keys (key : String) :
    (kvsRecord key).keys = ["id", "key", "namespace", "value", "version"] := rfl

def kvsWrite (key : String) : Write where
  record := kvsRecord key
  id := "prefs::" ++ key
  named := kvsRecord_named key
  spelled := by
    rw [kvsRecord_keys]
    decide

def kvs : TableId := ⟨"kvs", by decide⟩

theorem freshMirror_represents : Represents freshMirror "kvs" kvsSchema (fun _ => none) :=
  ⟨by decide, by decide, ⟨kvsSchema, []⟩, rfl, rfl,
    ⟨fun _ member => absurd member List.not_mem_nil, List.nodup_nil⟩, rfl⟩

end Polykit.Sqlite.Mirror
