/- Module: Polykit/Sqlite/Upsert
   generality: I
   source: crates/polybase-sqlite/src/store.rs
   digest: The text of the mirror's upsert, what SQLite makes of it, and when it merges a row. -/

import Polykit.Lib.Keyed
import Polykit.Lib.Sql
import Polykit.Sqlite.Store

set_option autoImplicit false
set_option relaxedAutoImplicit false

namespace Polykit.Sqlite.Upsert

open Errors Json Lib.Fallible Lib.Sql Lib.Text Storage Store

/-- The statement that `upsert_record` puts together from the keys of the record. -/
def upsertSql (table : String) (columns : List String) : String :=
  let placeholders := ",".intercalate (columns.map (fun _ => "?"))
  let columnList := ",".intercalate columns
  let updateClause := ",".intercalate
    ((columns.filter (fun c => c != "id")).map (fun c => c ++ " = excluded." ++ c))
  "INSERT INTO " ++ table ++ " (" ++ columnList ++ ") VALUES (" ++ placeholders ++
    ") ON CONFLICT(id) DO UPDATE SET " ++ updateClause

/-- A column as an insert meets it: what it makes of a value, where it takes the value, and
what it holds when the insert leaves it out. It makes a null of nothing but a null. -/
structure MirrorColumn where
  name : String
  store : SqlValue → Option SqlValue
  default : SqlValue
  filled : ∀ value, store value = some .null → value = .null

def UniqueIds (rows : List Row) : Prop :=
  rows.Pairwise (fun a b => a "id" = b "id" → a "id" = .null)

instance (rows : List Row) : Decidable (UniqueIds rows) :=
  inferInstanceAs (Decidable (rows.Pairwise (fun a b => a "id" = b "id" → a "id" = .null)))

/-- A table with the primary key `id` whose other columns take nulls and have no constraint. A row
is read under the lowercase of a column's name. -/
structure MirrorTable where
  columns : List MirrorColumn
  rows : List Row
  distinct : (columns.map (fun column => folded column.name)).Nodup
  unique : UniqueIds rows

/-- The tables of the schema `main`, under the lowercase of their names. -/
abbrev MirrorDb := Std.ExtTreeMap String MirrorTable compare

def tableOf (db : MirrorDb) (table : TableName) : Option MirrorTable :=
  if table.schema.all (fun schema => eqIgnoreAsciiCase schema "main") then db[folded table.name]?
  else none

def MirrorTable.column (t : MirrorTable) (key : String) : Option MirrorColumn :=
  t.columns.find? (fun column => folded column.name == key)

def MirrorTable.storeOne (t : MirrorTable) (entry : String × SqlValue) :
    Except String (String × SqlValue) :=
  match t.column (folded entry.1) with
  | none => .error ("table has no column named " ++ entry.1)
  | some column =>
      match column.store entry.2 with
      | none => .error "datatype mismatch"
      | some stored => .ok (folded entry.1, stored)

def MirrorTable.insertedRow (t : MirrorTable) (supplied : List (String × SqlValue)) : Row :=
  fun key => (supplied.lookup key).getD (((t.column key).map MirrorColumn.default).getD .null)

/-- `DO UPDATE SET`: the named columns are copied from the source. -/
def updatedRow (assignments : List (String × String)) (source existing : Row) : Row :=
  fun key =>
    match assignments.find? (fun a => folded a.1 == key) with
    | some a => source (folded a.2)
    | none => existing key

def MirrorTable.write (t : MirrorTable) (rows : List Row) : Except String MirrorTable :=
  if unique : UniqueIds rows then .ok { t with rows := rows, unique := unique }
  else .error "UNIQUE constraint failed"

/-- The row is added, or copied into the row of its id. Its values come by the name `excluded`,
unless that is what the table itself is called. -/
def MirrorTable.place (t : MirrorTable) (s : Upsert) (inserted : Row) :
    Except String MirrorTable :=
  if t.rows.any (hasId (inserted "id")) then
    t.write (t.rows.map (fun row =>
      if hasId (inserted "id") row then
        updatedRow s.assignments (if s.table.isExcluded then row else inserted) row
      else row))
  else t.write (t.rows ++ [inserted])

def MirrorTable.run (t : MirrorTable) (s : Upsert) (bound : List SqlValue) :
    Except String MirrorTable :=
  if s.columns.length ≠ s.parameters then .error "values for columns"
  else if s.key.map folded ≠ ["id"] then
    .error "ON CONFLICT clause does not match any PRIMARY KEY or UNIQUE constraint"
  else if !s.assignments.all (fun a =>
      (t.column (folded a.1)).isSome && (t.column (folded a.2)).isSome) then
    .error "no such column"
  else do
    t.place s (t.insertedRow (← (s.columns.zip bound).mapM t.storeOne))

def execute (db : MirrorDb) (sql : String) (bound : List SqlValue) : Except String MirrorDb :=
  match parse sql with
  | none => .error "syntax error"
  | some s =>
      match tableOf db s.table with
      | none => .error ("no such table: " ++ s.table.text)
      | some t => (t.run s bound).map (fun t => db.insert (folded s.table.name) t)

/-- `upsert_record` on the database of the active pool, by the text of its statement. -/
def upsertRecord (json : JsonText) (pool : Option MirrorDb) (table : String) (record : Map) :
    Option MirrorDb × Except PolyError Unit :=
  match pool with
  | none => (none, .error poolRequired)
  | some db =>
      if record.isEmpty then (some db, .ok ())
      else
        let bound := record.keys.map (fun column =>
          bindJsonValue json ((record[column]?).getD .null))
        match execute db (upsertSql table record.keys) bound with
        | .error e => (some db, .error (.localStore e))
        | .ok db => (some db, .ok ())

/-! What it is for a row to hold a record. -/

/-- The value of SQLite that stands for a value of JSON. Booleans are integers, arrays and objects
are their texts, and no integer beyond 64 signed bits has one. -/
inductive Means (json : JsonText) : Value → SqlValue → Prop
  | null : Means json .null .null
  | bool (b : Bool) : Means json (.bool b) (.integer (if b then 1 else 0))
  | integer (n : Int64) : Means json (.number (Number.ofInt64 n)) (.integer n)
  | float (x : FiniteF64) : Means json (.number (.float x)) (.real x.bits)
  | string (s : String) : Means json (.string s) (.text s)
  | array (items : List Value) : Means json (.array items) (.text (json.toString (.array items)))
  | object (entries : List (String × Value)) :
      Means json (.object entries) (.text (json.toString (.object entries)))

/-- The column of this name keeps the value as `stored`. -/
def Keeps (json : JsonText) (t : MirrorTable) (name : String) (value : Value)
    (stored : SqlValue) : Prop :=
  ∃ column v, t.column (folded name) = some column ∧ Means json value v ∧
    column.store v = some stored

/-- One row holds the id. It has the record's values in the record's columns and its earlier
values, or the defaults, in the others. All other rows are as before. -/
structure Merged (json : JsonText) (record : Map) (id : SqlValue) (t after : MirrorTable) :
    Prop where
  columns : after.columns = t.columns
  row : ∃ row, after.rows.filter (hasId id) = [row] ∧
    (∀ name value, record[name]? = some value → Keeps json t name value (row (folded name))) ∧
    ∀ column ∈ t.columns, (∀ name ∈ record.keys, folded name ≠ folded column.name) →
      row (folded column.name) = ((t.rows.find? (hasId id)).map
        (fun old => old (folded column.name))).getD column.default
  others : after.rows.filter (fun row => !hasId id row) =
    t.rows.filter (fun row => !hasId id row)

/-- The statement reads as an upsert of the record's columns, and the call merges the record
into the row of its id and leaves every other row and table alone. -/
structure InsertsOrMerges (json : JsonText) (db : MirrorDb) (table : TableName) (t : MirrorTable)
    (record : Map) : Prop where
  wellFormed : ∃ s, parse (upsertSql table.text record.keys) = some s ∧ s.table = table ∧
    s.columns = record.keys
  merged : ∃ idValue id after, record["id"]? = some idValue ∧ Keeps json t "id" idValue id ∧
    upsertRecord json (some db) table.text record =
      (some (db.insert (folded table.name) after), .ok ()) ∧
    Merged json record id t after

private theorem closes_insert :
    Closes "INSERT INTO ".toList [.word "INSERT", .word "INTO"] := by
  intro rest
  simp [tokenize, continues, isNameStart, isNameChar, isSpace]
  rfl

private theorem closes_open : Closes " (".toList [.mark '('] := by
  intro rest
  simp [tokenize, continues, isNameStart, isSpace, isMark]
  rfl

private theorem closes_values :
    Closes ") VALUES (".toList [.mark ')', .word "VALUES", .mark '('] := by
  intro rest
  simp [tokenize, continues, isNameStart, isNameChar, isSpace, isMark]
  rfl

private theorem closes_conflict :
    Closes ") ON CONFLICT(id) DO UPDATE SET ".toList
      [.mark ')', .word "ON", .word "CONFLICT", .mark '(', .word "id", .mark ')', .word "DO",
        .word "UPDATE", .word "SET"] := by
  intro rest
  simp [tokenize, continues, isNameStart, isNameChar, isSpace, isMark]
  rfl

private theorem closes_excluded :
    Closes " = excluded.".toList [.mark '=', .word "excluded", .mark '.'] := by
  intro rest
  simp [tokenize, continues, isNameStart, isNameChar, isSpace, isMark]
  rfl

/-- The statement as it is read, when every name in it is one. -/
def upsertOf (table : TableName) (columns : List String) : Upsert where
  table := table
  columns := columns
  parameters := columns.length
  key := ["id"]
  assignments := (columns.filter (fun c => c != "id")).map (fun c => (c, c))

private theorem reads_copy {name : String} (valid : isName name = true) :
    Reads (name ++ " = excluded." ++ name).toList (copyTokens name) := by
  have word := reads_word (isWord_of_isName valid)
  rw [String.toList_append, String.toList_append]
  exact (word.append_closes closes_excluded (by simp [Ends, isNameChar, isNameStart])
    (by simp)).append_reads word

private theorem toList_upsertSql (table : String) (columns : List String) :
    (upsertSql table columns).toList = "INSERT INTO ".toList ++ table.toList ++ " (".toList ++
      [','].intercalate (columns.map String.toList) ++ ") VALUES (".toList ++
      [','].intercalate (columns.map (fun _ => "?".toList)) ++
      ") ON CONFLICT(id) DO UPDATE SET ".toList ++
      [','].intercalate ((columns.filter (fun c => c != "id")).map
        (fun c => (c ++ " = excluded." ++ c).toList)) := by
  have comma : ",".toList = [','] := rfl
  unfold upsertSql
  rw [String.toList_append, String.toList_intercalate, comma, List.map_map]
  rw [String.toList_append, String.toList_append, String.toList_intercalate, comma, List.map_map]
  rw [String.toList_append, String.toList_append, String.toList_intercalate, comma]
  rw [String.toList_append, String.toList_append]
  rfl

private theorem tokenize_upsertSql {table : TableName} {columns : List String}
    (plain : table.isPlain = true) (names : ∀ name ∈ columns, isName name = true) :
    tokenize [] (upsertSql table.text columns).toList =
      some ([Token.word "INSERT", .word "INTO"] ++ table.tokens ++ [Token.mark '('] ++
        [Token.mark ','].intercalate (columns.map ([Token.word ·])) ++
        [Token.mark ')', .word "VALUES", .mark '('] ++
        [Token.mark ','].intercalate (columns.map (fun _ => [Token.mark '?'])) ++
        [Token.mark ')', .word "ON", .word "CONFLICT", .mark '(', .word "id", .mark ')', .word "DO",
          .word "UPDATE", .word "SET"] ++
        [Token.mark ','].intercalate ((columns.filter (fun c => c != "id")).map copyTokens)) := by
  have list : Reads ([','].intercalate (columns.map String.toList))
      ([Token.mark ','].intercalate (columns.map ([Token.word ·]))) :=
    reads_intercalate (fun name member => reads_word (isWord_of_isName (names name member)))
  have question : Reads "?".toList [Token.mark '?'] := fun rest _ => rfl
  have placeholders := reads_intercalate (l := columns) (fun _ _ => question)
  have clause := reads_intercalate (fun name (member : name ∈ columns.filter (· != "id")) =>
    reads_copy (names name (List.mem_filter.mp member).1))
  have inserted := closes_insert.append_reads (reads_tableName plain)
  have opened := inserted.append_closes closes_open (by simp [Ends, isNameChar, isNameStart])
    (by simp)
  have listed := (opened.append_reads list).append_closes closes_values
    (by simp [Ends, isNameChar, isNameStart]) (by simp)
  have bound := (listed.append_reads placeholders).append_closes closes_conflict
    (by simp [Ends, isNameChar, isNameStart]) (by simp)
  rw [toList_upsertSql]
  exact (bound.append_reads clause).tokenize_eq

theorem parse_upsertSql {table : TableName} {columns : List String}
    (plain : table.isPlain = true) (names : ∀ name ∈ columns, isName name = true)
    (filled : columns ≠ []) :
    parse (upsertSql table.text columns) =
      if columns.filter (fun c => c != "id") = [] then none
      else some (upsertOf table columns) := by
  obtain ⟨n, length⟩ : ∃ n, columns.length = n + 1 :=
    Nat.exists_eq_succ_of_ne_zero (by simpa using filled)
  have table := fun rest => tableName_tokens plain rest
  have idFree : isReserved "id" = false := by decide
  have same : ∀ s, (Token.word s).same (.word s) = true := by simp [Token.same, eqIgnoreAsciiCase]
  have sameMark : ∀ c, (Token.mark c).same (.mark c) = true := by simp [Token.same]
  have columnList := fun rest => nameList_intercalate filled names rest
  have placeholders := fun rest => parameterList_intercalate n rest
  rw [parse, tokenize_upsertSql plain names, List.map_const', length]
  simp only [Option.bind_some, parseTokens, List.append_assoc, List.cons_append,
    List.nil_append, expect, same, sameMark, if_true, Option.bind_eq_bind, table,
    Bool.false_eq_true, if_false, columnList, placeholders, nameList, idFree]
  split
  · rename_i none
    simp [none, assignmentList]
  · rename_i some
    rw [assignmentList_intercalate some
      (fun name member => names name (List.mem_filter.mp member).1)]
    simp [upsertOf, length]

/-! What the statement does to the rows. -/

theorem folded_id : folded "id" = "id" := by decide

section Lookup

variable {V : Type} {names : List String} {f : String → V}

private theorem lookup_folded
    (agree : ∀ a ∈ names, ∀ b ∈ names, folded a = folded b → f a = f b) {name : String}
    (member : name ∈ names) :
    (names.map (fun c => (folded c, f c))).lookup (folded name) = some (f name) := by
  induction names with
  | nil => cases member
  | cons c rest ih =>
    rw [List.map_cons, List.lookup_cons]
    by_cases same : folded name = folded c
    · rw [same, beq_self_eq_true]
      exact congrArg some (agree c List.mem_cons_self name member same.symm)
    · rw [beq_false_of_ne same]
      have among : name ∈ rest := by
        rcases List.mem_cons.mp member with rfl | later
        · exact absurd rfl same
        · exact later
      exact ih (fun a first b second =>
        agree a (List.mem_cons_of_mem _ first) b (List.mem_cons_of_mem _ second)) among

private theorem lookup_folded_none {key : String} (absent : ∀ c ∈ names, folded c ≠ key) :
    (names.map (fun c => (folded c, f c))).lookup key = none := by
  induction names with
  | nil => rfl
  | cons c rest ih =>
    rw [List.map_cons, List.lookup_cons,
      beq_false_of_ne (Ne.symm (absent c List.mem_cons_self))]
    exact ih (fun other member => absent other (List.mem_cons_of_mem _ member))

end Lookup

theorem zip_map_self {V : Type} (names : List String) (f : String → V) :
    names.zip (names.map f) = names.map (fun c => (c, f c)) := by
  simpa using List.zip_map' (f := id) (g := f) (l := names)

theorem hasId_iff {id : SqlValue} (filled : id ≠ .null) (row : Row) :
    hasId id row = true ↔ row "id" = id := by
  simp [hasId, filled]

theorem filter_hasId {rows : List Row} (unique : UniqueIds rows) {id : SqlValue}
    (filled : id ≠ .null) : rows.filter (hasId id) = (rows.find? (hasId id)).toList := by
  have apart : (rows.filter (hasId id)).Pairwise (fun a b => a "id" = b "id" → a "id" = .null) :=
    List.Pairwise.filter _ unique
  have own : ∀ row ∈ rows.filter (hasId id), row "id" = id :=
    fun row member => (hasId_iff filled row).mp (List.mem_filter.mp member).2
  rw [← List.head?_filter]
  cases found : rows.filter (hasId id) with
  | nil => rfl
  | cons row rest =>
    rw [found] at apart own
    cases rest with
    | nil => rfl
    | cons other rest =>
      have first := own row List.mem_cons_self
      have second := own other (by simp)
      have null := List.rel_of_pairwise_cons apart List.mem_cons_self (first.trans second.symm)
      exact absurd (first.symm.trans null) filled

section Rows

variable {rows : List Row} {id : SqlValue} (unique : UniqueIds rows) (filled : id ≠ .null)

include unique in
theorem uniqueIds_map {f : Row → Row} (sameId : ∀ row, f row "id" = row "id") :
    UniqueIds (rows.map f) := by
  unfold UniqueIds
  rw [List.pairwise_map]
  exact unique.imp (fun {a b} apart => by rw [sameId, sameId]; exact apart)

include unique filled in
theorem uniqueIds_append {row : Row} (own : row "id" = id)
    (absent : rows.any (hasId id) = false) : UniqueIds (rows ++ [row]) := by
  unfold UniqueIds
  rw [List.pairwise_append]
  refine ⟨unique, List.pairwise_singleton _ _, fun old member new single same => ?_⟩
  obtain rfl := List.mem_singleton.mp single
  have hit : hasId id old = true := (hasId_iff filled old).mpr (same.trans own)
  rw [List.any_eq_false] at absent
  exact absurd hit (absent old member)

end Rows

theorem filter_rewrite {rows : List Row} {id : SqlValue} {f : Row → Row}
    (filled : id ≠ .null) (sameId : ∀ row, hasId id row = true → f row "id" = row "id") :
    (rows.map (fun row => if hasId id row then f row else row)).filter (hasId id) =
        (rows.filter (hasId id)).map f ∧
      (rows.map (fun row => if hasId id row then f row else row)).filter
        (fun row => !hasId id row) = rows.filter (fun row => !hasId id row) := by
  induction rows with
  | nil => exact ⟨rfl, rfl⟩
  | cons row rest ih =>
    cases own : hasId id row with
    | true =>
      have moved : hasId id (f row) = true := by
        rw [hasId_iff filled, sameId row own]
        exact (hasId_iff filled row).mp own
      simp [own, moved, ih.1, ih.2]
    | false => simp [own, ih.1, ih.2]

section Run

variable {t : MirrorTable} {table : TableName} {names : List String}
  {bound stored : String → SqlValue}

theorem updatedRow_assigned (source existing : Row) {name : String} (member : name ∈ names)
    (other : name ≠ "id") :
    updatedRow (upsertOf table names).assignments source existing (folded name) =
      source (folded name) := by
  unfold updatedRow
  split
  · rename_i a found
    obtain ⟨c, _, rfl⟩ := List.mem_map.mp (List.mem_of_find?_eq_some found)
    have same : folded c = folded name := by simpa using List.find?_some found
    rw [same]
  · rename_i absent
    have listed : (name, name) ∈ (upsertOf table names).assignments :=
      List.mem_map_of_mem (List.mem_filter.mpr ⟨member, by simpa using other⟩)
    exact absurd (List.find?_eq_none.mp absent _ listed) (by simp)

theorem updatedRow_kept (source existing : Row) {key : String}
    (absent : ∀ name ∈ names, name ≠ "id" → folded name ≠ key) :
    updatedRow (upsertOf table names).assignments source existing key = existing key := by
  unfold updatedRow
  split
  · rename_i a found
    obtain ⟨c, member, rfl⟩ := List.mem_map.mp (List.mem_of_find?_eq_some found)
    obtain ⟨among, other⟩ := List.mem_filter.mp member
    have same : folded c = key := by simpa using List.find?_some found
    exact absurd same (absent c among (by simpa using other))
  · rfl

theorem updatedRow_id {source existing : Row} (same : source "id" = existing "id") :
    updatedRow (upsertOf table names).assignments source existing "id" = existing "id" := by
  by_cases respelled : ∃ name ∈ names, name ≠ "id" ∧ folded name = "id"
  · obtain ⟨name, member, other, spelled⟩ := respelled
    have copied : updatedRow (upsertOf table names).assignments source existing (folded name) =
        source (folded name) := updatedRow_assigned source existing member other
    rw [spelled] at copied
    exact copied.trans same
  · refine updatedRow_kept source existing (fun name member other spelled => ?_)
    exact respelled ⟨name, member, other, spelled⟩

theorem updatedRow_self (row : Row) :
    updatedRow (upsertOf table names).assignments row row = row := by
  funext key
  by_cases assigned : ∃ name ∈ names, name ≠ "id" ∧ folded name = key
  · obtain ⟨name, member, other, rfl⟩ := assigned
    exact updatedRow_assigned row row member other
  · exact updatedRow_kept row row (fun name member other spelled =>
      assigned ⟨name, member, other, spelled⟩)

theorem write_of_unique {rows : List Row} (unique : UniqueIds rows) :
    t.write rows = .ok { t with rows := rows, unique := unique } := by
  rw [MirrorTable.write, dif_pos unique]

/-- Each of the named columns stores its value, and two spellings of one name store the same. -/
structure Stores (t : MirrorTable) (names : List String) (bound stored : String → SqlValue) :
    Prop where
  each : ∀ name ∈ names, ∃ column, t.column (folded name) = some column ∧
    column.store (bound name) = some (stored name)
  agree : ∀ a ∈ names, ∀ b ∈ names, folded a = folded b → stored a = stored b

structure Fresh (t : MirrorTable) (names : List String) (stored : String → SqlValue)
    (inserted : Row) : Prop where
  given : ∀ name ∈ names, inserted (folded name) = stored name
  left : ∀ key, (∀ name ∈ names, folded name ≠ key) →
    inserted key = ((t.column key).map MirrorColumn.default).getD .null

variable (table) in
/-- The statement comes down to placing the row. -/
theorem run_upsertOf (stores : Stores t names bound stored) : ∃ inserted,
    Fresh t names stored inserted ∧ t.run (upsertOf table names) (names.map bound) =
      t.place (upsertOf table names) inserted := by
  refine ⟨t.insertedRow (names.map (fun c => (folded c, stored c))), ⟨?_, ?_⟩, ?_⟩
  · intro name member
    rw [MirrorTable.insertedRow, lookup_folded stores.agree member, Option.getD_some]
  · intro key absent
    rw [MirrorTable.insertedRow, lookup_folded_none absent, Option.getD_none]
  · have existing : (upsertOf table names).assignments.all (fun a =>
        (t.column (folded a.1)).isSome && (t.column (folded a.2)).isSome) = true := by
      simp only [upsertOf, List.all_map, List.all_eq_true, Function.comp_apply, Bool.and_self]
      intro name member
      obtain ⟨column, found, _⟩ := stores.each name (List.mem_filter.mp member).1
      simp [found]
    have taken : ((upsertOf table names).columns.zip (names.map bound)).mapM t.storeOne =
        .ok (names.map (fun c => (folded c, stored c))) := by
      have one : ∀ name ∈ names, (t.storeOne ∘ fun c => (c, bound c)) name =
          .ok (folded name, stored name) := by
        intro name member
        obtain ⟨column, found, store⟩ := stores.each name member
        simp [MirrorTable.storeOne, found, store]
      rw [show (upsertOf table names).columns = names from rfl, zip_map_self, List.mapM_map]
      exact mapM_eq_ok one
    have key : (upsertOf table names).key.map folded = ["id"] := by
      rw [upsertOf, List.map_singleton, folded_id]
    unfold MirrorTable.run
    rw [if_neg (by simp [upsertOf]), if_neg (by simp [key]), existing, taken, ok_bind]
    rfl

variable {inserted : Row} {id : SqlValue}

variable (table names) in
theorem place_absent (filled : id ≠ .null) (own : inserted "id" = id)
    (absent : t.rows.find? (hasId id) = none) :
    ∃ after, t.place (upsertOf table names) inserted = .ok after ∧ after.columns = t.columns ∧
      after.rows = t.rows ++ [inserted] := by
  have miss : t.rows.any (hasId id) = false := by simpa using absent
  have unique := uniqueIds_append t.unique filled own miss
  refine ⟨{ t with rows := t.rows ++ [inserted], unique := unique }, ?_, rfl, rfl⟩
  rw [MirrorTable.place, own, miss, if_neg Bool.false_ne_true, write_of_unique unique]

variable (table names) in
theorem place_found (filled : id ≠ .null) (own : inserted "id" = id) {old : Row}
    (found : t.rows.find? (hasId id) = some old) :
    ∃ after, t.place (upsertOf table names) inserted = .ok after ∧ after.columns = t.columns ∧
      after.rows = t.rows.map (fun row => if hasId id row then
        updatedRow (upsertOf table names).assignments
          (if table.isExcluded then row else inserted) row else row) ∧
      after.rows.filter (hasId id) = [updatedRow (upsertOf table names).assignments
        (if table.isExcluded then old else inserted) old] ∧
      after.rows.filter (fun row => !hasId id row) =
        t.rows.filter (fun row => !hasId id row) := by
  have hit : t.rows.any (hasId id) = true := by
    rw [List.any_eq_true]
    exact ⟨old, List.mem_of_find?_eq_some found, List.find?_some found⟩
  let copied : Row → Row := fun row => updatedRow (upsertOf table names).assignments
    (if table.isExcluded then row else inserted) row
  have sameId : ∀ row, hasId id row = true → copied row "id" = row "id" := by
    intro row matched
    refine updatedRow_id ?_
    split
    · rfl
    · exact own.trans ((hasId_iff filled row).mp matched).symm
  have rewritten := @filter_rewrite t.rows id copied filled sameId
  have unique := uniqueIds_map t.unique (f := fun row => if hasId id row then copied row else row)
    (fun row => by
      split
      · rename_i matched
        exact sameId row matched
      · rfl)
  refine ⟨{ t with
    rows := t.rows.map (fun row => if hasId id row then copied row else row)
    unique := unique }, ?_, rfl, rfl, ?_, rewritten.2⟩
  · rw [MirrorTable.place, own, hit, if_pos rfl]
    exact write_of_unique unique
  · rw [rewritten.1, filter_hasId t.unique filled, found]
    rfl

end Run

/-! When the call merges. -/

/-- Of the record alone: it has a column to update, it can be spelled without quotation marks,
the columns keep its values, and two spellings of one column do not differ. A table that is called
`excluded` has no row of the id yet, or one that holds the record already. -/
structure Mergeable (json : JsonText) (table : TableName) (t : MirrorTable) (record : Map) :
    Prop where
  other : ∃ name ∈ record.keys, name ≠ "id"
  plain : table.isPlain = true
  names : ∀ name ∈ record.keys, isName name = true
  taken : ∀ name value, record[name]? = some value → ∃ stored, Keeps json t name value stored
  agree : ∀ a b first second x y, record[a]? = some first → record[b]? = some second →
    folded a = folded b → Keeps json t a first x → Keeps json t b second y → x = y
  apart : table.isExcluded = true → ∀ idValue id old, record["id"]? = some idValue →
    Keeps json t "id" idValue id → t.rows.find? (hasId id) = some old →
    ∀ name value, record[name]? = some value → Keeps json t name value (old (folded name))

theorem bindJsonValue_filled {json : JsonText} {value : Value} (filled : value ≠ .null) :
    bindJsonValue json value ≠ .null := by
  cases value with
  | null => exact absurd rfl filled
  | number n => cases signed : n.asI64 <;> simp [bindJsonValue, signed]
  | _ => simp [bindJsonValue]

theorem eq_bindJsonValue {json : JsonText} {value : Value} {v : SqlValue}
    (means : Means json value v) : v = bindJsonValue json value := by
  cases means with
  | integer n => simp [bindJsonValue, Number.asI64_ofInt64]
  | _ => rfl

/-- Only an integer beyond 64 signed bits has nothing to stand for it. -/
theorem means_bindJsonValue {json : JsonText} {value : Value}
    (fits : ∀ n, value = .number (.posInt n) → n ≤ 9223372036854775807) :
    Means json value (bindJsonValue json value) := by
  have integers : ∀ (n : Number) (i : Int64), n.asI64 = some i →
      Means json (.number n) (bindJsonValue json (.number n)) := by
    intro n i signed
    have bound : bindJsonValue json (.number n) = .integer i := by simp [bindJsonValue, signed]
    rw [bound, ← Number.ofInt64_of_asI64 signed]
    exact .integer i
  cases value with
  | null => exact .null
  | bool b => exact .bool b
  | string s => exact .string s
  | array items => exact .array items
  | object entries => exact .object entries
  | number n =>
    cases n with
    | posInt n => exact integers _ n.toInt64 (if_pos (fits n rfl))
    | negInt n negative => exact integers _ n rfl
    | float x => exact .float x

section Call

variable {json : JsonText} {db : MirrorDb} {table : TableName} {t : MirrorTable} {record : Map}
  {idValue : Value}

theorem Keeps.bound {name : String} {value : Value} {stored : SqlValue}
    (h : Keeps json t name value stored) : ∃ column, t.column (folded name) = some column ∧
      column.store (bindJsonValue json value) = some stored := by
  obtain ⟨column, v, found, means, store⟩ := h
  exact ⟨column, found, eq_bindJsonValue means ▸ store⟩

theorem Keeps.unique {name : String} {value : Value} {x y : SqlValue}
    (first : Keeps json t name value x) (second : Keeps json t name value y) : x = y := by
  obtain ⟨column, found, store⟩ := first.bound
  obtain ⟨_, again, stores⟩ := second.bound
  rw [found, Option.some.injEq] at again
  subst again
  exact Option.some.inj (store.symm.trans stores)

theorem Keeps.filled {name : String} {value : Value} {stored : SqlValue}
    (h : Keeps json t name value stored) (filled : value ≠ .null) : stored ≠ .null := by
  rintro rfl
  obtain ⟨column, _, store⟩ := h.bound
  exact bindJsonValue_filled filled (column.filled _ store)

theorem mem_keys_of_getElem? {name : String} {value : Value} (h : record[name]? = some value) :
    name ∈ record.keys := by
  rw [Std.ExtTreeMap.mem_keys]
  by_contra absent
  rw [Std.ExtTreeMap.getElem?_eq_none absent] at h
  cases h

theorem getElem?_of_mem_keys {name : String} (member : name ∈ record.keys) :
    ∃ value, record[name]? = some value := by
  rw [Std.ExtTreeMap.mem_keys] at member
  exact ⟨record[name], Std.ExtTreeMap.getElem?_eq_some_getElem member⟩

def boundOf (json : JsonText) (record : Map) (name : String) : SqlValue :=
  bindJsonValue json ((record[name]?).getD .null)

theorem upsertRecord_eq (found : tableOf db table = some t) (id : record["id"]? = some idValue)
    (read : parse (upsertSql table.text record.keys) = some (upsertOf table record.keys)) :
    upsertRecord json (some db) table.text record =
      match t.run (upsertOf table record.keys) (record.keys.map (boundOf json record)) with
      | .error e => (some db, .error (.localStore e))
      | .ok after => (some (db.insert (folded table.name) after), .ok ()) := by
  have filled : record.isEmpty = false := by
    by_contra empty
    rw [Bool.not_eq_false, Std.ExtTreeMap.isEmpty_iff] at empty
    rw [empty] at id
    simp at id
  have own : tableOf db (upsertOf table record.keys).table = some t := found
  have bound : record.keys.map (fun column => bindJsonValue json ((record[column]?).getD .null)) =
      record.keys.map (boundOf json record) := rfl
  simp only [upsertRecord, filled, Bool.false_eq_true, if_false, execute, read, own, bound]
  cases t.run (upsertOf table record.keys) (record.keys.map (boundOf json record)) <;> rfl

theorem stores_of_keeps {stored : String → SqlValue}
    (keeps : ∀ name value, record[name]? = some value → Keeps json t name value (stored name))
    (agree : ∀ a ∈ record.keys, ∀ b ∈ record.keys, folded a = folded b → stored a = stored b) :
    Stores t record.keys (boundOf json record) stored := by
  refine ⟨fun name member => ?_, agree⟩
  obtain ⟨value, field⟩ := getElem?_of_mem_keys member
  obtain ⟨column, found, store⟩ := (keeps name value field).bound
  refine ⟨column, found, ?_⟩
  rw [boundOf, field]
  exact store

theorem Mergeable.stores (h : Mergeable json table t record) : ∃ stored : String → SqlValue,
    (∀ name value, record[name]? = some value → Keeps json t name value (stored name)) ∧
      Stores t record.keys (boundOf json record) stored := by
  have each : ∀ name, ∃ stored, ∀ value, record[name]? = some value →
      Keeps json t name value stored := by
    intro name
    cases field : record[name]? with
    | none => exact ⟨.null, nofun⟩
    | some value =>
      obtain ⟨stored, keeps⟩ := h.taken name value field
      refine ⟨stored, ?_⟩
      rintro _ ⟨⟩
      exact keeps
  choose stored keeps using each
  refine ⟨stored, keeps, stores_of_keeps keeps (fun a first b second same => ?_)⟩
  obtain ⟨x, fieldA⟩ := getElem?_of_mem_keys first
  obtain ⟨y, fieldB⟩ := getElem?_of_mem_keys second
  exact h.agree a b x y _ _ fieldA fieldB same (keeps a x fieldA) (keeps b y fieldB)

theorem fresh_default {stored : String → SqlValue} {inserted : Row}
    (fresh : Fresh t record.keys stored inserted) {column : MirrorColumn}
    (member : column ∈ t.columns)
    (absent : ∀ name ∈ record.keys, folded name ≠ folded column.name) :
    inserted (folded column.name) = column.default := by
  have own : t.column (folded column.name) = some column := by
    unfold MirrorTable.column
    exact (Lib.Keyed.find_eq_some_iff t.distinct).mpr ⟨member, rfl⟩
  rw [fresh.left _ absent, own]
  rfl

theorem insertsOrMerges_of_mergeable (found : tableOf db table = some t)
    (id : record["id"]? = some idValue) (filled : idValue ≠ .null)
    (h : Mergeable json table t record) : InsertsOrMerges json db table t record := by
  have keyed := mem_keys_of_getElem? id
  have others : record.keys.filter (fun c => c != "id") ≠ [] := by
    obtain ⟨name, member, different⟩ := h.other
    exact List.ne_nil_of_mem (List.mem_filter.mpr ⟨member, by simpa using different⟩)
  have read : parse (upsertSql table.text record.keys) = some (upsertOf table record.keys) := by
    rw [parse_upsertSql h.plain h.names (List.ne_nil_of_mem keyed), if_neg others]
  obtain ⟨stored, keeps, stores⟩ := h.stores
  obtain ⟨inserted, fresh, ran⟩ := run_upsertOf table stores
  have keepsId := keeps "id" idValue id
  have own : inserted "id" = stored "id" := folded_id ▸ fresh.given "id" keyed
  have present := keepsId.filled filled
  suffices placed : ∃ after, t.place (upsertOf table record.keys) inserted = .ok after ∧
      Merged json record (stored "id") t after by
    obtain ⟨after, ok, merged⟩ := placed
    refine ⟨⟨_, read, rfl, rfl⟩, idValue, stored "id", after, id, keepsId, ?_, merged⟩
    rw [upsertRecord_eq found id read, ran, ok]
  have given : ∀ name value, record[name]? = some value →
      Keeps json t name value (inserted (folded name)) := by
    intro name value field
    rw [fresh.given name (mem_keys_of_getElem? field)]
    exact keeps name value field
  cases before : t.rows.find? (hasId (stored "id")) with
  | none =>
    obtain ⟨after, ok, columns, rows⟩ := place_absent table record.keys present own before
    have matched : hasId (stored "id") inserted = true := (hasId_iff present inserted).mpr own
    refine ⟨after, ok, columns, ⟨inserted, ?_, given, fun column member absent => ?_⟩, ?_⟩
    · rw [rows, List.filter_append, filter_hasId t.unique present, before]
      simp [matched]
    · rw [before]
      exact fresh_default fresh member absent
    · rw [rows, List.filter_append]
      simp [matched]
  | some old =>
    obtain ⟨after, ok, columns, -, single, rest⟩ := place_found table record.keys present own before
    refine ⟨after, ok, columns, ⟨_, single, fun name value field => ?_,
      fun column member absent => ?_⟩, rest⟩
    · have member := mem_keys_of_getElem? field
      by_cases primary : name = "id"
      · subst primary
        have sameId : old "id" = stored "id" :=
          (hasId_iff present old).mp (List.find?_some before)
        rw [folded_id, updatedRow_id (by split <;> simp [own, sameId]), sameId]
        exact keeps "id" value field
      · rw [updatedRow_assigned _ _ member primary]
        split
        · rename_i called
          exact h.apart called idValue _ old id keepsId before name value field
        · exact given name value field
    · rw [before, updatedRow_kept _ _ (fun name member _ => absent name member)]
      rfl

theorem mergeable_of_insertsOrMerges (found : tableOf db table = some t)
    (filled : ∀ idValue, record["id"]? = some idValue → idValue ≠ .null)
    (h : InsertsOrMerges json db table t record) : Mergeable json table t record := by
  obtain ⟨s, read, sameTable, sameColumns⟩ := h.wellFormed
  obtain ⟨plain, names⟩ := parse_names read
  rw [sameTable] at plain
  rw [sameColumns] at names
  obtain ⟨idValue, id, after, field, keepsId, ran, merged⟩ := h.merged
  have keyed := mem_keys_of_getElem? field
  have others : record.keys.filter (fun c => c != "id") ≠ [] := by
    intro none
    rw [parse_upsertSql plain names (List.ne_nil_of_mem keyed), if_pos none] at read
    cases read
  have whole : parse (upsertSql table.text record.keys) = some (upsertOf table record.keys) := by
    rw [parse_upsertSql plain names (List.ne_nil_of_mem keyed), if_neg others]
  obtain ⟨row, single, keeps, -⟩ := merged.row
  refine ⟨?_, plain, names, fun name value there => ⟨_, keeps name value there⟩, ?_, ?_⟩
  · obtain ⟨name, member⟩ := List.exists_mem_of_ne_nil _ others
    obtain ⟨inside, different⟩ := List.mem_filter.mp member
    exact ⟨name, inside, by simpa using different⟩
  · intro a b first second x y fieldA fieldB same keepsA keepsB
    rw [keepsA.unique (keeps a first fieldA), keepsB.unique (keeps b second fieldB), same]
  · intro called value id' old there keepsId' before name value' given
    cases field.symm.trans there
    rw [keepsId'.unique keepsId] at before
    have present := keepsId.filled (filled idValue field)
    have stores : Stores t record.keys (boundOf json record) (fun name => row (folded name)) :=
      stores_of_keeps keeps (fun a _ b _ same => congrArg row same)
    obtain ⟨inserted, fresh, isPlaced⟩ := run_upsertOf table stores
    have own : inserted "id" = id := by
      rw [← folded_id, fresh.given "id" keyed]
      exact (keeps "id" idValue field).unique keepsId
    obtain ⟨placed, ok, -, -, one, -⟩ := place_found table record.keys present own before
    rw [upsertRecord_eq found field whole, isPlaced, ok, Prod.mk.injEq, Option.some.injEq] at ran
    have same : placed = after := by
      have looked := congrArg (fun db : MirrorDb => db[folded table.name]?) ran.1
      simpa using looked
    rw [same, called, if_pos rfl, updatedRow_self, single, List.singleton_inj] at one
    rw [← one]
    exact keeps name value' given

end Call

/-! A table of notes whose columns have no type. -/

def sampleJson : JsonText := ⟨fun _ => "{}", fun _ => .error "expected value", id, Int64.toUInt64⟩

def noteColumn (name : String) : MirrorColumn := ⟨name, some, .null, by simp⟩

def notes : MirrorTable where
  columns := [noteColumn "id", noteColumn "Body", noteColumn "order"]
  rows := [fun name => if name = "id" then .text "n1" else .integer 7]
  distinct := by decide
  unique := by decide

def notesDb : MirrorDb := (∅ : MirrorDb).insert "notes" notes

def noteId : Map := (∅ : Map).insert "id" (.string "n1")

theorem noteId_insert {name : String} (other : name ≠ "id") (value : Value) :
    (noteId.insert name value)["id"]? = some (.string "n1") := by
  have apart : ¬ compare name "id" = .eq := by simpa using other
  rw [Std.ExtTreeMap.getElem?_insert, if_neg apart]
  exact Std.ExtTreeMap.getElem?_insert_self

theorem notes_found {schema : Option String}
    (main : schema.all (fun schema => eqIgnoreAsciiCase schema "main") = true) :
    tableOf notesDb ⟨schema, "notes"⟩ = some notes := by
  have spelled : folded "notes" = "notes" := by decide
  simp only [tableOf, main, if_true, spelled, notesDb]
  exact Std.ExtTreeMap.getElem?_insert_self

end Polykit.Sqlite.Upsert
