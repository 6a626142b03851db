/- Module: Polykit/Lib/Sql
   generality: G
   source: none(general)
   digest: SQLite's reading of an upsert statement, from its characters to its parts. -/

import Polykit.Lib.Text

set_option autoImplicit false
set_option relaxedAutoImplicit false

namespace Polykit.Lib.Sql

open Lib.Text

def isNameStart (c : Char) : Bool := c.isAlpha || c == '_' || decide (128 ≤ c.toNat)

def isNameChar (c : Char) : Bool := isNameStart c || c.isDigit || c == '$'

/-- The keywords that the grammar never takes for a name. All others fall back to one. -/
def reserved : List String :=
  ["add", "all", "alter", "and", "as", "autoincrement", "between", "case", "check", "collate",
    "commit", "constraint", "create", "default", "deferrable", "delete", "distinct", "drop",
    "else", "escape", "except", "exists", "foreign", "from", "group", "having", "in", "index",
    "insert", "intersect", "into", "is", "isnull", "join", "limit", "not", "nothing", "notnull",
    "null", "on", "or", "order", "primary", "references", "returning", "select", "set", "table",
    "then", "to", "transaction", "union", "unique", "update", "using", "values", "when", "where"]

def isReserved (s : String) : Bool := reserved.contains (toAsciiLowercase s)

def isWord : List Char → Bool
  | [] => false
  | c :: rest => isNameStart c && rest.all isNameChar

def isName (s : String) : Bool := isWord s.toList && !isReserved s

/-- Names that differ in the case of ASCII letters alone are one name. -/
abbrev folded (name : String) : String := toAsciiLowercase name

inductive Token
  | word (s : String)
  | mark (c : Char)
  deriving DecidableEq

def isSpace (c : Char) : Bool :=
  c == ' ' || c == '\t' || c == '\n' || c == '\r' || c.toNat == 12

def isMark (c : Char) : Bool :=
  c == '(' || c == ')' || c == ',' || c == '=' || c == '.' || c == '?'

def pending (word : List Char) (rest : List Token) : List Token :=
  match word with
  | [] => rest
  | _ :: _ => .word (String.ofList word) :: rest

def continues (word : List Char) (c : Char) : Bool :=
  match word with
  | [] => isNameStart c
  | _ :: _ => isNameChar c

/-- Unquoted words and the marks of the statement. Quotation, literals, comments and further
statements are not read. -/
def tokenize : List Char → List Char → Option (List Token)
  | word, [] => some (pending word [])
  | word, c :: rest =>
      if continues word c then tokenize (word ++ [c]) rest
      else if isSpace c then (tokenize [] rest).map (pending word)
      else if isMark c then (tokenize [] rest).map (fun ts => pending word (.mark c :: ts))
      else none

/-- A table by its name, or by that and the schema it is in. -/
structure TableName where
  schema : Option String
  name : String
  deriving DecidableEq

def TableName.text (t : TableName) : String :=
  match t.schema with
  | none => t.name
  | some schema => schema ++ "." ++ t.name

def TableName.tokens (t : TableName) : List Token :=
  match t.schema with
  | none => [.word t.name]
  | some schema => [.word schema, .mark '.', .word t.name]

def TableName.isPlain (t : TableName) : Bool := t.schema.all isName && isName t.name

/-- In such a table `excluded` is the table itself, and no longer the refused row. -/
def TableName.isExcluded (t : TableName) : Bool := eqIgnoreAsciiCase t.name "excluded"

/-- `INSERT INTO table (columns) VALUES (?, ..) ON CONFLICT(key) DO UPDATE SET ..`. An
assignment names its column and the column of `excluded` that it copies. -/
structure Upsert where
  table : TableName
  columns : List String
  parameters : Nat
  key : List String
  assignments : List (String × String)
  deriving DecidableEq

def Token.same : Token → Token → Bool
  | .word a, .word b => eqIgnoreAsciiCase a b
  | .mark a, .mark b => a == b
  | _, _ => false

def expect : List Token → List Token → Option (List Token)
  | [], ts => some ts
  | e :: es, t :: ts => if e.same t then expect es ts else none
  | _ :: _, [] => none

def nameList : List Token → Option (List String × List Token)
  | .word s :: .mark ',' :: rest =>
      if isReserved s then none else (nameList rest).map (fun r => (s :: r.1, r.2))
  | .word s :: .mark ')' :: rest => if isReserved s then none else some ([s], rest)
  | _ => none

def parameterList : List Token → Option (Nat × List Token)
  | .mark '?' :: .mark ',' :: rest => (parameterList rest).map (fun r => (r.1 + 1, r.2))
  | .mark '?' :: .mark ')' :: rest => some (1, rest)
  | _ => none

/-- The last clause, up to the end of the statement. It is not empty. -/
def assignmentList : List Token → Option (List (String × String))
  | .word column :: .mark '=' :: .word qualifier :: .mark '.' :: .word source :: rest =>
      if isReserved column || isReserved source ||
          !eqIgnoreAsciiCase qualifier "excluded" then none
      else
        match rest with
        | [] => some [(column, source)]
        | .mark ',' :: rest => (assignmentList rest).map ((column, source) :: ·)
        | _ => none
  | _ => none

def tableName : List Token → Option (TableName × List Token)
  | .word schema :: .mark '.' :: .word name :: rest =>
      if isReserved schema || isReserved name then none else some (⟨some schema, name⟩, rest)
  | .word name :: rest => if isReserved name then none else some (⟨none, name⟩, rest)
  | _ => none

def parseTokens (ts : List Token) : Option Upsert := do
  let (table, ts) ← tableName (← expect [.word "INSERT", .word "INTO"] ts)
  let (columns, ts) ← nameList (← expect [.mark '('] ts)
  let (parameters, ts) ← parameterList (← expect [.word "VALUES", .mark '('] ts)
  let (key, ts) ← nameList (← expect [.word "ON", .word "CONFLICT", .mark '('] ts)
  let assignments ← assignmentList (← expect [.word "DO", .word "UPDATE", .word "SET"] ts)
  some ⟨table, columns, parameters, key, assignments⟩

def parse (sql : String) : Option Upsert := (tokenize [] sql.toList).bind parseTokens

/-! How a text that is put together from names reads. -/

/-- No word goes on into this text. -/
def Ends (rest : List Char) : Prop := ∀ c ∈ rest.head?, isNameChar c = false

instance (rest : List Char) : Decidable (Ends rest) :=
  inferInstanceAs (Decidable (∀ c ∈ rest.head?, isNameChar c = false))

/-- The tokens of a text, whatever comes after it. -/
def Reads (text : List Char) (ts : List Token) : Prop :=
  ∀ rest, Ends rest → tokenize [] (text ++ rest) = (tokenize [] rest).map (ts ++ ·)

/-- The same of a text that no word goes out of. -/
def Closes (text : List Char) (ts : List Token) : Prop :=
  ∀ rest, tokenize [] (text ++ rest) = (tokenize [] rest).map (ts ++ ·)

theorem Reads.tokenize_eq {text : List Char} {ts : List Token} (h : Reads text ts) :
    tokenize [] text = some ts := by
  have whole := h [] (by simp [Ends])
  simpa [tokenize, pending] using whole

theorem Closes.append {a b : List Char} {s t : List Token} (first : Closes a s)
    (second : Closes b t) : Closes (a ++ b) (s ++ t) := by
  intro rest
  rw [List.append_assoc, first, second]
  cases tokenize [] rest <;> simp

theorem Closes.append_reads {a b : List Char} {s t : List Token} (first : Closes a s)
    (second : Reads b t) : Reads (a ++ b) (s ++ t) := by
  intro rest ends
  rw [List.append_assoc, first, second rest ends]
  cases tokenize [] rest <;> simp

theorem Reads.append_closes {a b : List Char} {s t : List Token} (first : Reads a s)
    (second : Closes b t) (ends : Ends b) (filled : b ≠ []) : Closes (a ++ b) (s ++ t) := by
  intro rest
  have apart : Ends (b ++ rest) := by
    obtain ⟨c, tail, rfl⟩ := List.exists_cons_of_ne_nil filled
    exact ends
  rw [List.append_assoc, first _ apart, second]
  cases tokenize [] rest <;> simp

theorem ends_cons {c : Char} {rest : List Char} : Ends (c :: rest) ↔ isNameChar c = false := by
  simp [Ends]

theorem isNameChar_of_start {c : Char} (h : isNameStart c = true) : isNameChar c = true := by
  simp [isNameChar, h]

/-- A word ends where no character continues it. -/
theorem tokenize_flush {word rest : List Char} (filled : word ≠ []) (ends : Ends rest) :
    tokenize word rest = (tokenize [] rest).map (pending word) := by
  obtain ⟨c, tail, rfl⟩ := List.exists_cons_of_ne_nil filled
  cases rest with
  | nil => rfl
  | cons x rest =>
    have stops : isNameChar x = false := ends_cons.mp ends
    have starts : isNameStart x = false := by
      by_contra start
      rw [Bool.not_eq_false] at start
      rw [isNameChar_of_start start] at stops
      cases stops
    simp only [tokenize, continues, stops, starts, Bool.false_eq_true, if_false]
    split
    · cases tokenize [] rest <;> rfl
    · split
      · cases tokenize [] rest <;> rfl
      · rfl

theorem tokenize_nameChars {word more : List Char} (filled : word ≠ [])
    (all : more.all isNameChar = true) (rest : List Char) :
    tokenize word (more ++ rest) = tokenize (word ++ more) rest := by
  induction more generalizing word with
  | nil => simp
  | cons c more ih =>
    simp only [List.all_cons, Bool.and_eq_true] at all
    have goesOn : continues word c = true := by
      obtain ⟨first, tail, rfl⟩ := List.exists_cons_of_ne_nil filled
      exact all.1
    rw [List.cons_append, tokenize, if_pos goesOn, ih (by simp) all.2, List.append_assoc]
    rfl

theorem reads_word {s : String} (h : isWord s.toList = true) : Reads s.toList [.word s] := by
  intro rest ends
  cases chars : s.toList with
  | nil => simp [chars, isWord] at h
  | cons c more =>
    rw [chars] at h
    simp only [isWord, Bool.and_eq_true] at h
    have starts : continues [] c = true := h.1
    rw [List.cons_append, tokenize, if_pos starts, tokenize_nameChars (by simp) h.2,
      tokenize_flush (by simp) ends]
    have spelled : String.ofList (c :: more) = s := by
      rw [← chars]
      exact String.ofList_toList
    have word : pending (c :: more) = fun ts => [.word s] ++ ts := by
      rw [← spelled]
      rfl
    rw [List.nil_append, List.singleton_append, word]

theorem isWord_of_isName {s : String} (h : isName s = true) : isWord s.toList = true := by
  simp only [isName, Bool.and_eq_true] at h
  exact h.1

theorem isReserved_of_isName {s : String} (h : isName s = true) : isReserved s = false := by
  simp only [isName, Bool.and_eq_true, Bool.not_eq_true'] at h
  exact h.2

private theorem closes_dot : Closes ".".toList [.mark '.'] := by
  intro rest
  simp [tokenize, continues, isNameStart, isSpace, isMark]
  rfl

theorem reads_tableName {t : TableName} (plain : t.isPlain = true) :
    Reads t.text.toList t.tokens := by
  obtain ⟨schema, name⟩ := t
  simp only [TableName.isPlain, Bool.and_eq_true] at plain
  have word := reads_word (isWord_of_isName plain.2)
  cases schema with
  | none => exact word
  | some schema =>
    have own : isName schema = true := plain.1
    have qualifier := (reads_word (isWord_of_isName own)).append_closes closes_dot
      (by simp [Ends, isNameChar, isNameStart]) (by simp)
    simp only [TableName.text, TableName.tokens, String.toList_append]
    exact qualifier.append_reads word

theorem tableName_tokens {t : TableName} (plain : t.isPlain = true) (rest : List Token) :
    tableName (t.tokens ++ .mark '(' :: rest) = some (t, .mark '(' :: rest) := by
  obtain ⟨schema, name⟩ := t
  simp only [TableName.isPlain, Bool.and_eq_true] at plain
  have free := isReserved_of_isName plain.2
  cases schema with
  | none => simp [TableName.tokens, tableName, free]
  | some schema =>
    have own := isReserved_of_isName (show isName schema = true from plain.1)
    simp [TableName.tokens, tableName, free, own]

theorem reads_intercalate {α : Type*} {text : α → List Char} {ts : α → List Token} {l : List α}
    (each : ∀ a ∈ l, Reads (text a) (ts a)) :
    Reads ([','].intercalate (l.map text)) ([.mark ','].intercalate (l.map ts)) := by
  induction l with
  | nil =>
    intro rest ends
    simp [List.intercalate]
  | cons a l ih =>
    have first := each a List.mem_cons_self
    by_cases last : l = []
    · subst last
      simpa using first
    · have later := ih (fun x member => each x (List.mem_cons_of_mem _ member))
      intro rest ends
      have comma : ∀ tail, tokenize [] (',' :: tail) =
          (tokenize [] tail).map (fun ts => .mark ',' :: ts) := fun tail => rfl
      rw [List.map_cons, List.map_cons, List.intercalate_cons_of_ne_nil (by simpa using last),
        List.intercalate_cons_of_ne_nil (by simpa using last), List.append_assoc,
        List.append_assoc, List.singleton_append, first _ (ends_cons.mpr (by decide)), comma,
        later rest ends]
      cases tokenize [] rest <;> simp

theorem nameList_intercalate {names : List String} (filled : names ≠ [])
    (valid : ∀ name ∈ names, isName name = true) (rest : List Token) :
    nameList ([.mark ','].intercalate (names.map ([.word ·])) ++ .mark ')' :: rest) =
      some (names, rest) := by
  induction names with
  | nil => exact absurd rfl filled
  | cons name names ih =>
    have free := isReserved_of_isName (valid name List.mem_cons_self)
    by_cases last : names = []
    · subst last
      simp [nameList, free]
    · have tail := ih last (fun x member => valid x (List.mem_cons_of_mem _ member))
      rw [List.map_cons, List.intercalate_cons_of_ne_nil (by simpa using last)]
      simp [nameList, free, tail]

theorem parameterList_intercalate (n : Nat) (rest : List Token) :
    parameterList ([.mark ','].intercalate (List.replicate (n + 1) [.mark '?']) ++
      .mark ')' :: rest) = some (n + 1, rest) := by
  induction n with
  | zero => simp [parameterList]
  | succ n ih =>
    rw [List.replicate_succ, List.intercalate_cons_of_ne_nil (by simp)]
    simp [parameterList, ih]

/-- The tokens of `name = excluded.name`. -/
def copyTokens (name : String) : List Token :=
  [.word name, .mark '=', .word "excluded", .mark '.', .word name]

theorem assignmentList_intercalate {names : List String} (filled : names ≠ [])
    (valid : ∀ name ∈ names, isName name = true) :
    assignmentList ([.mark ','].intercalate (names.map copyTokens)) =
      some (names.map (fun name => (name, name))) := by
  induction names with
  | nil => exact absurd rfl filled
  | cons name names ih =>
    have free := isReserved_of_isName (valid name List.mem_cons_self)
    have qualifier : eqIgnoreAsciiCase "excluded" "excluded" = true := by
      simp [eqIgnoreAsciiCase]
    by_cases last : names = []
    · subst last
      simp [assignmentList, copyTokens, free, qualifier]
    · have tail := ih last (fun x member => valid x (List.mem_cons_of_mem _ member))
      rw [List.map_cons, List.intercalate_cons_of_ne_nil (by simpa using last)]
      simp [assignmentList, copyTokens, free, qualifier] at tail ⊢
      simp [tail]

/-! Whatever is read, its names are names. -/

theorem tokenize_words {word text : List Char} {ts : List Token}
    (h : tokenize word text = some ts) (shaped : word = [] ∨ isWord word = true) :
    ∀ s, .word s ∈ ts → isWord s.toList = true := by
  have flushed : ∀ (word : List Char) (tail : List Token), word = [] ∨ isWord word = true →
      (∀ s, .word s ∈ tail → isWord s.toList = true) →
      ∀ s, .word s ∈ pending word tail → isWord s.toList = true := by
    intro word tail shaped later s member
    cases word with
    | nil => exact later s member
    | cons c more =>
      rcases List.mem_cons.mp member with here | there
      · cases here
        simpa using shaped
      · exact later s there
  induction text generalizing word ts with
  | nil =>
    cases h
    exact flushed word [] shaped (by simp)
  | cons c rest ih =>
    rw [tokenize] at h
    split at h
    · rename_i goesOn
      refine ih h (.inr ?_)
      cases word with
      | nil => simpa [isWord, continues] using goesOn
      | cons x more =>
        have old : isWord (x :: more) = true := by simpa using shaped
        simp only [isWord, Bool.and_eq_true] at old
        have letter : isNameChar c = true := goesOn
        simp only [isWord, List.cons_append, List.all_append, List.all_cons, List.all_nil,
          Bool.and_true, old.1, old.2, letter]
    · split at h
      · obtain ⟨tail, read, rfl⟩ := Option.map_eq_some_iff.mp h
        exact flushed word tail shaped (ih read (.inl rfl))
      · split at h
        · obtain ⟨tail, read, rfl⟩ := Option.map_eq_some_iff.mp h
          refine flushed word _ shaped (fun s member => ih read (.inl rfl) s ?_)
          simpa using member
        · cases h

theorem expect_subset {es ts rest : List Token} (h : expect es ts = some rest) : rest ⊆ ts := by
  induction es generalizing ts with
  | nil =>
    cases h
    exact List.Subset.refl _
  | cons e es ih =>
    cases ts with
    | nil => cases h
    | cons t ts =>
      simp only [expect] at h
      split at h
      · exact List.subset_cons_of_subset _ (ih h)
      · cases h

theorem nameList_names {ts rest : List Token} {names : List String}
    (h : nameList ts = some (names, rest)) :
    rest ⊆ ts ∧ ∀ name ∈ names, .word name ∈ ts ∧ isReserved name = false := by
  induction ts using nameList.induct generalizing names with
  | case1 s tail reserved => simp [nameList, reserved] at h
  | case2 s tail free ih =>
    rw [nameList, if_neg free] at h
    obtain ⟨⟨later, left⟩, read, same⟩ := Option.map_eq_some_iff.mp h
    cases same
    obtain ⟨kept, each⟩ := ih read
    refine ⟨fun t member => by simp [kept member], fun name member => ?_⟩
    rcases List.mem_cons.mp member with rfl | member
    · exact ⟨by simp, by simpa using free⟩
    · exact ⟨by simp [(each name member).1], (each name member).2⟩
  | case3 s tail reserved => simp [nameList, reserved] at h
  | case4 s tail free =>
    rw [nameList, if_neg free] at h
    cases h
    exact ⟨fun t member => by simp [member], by simpa using free⟩
  | case5 ts notComma notClose =>
    unfold nameList at h
    split at h
    · exact absurd rfl (notComma _ _)
    · exact absurd rfl (notClose _ _)
    · cases h

theorem tableName_names {ts rest : List Token} {t : TableName}
    (h : tableName ts = some (t, rest)) :
    rest ⊆ ts ∧ (.word t.name ∈ ts ∧ isReserved t.name = false) ∧
      ∀ schema ∈ t.schema, .word schema ∈ ts ∧ isReserved schema = false := by
  unfold tableName at h
  split at h
  · rename_i schema name more
    split at h
    · cases h
    · rename_i free
      cases h
      simp only [Bool.or_eq_true, not_or, Bool.not_eq_true] at free
      refine ⟨fun t member => by simp [member], ⟨by simp, free.2⟩, ?_⟩
      rintro _ ⟨⟩
      exact ⟨by simp, free.1⟩
  · split at h
    · cases h
    · rename_i free
      cases h
      exact ⟨fun t member => by simp [member], ⟨by simp, by simpa using free⟩, nofun⟩
  · cases h

theorem parse_names {sql : String} {s : Upsert} (h : parse sql = some s) :
    s.table.isPlain = true ∧ ∀ column ∈ s.columns, isName column = true := by
  obtain ⟨ts, read, h⟩ := Option.bind_eq_some_iff.mp h
  have words := tokenize_words read (.inl rfl)
  have named : ∀ name, .word name ∈ ts → isReserved name = false → isName name = true := by
    intro name member free
    simp [isName, words name member, free]
  simp only [parseTokens, Option.bind_eq_bind, Option.bind_eq_some_iff] at h
  obtain ⟨begun, atTable, ⟨table, after⟩, reads, opened, atColumns, ⟨columns, _⟩, listed, _, _, _,
    _, _, _, _, _, _, _, _, _, h⟩ := h
  cases h
  have inBegun := expect_subset atTable
  obtain ⟨left, ⟨here, free⟩, schemas⟩ := tableName_names reads
  have inAfter := expect_subset atColumns
  refine ⟨?_, fun column member => ?_⟩
  · have own := named _ (inBegun here) free
    have qualifier : table.schema.all isName = true := by
      rw [Option.all_eq_true]
      exact fun schema member =>
        named schema (inBegun (schemas schema member).1) (schemas schema member).2
    simp only [TableName.isPlain, own, qualifier, Bool.and_self]
  · obtain ⟨inside, free⟩ := (nameList_names listed).2 column member
    exact named column (inBegun (left (inAfter inside))) free

end Polykit.Lib.Sql
