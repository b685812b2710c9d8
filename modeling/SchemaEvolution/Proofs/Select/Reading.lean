import SchemaEvolution.Proofs.Filter.Reading
import SchemaEvolution.Proofs.Select.Clauses

/-!
# Reading selects back

A reader of selects for each dialect. Keywords tell the clauses apart and commas the items of a
clause; a name ends where no dot follows it. What a select is written as is read back as what it
asks for (`readStatement_phrase`), but for what two selects that are written alike do not share.
-/

namespace SchemaEvolution.Select

open Dialect (Supported)
open SchemaEvolution.Filter (readAlternatives readNested readParts placeholderValue)
open Text (Lexeme)

/-! ### What a select asks for -/

/-- What a select asks for. The columns of all tables are a single star. -/
structure Contents where
  /-- The tables, each by the parts of its name. -/
  tables : List (List String)
  columns : List String
  filter : Option Filter
  sortedBy : List SortTerm
  /-- Whether the rows are sorted by nothing in particular. -/
  sortedByNothing : Bool
  offset : Nat
  limit : Option Nat
  deriving DecidableEq

/-- What a select asks for in a dialect. -/
def contents (k : Supported) (query : Select) : Contents where
  tables := query.tables.map TableName.parts
  columns := if query.columns.isEmpty then ["*"] else query.columns
  filter := query.filter.map Filter.recoverable
  sortedBy := query.sortedBy
  sortedByNothing := query.sortsByNothing k
  offset := (query.skip.getD 0).toNat
  limit := query.take.map UInt64.toNat

/-! ### The reader -/

section Items

variable {α ι : Type} (item : List Lexeme → Option (α × List Lexeme))

/-- Items between commas, at most a number of them. -/
def readItems : Nat → List Lexeme → Option (List α × List Lexeme)
  | 0, _ => none
  | steps + 1, lexemes =>
    match item lexemes with
    | some (first, .symbol ',' :: rest) =>
      (readItems steps rest).map fun (others, rest) => (first :: others, rest)
    | some (first, rest) => some ([first], rest)
    | none => none

/-- Items between commas. There is at most one more of them than there are lexemes. -/
def readList (lexemes : List Lexeme) : Option (List α × List Lexeme) :=
  readItems item (lexemes.length + 1) lexemes

end Items

/-- A column reference. -/
def readReference (lexemes : List Lexeme) : Option (String × List Lexeme) :=
  (readParts lexemes).map fun (parts, rest) => (".".intercalate parts, rest)

/-- The direction that a keyword stands for. -/
def direction? (word : String) : Option Direction :=
  (Direction.names.map Prod.snd).find? fun direction => direction.keyword = word

/-- A column to sort by. -/
def readTerm (lexemes : List Lexeme) : Option (SortTerm × List Lexeme) :=
  match readReference lexemes with
  | some (column, .word w :: rest) =>
    (direction? w).map fun direction => (⟨column, direction⟩, rest)
  | _ => none

/-- The condition, if there is one. No condition is nested more deeply than it has lexemes. -/
def readWhere (k : Supported) (parameters : List InParameter) :
    List Lexeme → Option (Option Filter × List Lexeme)
  | .word "WHERE" :: rest =>
    (readAlternatives (readNested (placeholderValue k parameters) rest.length) rest).map
      fun (filter, rest) => (some filter, rest)
  | rest => some (none, rest)

/-- What the rows are sorted by, and whether by nothing in particular. -/
def readSorting : List Lexeme → Option ((List SortTerm × Bool) × List Lexeme)
  | .word "ORDER" :: .word "BY" :: .symbol '(' :: .word "SELECT" :: .word "NULL" :: .symbol ')' ::
    rest => some (([], true), rest)
  | .word "ORDER" :: .word "BY" :: rest =>
    (readList readTerm rest).map fun (terms, rest) => ((terms, false), rest)
  | rest => some (([], false), rest)

/-- A number. -/
def readNumber (word : String) : Option Nat := Number.readDigits word.toList

/-- A limit and an offset, each of which may be missing. -/
def readLimits : List Lexeme → Option (Nat × Option Nat)
  | [] => some (0, none)
  | [.word "LIMIT", .word n] => (readNumber n).map fun n => (0, some n)
  | [.word "OFFSET", .word m] => (readNumber m).map fun m => (m, none)
  | [.word "LIMIT", .word n, .word "OFFSET", .word m] => do
    let n ← readNumber n
    let m ← readNumber m
    some (m, some n)
  | _ => none

/-- An offset, and how many rows are fetched if not all of them are. -/
def readRows : List Lexeme → Option (Nat × Option Nat)
  | [] => some (0, none)
  | [.word "OFFSET", .word m, .word "ROWS"] => (readNumber m).map fun m => (m, none)
  | [.word "OFFSET", .word m, .word "ROWS", .word "FETCH", .word "NEXT", .word n, .word "ROWS",
      .word "ONLY"] => do
    let m ← readNumber m
    let n ← readNumber n
    some (m, some n)
  | _ => none

/-- Which of the rows are asked for: how many are left out, and how many there may be. -/
def readPaging : Supported → List Lexeme → Option (Nat × Option Nat)
  | .sqlite, .word "LIMIT" :: .symbol '-' :: .word "1" :: rest => readLimits rest
  | .sqlite, lexemes => readLimits lexemes
  | .postgres, lexemes => readLimits lexemes
  | .sqlServer, lexemes => readRows lexemes

/-- What stands behind the tables. -/
def readClauses (k : Supported) (parameters : List InParameter) (tables : List (List String))
    (columns : List String) (lexemes : List Lexeme) : Option Contents := do
  let (filter, lexemes) ← readWhere k parameters lexemes
  let ((sortedBy, sortedByNothing), lexemes) ← readSorting lexemes
  let (offset, limit) ← readPaging k lexemes
  some ⟨tables, columns, filter, sortedBy, sortedByNothing, offset, limit⟩

/-- A select. -/
def readStatement (k : Supported) (parameters : List InParameter) : List Lexeme → Option Contents
  | .word "SELECT" :: rest =>
    match readList readReference rest with
    | some (columns, .word "FROM" :: rest) => do
      let (tables, rest) ← readList readParts rest
      readClauses k parameters tables columns rest
    | _ => none
  | _ => none

/-- What a select asks for, from its text and its parameters. -/
def readSelect (k : Supported) (sql : String) (parameters : List InParameter) : Option Contents :=
  readStatement k parameters (Text.lexemes k.delimiters sql)

/-! ### Items between commas -/

/-- No item goes on behind these lexemes, and no other one follows. -/
def EndsItems (rest : List Lexeme) : Prop :=
  rest.head? ≠ some (.symbol '.') ∧ rest.head? ≠ some (.symbol ',')

/-- Items between commas are at most one more than their lexemes. -/
private theorem length_le_intercalate (items : List (List Lexeme)) :
    items.length ≤ ([.symbol ','].intercalate items).length + 1 := by
  induction items with
  | nil => simp
  | cons item items ih =>
    cases items with
    | nil => simp
    | cons next items =>
      rw [List.intercalate_cons_cons]
      simp only [List.length_append, List.length_cons] at ih ⊢
      omega

section Items

variable {α ι : Type} {item : List Lexeme → Option (α × List Lexeme)} {write : ι → List Lexeme}
  {value : ι → α} {rest : List Lexeme}

private theorem readItems_intercalate {items : List ι} (hne : items ≠ [])
    (hitems : ∀ i ∈ items, ∀ rest, rest.head? ≠ some (.symbol '.') →
      item (write i ++ rest) = some (value i, rest))
    (hrest : EndsItems rest) {steps : Nat} (hsteps : items.length ≤ steps) :
    readItems item steps ([.symbol ','].intercalate (items.map write) ++ rest) =
      some (items.map value, rest) := by
  induction items generalizing steps with
  | nil => exact absurd rfl hne
  | cons i items ih =>
    obtain ⟨steps, rfl⟩ : ∃ n, steps = n + 1 := ⟨steps - 1, by simp at hsteps; omega⟩
    have hi := hitems i List.mem_cons_self
    cases items with
    | nil =>
      have hread : item (write i ++ rest) = some (value i, rest) := hi rest hrest.1
      have hcomma := hrest.2
      rw [List.map_singleton, List.intercalate_singleton, readItems, hread]
      cases rest with
      | nil => rfl
      | cons next rest =>
        have hnext : next ≠ .symbol ',' := by simpa using hcomma
        simp [hnext]
    | cons next items =>
      have hsteps : (next :: items).length ≤ steps := by simpa using hsteps
      have hothers := ih (List.cons_ne_nil _ _) (fun j hj => hitems j (List.mem_cons_of_mem _ hj))
        hsteps
      have hread := hi (.symbol ',' :: ([.symbol ','].intercalate
        ((next :: items).map write) ++ rest)) (by simp)
      rw [List.map_cons, List.map_cons, List.intercalate_cons_cons, ← List.map_cons]
      simp only [List.append_assoc, List.cons_append, List.nil_append, readItems, hread, hothers]
      rfl

/-- Items between commas are read back, if each of them is. -/
theorem readList_intercalate {items : List ι} (hne : items ≠ [])
    (hitems : ∀ i ∈ items, ∀ rest, rest.head? ≠ some (.symbol '.') →
      item (write i ++ rest) = some (value i, rest))
    (hrest : EndsItems rest) :
    readList item ([.symbol ','].intercalate (items.map write) ++ rest) =
      some (items.map value, rest) := by
  apply readItems_intercalate hne hitems hrest
  have hlength := length_le_intercalate (items.map write)
  rw [List.length_map] at hlength
  rw [List.length_append]
  omega

end Items

/-! ### The parts of a select -/

theorem readReference_referenceLexemes (column : String) {rest : List Lexeme}
    (hrest : rest.head? ≠ some (.symbol '.')) :
    readReference (referenceLexemes column ++ rest) = some (column, rest) := by
  simp [readReference, Filter.readParts_referenceLexemes column hrest, TableName.intercalate_parts]

theorem readTerm_lexemes (term : SortTerm) (rest : List Lexeme) :
    readTerm (term.lexemes ++ rest) = some (term, rest) := by
  have hcolumn : readReference (referenceLexemes term.column ++
      .word term.direction.keyword :: rest) = some (term.column, _) :=
    readReference_referenceLexemes term.column (by simp)
  have hdirection : direction? term.direction.keyword = some term.direction := by
    cases term.direction <;> rfl
  rw [SortTerm.lexemes, List.append_assoc, List.singleton_append, readTerm, hcolumn]
  simp [hdirection]

/-- What is selected is read back. -/
theorem readList_projectionLexemes (columns : List String) {rest : List Lexeme}
    (hrest : EndsItems rest) :
    readList readReference (projectionLexemes columns ++ rest) =
      some (if columns.isEmpty then ["*"] else columns, rest) := by
  have hread {columns : List String} (hne : columns ≠ []) :
      readList readReference ([.symbol ','].intercalate (columns.map referenceLexemes) ++ rest) =
        some (columns, rest) := by
    have hread := readList_intercalate hne
      (fun column _ _ hrest => readReference_referenceLexemes column hrest) hrest
    rwa [List.map_id'] at hread
  cases columns with
  | nil => exact hread (List.cons_ne_nil "*" [])
  | cons column columns => exact hread (List.cons_ne_nil column columns)

/-- Tables are read back. -/
theorem readList_tableLexemes {tables : List String} (hne : tables ≠ []) {rest : List Lexeme}
    (hrest : EndsItems rest) :
    readList readParts (tableLexemes tables ++ rest) =
      some (tables.map TableName.parts, rest) :=
  readList_intercalate hne (fun name _ _ hrest =>
    Filter.readParts_intercalate (fun _ => rfl) (TableName.parts_ne_nil name) hrest) hrest

/-! ### What stands behind the tables -/

/-- Nothing, or a keyword that starts a clause behind the condition. -/
def StartsClause (rest : List Lexeme) : Prop :=
  ∀ l ∈ rest.head?, l ∈ [Lexeme.word "ORDER", .word "LIMIT", .word "OFFSET"]

theorem StartsClause.head_ne {rest : List Lexeme} (h : StartsClause rest) {l : Lexeme}
    (hl : l ∉ [Lexeme.word "ORDER", .word "LIMIT", .word "OFFSET"]) : rest.head? ≠ some l :=
  fun hhead => hl (h l hhead)

theorem StartsClause.endsItems {rest : List Lexeme} (h : StartsClause rest) : EndsItems rest :=
  ⟨h.head_ne (by simp), h.head_ne (by simp)⟩

variable (k : Supported) (skip take : Option UInt64)

private theorem startsClause_paging (ordered : Bool) :
    StartsClause (pagingLexemes k ordered skip take) := by
  intro l hl
  cases k <;> cases skip <;> cases take <;> cases ordered <;>
    simp_all [pagingLexemes, numbered, unsortedLexemes]

private theorem startsClause_sorting (terms : List SortTerm) :
    StartsClause (sortLexemes terms ++ pagingLexemes k (!terms.isEmpty) skip take) := by
  cases terms with
  | nil => exact startsClause_paging k skip take false
  | cons term terms =>
    intro l hl
    simp_all [sortLexemes]

private theorem readNumber_toString (n : Nat) : readNumber (toString n) = some n := by
  have hdigits : (toString n).toList = Nat.toDigits 10 n := by simp
  rw [readNumber, hdigits, Number.readDigits_toDigits]

/-- Which of the rows are asked for is read back. -/
theorem readPaging_pagingLexemes :
    readPaging k (pagingLexemes k true skip take) =
      some ((skip.getD 0).toNat, take.map UInt64.toNat) := by
  cases k <;> cases skip <;> cases take <;>
    simp [pagingLexemes, numbered, readPaging, readLimits, readRows, readNumber_toString,
      -Nat.toString_eq_repr]

/-- What starts with no parenthesis is a list of columns to sort by. -/
private theorem readSorting_of_head_ne {rest : List Lexeme} (h : rest.head? ≠ some (.symbol '(')) :
    readSorting (.word "ORDER" :: .word "BY" :: rest) =
      (readList readTerm rest).map fun (terms, rest) => ((terms, false), rest) := by
  unfold readSorting
  split
  · next heq =>
    cases heq
    exact absurd rfl h
  · next heq =>
    cases heq
    rfl
  · next hno => exact absurd rfl (hno rest)

/-- What the rows are sorted by is read back. -/
theorem readSorting_sortLexemes (terms : List SortTerm) :
    readSorting (sortLexemes terms ++ pagingLexemes k (!terms.isEmpty) skip take) =
      some ((terms, k = .sqlServer && (skip.isSome || take.isSome) && terms.isEmpty),
        pagingLexemes k true skip take) := by
  cases terms with
  | nil => cases k <;> cases skip <;> cases take <;> rfl
  | cons term terms =>
    have hread := readList_intercalate (List.cons_ne_nil term terms)
      (fun term _ rest _ => readTerm_lexemes term rest)
      (startsClause_paging k skip take true).endsItems
    rw [List.map_id'] at hread
    have hhead : ([.symbol ','].intercalate ((term :: terms).map SortTerm.lexemes) ++
        pagingLexemes k true skip take).head? ≠ some (.symbol '(') := by
      obtain ⟨part, lexemes, hpart⟩ := Filter.referenceLexemes_eq_cons term.column
      have hne : partLexeme part ≠ .symbol '(' := by
        unfold partLexeme
        split <;> simp
      cases terms <;> simp [SortTerm.lexemes, hpart, List.intercalate_cons_cons, hne]
    have hsorting := readSorting_of_head_ne hhead
    rw [hread] at hsorting
    simpa [sortLexemes] using hsorting

/-- A condition is read back. -/
theorem readWhere_conditionLexemes {filter : Option Filter} {parameters : List InParameter}
    (h : Filter.Binds (placeholderValue k parameters) k.dialect.placeholder 0
      (Filter.operandsOf filter)) {rest : List Lexeme} (hrest : StartsClause rest) :
    readWhere k parameters (conditionLexemes k filter ++ rest) =
      some (filter.map Filter.recoverable, rest) := by
  cases filter with
  | none =>
    have hwhere : rest.head? ≠ some (.word "WHERE") := hrest.head_ne (by simp)
    rw [conditionLexemes, List.nil_append]
    unfold readWhere
    split
    · exact absurd rfl hwhere
    · rfl
  | some filter =>
    have hends : Filter.Ends rest := ⟨hrest.head_ne (by simp), hrest.head_ne (by simp)⟩
    have hdepth : (filter.phrase k.dialect.placeholder 0).length ≤
        (filter.phrase k.dialect.placeholder 0 ++ rest).length := by simp
    have hread := Filter.readAlternatives_phrase h hdepth hends
    rw [conditionLexemes, List.cons_append, readWhere, hread]
    rfl

/-! ### Whole selects -/

private theorem endsItems_clauses (filter : Option Filter) {rest : List Lexeme}
    (hrest : StartsClause rest) : EndsItems (conditionLexemes k filter ++ rest) := by
  cases filter with
  | none => exact hrest.endsItems
  | some filter => simp [EndsItems, conditionLexemes]

/-- A select is read back as what it asks for, if its placeholders stand for the operands of its
filter. -/
theorem readStatement_phrase {query : Select} {parameters : List InParameter}
    (htables : query.tables ≠ [])
    (h : Filter.Binds (placeholderValue k parameters) k.dialect.placeholder 0
      (Filter.operandsOf query.filter)) :
    readStatement k parameters (query.phrase k) = some (query.contents k) := by
  have hclause := startsClause_sorting k query.skip query.take query.sortedBy
  have hends (rest : List Lexeme) : EndsItems (.word "FROM" :: rest) := by simp [EndsItems]
  have hprojection (rest : List Lexeme) := readList_projectionLexemes query.columns (hends rest)
  have horigin := readList_tableLexemes htables (endsItems_clauses k query.filter hclause)
  simp [phrase, readStatement, hprojection, horigin, readClauses,
    readWhere_conditionLexemes k h hclause, readSorting_sortLexemes, readPaging_pagingLexemes,
    contents, sortsByNothing, isPaged]

/-- What is built for a select determines what it asks for: one reader for each dialect gives it back
from the text and the parameters. Every clause that it asks for occurs once and no other one at all,
in one order; nothing is added where all rows are asked for, and where only some are, the rows are
sorted on SQL Server. Only a select from no table cannot be built. -/
theorem build_determines_select (k : Supported) :
    (∀ query : Select, (∃ error, query.build k.dialect = .error error) ↔ query.tables = []) ∧
    (∀ query : Select, query.tables ≠ [] → query.Plain → ∃ built,
      query.build k.dialect = .ok built ∧
      readSelect k built.sql built.parameters = some (query.contents k) ∧
      Text.clauses k.delimiters built.sql = query.clauses k ∧
      (query.clauses k).Sublist Text.clauseOrder ∧
      (k = .sqlServer → query.isPaged = true → (query.clauses k).count "ORDER" = 1)) ∧
    ∀ sql ordered, k.dialect.paginate sql ordered none none = sql := by
  refine ⟨fun query => ?_, fun query htables hplain => ?_, fun sql ordered => ?_⟩
  · cases htables : query.tables with
    | nil => simp [build, htables]
    | cons table tables =>
      have hsome : query.tables.isEmpty = false := by simp [htables]
      simp [k.build_eq hsome]
  · have hlexemes := (k.reads_select hplain).lexemes_eq
    have hsome : query.tables.isEmpty = false := by simpa using htables
    have hbuild := k.build_eq hsome
    refine ⟨_, hbuild, ?_, ?_, query.clauses_sublist k, ?_⟩
    · rw [readSelect, hlexemes]
      exact readStatement_phrase k htables (Filter.binds_number k k.dialect.parameterName 0 _)
    · rw [Text.clauses, hlexemes, clausesFrom_phrase]
    · rintro rfl hpaged
      exact query.count_order_sqlServer hpaged
  · cases k <;> simp [Supported.dialect, Dialect.sqlite, Dialect.postgres, Dialect.sqlServer,
      Dialect.Sqlite.paginate, Dialect.SqlServer.paginate]

/-- A page of a select from two tables, with brackets, keywords and placeholders in the names, is
read back on SQL Server. -/
theorem build_determines_page :
    ∃ built, build ⟨["app.a]b", "c WHERE d"], ["e,FROM", "f.*"],
        some (.oneOf "@par1" [.text "]", .null] true), [], none, some 5⟩ Dialect.sqlServer =
          .ok built ∧
      readSelect .sqlServer built.sql built.parameters =
        some ⟨[["app", "a]b"], ["c WHERE d"]], ["e,FROM", "f.*"],
          some (.oneOf "@par1" [.text "]", .null] true), [], true, 0, some 5⟩ ∧
      Text.clauses .brackets built.sql = ["FROM", "WHERE", "ORDER", "OFFSET", "FETCH"] := by
  have hplain : Plain ⟨["app.a]b", "c WHERE d"], ["e,FROM", "f.*"],
      some (.oneOf "@par1" [.text "]", .null] true), [], none, some 5⟩ :=
    ⟨by simp [Filter.Plain, Filter.columns, PlainReference], by simp [PlainReference], by simp⟩
  obtain ⟨built, hbuild, hread, hclauses, -⟩ :=
    (build_determines_select .sqlServer).2.1 _ (List.cons_ne_nil _ _) hplain
  exact ⟨built, hbuild, hread, hclauses⟩

end SchemaEvolution.Select
