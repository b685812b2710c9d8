import SchemaEvolution.Proofs.Filter.Phrase

/-!
# The lexemes of a select

A select whose columns are no expressions is written as a phrase of lexemes: what is selected and
from where, under which condition, in which order, and which of the rows (`reads_select`). Each
dialect has words of its own for the last part.
-/

namespace SchemaEvolution

open Text (Lexeme Reads ReadsBehind)

/-- A condition that may be missing, with a space in front of it. -/
def following : Option String → String
  | some sql => " " ++ sql
  | none => ""

/-- The values that a filter binds, if there is one. -/
def Filter.operandsOf (filter : Option Filter) : List Value := (filter.map operands).getD []

/-- The text of a condition whose placeholders start at `start`. -/
def Dialect.Supported.conditionText (k : Dialect.Supported) (filter : Filter) (start : Nat) :
    String :=
  "WHERE " ++ Fragment.fill k.dialect.placeholder start (filter.template k.dialect.quoteColumn)

/-- The lexemes of a column to sort by. -/
def SortTerm.lexemes (term : SortTerm) : List Lexeme :=
  referenceLexemes term.column ++ [.word term.direction.keyword]

namespace Select

/-- No column that the select refers to is an expression. -/
structure Plain (query : Select) : Prop where
  filter : ∀ f ∈ query.filter, f.Plain
  columns : ∀ column ∈ query.columns, PlainReference column
  sortedBy : ∀ term ∈ query.sortedBy, PlainReference term.column

/-- What is selected; no columns stand for all of them. -/
def projectionLexemes (columns : List String) : List Lexeme :=
  if columns.isEmpty then [.symbol '*']
  else [.symbol ','].intercalate (columns.map referenceLexemes)

/-- Tables between commas. -/
def tableLexemes (tables : List String) : List Lexeme :=
  [.symbol ','].intercalate (tables.map TableName.lexemes)

/-- The condition, if there is one. Its placeholders are the first ones. -/
def conditionLexemes (k : Dialect.Supported) : Option Filter → List Lexeme
  | some filter => .word "WHERE" :: filter.phrase k.dialect.placeholder 0
  | none => []

/-- What the rows are sorted by, if by anything. -/
def sortLexemes (terms : List SortTerm) : List Lexeme :=
  if terms.isEmpty then []
  else .word "ORDER" :: .word "BY" :: [.symbol ','].intercalate (terms.map SortTerm.lexemes)

/-- A keyword with a number that may be missing. -/
def numbered (keyword : String) : Option UInt64 → List Lexeme
  | some n => [.word keyword, .word (toString n.toNat)]
  | none => []

/-- Sorting by nothing in particular. -/
def unsortedLexemes : List Lexeme :=
  [.word "ORDER", .word "BY", .symbol '(', .word "SELECT", .word "NULL", .symbol ')']

/-- Which of the rows are asked for, in a select that is sorted or not. -/
def pagingLexemes : Dialect.Supported → Bool → Option UInt64 → Option UInt64 → List Lexeme
  | .sqlite, _, some skip, none =>
    [.word "LIMIT", .symbol '-', .word "1"] ++ numbered "OFFSET" (some skip)
  | .sqlite, _, skip, take => numbered "LIMIT" take ++ numbered "OFFSET" skip
  | .postgres, _, skip, take => numbered "LIMIT" take ++ numbered "OFFSET" skip
  | .sqlServer, _, none, none => []
  | .sqlServer, ordered, skip, take =>
    (if ordered then [] else unsortedLexemes) ++
      (numbered "OFFSET" (some (skip.getD 0)) ++ .word "ROWS" ::
        match take with
        | some n => .word "FETCH" :: (numbered "NEXT" (some n) ++ [.word "ROWS", .word "ONLY"])
        | none => [])

/-- The lexemes of a select. -/
def phrase (k : Dialect.Supported) (query : Select) : List Lexeme :=
  .word "SELECT" :: (projectionLexemes query.columns ++ .word "FROM" ::
    (tableLexemes query.tables ++ (conditionLexemes k query.filter ++
      (sortLexemes query.sortedBy ++
        pagingLexemes k (!query.sortedBy.isEmpty) query.skip query.take))))

end Select

namespace Dialect.Supported

open Select

variable (k : Dialect.Supported)

/-- The condition of a filter, wherever it stands. -/
theorem reads_conditionText {filter : Filter} (h : filter.Plain) (start : Nat) :
    Reads k.delimiters true (k.conditionText filter start)
      (.word "WHERE" :: filter.phrase k.dialect.placeholder start) := by
  have hwhere : Reads k.delimiters false "WHERE " [.word "WHERE"] :=
    Reads.of_scan (by cases k <;> rfl)
  rw [conditionText, k.quoteColumn_eq]
  exact hwhere.append (Filter.reads_template k start h) rfl

private theorem reads_projection {columns : List String}
    (h : ∀ column ∈ columns, PlainReference column) :
    Reads k.delimiters true
      (if columns.isEmpty then "*" else commaList (columns.map k.dialect.quoteColumn))
      (projectionLexemes columns) := by
  rw [projectionLexemes, k.quoteColumn_eq]
  split
  · exact Reads.star.weaken
  · exact Reads.commaList columns fun column hcolumn => Reads.reference (h column hcolumn)

private theorem reads_tables (tables : List String) :
    Reads k.delimiters true (commaList (tables.map k.dialect.quoteTable)) (tableLexemes tables) := by
  rw [k.quoteTable_eq]
  exact Reads.commaList tables fun name _ => Reads.table name

private theorem behind_condition {filter : Option Filter} (h : ∀ f ∈ filter, f.Plain) :
    ReadsBehind k.delimiters (following (filter.map fun f => k.conditionText f 0))
      (conditionLexemes k filter) := by
  cases filter with
  | none => exact ReadsBehind.empty
  | some filter =>
    have hblank : Reads k.delimiters false " " [] := Reads.of_scan (by cases k <;> rfl)
    exact ReadsBehind.append hblank rfl (k.reads_conditionText (h filter rfl) 0)

private theorem reads_sortTerm {term : SortTerm} (h : PlainReference term.column) :
    Reads k.delimiters true (k.dialect.quoteColumn term.column ++ " " ++ term.direction.keyword)
      term.lexemes := by
  have hblank : Reads k.delimiters false " " [] := Reads.of_scan (by cases k <;> rfl)
  have hdirection : Reads k.delimiters true term.direction.keyword
      [.word term.direction.keyword] := by
    cases term.direction <;> exact Reads.word (by decide) (List.all_eq_true.mp (by decide))
  rw [k.quoteColumn_eq, SortTerm.lexemes, ← List.append_nil (referenceLexemes term.column)]
  exact ((Reads.reference h).append hblank rfl).append hdirection rfl

private theorem behind_sorting {terms : List SortTerm}
    (h : ∀ term ∈ terms, PlainReference term.column) :
    ReadsBehind k.delimiters
      (if terms.isEmpty then "" else " ORDER BY " ++ commaList (terms.map fun term =>
        k.dialect.quoteColumn term.column ++ " " ++ term.direction.keyword))
      (sortLexemes terms) := by
  rw [sortLexemes]
  split
  · exact ReadsBehind.empty
  · have horder : Reads k.delimiters false " ORDER BY " [.word "ORDER", .word "BY"] :=
      Reads.of_scan (by cases k <;> rfl)
    exact ReadsBehind.append horder rfl
      (Reads.commaList terms fun term hterm => k.reads_sortTerm (h term hterm))

/-! ### Which of the rows -/

/-- A keyword with a number behind it. -/
private theorem behind_number {keyword : String} {read : List Lexeme}
    (hkeyword : Reads k.delimiters false keyword read) (hlead : Text.leads keyword.toList = true)
    (n : UInt64) :
    ReadsBehind k.delimiters (keyword ++ toString n.toNat) (read ++ [.word (toString n.toNat)]) :=
  ReadsBehind.append hkeyword hlead (Reads.numeral n.toNat)

private theorem behind_limit (n : UInt64) :
    ReadsBehind k.delimiters (" LIMIT " ++ toString n.toNat) (numbered "LIMIT" (some n)) := by
  have hlimit : Reads k.delimiters false " LIMIT " [.word "LIMIT"] :=
    Reads.of_scan (by cases k <;> rfl)
  exact k.behind_number hlimit rfl n

private theorem behind_offset (n : UInt64) :
    ReadsBehind k.delimiters (" OFFSET " ++ toString n.toNat) (numbered "OFFSET" (some n)) := by
  have hoffset : Reads k.delimiters false " OFFSET " [.word "OFFSET"] :=
    Reads.of_scan (by cases k <;> rfl)
  exact k.behind_number hoffset rfl n

private theorem reads_paginate_sqlite {text : String} {read : List Lexeme}
    (h : Reads sqlite.delimiters true text read) (ordered : Bool) (skip take : Option UInt64) :
    Reads sqlite.delimiters true (Sqlite.paginate text skip take)
      (read ++ pagingLexemes sqlite ordered skip take) := by
  cases skip with
  | none =>
    cases take with
    | none => simpa [Sqlite.paginate, pagingLexemes, numbered] using h
    | some limit =>
      simpa [Sqlite.paginate, pagingLexemes, numbered, String.append_assoc] using
        sqlite.behind_limit limit h
  | some offset =>
    cases take with
    | none =>
      have hunlimited : Reads sqlite.delimiters false " LIMIT -1 OFFSET "
        [.word "LIMIT", .symbol '-', .word "1", .word "OFFSET"] := Reads.of_scan rfl
      simpa [Sqlite.paginate, pagingLexemes, numbered, String.append_assoc] using
        sqlite.behind_number hunlimited rfl offset h
    | some limit =>
      simpa [Sqlite.paginate, pagingLexemes, numbered, String.append_assoc] using
        sqlite.behind_offset offset (sqlite.behind_limit limit h)

private theorem reads_paginate_postgres {text : String} {read : List Lexeme}
    (h : Reads postgres.delimiters true text read) (ordered : Bool) (skip take : Option UInt64) :
    Reads postgres.delimiters true (Dialect.postgres.paginate text ordered skip take)
      (read ++ pagingLexemes postgres ordered skip take) := by
  have hlimited : Reads postgres.delimiters true
      (text ++ match take with
        | some n => " LIMIT " ++ toString n.toNat
        | none => "") (read ++ numbered "LIMIT" take) := by
    cases take with
    | none => simpa [numbered] using h
    | some limit => exact postgres.behind_limit limit h
  rw [pagingLexemes, ← List.append_assoc]
  cases skip with
  | none => exact ReadsBehind.empty hlimited
  | some offset => exact postgres.behind_offset offset hlimited

private theorem behind_rows (ordered : Bool) (skip take : Option UInt64) :
    ReadsBehind sqlServer.delimiters
      ((if ordered then "" else " ORDER BY (SELECT NULL)") ++
        (" OFFSET " ++ toString (skip.getD 0).toNat ++ (" ROWS" ++
          match take with
          | some n => " FETCH NEXT " ++ toString n.toNat ++ " ROWS ONLY"
          | none => "")))
      ((if ordered then [] else unsortedLexemes) ++
        (numbered "OFFSET" (some (skip.getD 0)) ++ ([.word "ROWS"] ++
          match take with
          | some n => .word "FETCH" :: (numbered "NEXT" (some n) ++ [.word "ROWS", .word "ONLY"])
          | none => []))) := by
  have hsorted : ReadsBehind sqlServer.delimiters
      (if ordered then "" else " ORDER BY (SELECT NULL)")
      (if ordered then [] else unsortedLexemes) := by
    cases ordered with
    | true => exact ReadsBehind.empty
    | false => exact ReadsBehind.of_lexemes rfl rfl rfl
  have hrows : ReadsBehind sqlServer.delimiters " ROWS" [.word "ROWS"] :=
    ReadsBehind.of_lexemes rfl rfl rfl
  apply hsorted.trans ((sqlServer.behind_offset _).trans (hrows.trans _))
  cases take with
  | none => exact ReadsBehind.empty
  | some limit =>
    have hfetch : Reads sqlServer.delimiters false " FETCH NEXT " [.word "FETCH", .word "NEXT"] :=
      Reads.of_scan rfl
    have honly : ReadsBehind sqlServer.delimiters " ROWS ONLY" [.word "ROWS", .word "ONLY"] :=
      ReadsBehind.of_lexemes rfl rfl rfl
    exact (sqlServer.behind_number hfetch rfl limit).trans honly

private theorem reads_paginate_sqlServer {text : String} {read : List Lexeme}
    (h : Reads sqlServer.delimiters true text read) (ordered : Bool) (skip take : Option UInt64) :
    Reads sqlServer.delimiters true (SqlServer.paginate text ordered skip take)
      (read ++ pagingLexemes sqlServer ordered skip take) := by
  have hpaged := behind_rows ordered skip take h
  cases skip with
  | none =>
    cases take with
    | none => simpa [SqlServer.paginate, pagingLexemes] using h
    | some limit =>
      simpa [SqlServer.paginate, pagingLexemes, String.append_assoc] using hpaged
  | some offset =>
    cases take <;> simpa [SqlServer.paginate, pagingLexemes, String.append_assoc] using hpaged

/-- Paging stands behind the select that it belongs to. -/
theorem reads_paginate {text : String} {read : List Lexeme}
    (h : Reads k.delimiters true text read) (ordered : Bool) (skip take : Option UInt64) :
    Reads k.delimiters true (k.dialect.paginate text ordered skip take)
      (read ++ pagingLexemes k ordered skip take) := by
  cases k with
  | sqlite => exact reads_paginate_sqlite h ordered skip take
  | postgres => exact reads_paginate_postgres h ordered skip take
  | sqlServer => exact reads_paginate_sqlServer h ordered skip take

/-- A select, as far as it stands in front of the paging. -/
theorem select_eq (query : Select) (condition : Option String) :
    k.dialect.select query condition = k.dialect.paginate
      ("SELECT " ++
        (if query.columns.isEmpty then "*"
          else commaList (query.columns.map k.dialect.quoteColumn)) ++
        " FROM " ++ commaList (query.tables.map k.dialect.quoteTable) ++ following condition ++
        (if query.sortedBy.isEmpty then ""
          else " ORDER BY " ++ commaList (query.sortedBy.map fun o =>
            k.dialect.quoteColumn o.column ++ " " ++ o.direction.keyword)))
      (!query.sortedBy.isEmpty) query.skip query.take := by
  cases k <;> cases condition <;> rfl

/-- The condition of a filter, with its parameters. -/
theorem whereClause_eq (filter : Filter) (start : Nat) :
    k.dialect.whereClause filter start =
      .ok ⟨k.conditionText filter start,
        InParameter.number k.dialect.parameterName start filter.operands⟩ := by
  rw [k.plain.whereClause]
  exact Filter.compile_eq _ _ _ _ _

/-- A select from some table can always be built. -/
theorem build_eq {query : Select} (h : query.tables.isEmpty = false) :
    query.build k.dialect =
      .ok ⟨k.dialect.select query (query.filter.map fun f => k.conditionText f 0),
        InParameter.number k.dialect.parameterName 0 (Filter.operandsOf query.filter),
        query.filter.isSome⟩ := by
  obtain ⟨tables, columns, filter, sortedBy, skip, take⟩ := query
  rw [Select.build, h, if_neg Bool.false_ne_true]
  cases filter with
  | none => rfl
  | some filter =>
    change (k.dialect.whereClause filter 0 >>= _) = _
    rw [k.whereClause_eq]
    rfl

/-- The lexemes of a select. -/
theorem reads_select {query : Select} (h : query.Plain) :
    Reads k.delimiters true
      (k.dialect.select query (query.filter.map fun f => k.conditionText f 0))
      (query.phrase k) := by
  have hselect : Reads k.delimiters false "SELECT " [.word "SELECT"] :=
    Reads.of_scan (by cases k <;> rfl)
  have hfrom : Reads k.delimiters false " FROM " [.word "FROM"] :=
    Reads.of_scan (by cases k <;> rfl)
  have hprojected := hselect.append (k.reads_projection h.columns) rfl
  have htables := (hprojected.append hfrom rfl).append (k.reads_tables query.tables) rfl
  have hsorted := k.behind_sorting h.sortedBy (k.behind_condition h.filter htables)
  have hpaged := k.reads_paginate hsorted (!query.sortedBy.isEmpty) query.skip query.take
  rw [k.select_eq]
  simpa [phrase] using hpaged

end Dialect.Supported

end SchemaEvolution
