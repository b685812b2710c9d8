import SchemaEvolution.Proofs.TableName
import SchemaEvolution.Proofs.Table.Definition

/-!
# Reading statements that create tables

In every dialect the statement that creates a table is read as the table: a definition for each
column, in order, and what makes up its key. Comments have statements of their own.
-/

namespace SchemaEvolution

open Dialect (Supported)
open Text (Delimiters Lexeme Reads ReadsBehind)

/-! ### What a definition says -/

namespace Layout

private theorem mem_declaredWith {behindKey : List Lexeme} (hbare : Bare behindKey)
    {asKey unique : Bool} {l : Lexeme} (hl : isOption l = true) :
    l ∈ declaredWith behindKey asKey unique ↔
      (asKey = true ∧ l = .word "PRIMARY") ∨ (unique = true ∧ l = .word "UNIQUE") := by
  have hbehind : l ∉ behindKey := by
    intro hmem
    rw [hbare.noOption l hmem] at hl
    cases hl
  have hkey : l ≠ .word "KEY" := by
    rintro rfl
    cases hl
  cases asKey <;> cases unique <;> simp [declaredWith, hbehind, hkey]

namespace Column.Legible

variable {column : Column} (h : column.Legible)

include h

/-- The options of a definition are those that the column asks for. -/
theorem mem_lexemes {l : Lexeme} (hl : isOption l = true) :
    l ∈ column.lexemes ↔ (column.nullable = false ∧ l = .word "NOT") ∨
      (column.default.isSome = true ∧ l = .word "DEFAULT") ∨ l ∈ column.declared := by
  have habsent {read : List Lexeme} (hread : Bare read) : l ∉ read := by
    intro hmem
    rw [hread.noOption l hmem] at hl
    cases hl
  have hname : l ≠ .identifier column.name := by
    rintro rfl
    cases hl
  have hnull : l ≠ .word "NULL" := by
    rintro rfl
    cases hl
  have hnullable : l ∈ column.nullableLexemes ↔ column.nullable = false ∧ l = .word "NOT" := by
    cases hn : column.nullable <;> simp [nullableLexemes, hn, hnull]
  have hdefault : l ∈ column.defaultLexemes ↔
      column.default.isSome = true ∧ l = .word "DEFAULT" := by
    cases hd : column.default with
    | none => simp [defaultLexemes, hd]
    | some written => simp [defaultLexemes, hd, habsent (h.default written hd)]
  simp [lexemes, hname, habsent h.type, hnullable, hdefault]

private theorem not_mem_declared {l : Lexeme} (hl : isOption l = true)
    (hne : l ≠ .word "PRIMARY" ∧ l ≠ .word "UNIQUE") : l ∉ column.declared := by
  obtain ⟨behindKey, asKey, unique, hbare, hdeclared⟩ := h.declared
  rw [hdeclared, mem_declaredWith hbare hl]
  simp [hne]

/-- Nulls are refused exactly in these words. -/
theorem notNull_isInfix_iff :
    [.word "NOT", .word "NULL"] <:+: column.lexemes ↔ column.nullable = false := by
  constructor
  · intro hinfix
    have hmem : Lexeme.word "NOT" ∈ column.lexemes := hinfix.mem List.mem_cons_self
    simpa [h.mem_lexemes, h.not_mem_declared (l := .word "NOT"), isOption] using hmem
  · intro hnullable
    refine ⟨.identifier column.name :: column.type, column.defaultLexemes ++ column.declared, ?_⟩
    simp [lexemes, nullableLexemes, hnullable]

/-- There is a default exactly behind this word. -/
theorem default_mem_iff : .word "DEFAULT" ∈ column.lexemes ↔ column.default.isSome = true := by
  have hdeclared := h.not_mem_declared (l := .word "DEFAULT") rfl (by simp)
  simp [h.mem_lexemes (l := .word "DEFAULT") rfl, hdeclared]

/-- The column is the primary key exactly in these words. -/
theorem key_isInfix_iff {behindKey : List Lexeme} {asKey unique : Bool} (hbare : Bare behindKey)
    (hdeclared : column.declared = declaredWith behindKey asKey unique) :
    [.word "PRIMARY", .word "KEY"] <:+: column.lexemes ↔ asKey = true := by
  constructor
  · intro hinfix
    have hmem : Lexeme.word "PRIMARY" ∈ column.lexemes := hinfix.mem List.mem_cons_self
    rw [h.mem_lexemes rfl, hdeclared, mem_declaredWith hbare rfl] at hmem
    simpa using hmem
  · rintro rfl
    refine ⟨.identifier column.name ::
      (column.type ++ (column.nullableLexemes ++ column.defaultLexemes)),
      behindKey ++ if unique then [.word "UNIQUE"] else [], ?_⟩
    simp [lexemes, hdeclared, declaredWith]

end Column.Legible

/-- A default stands behind its word. -/
theorem Column.default_isInfix {column : Column} {written : List Lexeme}
    (hdefault : column.default = some written) : .word "DEFAULT" :: written <:+: column.lexemes := by
  refine ⟨.identifier column.name :: (column.type ++ column.nullableLexemes), column.declared, ?_⟩
  simp [lexemes, defaultLexemes, hdefault]

/-! ### Keys -/

/-- Columns between commas. -/
def columnsLexemes (columns : List String) : List Lexeme :=
  [.symbol ','].intercalate (columns.map fun column => [.identifier column])

/-- Columns in parentheses, behind the lexemes that they follow. -/
def keyDefinition (opening : List Lexeme) (columns : List String) : List Lexeme :=
  opening ++ columnsLexemes columns ++ [.symbol ')']

/-- What a primary key is. -/
def primaryDefinition (columns : List String) : List Lexeme :=
  keyDefinition [.word "PRIMARY", .word "KEY", .symbol '('] columns

theorem reads_columns {d : Delimiters} {before opening : String}
    {beforeRead openingRead : List Lexeme} (hbefore : Reads d true before beforeRead)
    (hopening : Reads d false opening openingRead) (hlead : Text.leads opening.toList = true)
    (columns : List String) :
    Reads d true (before ++ opening ++ commaList (columns.map d.quote) ++ ")")
      (beforeRead ++ keyDefinition openingRead columns) := by
  have hlist : Reads d true (commaList (columns.map d.quote)) (columnsLexemes columns) :=
    Reads.commaList columns fun column _ => Reads.identifier column
  have hclosing : Reads d true ")" [.symbol ')'] :=
    Reads.weaken (Reads.of_scan (by cases d <;> rfl))
  rw [keyDefinition, ← List.append_assoc, ← List.append_assoc]
  exact ((hbefore.append hopening hlead).append hlist rfl).append hclosing rfl

private theorem mem_columnsLexemes {columns : List String} {l : Lexeme}
    (h : l ∈ columnsLexemes columns) : l = .symbol ',' ∨ ∃ column, l = .identifier column := by
  induction columns with
  | nil => cases h
  | cons column columns ih =>
    cases columns with
    | nil => exact .inr ⟨column, List.mem_singleton.mp h⟩
    | cons next columns =>
      rcases List.mem_cons.mp h with rfl | h
      · exact .inr ⟨column, rfl⟩
      · rcases List.mem_cons.mp h with rfl | h
        · exact .inl rfl
        · exact ih h

private theorem isWhole_primaryDefinition {stop : Char} (hstop : stop ≠ '(')
    (columns : List String) : isWhole stop 0 (primaryDefinition columns) = true := by
  have hinner : isWhole stop 1 (columnsLexemes columns ++ [.symbol ')']) = true := by
    rw [isWhole_plain_append]
    · simp [isWhole, openBehind]
    · intro l hl
      rcases mem_columnsLexemes hl with rfl | ⟨column, rfl⟩ <;> simp
    · exact fun h => absurd h Nat.one_ne_zero
  simpa [primaryDefinition, keyDefinition, isWhole, openBehind, hstop.symm] using hinner

end Layout

/-! ### Comments -/

/-- The arguments by which SQL Server is told the comment of a column. -/
def commentArguments (table column comment : String) : List (String × String) :=
  [("@name", "MS_Description"), ("@value", comment), ("@level0type", "SCHEMA"),
    ("@level0name", (TableName.split table).1.getD "dbo"), ("@level1type", "TABLE"),
    ("@level1name", TableName.bare table), ("@level2type", "COLUMN"), ("@level2name", column)]

/-- The lexemes of an argument that is a text. -/
def argumentLexemes (argument : String × String) : List Lexeme :=
  [.word argument.1, .operator "=", .word "N", .literal argument.2]

/-- The statement that comments on a column of a table, as lexemes. SQLite has none. -/
def commentLexemes : Supported → String → String → String → Option (List Lexeme)
  | .sqlite, _, _, _ => none
  | .postgres, table, column, comment =>
    some (.word "COMMENT" :: .word "ON" :: .word "COLUMN" :: (TableName.lexemes table ++
      [.symbol '.', .identifier column, .word "IS", .literal comment]))
  | .sqlServer, table, column, comment =>
    some (.word "EXEC" :: .word "sp_addextendedproperty" ::
      [.symbol ','].intercalate ((commentArguments table column comment).map argumentLexemes))

private theorem lexemes_comment_postgres (table column comment : String) :
    Text.lexemes .quotes ("COMMENT ON COLUMN " ++ quoteParts (Text.quote '"' '"') table ++ "." ++
        Text.quote '"' '"' column ++ " IS " ++ Text.quote '\x27' '\x27' comment) =
      .word "COMMENT" :: .word "ON" :: .word "COLUMN" :: (TableName.lexemes table ++
        [.symbol '.', .identifier column, .word "IS", .literal comment]) := by
  have hcomment : Reads .quotes false "COMMENT ON COLUMN "
      [.word "COMMENT", .word "ON", .word "COLUMN"] := Reads.of_scan rfl
  have his : Reads .quotes false " IS " [.word "IS"] := Reads.of_scan rfl
  have hread := ((((hcomment.append (Reads.table table) rfl).append Reads.dot rfl).append
    (Reads.identifier column) rfl).append his rfl).append (Reads.literal comment) rfl
  exact hread.lexemes_eq.trans (by simp)

namespace Dialect.SqlServer

/-- The text that addresses a table, or a column of it. -/
def levels (table : String) : Option String → String
  | none => tableProperty table
  | some column => columnProperty table column

/-- The arguments that address a table, or a column of it. -/
def levelArguments (table : String) (column : Option String) : List (String × String) :=
  [("@level0type", "SCHEMA"), ("@level0name", (TableName.split table).1.getD "dbo"),
    ("@level1type", "TABLE"), ("@level1name", TableName.bare table)] ++
  match column with
  | none => []
  | some column => [("@level2type", "COLUMN"), ("@level2name", column)]

/-- Arguments between commas. -/
def argumentsLexemes (arguments : List (String × String)) : List Lexeme :=
  [.symbol ','].intercalate (arguments.map argumentLexemes)

private theorem reads_levels (table : String) (column : Option String) :
    Reads .brackets true (levels table column)
      (argumentsLexemes (levelArguments table column)) := by
  have hschema : Reads .brackets false "@level0type = N\x27SCHEMA\x27, @level0name = "
      (argumentLexemes ("@level0type", "SCHEMA") ++
        [.symbol ',', .word "@level0name", .operator "="]) := Reads.of_scan rfl
  have htable : Reads .brackets false ", @level1type = N\x27TABLE\x27, @level1name = "
      (.symbol ',' :: argumentLexemes ("@level1type", "TABLE") ++
        [.symbol ',', .word "@level1name", .operator "="]) := Reads.of_scan rfl
  have hcolumn : Reads .brackets false ", @level2type = N\x27COLUMN\x27, @level2name = "
      (.symbol ',' :: argumentLexemes ("@level2type", "COLUMN") ++
        [.symbol ',', .word "@level2name", .operator "="]) := Reads.of_scan rfl
  have hlevels := ((hschema.append (Reads.nationalLiteral ((TableName.split table).1.getD "dbo"))
    rfl).append htable rfl).append (Reads.nationalLiteral (TableName.bare table)) rfl
  cases column with
  | none => exact hlevels
  | some column => exact (hlevels.append hcolumn rfl).append (Reads.nationalLiteral column) rfl

private theorem reads_description : Reads .brackets true "@name = N\x27MS_Description\x27"
    (argumentLexemes ("@name", "MS_Description")) := Reads.of_lexemes rfl rfl

/-- The statement that comments on what is addressed. -/
theorem lexemes_addComment (comment table : String) (column : Option String) :
    Text.lexemes .brackets (addComment comment (levels table column)) =
      .word "EXEC" :: .word "sp_addextendedproperty" ::
        argumentsLexemes (("@name", "MS_Description") :: ("@value", comment) ::
          levelArguments table column) := by
  have hexec : Reads .brackets false "EXEC sp_addextendedproperty "
      [.word "EXEC", .word "sp_addextendedproperty"] := Reads.of_scan rfl
  have hvalue : Reads .brackets false ", @value = "
      [.symbol ',', .word "@value", .operator "="] := Reads.of_scan rfl
  have hcomment := (((hexec.append reads_description rfl).append hvalue rfl).append
    (Reads.nationalLiteral comment) rfl).append Reads.comma rfl
  have hread := (hcomment.append (reads_levels table column) rfl).lexemes_eq
  cases column <;> exact hread

/-- The statement that removes the comment on what is addressed. -/
theorem lexemes_dropComment (table : String) (column : Option String) :
    Text.lexemes .brackets (dropComment (levels table column)) =
      .word "EXEC" :: .word "sp_dropextendedproperty" ::
        argumentsLexemes (("@name", "MS_Description") :: levelArguments table column) := by
  have hexec : Reads .brackets false
      "EXEC sp_dropextendedproperty @name = N\x27MS_Description\x27, "
      ([.word "EXEC", .word "sp_dropextendedproperty"] ++
        argumentLexemes ("@name", "MS_Description") ++ [.symbol ',']) := Reads.of_scan rfl
  have hread := (hexec.append (reads_levels table column) rfl).lexemes_eq
  cases column <;> exact hread

end Dialect.SqlServer

/-- The statement that comments on a column is read as the comment, where there is one. -/
theorem lexemes_addColumnComment (k : Supported) (table column comment : String) :
    ((k.dialect.addColumnComment table column comment).toOption.map (Text.lexemes k.delimiters)) =
      commentLexemes k table column comment := by
  cases k with
  | sqlite => rfl
  | postgres => exact congrArg some (lexemes_comment_postgres table column comment)
  | sqlServer =>
    exact congrArg some (Dialect.SqlServer.lexemes_addComment comment table (some column))

namespace Table

variable (k : Supported) (table : Table)

/-- Whether a column is declared as the primary key. -/
def isOnlyKey (column : Column) : Bool := table.keyColumns.length == 1 && column.primaryKey

/-- Lexemes define a column of the table: they start with its name, say whether it takes nulls, give
its default and make it the primary key if it is the only key column; and they are read back as
that, up to where each of it ends. -/
structure Defines (column : Column) (read : List Lexeme) : Prop where
  name : read.head? = some (.identifier column.name)
  notNull : [.word "NOT", .word "NULL"] <:+: read ↔ column.nullable = false
  hasDefault : .word "DEFAULT" ∈ read ↔ column.default.isSome = true
  default : ∀ value ∈ column.default,
    .word "DEFAULT" :: Layout.defaultValueLexemes k value <:+: read
  key : [.word "PRIMARY", .word "KEY"] <:+: read ↔
    table.keyColumns.length = 1 ∧ column.primaryKey = true
  reads : Layout.readColumn read =
    some (Layout.Column.defined k column (table.isOnlyKey column))

/-- The definition of a column of the table. -/
def definitionLexemes (column : Column) : List Lexeme :=
  (Layout.Column.defined k column (table.isOnlyKey column)).lexemes

theorem defines_definitionLexemes {column : Column} (hvalue : column.defaultIsValue = true) :
    table.Defines k column (table.definitionLexemes k column) where
  name := rfl
  notNull := (Layout.Column.legible_defined k _ (column.isValue_of_mem hvalue)).notNull_isInfix_iff
  hasDefault := by
    rw [definitionLexemes,
      (Layout.Column.legible_defined k _ (column.isValue_of_mem hvalue)).default_mem_iff]
    simp [Layout.Column.defined]
  default value hvalue := by
    apply Layout.Column.default_isInfix
    simp [Layout.Column.defined, Option.mem_def.mp hvalue]
  key := by
    rw [definitionLexemes, (Layout.Column.legible_defined k _
      (column.isValue_of_mem hvalue)).key_isInfix_iff (Layout.Column.bare_behindKey k) rfl]
    simp [isOnlyKey]
  reads := (Layout.Column.legible_defined k _ (column.isValue_of_mem hvalue)).readColumn_eq

/-- The constraint that several key columns are. It is named after the last part of the table's
name. -/
def keyLexemes : List Lexeme :=
  .word "CONSTRAINT" ::
    .identifier ("pk_" ++ (TableName.parts table.name).getLast (TableName.parts_ne_nil _)) ::
    Layout.primaryDefinition (table.keyColumns.map (·.name))

/-- What the table is made of. -/
def items : List (List Lexeme) :=
  table.columns.map (table.definitionLexemes k) ++
    if 1 < table.keyColumns.length then [table.keyLexemes] else []

/-- What the table is made of, as texts with their lexemes. -/
private def parts : List (String × List Lexeme) :=
  (table.columns.map fun column =>
    (k.dialect.columnDefinition column (table.isOnlyKey column),
      table.definitionLexemes k column)) ++
    if 1 < table.keyColumns.length then
      [("CONSTRAINT " ++ k.dialect.quoteIdentifier (TableName.primaryKey table.name) ++
          " PRIMARY KEY (" ++ commaList (table.keyColumns.map fun column =>
            k.dialect.quoteIdentifier column.name) ++ ")", table.keyLexemes)]
    else []

private theorem map_snd_parts : (table.parts k).map (·.2) = table.items k := by
  rw [parts, items]
  split <;> simp

variable {table}

theorem isWhole_of_mem_items (hvalues : ∀ column ∈ table.columns, column.defaultIsValue = true)
    {item : List Lexeme} (hitem : item ∈ table.items k) :
    Layout.isWhole ',' 0 item = true ∧ Layout.isWhole ')' 0 item = true := by
  rcases List.mem_append.mp hitem with hitem | hitem
  · obtain ⟨column, hcolumn, rfl⟩ := List.mem_map.mp hitem
    have hvalue := column.isValue_of_mem (hvalues column hcolumn)
    exact (Layout.Column.legible_defined k _ hvalue).isWhole_eq
  · split at hitem
    · rw [List.mem_singleton.mp hitem, keyLexemes]
      constructor <;> simp [Layout.isWhole, Layout.openBehind, Layout.isWhole_primaryDefinition]
    · cases hitem

private theorem reads_key : Reads k.delimiters true
    ("CONSTRAINT " ++ k.dialect.quoteIdentifier (TableName.primaryKey table.name) ++
      " PRIMARY KEY (" ++ commaList (table.keyColumns.map fun column =>
        k.dialect.quoteIdentifier column.name) ++ ")") table.keyLexemes := by
  have hconstraint : Reads k.delimiters false "CONSTRAINT " [.word "CONSTRAINT"] :=
    Reads.of_scan (by cases k <;> rfl)
  have hwords : Reads k.delimiters false " PRIMARY KEY ("
      [.word "PRIMARY", .word "KEY", .symbol '('] := Reads.of_scan (by cases k <;> rfl)
  have hread := Layout.reads_columns (hconstraint.append (Reads.identifier
    (TableName.primaryKey table.name)) rfl) hwords rfl (table.keyColumns.map (·.name))
  rw [List.map_map] at hread
  rw [k.quoteIdentifier_eq, keyLexemes, ← TableName.primaryKey_eq]
  exact hread

private theorem reads_parts (hvalues : ∀ column ∈ table.columns, column.defaultIsValue = true) :
    ∀ part ∈ table.parts k, Reads k.delimiters true part.1 part.2 := by
  intro part hpart
  rcases List.mem_append.mp hpart with hpart | hpart
  · obtain ⟨column, hcolumn, rfl⟩ := List.mem_map.mp hpart
    exact Layout.Column.reads_defined k _ (column.isValue_of_mem (hvalues column hcolumn))
  · split at hpart
    · cases List.mem_singleton.mp hpart
      exact reads_key k
    · cases hpart

/-- The statement that creates the table. -/
def creationText (table : Table) : String :=
  "CREATE TABLE " ++ k.dialect.quoteTable table.name ++ " (\n  " ++
    ",\n  ".intercalate ((table.parts k).map (·.1)) ++ "\n)"

/-- The statements that comment on the columns. -/
def commentTexts (table : Table) : List String :=
  table.columns.filterMap fun column => column.comment.bind fun comment =>
    (k.dialect.addColumnComment table.name column.name comment).toOption

theorem createTable_eq (hne : table.columns ≠ []) :
    k.dialect.createTable table = .ok (creationText k table :: commentTexts k table) := by
  have htexts : (table.parts k).map (·.1) =
      (table.columns.map fun column =>
        k.dialect.columnDefinition column (table.isOnlyKey column)) ++
      if 1 < table.keyColumns.length then
        ["CONSTRAINT " ++ k.dialect.quoteIdentifier (TableName.primaryKey table.name) ++
          " PRIMARY KEY (" ++ commaList (table.keyColumns.map fun column =>
            k.dialect.quoteIdentifier column.name) ++ ")"]
      else [] := by
    rw [parts, List.map_append, List.map_map]
    split <;> rfl
  have hempty : ¬table.columns.isEmpty = true := by simpa using hne
  unfold creationText
  simp only [htexts]
  cases k <;> exact if_neg hempty

/-- The lexemes of the statement that creates a table. -/
theorem lexemes_creationText (hvalues : ∀ column ∈ table.columns, column.defaultIsValue = true) :
    Text.lexemes k.delimiters (creationText k table) =
      .word "CREATE" :: .word "TABLE" :: (TableName.lexemes table.name ++
        .symbol '(' :: ([.symbol ','].intercalate (table.items k) ++ [.symbol ')'])) := by
  have hcreate : Reads k.delimiters false "CREATE TABLE " [.word "CREATE", .word "TABLE"] :=
    Reads.of_scan (by cases k <;> rfl)
  have hopening : Reads k.delimiters false " (\n  " [.symbol '('] :=
    Reads.of_scan (by cases k <;> rfl)
  have hcomma : Reads k.delimiters false ",\n  " [.symbol ','] := Reads.of_scan (by cases k <;> rfl)
  have hclosing : Reads k.delimiters false "\n)" [.symbol ')'] :=
    Reads.of_scan (by cases k <;> rfl)
  have hread := (((hcreate.append (Reads.table table.name) rfl).append hopening rfl).append
    (Reads.intercalate hcomma rfl (table.parts k) fun part hpart => reads_parts k hvalues part hpart)
    rfl).append hclosing rfl
  rw [map_snd_parts, ← k.quoteTable_eq] at hread
  exact hread.lexemes_eq.trans (by simp)

/-- The items of the statement are read as they were put together. -/
theorem itemsOf_items (hne : table.columns ≠ [])
    (hvalues : ∀ column ∈ table.columns, column.defaultIsValue = true) :
    Layout.itemsOf 0 ([.symbol ','].intercalate (table.items k)) = table.items k := by
  apply Layout.itemsOf_intercalate
  · exact List.append_ne_nil_of_left_ne_nil (by simpa using hne) _
  · intro item hitem
    exact (isWhole_of_mem_items k hvalues hitem).1

/-- No item closes the parenthesis in front of them. -/
theorem isWhole_items (hvalues : ∀ column ∈ table.columns, column.defaultIsValue = true) :
    Layout.isWhole ')' 0 ([.symbol ','].intercalate (table.items k)) = true :=
  Layout.isWhole_intercalate (by decide) fun _ hitem => (isWhole_of_mem_items k hvalues hitem).2

theorem lexemes_commentTexts (table : Table) :
    (commentTexts k table).map (Text.lexemes k.delimiters) =
      table.columns.filterMap fun column =>
        column.comment.bind (commentLexemes k table.name column.name) := by
  rw [commentTexts, List.map_filterMap]
  congr
  funext column
  cases column.comment with
  | none => rfl
  | some comment => exact lexemes_addColumnComment k table.name column.name comment

/-- The statements that create a table are faithful to it. The first one is read as its name and one
list in parentheses, in which every column is defined, in order, and of which the last item is the
key if it has several columns. The other ones are the comments of its columns, in order, in a
dialect that has comments. Only a table without columns is refused. -/
theorem createTable_is_faithful (table : Table) :
    (table.columns = [] → k.dialect.createTable table =
      .error (.invalidArgument (.tableWithoutColumns table.name))) ∧
    (table.columns ≠ [] → (∀ column ∈ table.columns, column.defaultIsValue = true) →
      ∃ create comments, k.dialect.createTable table = .ok (create :: comments) ∧
        (∃ body, Text.lexemes k.delimiters create =
            .word "CREATE" :: .word "TABLE" :: (TableName.lexemes table.name ++
              .symbol '(' :: (body ++ [.symbol ')'])) ∧
          Layout.isWhole ')' 0 body = true ∧
          Layout.itemsOf 0 body = table.columns.map (table.definitionLexemes k) ++
            if 1 < table.keyColumns.length then [table.keyLexemes] else []) ∧
        (∀ column ∈ table.columns, table.Defines k column (table.definitionLexemes k column)) ∧
        comments.map (Text.lexemes k.delimiters) = table.columns.filterMap fun column =>
          column.comment.bind (commentLexemes k table.name column.name)) := by
  refine ⟨fun hempty => ?_, fun hne hvalues => ?_⟩
  · have hisEmpty : table.columns.isEmpty = true := by simp [hempty]
    cases k <;> exact if_pos hisEmpty
  · exact ⟨_, _, createTable_eq k hne,
      ⟨_, lexemes_creationText k hvalues, isWhole_items k hvalues, itemsOf_items k hne hvalues⟩,
      fun column hcolumn => table.defines_definitionLexemes k (hvalues column hcolumn),
      lexemes_commentTexts k table⟩

/-- Two key columns on SQL Server, with a comma, a bracket and a parenthesis in the names, keywords in
a default and a quote in a comment. -/
theorem createTable_is_faithful_to_pairs :
    ∃ create comment body,
      Dialect.sqlServer.createTable ⟨"app.pairs", [(Column.integer "a, b]").asPrimaryKey,
        (((Column.ofType "c)" .text).asPrimaryKey).withDefault (.string ", NOT NULL")).withComment
          "it\x27s"]⟩ = .ok [create, comment] ∧
      Text.lexemes .brackets create = [.word "CREATE", .word "TABLE", .identifier "app", .symbol '.',
        .identifier "pairs", .symbol '('] ++ body ++ [.symbol ')'] ∧
      Layout.itemsOf 0 body =
        [[.identifier "a, b]", .word "INT", .word "NOT", .word "NULL"],
          [.identifier "c)", .word "NVARCHAR", .symbol '(', .word "MAX", .symbol ')', .word "NOT",
            .word "NULL", .word "DEFAULT", .literal ", NOT NULL"],
          [.word "CONSTRAINT", .identifier "pk_pairs", .word "PRIMARY", .word "KEY", .symbol '(',
            .identifier "a, b]", .symbol ',', .identifier "c)", .symbol ')']] ∧
      commentLexemes .sqlServer "app.pairs" "c)" "it\x27s" =
        some (Text.lexemes .brackets comment) := by
  obtain ⟨create, comments, hcreates, ⟨body, hlexemes, -, hitems⟩, -, hcomments⟩ :=
    (createTable_is_faithful .sqlServer ⟨"app.pairs", [(Column.integer "a, b]").asPrimaryKey,
      (((Column.ofType "c)" .text).asPrimaryKey).withDefault (.string ", NOT NULL")).withComment
        "it\x27s"]⟩).2 (List.cons_ne_nil _ _) (by decide)
  obtain ⟨comment, rfl, hcomment⟩ := List.map_eq_singleton_iff.mp hcomments
  exact ⟨create, comment, body, hcreates, hlexemes, hitems, congrArg some hcomment.symm⟩

end Table

end SchemaEvolution
