import SchemaEvolution.Proofs.Operation.Statements
import SchemaEvolution.Proofs.Postgres.Changes

/-!
# What statements create

The tables, columns and indexes that statements create in a SQLite database. An operation that
creates one of them is written as one statement, and this is read as what the operation creates
(`Operation.statements_of_creation`).
-/

namespace SchemaEvolution

open Text (Lexeme Reads)

/-! ### Reading statements -/

/-- What a statement creates. Tables are named by the parts of their names, and an index stands in
the schema of its table. -/
inductive Creation where
  | table (name columns : List String)
  | column (table : List String) (name : String)
  | index (schema : Option String) (name table : String)
  deriving DecidableEq, Repr

namespace Creation

/-- The column that an item of a table defines, unless it is a constraint. -/
def columnOf : List Lexeme → Option String
  | .identifier name :: _ => some name
  | _ => none

/-- The table that is created, from its name on. -/
def readTable (rest : List Lexeme) : Option Creation :=
  match Layout.readName rest with
  | (name, .symbol '(' :: body) =>
    some (.table name ((Layout.itemsOf 0 body.dropLast).filterMap columnOf))
  | _ => none

/-- The column that is added, from the name of its table on. -/
def readColumn (rest : List Lexeme) : Option Creation :=
  match Layout.readName rest with
  | (tableName, .word "ADD" :: .word "COLUMN" :: .identifier name :: _) =>
    some (.column tableName name)
  | _ => none

/-- The index that is created, from its name on. -/
def readIndex (rest : List Lexeme) : Option Creation :=
  match Layout.readName rest with
  | ([name], .word "ON" :: .identifier tableName :: _) => some (.index none name tableName)
  | ([schema, name], .word "ON" :: .identifier tableName :: _) =>
    some (.index (some schema) name tableName)
  | _ => none

/-- What the lexemes of a statement create. -/
def ofLexemes : List Lexeme → Option Creation
  | .word "CREATE" :: .word "TABLE" :: rest => readTable rest
  | .word "ALTER" :: .word "TABLE" :: rest => readColumn rest
  | .word "CREATE" :: .word "INDEX" :: rest => readIndex rest
  | .word "CREATE" :: .word "UNIQUE" :: .word "INDEX" :: rest => readIndex rest
  | _ => none

/-- What a statement creates. -/
def read (sql : String) : Option Creation := ofLexemes (Text.lexemes .quotes sql)

/-! ### The statements of the dialect -/

/-- The items of the statement that creates a table define its columns. -/
private theorem filterMap_columnOf_items (table : Table) :
    (table.items .sqlite).filterMap columnOf = table.columns.map (·.name) := by
  have hdefinitions : (table.columns.map (table.definitionLexemes .sqlite)).filterMap columnOf =
      table.columns.map (·.name) := by
    rw [List.filterMap_map, ← List.filterMap_eq_map]
    rfl
  rw [Table.items, List.filterMap_append, hdefinitions]
  split <;> exact List.append_nil _

/-- A table that can be written is one statement, since there are no comments. -/
theorem createTable_eq_ok {table : Table} {sqls : List String}
    (h : Dialect.sqlite.createTable table = .ok sqls) :
    table.columns ≠ [] ∧ sqls = [Table.creationText .sqlite table] := by
  by_cases hne : table.columns = []
  · have hempty : Dialect.sqlite.createTable table =
        .error (.invalidArgument (.tableWithoutColumns table.name)) := if_pos (by simp [hne])
    cases h.symm.trans hempty
  · have hcomments : Table.commentTexts .sqlite table = [] := by
      apply List.filterMap_eq_nil_iff.mpr
      intro column _
      cases column.comment <;> rfl
    have hwritten := Table.createTable_eq .sqlite hne
    rw [hcomments] at hwritten
    exact ⟨hne, Except.ok.inj (h.symm.trans hwritten)⟩

/-- The statement that creates a table. -/
theorem read_creationText {table : Table} (hne : table.columns ≠ [])
    (hvalues : ∀ column ∈ table.columns, column.defaultIsValue = true) :
    read (Table.creationText .sqlite table) =
      some (.table (TableName.parts table.name) (table.columns.map (·.name))) := by
  have hlexemes : Text.lexemes .quotes (Table.creationText .sqlite table) = _ :=
    Table.lexemes_creationText .sqlite hvalues
  have hname := @Layout.readName_lexemes table.name
    (.symbol '(' :: ([.symbol ','].intercalate (table.items .sqlite) ++ [.symbol ')'])) nofun
  rw [read, hlexemes, ofLexemes, readTable, hname]
  simp only [List.dropLast_concat, Table.itemsOf_items .sqlite hne hvalues,
    filterMap_columnOf_items]

/-- The statement that adds a column. -/
theorem read_addColumn (table : String) {column : Column} (hvalue : column.defaultIsValue = true) :
    read (Dialect.sqlite.addColumn table column) =
      some (.column (TableName.parts table) column.name) := by
  have hwords : Reads .quotes false "ALTER TABLE " [.word "ALTER", .word "TABLE"] :=
    Reads.of_scan rfl
  have hadd : Reads .quotes false " ADD COLUMN " [.word "ADD", .word "COLUMN"] := Reads.of_scan rfl
  have hread := ((hwords.append (Reads.table table) rfl).append hadd rfl).append
    (Layout.Column.reads_defined .sqlite false (column.isValue_of_mem hvalue)) rfl
  rw [List.append_assoc, List.append_assoc] at hread
  have hlexemes : Text.lexemes .quotes (Dialect.sqlite.addColumn table column) = _ :=
    hread.lexemes_eq
  have hname := @Layout.readName_lexemes table ([.word "ADD", .word "COLUMN"] ++
    (Layout.Column.defined .sqlite column false).lexemes) nofun
  rw [read, hlexemes, List.cons_append, List.cons_append, List.nil_append, ofLexemes, readColumn,
    hname]
  rfl

/-- The name of an index, in the schema of its table. -/
private theorem reads_indexName (schema : Option String) (name : String) : Reads .quotes true
    (match schema with
      | some s => Dialect.Sqlite.quoteIdentifier s ++ "." ++ Dialect.Sqlite.quoteIdentifier name
      | none => Dialect.Sqlite.quoteIdentifier name)
    (Layout.dotted (schema.toList ++ [name])) := by
  cases schema with
  | some s => exact ((Reads.identifier s).append Reads.dot rfl).append (Reads.identifier name) rfl
  | none => exact Reads.identifier name

private theorem readIndex_dotted (schema : Option String) (name tableName : String)
    (rest : List Lexeme) :
    readIndex (Layout.dotted (schema.toList ++ [name]) ++
      .word "ON" :: .identifier tableName :: rest) = some (.index schema name tableName) := by
  have hname := @Layout.readName_dotted (schema.toList ++ [name]) (by simp)
    (.word "ON" :: .identifier tableName :: rest) nofun
  rw [readIndex, hname]
  cases schema <;> rfl

/-- The lexemes of a statement that creates an index. -/
theorem lexemes_indexStatement {create : String} {createRead : List Lexeme}
    (hcreate : Reads .quotes true create createRead) (name tableName : String)
    (columns : List String) :
    Text.lexemes .quotes (Dialect.Sqlite.indexStatement create name tableName columns) =
      createRead ++ (Layout.dotted ((TableName.split tableName).1.toList ++ [name]) ++
        .word "ON" :: .identifier (TableName.bare tableName) ::
          Layout.keyDefinition [.symbol '('] columns) := by
  have hblank : Reads .quotes false " " [] := Reads.of_scan rfl
  have hon : Reads .quotes false " ON " [.word "ON"] := Reads.of_scan rfl
  have hopening : Reads .quotes false " (" [.symbol '('] := Reads.of_scan rfl
  have hnamed := ((((hcreate.append hblank rfl).append
    (reads_indexName (TableName.split tableName).1 name) rfl).append hon rfl).append
      (Reads.identifier (TableName.bare tableName)) rfl)
  have hread := (Layout.reads_columns hnamed hopening rfl columns).lexemes_eq
  simp only [List.append_nil, List.append_assoc, List.singleton_append] at hread
  exact hread

/-- The statement that creates an index. -/
theorem read_indexStatement {create : String} {createRead : List Lexeme}
    (hcreate : Reads .quotes true create createRead)
    (hindex : ∀ rest, ofLexemes (createRead ++ rest) = readIndex rest) (name tableName : String)
    (columns : List String) :
    read (Dialect.Sqlite.indexStatement create name tableName columns) =
      some (.index (TableName.split tableName).1 name (TableName.bare tableName)) := by
  rw [read, lexemes_indexStatement hcreate, hindex]
  exact readIndex_dotted _ name _ _

end Creation

/-! ### Operations that create -/

namespace Operation

/-- What an operation creates in a SQLite database: a table, a column or an index. -/
def creation? (c : Client) : Operation → Option Creation
  | .createTable table =>
    some (.table (TableName.parts (c.tableName table.name)) (table.columns.map (·.name)))
  | .addColumn table column => some (.column (TableName.parts (c.tableName table)) column.name)
  | .addIndex table name _ | .addUniqueKey table name _ =>
    some (.index (TableName.split (c.tableName table)).1 name (TableName.bare (c.tableName table)))
  | _ => none

variable {c : Client} {op : Operation} {x : Creation}

/-- An operation that creates something is one statement, which is read as what it creates. -/
theorem statements_of_creation (hdialect : c.dialect = Dialect.sqlite) (hop : op.isLegible = true)
    (hx : op.creation? c = some x) {statements : List Statement}
    (hstatements : op.statements c = .ok statements) :
    ∃ sql, statements = bare [sql] ∧ Creation.read sql = some x := by
  cases op with
  | createTable table =>
    cases hx
    rw [Operation.statements, hdialect] at hstatements
    cases hsqls : Dialect.sqlite.createTable ⟨c.tableName table.name, table.columns⟩ with
    | error e =>
      rw [hsqls] at hstatements
      cases hstatements
    | ok sqls =>
      obtain ⟨hne, rfl⟩ := Creation.createTable_eq_ok hsqls
      rw [hsqls] at hstatements
      cases hstatements
      exact ⟨_, rfl, Creation.read_creationText hne (List.all_eq_true.mp hop)⟩
  | addColumn table column =>
    cases hx
    rw [Operation.statements, hdialect] at hstatements
    cases hstatements
    exact ⟨_, rfl, Creation.read_addColumn _ hop⟩
  | addIndex table name columns =>
    cases hx
    rw [Operation.statements, hdialect] at hstatements
    cases hstatements
    exact ⟨_, rfl, Creation.read_indexStatement (Reads.of_lexemes rfl rfl) (fun _ => rfl) name _ _⟩
  | addUniqueKey table name columns =>
    cases hx
    rw [Operation.statements, hdialect] at hstatements
    cases hstatements
    exact ⟨_, rfl, Creation.read_indexStatement (Reads.of_lexemes rfl rfl) (fun _ => rfl) name _ _⟩
  | _ => cases hx

end Operation

end SchemaEvolution
