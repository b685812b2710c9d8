import SchemaEvolution.Filter.Condition
import SchemaEvolution.Select
import SchemaEvolution.Table
import SchemaEvolution.TableName

/-!
# Dialects

A dialect says how one kind of database writes each statement. It is a record of functions: the
first four have no default, and each default is written in terms of the fields before it, so a
dialect that changes one of them changes all that build on it. Changes that a database cannot make
in one statement give several, in the order in which they are carried out, and changes that it has
no statement for are refused.
-/

namespace SchemaEvolution

/-- Texts between commas. -/
def commaList (items : List String) : String := ", ".intercalate items

/-- A dotted name with each part between quotes. -/
def quoteParts (quote : String → String) (name : String) : String :=
  ".".intercalate ((TableName.parts name).map quote)

/-- A column reference with each part between quotes, stars apart. A star, and anything with a
parenthesis or a space, is an expression and stands as it is. -/
def quoteReference (quote : String → String) (column : String) : String :=
  if column == "*" || column.toList.any fun c => c = '(' || c = ' ' then column
  else
    ".".intercalate ((TableName.parts column).map fun part =>
      if part == "*" then part else quote part)

/-- The definition of a column from its parts, as the primary key or not. -/
def defineColumn (quoteIdentifier : String → String) (columnType inlinePrimaryKey : Column → String)
    (renderDefault : DefaultValue → String) (column : Column) (asKey : Bool) : String :=
  quoteIdentifier column.name ++ " " ++ columnType column ++
    (if column.nullable then "" else " NOT NULL") ++
    (match column.default with
      | some value => " DEFAULT " ++ renderDefault value
      | none => "") ++
    (if asKey then inlinePrimaryKey column else "") ++
    (if column.unique && !column.primaryKey then " UNIQUE" else "")

/-- An insert of one row around `middle`, which stands before the values. A row without columns has
its defaults. -/
def insertStatement (quoteIdentifier quoteTable : String → String) (placeholder : Nat → String)
    (middle table : String) (columns : List String) : String :=
  if columns.isEmpty then "INSERT INTO " ++ quoteTable table ++ middle ++ " DEFAULT VALUES"
  else
    "INSERT INTO " ++ quoteTable table ++ " (" ++ commaList (columns.map quoteIdentifier) ++ ")" ++
      middle ++ " VALUES (" ++ commaList ((List.range columns.length).map placeholder) ++ ")"

/-- Drops an index that lives in the schema of its table. -/
def dropIndexStatement (quoteIdentifier : String → String) (name table : String) : String :=
  match (TableName.split table).1 with
  | some schema => "DROP INDEX " ++ quoteIdentifier schema ++ "." ++ quoteIdentifier name
  | none => "DROP INDEX " ++ quoteIdentifier name

/-- How one kind of database writes statements. -/
structure Dialect where
  /-- The name of the dialect. -/
  name : String
  /-- The placeholder of a parameter, by its position from zero. -/
  placeholder : Nat → String
  /-- The type of a column. -/
  typeName : Column → String
  /-- A query that counts the tables of a given name. -/
  tableExists : String → String
  /-- An identifier between quotes. -/
  quoteIdentifier : String → String := Text.quote '"' '"'
  /-- A table name. -/
  quoteTable : String → String := quoteParts quoteIdentifier
  /-- A column reference. -/
  quoteColumn : String → String := quoteReference quoteIdentifier
  /-- A string literal. -/
  quoteLiteral : String → String := Text.quote '\x27' '\x27'
  /-- The name of a parameter, by its position from zero. -/
  parameterName : Nat → String := fun index => "par" ++ toString index
  /-- Input parameters for values, numbered from a position. -/
  nameParameters : Nat → List Value → List InParameter := InParameter.number parameterName
  /-- The type of a column with what numbers it. -/
  columnType : Column → String := typeName
  /-- What makes a column the primary key. -/
  inlinePrimaryKey : Column → String := fun _ => " PRIMARY KEY"
  /-- A default. -/
  renderDefault : DefaultValue → String := DefaultValue.literal
  /-- The keywords of a delete action. -/
  deleteAction : DeleteAction → String := DeleteAction.keywords
  /-- The definition of a column, as the primary key or not. -/
  columnDefinition : Column → Bool → String :=
    defineColumn quoteIdentifier columnType inlinePrimaryKey renderDefault
  /-- Sets the comment of a table. -/
  addTableComment : String → String → Except Error String := fun table comment =>
    .ok ("COMMENT ON TABLE " ++ quoteTable table ++ " IS " ++ quoteLiteral comment)
  /-- Sets the comment of a column. -/
  addColumnComment : String → String → String → Except Error String := fun table column comment =>
    .ok ("COMMENT ON COLUMN " ++ quoteTable table ++ "." ++ quoteIdentifier column ++ " IS " ++
      quoteLiteral comment)
  /-- Removes the comment of a table. -/
  removeTableComment : String → Except Error String := fun table =>
    .ok ("COMMENT ON TABLE " ++ quoteTable table ++ " IS NULL")
  /-- Removes the comment of a column. -/
  removeColumnComment : String → String → Except Error String := fun table column =>
    .ok ("COMMENT ON COLUMN " ++ quoteTable table ++ "." ++ quoteIdentifier column ++ " IS NULL")
  /-- Creates a table. A single key column is declared with the column, several are a constraint.
  Comments follow, as far as the dialect has them. -/
  createTable : Table → Except Error (List String) := fun table =>
    if table.columns.isEmpty then .error (.invalidArgument (.tableWithoutColumns table.name))
    else
      let key := table.keyColumns
      let definitions := table.columns.map fun column =>
        columnDefinition column (key.length == 1 && column.primaryKey)
      let constraint :=
        if 1 < key.length then
          ["CONSTRAINT " ++ quoteIdentifier (TableName.primaryKey table.name) ++ " PRIMARY KEY (" ++
            commaList (key.map fun column => quoteIdentifier column.name) ++ ")"]
        else []
      let create := "CREATE TABLE " ++ quoteTable table.name ++ " (\n  " ++
        ",\n  ".intercalate (definitions ++ constraint) ++ "\n)"
      let comments := table.columns.filterMap fun column =>
        column.comment.bind fun comment =>
          (addColumnComment table.name column.name comment).toOption
      .ok (create :: comments)
  /-- Drops a table. -/
  dropTable : String → List String := fun table => ["DROP TABLE " ++ quoteTable table]
  /-- Drops a constraint of a table. -/
  dropConstraint : String → String → Except Error String := fun table name =>
    .ok ("ALTER TABLE " ++ quoteTable table ++ " DROP CONSTRAINT " ++ quoteIdentifier name)
  /-- Adds a primary key: table, name, columns. -/
  addPrimaryKey : String → String → List String → Except Error String := fun table name columns =>
    .ok ("ALTER TABLE " ++ quoteTable table ++ " ADD CONSTRAINT " ++ quoteIdentifier name ++
      " PRIMARY KEY (" ++ commaList (columns.map quoteIdentifier) ++ ")")
  /-- Drops a primary key: table, name. -/
  dropPrimaryKey : String → String → Except Error String := dropConstraint
  /-- Adds a foreign key. -/
  addForeignKey : ForeignKey → Except Error String := fun key =>
    .ok ("ALTER TABLE " ++ quoteTable key.table ++ " ADD CONSTRAINT " ++ quoteIdentifier key.name ++
      " FOREIGN KEY (" ++ quoteIdentifier key.column ++ ") REFERENCES " ++
      quoteTable key.referencedTable ++ " (" ++ quoteIdentifier key.referencedColumn ++
      ") ON DELETE " ++ deleteAction key.onDelete)
  /-- Drops a foreign key: name, table. -/
  dropForeignKey : String → String → Except Error String := fun name table =>
    dropConstraint table name
  /-- Adds a unique key: name, table, columns. -/
  addUniqueKey : String → String → List String → Except Error String := fun name table columns =>
    .ok ("ALTER TABLE " ++ quoteTable table ++ " ADD CONSTRAINT " ++ quoteIdentifier name ++
      " UNIQUE (" ++ commaList (columns.map quoteIdentifier) ++ ")")
  /-- Drops a unique key: name, table. -/
  dropUniqueKey : String → String → Except Error String := fun name table =>
    dropConstraint table name
  /-- Creates an index: name, table, columns. -/
  createIndex : String → String → List String → String := fun name table columns =>
    "CREATE INDEX " ++ quoteIdentifier name ++ " ON " ++ quoteTable table ++ " (" ++
      commaList (columns.map quoteIdentifier) ++ ")"
  /-- Drops an index, which lives in the schema of its table: name, table. -/
  dropIndex : String → String → String := dropIndexStatement quoteIdentifier
  /-- Adds a column. -/
  addColumn : String → Column → String := fun table column =>
    "ALTER TABLE " ++ quoteTable table ++ " ADD COLUMN " ++ columnDefinition column false
  /-- Drops a column, and first what depends on it. -/
  dropColumn : String → String → List String := fun table column =>
    ["ALTER TABLE " ++ quoteTable table ++ " DROP COLUMN " ++ quoteIdentifier column]
  /-- Renames a table within its schema. -/
  renameTable : String → String → String := fun table newName =>
    "ALTER TABLE " ++ quoteTable table ++ " RENAME TO " ++ quoteIdentifier (TableName.bare newName)
  /-- Renames a column: table, old name, new name. -/
  renameColumn : String → String → String → String := fun table column newName =>
    "ALTER TABLE " ++ quoteTable table ++ " RENAME COLUMN " ++ quoteIdentifier column ++ " TO " ++
      quoteIdentifier newName
  /-- Gives a column another definition. -/
  modifyColumn : String → String → Column → Except Error (List String) := fun table column _ =>
    .error (.unsupported name (.modifyColumn table column))
  /-- Inserts one row, with one placeholder a column. -/
  insert : String → List String → String :=
    insertStatement quoteIdentifier quoteTable placeholder ""
  /-- Inserts one row and hands a column of it back: table, columns, returned column, slot. -/
  insertReturning : String → List String → String → OutParameter → Except Error String :=
    fun table _ column _ => .error (.unsupported name (.returning column table))
  /-- Updates rows, with one placeholder a column. -/
  update : String → List String → String := fun table columns =>
    "UPDATE " ++ quoteTable table ++ " SET " ++
      commaList (columns.mapIdx fun i column => quoteIdentifier column ++ " = " ++ placeholder i)
  /-- Deletes all rows. -/
  delete : String → String := fun table => "DELETE FROM " ++ quoteTable table
  /-- Counts all rows. -/
  count : String → String := fun table => "SELECT COUNT(*) FROM " ++ quoteTable table
  /-- Whether there is a row, among those that meet a condition if one is given. -/
  hasRow : String → Option String → String := fun table condition =>
    "SELECT CASE WHEN EXISTS (SELECT 1 FROM " ++ quoteTable table ++
      (match condition with
        | some sql => " " ++ sql
        | none => "") ++ ") THEN 1 ELSE 0 END"
  /-- The condition of a filter, with placeholders from a position on. -/
  whereClause : Filter → Nat → Except Error WhereClause := fun filter offset =>
    filter.compile quoteColumn placeholder parameterName offset
  /-- Appends paging to a select that is sorted or not. -/
  paginate : String → Bool → Option UInt64 → Option UInt64 → String := fun sql _ skip take =>
    sql ++
      (match take with
        | some n => " LIMIT " ++ toString n.toNat
        | none => "") ++
      (match skip with
        | some n => " OFFSET " ++ toString n.toNat
        | none => "")
  /-- A select around a condition. -/
  select : Select → Option String → String := fun query condition =>
    paginate
      ("SELECT " ++
        (if query.columns.isEmpty then "*" else commaList (query.columns.map quoteColumn)) ++
        " FROM " ++ commaList (query.tables.map quoteTable) ++
        (match condition with
          | some sql => " " ++ sql
          | none => "") ++
        (if query.sortedBy.isEmpty then ""
          else " ORDER BY " ++ commaList (query.sortedBy.map fun o =>
            quoteColumn o.column ++ " " ++ o.direction.keyword)))
      (!query.sortedBy.isEmpty) query.skip query.take

/-- A select as text, with its parameters. -/
structure BuiltSelect where
  sql : String
  parameters : List InParameter
  hasFilter : Bool
  deriving DecidableEq, Repr

/-- Writes a select in a dialect. -/
def Select.build (query : Select) (dialect : Dialect) : Except Error BuiltSelect := do
  if query.tables.isEmpty then .error (.invalidArgument .selectWithoutTable)
  else
    match query.filter with
    | some filter =>
      let clause ← dialect.whereClause filter 0
      .ok ⟨dialect.select query (some clause.sql), clause.parameters, true⟩
    | none => .ok ⟨dialect.select query none, [], false⟩

end SchemaEvolution
