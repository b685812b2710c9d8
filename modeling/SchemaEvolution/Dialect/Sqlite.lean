import SchemaEvolution.Dialect.Basic

/-!
# The SQLite dialect

SQLite declares constraints only when a table is created, cannot change a column and has no
comments. A unique key is a unique index.
-/

namespace SchemaEvolution.Dialect

namespace Sqlite

/-- An identifier between double quotes. -/
def quoteIdentifier : String → String := Text.quote '"' '"'

/-- Placeholders are counted from one. -/
def placeholder (index : Nat) : String := "?" ++ toString (index + 1)

/-- Column types by their affinity. -/
def typeName (column : Column) : String :=
  match column.type with
  | .smallInt | .integer | .bigInt => "INTEGER"
  | .string => "VARCHAR(" ++ toString column.stringSize.toNat ++ ")"
  | .fixedString => "CHAR(" ++ toString column.stringSize.toNat ++ ")"
  | .text | .guid => "TEXT"
  | .boolean => "BOOLEAN"
  | .date => "DATE"
  | .time => "TIME"
  | .dateTime => "DATETIME"
  | .real | .double => "REAL"
  | .decimal =>
    "DECIMAL(" ++ toString column.decimalPrecision.1.toNat ++ ", " ++
      toString column.decimalPrecision.2.toNat ++ ")"
  | .binary => "BLOB"

/-- An index lives in the schema of its table and names the bare table. -/
def indexStatement (create name table : String) (columns : List String) : String :=
  let (schema, bare) := TableName.split table
  let index := match schema with
    | some s => quoteIdentifier s ++ "." ++ quoteIdentifier name
    | none => quoteIdentifier name
  create ++ " " ++ index ++ " ON " ++ quoteIdentifier bare ++ " (" ++
    commaList (columns.map quoteIdentifier) ++ ")"

/-- The list of tables is itself a table, one for each schema. -/
def tableExists (table : String) : String :=
  let (schema, bare) := TableName.split table
  let master := match schema with
    | some s => quoteIdentifier s ++ ".sqlite_master"
    | none => "sqlite_master"
  "SELECT COUNT(*) FROM " ++ master ++ " WHERE type = 'table' AND name = " ++
    Text.quote '\x27' '\x27' bare

/-- An offset stands only after a limit; minus one is no limit. -/
def paginate (sql : String) (skip take : Option UInt64) : String :=
  match skip, take with
  | none, none => sql
  | none, some limit => sql ++ " LIMIT " ++ toString limit.toNat
  | some offset, none => sql ++ " LIMIT -1 OFFSET " ++ toString offset.toNat
  | some offset, some limit =>
    sql ++ " LIMIT " ++ toString limit.toNat ++ " OFFSET " ++ toString offset.toNat

/-- A change that the dialect has no statement for. -/
def refuse {α : Type} (request : Request) : Except Error α := .error (.unsupported "sqlite" request)

end Sqlite

/-- The dialect of SQLite. -/
def sqlite : Dialect where
  name := "sqlite"
  placeholder := Sqlite.placeholder
  typeName := Sqlite.typeName
  tableExists := Sqlite.tableExists
  inlinePrimaryKey column :=
    if column.autoIncrement then " PRIMARY KEY AUTOINCREMENT" else " PRIMARY KEY"
  addPrimaryKey table _ _ := Sqlite.refuse (.addPrimaryKey table)
  dropPrimaryKey table _ := Sqlite.refuse (.dropPrimaryKey table)
  addForeignKey key := Sqlite.refuse (.addForeignKey key.name key.table)
  dropForeignKey name table := Sqlite.refuse (.dropForeignKey name table)
  addUniqueKey name table columns :=
    .ok (Sqlite.indexStatement "CREATE UNIQUE INDEX" name table columns)
  dropUniqueKey name table := .ok (dropIndexStatement Sqlite.quoteIdentifier name table)
  dropConstraint table name := Sqlite.refuse (.dropConstraint name table)
  createIndex := Sqlite.indexStatement "CREATE INDEX"
  addTableComment table _ := Sqlite.refuse (.commentTable table)
  addColumnComment table column _ := Sqlite.refuse (.commentColumn table column)
  removeTableComment table := Sqlite.refuse (.uncommentTable table)
  removeColumnComment table column := Sqlite.refuse (.uncommentColumn table column)
  insertReturning table columns column _ :=
    .ok (insertStatement Sqlite.quoteIdentifier (quoteParts Sqlite.quoteIdentifier)
      Sqlite.placeholder "" table columns ++
      " RETURNING " ++ Sqlite.quoteIdentifier column)
  paginate sql _ := Sqlite.paginate sql

end SchemaEvolution.Dialect
