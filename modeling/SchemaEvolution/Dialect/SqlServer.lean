import SchemaEvolution.Dialect.Basic

/-!
# The SQL Server dialect

Identifiers stand in brackets and literals carry an `N`. Tables and columns are renamed by a stored
procedure, comments are extended properties, and the default of a column is a constraint with a
name of its own, which is dropped before the column is dropped or changed.
-/

namespace SchemaEvolution.Dialect

namespace SqlServer

/-- An identifier in brackets. -/
def quoteIdentifier : String → String := Text.quote '[' ']'

/-- A string literal of national characters. -/
def quoteLiteral (text : String) : String := "N" ++ Text.quote '\x27' '\x27' text

/-- A table name with each part in brackets. -/
def quoteTable : String → String := quoteParts quoteIdentifier

/-- Parameters are bound by name. -/
def placeholder (index : Nat) : String := "@par" ++ toString index

/-- Column types. -/
def typeName (column : Column) : String :=
  match column.type with
  | .smallInt => "SMALLINT"
  | .integer => "INT"
  | .bigInt => "BIGINT"
  | .string => "NVARCHAR(" ++ toString column.stringSize.toNat ++ ")"
  | .fixedString => "NCHAR(" ++ toString column.stringSize.toNat ++ ")"
  | .text => "NVARCHAR(MAX)"
  | .boolean => "BIT"
  | .date => "DATE"
  | .time => "TIME"
  | .dateTime => "DATETIME2"
  | .real => "REAL"
  | .double => "FLOAT"
  | .decimal =>
    "DECIMAL(" ++ toString column.decimalPrecision.1.toNat ++ ", " ++
      toString column.decimalPrecision.2.toNat ++ ")"
  | .binary =>
    match column.size with
    | some n => "VARBINARY(" ++ toString n.toNat ++ ")"
    | none => "VARBINARY(MAX)"
  | .guid => "UNIQUEIDENTIFIER"

/-- A column that numbers itself is an identity column. -/
def columnType (column : Column) : String :=
  if column.autoIncrement then typeName column ++ " IDENTITY(1,1)" else typeName column

/-- The definition of a column that is added, which is never the primary key. -/
def columnDefinition (column : Column) : String :=
  defineColumn quoteIdentifier columnType (fun _ => "") DefaultValue.literal column false

/-- There is no restricting action: taking no action is checked at once anyway. -/
def deleteAction : DeleteAction → String
  | .restrict => DeleteAction.noAction.keywords
  | action => action.keywords

/-- Drops the default constraint of a column, if it has one. Its name is looked up, so the statement
that drops it is put together by the server. -/
def dropDefault (table column : String) : String :=
  "DECLARE @sql NVARCHAR(MAX); SELECT @sql = " ++
    quoteLiteral ("ALTER TABLE " ++ quoteTable table ++ " DROP CONSTRAINT ") ++
    " + QUOTENAME(dc.name) FROM sys.default_constraints dc " ++
    "JOIN sys.columns c ON c.object_id = dc.parent_object_id " ++
    "AND c.column_id = dc.parent_column_id WHERE dc.parent_object_id = OBJECT_ID(" ++
    quoteLiteral (quoteTable table) ++ ") AND c.name = " ++ quoteLiteral column ++
    "; IF @sql IS NOT NULL EXEC sp_executesql @sql"

/-- The arguments that address a table; a bare name is in the schema `dbo`. -/
def tableProperty (table : String) : String :=
  let (schema, bare) := TableName.split table
  "@level0type = N'SCHEMA', @level0name = " ++ quoteLiteral (schema.getD "dbo") ++
    ", @level1type = N'TABLE', @level1name = " ++ quoteLiteral bare

/-- The arguments that address a column. -/
def columnProperty (table column : String) : String :=
  tableProperty table ++ ", @level2type = N'COLUMN', @level2name = " ++ quoteLiteral column

/-- Sets the comment of what `target` addresses. -/
def addComment (comment target : String) : String :=
  "EXEC sp_addextendedproperty @name = N'MS_Description', @value = " ++ quoteLiteral comment ++
    ", " ++ target

/-- Removes the comment of what `target` addresses. -/
def dropComment (target : String) : String :=
  "EXEC sp_dropextendedproperty @name = N'MS_Description', " ++ target

/-- Drops the default, changes type and nullability, and sets the new default. -/
def modifyColumn (table column : String) (definition : Column) : List String :=
  [dropDefault table column,
    "ALTER TABLE " ++ quoteTable table ++ " ALTER COLUMN " ++ quoteIdentifier column ++ " " ++
      typeName definition ++ (if definition.nullable then " NULL" else " NOT NULL")] ++
  (match definition.default with
    | some value =>
      ["ALTER TABLE " ++ quoteTable table ++ " ADD DEFAULT " ++ value.literal ++ " FOR " ++
        quoteIdentifier column]
    | none => [])

/-- Tables are listed with their schema; a bare name is looked for in the user's own. -/
def tableExists (table : String) : String :=
  let (schema, bare) := TableName.split table
  let schema := match schema with
    | some s => quoteLiteral s
    | none => "SCHEMA_NAME()"
  "SELECT COUNT(*) FROM INFORMATION_SCHEMA.TABLES WHERE TABLE_SCHEMA = " ++ schema ++
    " AND TABLE_NAME = " ++ quoteLiteral bare

/-- Paging belongs to sorting, so an unsorted select is sorted by nothing in particular. -/
def paginate (sql : String) (ordered : Bool) (skip take : Option UInt64) : String :=
  if skip.isNone && take.isNone then sql
  else
    sql ++ (if ordered then "" else " ORDER BY (SELECT NULL)") ++
      " OFFSET " ++ toString (skip.getD 0).toNat ++ " ROWS" ++
      match take with
      | some n => " FETCH NEXT " ++ toString n.toNat ++ " ROWS ONLY"
      | none => ""

end SqlServer

/-- The dialect of SQL Server. -/
def sqlServer : Dialect where
  name := "sqlserver"
  quoteIdentifier := SqlServer.quoteIdentifier
  quoteLiteral := SqlServer.quoteLiteral
  placeholder := SqlServer.placeholder
  typeName := SqlServer.typeName
  tableExists := SqlServer.tableExists
  columnType := SqlServer.columnType
  deleteAction := SqlServer.deleteAction
  dropIndex name table :=
    "DROP INDEX " ++ SqlServer.quoteIdentifier name ++ " ON " ++ SqlServer.quoteTable table
  addColumn table column :=
    "ALTER TABLE " ++ SqlServer.quoteTable table ++ " ADD " ++ SqlServer.columnDefinition column
  dropColumn table column :=
    [SqlServer.dropDefault table column,
      "ALTER TABLE " ++ SqlServer.quoteTable table ++ " DROP COLUMN " ++
        SqlServer.quoteIdentifier column]
  addTableComment table comment :=
    .ok (SqlServer.addComment comment (SqlServer.tableProperty table))
  addColumnComment table column comment :=
    .ok (SqlServer.addComment comment (SqlServer.columnProperty table column))
  removeTableComment table := .ok (SqlServer.dropComment (SqlServer.tableProperty table))
  removeColumnComment table column :=
    .ok (SqlServer.dropComment (SqlServer.columnProperty table column))
  renameTable table newName :=
    "EXEC sp_rename " ++ SqlServer.quoteLiteral table ++ ", " ++
      SqlServer.quoteLiteral (TableName.bare newName)
  renameColumn table column newName :=
    "EXEC sp_rename " ++ SqlServer.quoteLiteral (table ++ "." ++ column) ++ ", " ++
      SqlServer.quoteLiteral newName ++ ", N'COLUMN'"
  modifyColumn table column definition := .ok (SqlServer.modifyColumn table column definition)
  insertReturning table columns column _ :=
    .ok (insertStatement SqlServer.quoteIdentifier SqlServer.quoteTable SqlServer.placeholder
      (" OUTPUT INSERTED." ++ SqlServer.quoteIdentifier column) table columns)
  paginate := SqlServer.paginate

end SchemaEvolution.Dialect
