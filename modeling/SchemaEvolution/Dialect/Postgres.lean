import SchemaEvolution.Dialect.Basic

/-!
# The PostgreSQL dialect

Columns that number themselves have serial types, truth values are written in words, and one
statement changes type, nullability and default of a column.
-/

namespace SchemaEvolution.Dialect

namespace Postgres

/-- An identifier between double quotes. -/
def quoteIdentifier : String → String := Text.quote '"' '"'

/-- A string literal. -/
def quoteLiteral : String → String := Text.quote '\x27' '\x27'

/-- Placeholders are counted from one. -/
def placeholder (index : Nat) : String := "$" ++ toString (index + 1)

/-- Column types. -/
def typeName (column : Column) : String :=
  match column.type with
  | .smallInt => "SMALLINT"
  | .integer => "INTEGER"
  | .bigInt => "BIGINT"
  | .string => "VARCHAR(" ++ toString column.stringSize.toNat ++ ")"
  | .fixedString => "CHAR(" ++ toString column.stringSize.toNat ++ ")"
  | .text => "TEXT"
  | .boolean => "BOOLEAN"
  | .date => "DATE"
  | .time => "TIME"
  | .dateTime => "TIMESTAMP"
  | .real => "REAL"
  | .double => "DOUBLE PRECISION"
  | .decimal =>
    "NUMERIC(" ++ toString column.decimalPrecision.1.toNat ++ ", " ++
      toString column.decimalPrecision.2.toNat ++ ")"
  | .binary => "BYTEA"
  | .guid => "UUID"

/-- A column that numbers itself has the serial type of its width. -/
def columnType (column : Column) : String :=
  if column.autoIncrement then
    match column.type with
    | .bigInt => "BIGSERIAL"
    | .smallInt => "SMALLSERIAL"
    | _ => "SERIAL"
  else typeName column

/-- Truth values are written in words. -/
def renderDefault : DefaultValue → String
  | .bool b => if b then "TRUE" else "FALSE"
  | value => value.literal

/-- Changes type, nullability and default in one statement. -/
def modifyColumn (table column : String) (definition : Column) : String :=
  let alter := "ALTER COLUMN " ++ quoteIdentifier column
  "ALTER TABLE " ++ quoteParts quoteIdentifier table ++ " " ++ commaList
    [alter ++ " TYPE " ++ typeName definition,
      alter ++ (if definition.nullable then " DROP NOT NULL" else " SET NOT NULL"),
      alter ++
        match definition.default with
        | some value => " SET DEFAULT " ++ renderDefault value
        | none => " DROP DEFAULT"]

/-- Tables are listed with their schema; a bare name is looked for in the current one. -/
def tableExists (table : String) : String :=
  let (schema, bare) := TableName.split table
  let schema := match schema with
    | some s => quoteLiteral s
    | none => "current_schema()"
  "SELECT COUNT(*) FROM information_schema.tables WHERE table_schema = " ++ schema ++
    " AND table_name = " ++ quoteLiteral bare

end Postgres

/-- The dialect of PostgreSQL. -/
def postgres : Dialect where
  name := "postgresql"
  placeholder := Postgres.placeholder
  typeName := Postgres.typeName
  tableExists := Postgres.tableExists
  columnType := Postgres.columnType
  renderDefault := Postgres.renderDefault
  modifyColumn table column definition := .ok [Postgres.modifyColumn table column definition]
  insertReturning table columns column _ :=
    .ok (insertStatement Postgres.quoteIdentifier (quoteParts Postgres.quoteIdentifier)
      Postgres.placeholder "" table columns ++ " RETURNING " ++ Postgres.quoteIdentifier column)

end SchemaEvolution.Dialect
