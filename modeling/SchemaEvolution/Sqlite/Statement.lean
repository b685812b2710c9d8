import SchemaEvolution.Sqlite.Declaration

/-!
# Statements

The statements that the built-in store carries out.
-/

namespace SchemaEvolution.Sqlite

/-- A table as a statement names it. -/
structure TableRef where
  schema : Option Name
  name : Name
  deriving DecidableEq, Repr

/-- The name of a table with its schema, if it is given. -/
def TableRef.qualified (table : TableRef) : String :=
  match table.schema with
  | some schema => schema.text ++ "." ++ table.name.text
  | none => table.name.text

/-- A column of a result: what it shows and how that is written. -/
structure ResultColumn where
  e : Expression
  written : String
  deriving Repr, BEq

/-- What an insert gives: the columns in order, unless they are all of them, and rows of values. -/
structure Additions where
  columns : Option (List String)
  rows : List (List Expression)
  deriving Repr, BEq

/-- A statement of the built-in store. -/
inductive Statement where
  | select (columns : List ResultColumn) (table : Option TableRef) (condition : Option Expression)
  | hasRow (table : TableRef) (condition : Option Expression) (written : String)
  | createTable (temporary ifMissing : Bool) (table : TableRef) (declaration : Declaration)
      (source : String)
  | dropTable (ifPresent : Bool) (table : TableRef)
  | insert (table : TableRef) (additions : Additions) (resolution : Option Resolution)
      (returning : List ResultColumn)
  | delete (table : TableRef) (condition : Option Expression)
  | begin
  | commit
  | rollback
  deriving Repr, BEq

end SchemaEvolution.Sqlite
