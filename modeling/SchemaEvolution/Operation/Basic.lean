import SchemaEvolution.Filter
import SchemaEvolution.Table

/-!
# Operations

The vocabulary that migrations are written in: changes of the schema, changes of rows, and
statements of one's own. Most operations have an inverse that can be read off them; the others lose
what would be needed to undo them.
-/

namespace SchemaEvolution

/-- A change of the schema or of rows. -/
inductive Operation where
  | createTable (table : Table)
  | dropTable (name : String)
  | renameTable (oldName newName : String)
  | addColumn (table : String) (column : Column)
  | dropColumn (table column : String)
  | renameColumn (table oldName newName : String)
  | modifyColumn (table name : String) (column : Column) (previous : Option Column)
  | addPrimaryKey (table : String) (name : Option String) (columns : List String)
  | dropPrimaryKey (table : String) (name : Option String)
  | addForeignKey (key : ForeignKey)
  | dropForeignKey (table name : String)
  | addUniqueKey (table name : String) (columns : List String)
  | dropUniqueKey (table name : String)
  | addIndex (table name : String) (columns : List String)
  | dropIndex (table name : String)
  | addTableComment (table comment : String)
  | removeTableComment (table : String)
  | addColumnComment (table column comment : String)
  | removeColumnComment (table column : String)
  | insert (table : String) (columns : List String) (values : List Value)
  | update (table : String) (columns : List String) (values : List Value) (filter : Option Filter)
  | delete (table : String) (filter : Option Filter)
  | runSql (forward : String) (backward : Option String)
  deriving DecidableEq, Repr

namespace Operation

/-- An operation in a few words. -/
def describe : Operation → String
  | .createTable table => "Create table " ++ table.name
  | .dropTable name => "Drop table " ++ name
  | .renameTable oldName newName => "Rename table " ++ oldName ++ " to " ++ newName
  | .addColumn table column => "Add column " ++ column.name ++ " to " ++ table
  | .dropColumn table column => "Drop column " ++ column ++ " from " ++ table
  | .renameColumn table oldName newName =>
    "Rename column " ++ table ++ "." ++ oldName ++ " to " ++ newName
  | .modifyColumn table name _ _ => "Modify column " ++ table ++ "." ++ name
  | .addPrimaryKey table _ _ => "Add primary key to " ++ table
  | .dropPrimaryKey table _ => "Drop primary key of " ++ table
  | .addForeignKey key => "Add foreign key " ++ key.name ++ " to " ++ key.table
  | .dropForeignKey table name => "Drop foreign key " ++ name ++ " from " ++ table
  | .addUniqueKey table name _ => "Add unique key " ++ name ++ " to " ++ table
  | .dropUniqueKey table name => "Drop unique key " ++ name ++ " from " ++ table
  | .addIndex table name _ => "Create index " ++ name ++ " on " ++ table
  | .dropIndex table name => "Drop index " ++ name ++ " on " ++ table
  | .addTableComment table _ => "Comment table " ++ table
  | .removeTableComment table => "Remove comment of table " ++ table
  | .addColumnComment table column _ => "Comment column " ++ table ++ "." ++ column
  | .removeColumnComment table column => "Remove comment of column " ++ table ++ "." ++ column
  | .insert table _ _ => "Insert into " ++ table
  | .update table _ _ _ => "Update " ++ table
  | .delete table _ => "Delete from " ++ table
  | .runSql _ _ => "Run SQL"

/-- All of some filters, in order; of none there is no filter. -/
def allOf : List Filter → Option Filter
  | [] => none
  | first :: rest => some (rest.foldl .and first)

/-- The filter that a row meets when it has the given value in each of the given columns. -/
def rowFilter (columns : List String) (values : List Value) : Option Filter :=
  allOf (List.zipWith Filter.equals columns values)

/-- The operation that undoes another, where it can be read off it. A row that was inserted is
deleted by all its values; what is dropped, updated or deleted is lost. -/
def reverse : Operation → Option Operation
  | .createTable table => some (.dropTable table.name)
  | .renameTable oldName newName => some (.renameTable newName oldName)
  | .addColumn table column => some (.dropColumn table column.name)
  | .renameColumn table oldName newName => some (.renameColumn table newName oldName)
  | .modifyColumn table name column previous =>
    previous.map fun previous => .modifyColumn table name previous (some column)
  | .addPrimaryKey table name _ => some (.dropPrimaryKey table name)
  | .addForeignKey key => some (.dropForeignKey key.table key.name)
  | .addUniqueKey table name _ => some (.dropUniqueKey table name)
  | .addIndex table name _ => some (.dropIndex table name)
  | .addTableComment table _ => some (.removeTableComment table)
  | .addColumnComment table column _ => some (.removeColumnComment table column)
  | .insert table columns values =>
    (rowFilter columns values).map fun filter => .delete table (some filter)
  | .runSql forward backward => backward.map fun backward => .runSql backward (some forward)
  | .dropTable _ | .dropColumn _ _ | .dropPrimaryKey _ _ | .dropForeignKey _ _ | .dropUniqueKey _ _
  | .dropIndex _ _ | .removeTableComment _ | .removeColumnComment _ _ | .update _ _ _ _
  | .delete _ _ => none

/-- Whether an operation can be undone. -/
def isReversible (operation : Operation) : Bool := operation.reverse.isSome

/-- The operations that undo a list of them: the inverse of each, the last one first. -/
def reverseAll (operations : List Operation) : Option (List Operation) :=
  operations.reverse.mapM reverse

end Operation

end SchemaEvolution
