import SchemaEvolution.Json.Schema
import SchemaEvolution.Operation.Basic

/-!
# Operations in JSON

An operation is an object whose only key names it, with a record of its arguments. Reading what was
written gives the operation back, as long as it holds no double and does not nest too deeply.
-/

namespace SchemaEvolution.Operation

open Json

/-- An operation as JSON. -/
def toJson (float : Binary64 → Json) : Operation → Json
  | .createTable table => .tagged "CreateTable" (.record [("table", table.toJson float)])
  | .dropTable name => .tagged "DropTable" (.record [("name", .text name)])
  | .renameTable oldName newName => .tagged "RenameTable" (.record
      [("old_name", .text oldName), ("new_name", .text newName)])
  | .addColumn table column => .tagged "AddColumn" (.record
      [("table", .text table), ("column", column.toJson float)])
  | .dropColumn table column => .tagged "DropColumn" (.record
      [("table", .text table), ("column_name", .text column)])
  | .renameColumn table oldName newName => .tagged "RenameColumn" (.record
      [("table", .text table), ("old_name", .text oldName), ("new_name", .text newName)])
  | .modifyColumn table name column previous => .tagged "ModifyColumn" (.record
      [("table", .text table), ("column_name", .text name), ("column", column.toJson float),
       ("original", .option (Column.toJson float) previous)])
  | .addPrimaryKey table name columns => .tagged "AddPrimaryKey" (.record
      [("table", .text table), ("name", .option .text name), ("columns", .texts columns)])
  | .dropPrimaryKey table name => .tagged "DropPrimaryKey" (.record
      [("table", .text table), ("name", .option .text name)])
  | .addForeignKey key => .tagged "AddForeignKey" (.record [("foreign_key", key.toJson)])
  | .dropForeignKey table name => .tagged "DropForeignKey" (.record
      [("table", .text table), ("name", .text name)])
  | .addUniqueKey table name columns => .tagged "AddUniqueKey" (.record
      [("table", .text table), ("name", .text name), ("columns", .texts columns)])
  | .dropUniqueKey table name => .tagged "DropUniqueKey" (.record
      [("table", .text table), ("name", .text name)])
  | .addIndex table name columns => .tagged "AddIndex" (.record
      [("table", .text table), ("name", .text name), ("columns", .texts columns)])
  | .dropIndex table name => .tagged "DropIndex" (.record
      [("table", .text table), ("name", .text name)])
  | .addTableComment table comment => .tagged "AddTableComment" (.record
      [("table", .text table), ("comment", .text comment)])
  | .removeTableComment table => .tagged "RemoveTableComment" (.record [("table", .text table)])
  | .addColumnComment table column comment => .tagged "AddColumnComment" (.record
      [("table", .text table), ("column", .text column), ("comment", .text comment)])
  | .removeColumnComment table column => .tagged "RemoveColumnComment" (.record
      [("table", .text table), ("column", .text column)])
  | .insert table columns values => .tagged "Insert" (.record
      [("table", .text table), ("columns", .texts columns),
       ("values", .list (Value.toJson float) values)])
  | .update table columns values filter => .tagged "Update" (.record
      [("table", .text table), ("columns", .texts columns),
       ("values", .list (Value.toJson float) values),
       ("filter", .option (Filter.toJson float) filter)])
  | .delete table filter => .tagged "Delete" (.record
      [("table", .text table), ("filter", .option (Filter.toJson float) filter)])
  | .runSql forward backward => .tagged "RunSql" (.record
      [("forward", .text forward), ("backward", .option .text backward)])

/-- The arguments of an operation on tables and columns. -/
def definitionOfJson (name : String) : Reader Operation := fun depth j => do
  match name with
  | "CreateTable" =>
    match ← record? ["table"] depth j with
    | (depth, [table]) => some (.createTable (← required (Table.ofJson depth) table))
    | _ => none
  | "RenameTable" =>
    match ← record? ["old_name", "new_name"] depth j with
    | (_, [oldName, newName]) =>
      some (.renameTable (← required string? oldName) (← required string? newName))
    | _ => none
  | "AddColumn" =>
    match ← record? ["table", "column"] depth j with
    | (depth, [table, column]) =>
      some (.addColumn (← required string? table) (← required (Column.ofJson depth) column))
    | _ => none
  | "RenameColumn" =>
    match ← record? ["table", "old_name", "new_name"] depth j with
    | (_, [table, oldName, newName]) =>
      some (.renameColumn (← required string? table) (← required string? oldName)
        (← required string? newName))
    | _ => none
  | "ModifyColumn" =>
    match ← record? ["table", "column_name", "column", "original"] depth j with
    | (depth, [table, name, column, previous]) =>
      some (.modifyColumn (← required string? table) (← required string? name)
        (← required (Column.ofJson depth) column) (← optional (Column.ofJson depth) previous))
    | _ => none
  | "AddForeignKey" =>
    match ← record? ["foreign_key"] depth j with
    | (depth, [key]) => some (.addForeignKey (← required (ForeignKey.ofJson depth) key))
    | _ => none
  | _ => none

/-- The arguments of an operation on keys and indexes: a table, a name, and some columns. -/
def keyOfJson (name : String) : Reader Operation := fun depth j => do
  let named (f : String → String → List String → Operation) : Option Operation := do
    match ← record? ["table", "name", "columns"] depth j with
    | (depth, [table, name, columns]) =>
      some (f (← required string? table) (← required string? name)
        (← required (texts? depth) columns))
    | _ => none
  match name with
  | "AddPrimaryKey" =>
    match ← record? ["table", "name", "columns"] depth j with
    | (depth, [table, name, columns]) =>
      some (.addPrimaryKey (← required string? table) (← optional string? name)
        (← required (texts? depth) columns))
    | _ => none
  | "DropPrimaryKey" =>
    match ← record? ["table", "name"] depth j with
    | (_, [table, name]) =>
      some (.dropPrimaryKey (← required string? table) (← optional string? name))
    | _ => none
  | "AddUniqueKey" => named .addUniqueKey
  | "AddIndex" => named .addIndex
  | _ => none

/-- The arguments of an operation that are texts and nothing else. -/
def textsOfJson (name : String) : Reader Operation := fun depth j => do
  let one (field : String) (f : String → Operation) : Option Operation := do
    match ← record? [field] depth j with
    | (_, [a]) => some (f (← required string? a))
    | _ => none
  let two (second : String) (f : String → String → Operation) : Option Operation := do
    match ← record? ["table", second] depth j with
    | (_, [a, b]) => some (f (← required string? a) (← required string? b))
    | _ => none
  match name with
  | "DropTable" => one "name" .dropTable
  | "DropColumn" => two "column_name" .dropColumn
  | "DropForeignKey" => two "name" .dropForeignKey
  | "DropUniqueKey" => two "name" .dropUniqueKey
  | "DropIndex" => two "name" .dropIndex
  | "AddTableComment" => two "comment" .addTableComment
  | "RemoveTableComment" => one "table" .removeTableComment
  | "RemoveColumnComment" => two "column" .removeColumnComment
  | "AddColumnComment" =>
    match ← record? ["table", "column", "comment"] depth j with
    | (_, [table, column, comment]) =>
      some (.addColumnComment (← required string? table) (← required string? column)
        (← required string? comment))
    | _ => none
  | _ => none

/-- The arguments of an operation on rows. -/
def rowsOfJson (name : String) : Reader Operation := fun depth j => do
  match name with
  | "Insert" =>
    match ← record? ["table", "columns", "values"] depth j with
    | (depth, [table, columns, values]) =>
      some (.insert (← required string? table) (← required (texts? depth) columns)
        (← required (list? Value.ofJson depth) values))
    | _ => none
  | "Update" =>
    match ← record? ["table", "columns", "values", "filter"] depth j with
    | (depth, [table, columns, values, filter]) =>
      some (.update (← required string? table) (← required (texts? depth) columns)
        (← required (list? Value.ofJson depth) values) (← optional (Filter.ofJson depth) filter))
    | _ => none
  | "Delete" =>
    match ← record? ["table", "filter"] depth j with
    | (depth, [table, filter]) =>
      some (.delete (← required string? table) (← optional (Filter.ofJson depth) filter))
    | _ => none
  | "RunSql" =>
    match ← record? ["forward", "backward"] depth j with
    | (_, [forward, backward]) =>
      some (.runSql (← required string? forward) (← optional string? backward))
    | _ => none
  | _ => none

/-- An operation from JSON. -/
def ofJson : Reader Operation := fun depth j => do
  match ← variant? depth j with
  | (name, some (depth, j)) =>
    definitionOfJson name depth j <|> keyOfJson name depth j <|> textsOfJson name depth j <|>
      rowsOfJson name depth j
  | _ => none

end SchemaEvolution.Operation
