import SchemaEvolution.Dialect.Basic
import SchemaEvolution.Session
import SchemaEvolution.Text.Printed

/-!
# Clients

A client writes changes and queries in its dialect and sends them. What takes several statements is
sent in order and stops at the first that fails. Nothing here commits.
-/

namespace SchemaEvolution

/-- How a client behaves: the schema of names that carry none, and whether it is an error to create
what exists. -/
structure ClientConfig where
  defaultSchema : Option String := none
  strict : Bool := true
  deriving DecidableEq, Repr

/-- A client of a database. -/
structure Client where
  dialect : Dialect
  schema : Option String
  config : ClientConfig

namespace Client

/-- A client; without a schema of its own it has the default one of its configuration. -/
def ofConfig (dialect : Dialect) (schema : Option String) (config : ClientConfig) : Client :=
  ⟨dialect, schema.orElse fun _ => config.defaultSchema, config⟩

/-- What a client shows of itself. -/
def printed (c : Client) : String :=
  let config := Text.printedRecord "ClientConfig"
    [("default_schema", Text.printedOption c.config.defaultSchema),
      ("strict", Text.printedBool c.config.strict)] true
  Text.printedRecord "DataClient" [("dialect", Text.printed c.dialect.name),
    ("schema", Text.printedOption c.schema), ("config", config)] false

/-- A table name with the client's schema, unless it carries one. -/
def tableName (c : Client) (name : String) : String :=
  if TableName.isQualified name then name else TableName.qualify c.schema name

/-- Sends one statement. -/
def execute (sql : String) (parameters : List Parameter) : Action Nat :=
  Action.call (.execute sql parameters)

/-- Sends statements in order up to the first that fails, and adds up the rows they affect. -/
def executeAll : List String → Action Nat
  | [] => pure 0
  | sql :: rest => do
    let affected ← execute sql []
    let others ← executeAll rest
    pure (affected + others)

/-- Sends statements whose results do not matter. -/
def send (sqls : List String) : Action Unit := do
  let _ ← executeAll sqls

/-- Sends statements that create something. A client that is not strict takes it as done when what
it creates exists. -/
def create (c : Client) (sqls : List String) : Action Unit :=
  ExceptT.mk do
    match ← (executeAll sqls).run with
    | .ok _ => pure (.ok ())
    | .error e =>
      if !c.config.strict && e.isAlreadyExists then pure (.ok ()) else pure (.error e)

/-! ## Changes of the schema -/

/-- Creates a table. -/
def addTable (c : Client) (name : String) (columns : List Column) : Action Unit := do
  let sqls ← Action.ofExcept (c.dialect.createTable ⟨c.tableName name, columns⟩)
  c.create sqls

/-- Drops a table. -/
def removeTable (c : Client) (name : String) : Action Unit :=
  send (c.dialect.dropTable (c.tableName name))

/-- Adds a primary key, under the table's own name for it when none is given. -/
def addPrimaryKey (c : Client) (table : String) (name : Option String) (columns : List String) :
    Action Unit := do
  let name := name.getD (TableName.primaryKey table)
  let sql ← Action.ofExcept (c.dialect.addPrimaryKey (c.tableName table) name columns)
  c.create [sql]

/-- Drops a primary key, under the table's own name for it when none is given. -/
def removePrimaryKey (c : Client) (table : String) (name : Option String) : Action Unit := do
  let name := name.getD (TableName.primaryKey table)
  let sql ← Action.ofExcept (c.dialect.dropPrimaryKey (c.tableName table) name)
  send [sql]

/-- Adds a foreign key. -/
def addForeignKey (c : Client) (key : ForeignKey) : Action Unit := do
  let qualified := { key with
    table := c.tableName key.table
    referencedTable := c.tableName key.referencedTable }
  let sql ← Action.ofExcept (c.dialect.addForeignKey qualified)
  c.create [sql]

/-- Drops a foreign key. -/
def removeForeignKey (c : Client) (name table : String) : Action Unit := do
  let sql ← Action.ofExcept (c.dialect.dropForeignKey name (c.tableName table))
  send [sql]

/-- Adds a unique key. -/
def addUniqueKey (c : Client) (name table : String) (columns : List String) : Action Unit := do
  let sql ← Action.ofExcept (c.dialect.addUniqueKey name (c.tableName table) columns)
  c.create [sql]

/-- Drops a unique key. -/
def removeUniqueKey (c : Client) (name table : String) : Action Unit := do
  let sql ← Action.ofExcept (c.dialect.dropUniqueKey name (c.tableName table))
  send [sql]

/-- Creates an index. -/
def addIndex (c : Client) (name table : String) (columns : List String) : Action Unit :=
  c.create [c.dialect.createIndex name (c.tableName table) columns]

/-- Drops an index. -/
def removeIndex (c : Client) (name table : String) : Action Unit :=
  send [c.dialect.dropIndex name (c.tableName table)]

/-- Adds a column. -/
def addColumn (c : Client) (table : String) (column : Column) : Action Unit :=
  c.create [c.dialect.addColumn (c.tableName table) column]

/-- Drops a column, and first what depends on it. -/
def removeColumn (c : Client) (table column : String) : Action Unit :=
  send (c.dialect.dropColumn (c.tableName table) column)

/-- Sets the comment of a table. -/
def addTableComment (c : Client) (table comment : String) : Action Unit := do
  let sql ← Action.ofExcept (c.dialect.addTableComment (c.tableName table) comment)
  send [sql]

/-- Removes the comment of a table. -/
def removeTableComment (c : Client) (table : String) : Action Unit := do
  let sql ← Action.ofExcept (c.dialect.removeTableComment (c.tableName table))
  send [sql]

/-- Sets the comment of a column. -/
def addColumnComment (c : Client) (table column comment : String) : Action Unit := do
  let sql ← Action.ofExcept (c.dialect.addColumnComment (c.tableName table) column comment)
  send [sql]

/-- Removes the comment of a column. -/
def removeColumnComment (c : Client) (table column : String) : Action Unit := do
  let sql ← Action.ofExcept (c.dialect.removeColumnComment (c.tableName table) column)
  send [sql]

/-- Renames a table within its schema. -/
def renameTable (c : Client) (table newName : String) : Action Unit :=
  send [c.dialect.renameTable (c.tableName table) newName]

/-- Renames a column. -/
def renameColumn (c : Client) (table column newName : String) : Action Unit :=
  send [c.dialect.renameColumn (c.tableName table) column newName]

/-- Gives a column another definition. -/
def modifyColumn (c : Client) (table column : String) (definition : Column) : Action Unit := do
  let sqls ← Action.ofExcept (c.dialect.modifyColumn (c.tableName table) column definition)
  send sqls

/-- Whether a table exists. -/
def tableExists (c : Client) (table : String) : Action Bool := do
  let value ← Action.call (.scalar (c.dialect.tableExists (c.tableName table)) [])
  pure value.isPositive

/-! ## Rows -/

/-- The condition of a filter, with a space in front of it, and its parameters. -/
def condition (c : Client) (filter : Option Filter) (offset : Nat) :
    Except Error (String × List InParameter) :=
  match filter with
  | some f => (c.dialect.whereClause f offset).map fun clause =>
      (" " ++ clause.sql, clause.parameters)
  | none => .ok ("", [])

/-- Runs a select on the client's tables. -/
def select (c : Client) (query : Select) : Action ResultSet := do
  let built ← Action.ofExcept
    ({ query with tables := query.tables.map c.tableName }.build c.dialect)
  Action.call (.query built.sql (Parameter.inputs built.parameters))

/-- The values of a row: one for each column, or nulls when none are given. -/
def rowValues (columns : List String) : Option (List Value) → Except Error (List Value)
  | none => .ok (columns.map fun _ => .null)
  | some values =>
    if values.length = columns.length then .ok values
    else .error (.parameterMismatch columns.length values.length)

/-- Inserts one row. -/
def insert (c : Client) (table : String) (columns : List String) (values : Option (List Value)) :
    Action Nat := do
  let values ← Action.ofExcept (rowValues columns values)
  execute (c.dialect.insert (c.tableName table) columns)
    (Parameter.inputs (c.dialect.nameParameters 0 values))

/-- Writes an insert that hands a column of the new row back. -/
def returningInsert (c : Client) (table returned : String) (columns : List String)
    (values : Option (List Value)) : Except Error ReturningInsert := do
  let values ← rowValues columns values
  let out := OutParameter.returning returned
  let sql ← c.dialect.insertReturning (c.tableName table) columns returned out
  .ok ⟨sql, c.dialect.nameParameters 0 values, out⟩

/-- Inserts one row and gives a column of it. -/
def insertReturning (c : Client) (table returned : String) (columns : List String)
    (values : Option (List Value)) : Action Value := do
  let statement ← Action.ofExcept (c.returningInsert table returned columns values)
  Action.call (.insertReturning statement.sql statement.bound)

/-- Updates the rows that meet a filter, or all of them. The placeholders of the filter follow those
of the assigned columns. -/
def update (c : Client) (table : String) (columns : List String) (values : Option (List Value))
    (filter : Option Filter) : Action Nat := do
  if columns.isEmpty then
    Action.ofExcept (.error (.invalidArgument (.updateWithoutColumns table)))
  else
    let values ← Action.ofExcept (rowValues columns values)
    let assigned := c.dialect.nameParameters 0 values
    let (sql, parameters) ← Action.ofExcept (c.condition filter assigned.length)
    execute (c.dialect.update (c.tableName table) columns ++ sql)
      (Parameter.inputs (assigned ++ parameters))

/-- Deletes the rows that meet a filter, or all of them. -/
def delete (c : Client) (table : String) (filter : Option Filter) : Action Nat := do
  let (sql, parameters) ← Action.ofExcept (c.condition filter 0)
  execute (c.dialect.delete (c.tableName table) ++ sql) (Parameter.inputs parameters)

/-- Counts the rows that meet a filter, or all of them. -/
def count (c : Client) (table : String) (filter : Option Filter) : Action Int64 := do
  let (sql, parameters) ← Action.ofExcept (c.condition filter 0)
  let value ← Action.call
    (.scalar (c.dialect.count (c.tableName table) ++ sql) (Parameter.inputs parameters))
  pure (value.toInt?.getD 0)

/-- Whether a row meets a filter, or whether there is one at all. -/
def hasRow (c : Client) (table : String) (filter : Option Filter) : Action Bool := do
  let clause ← Action.ofExcept (filter.mapM fun f => c.dialect.whereClause f 0)
  let sql := c.dialect.hasRow (c.tableName table) (clause.map (·.sql))
  let value ← Action.call (.scalar sql (Parameter.inputs ((clause.map (·.parameters)).getD [])))
  pure value.isPositive

/-! ## The connection -/

/-- Commits the open transaction. -/
def commit : Action Unit := Action.call .commit

/-- Rolls the open transaction back. -/
def rollback : Action Unit := Action.call .rollback

/-- Closes the connection. -/
def close : Action Unit := Action.call .close

end Client

end SchemaEvolution
