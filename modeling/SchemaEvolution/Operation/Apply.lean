import SchemaEvolution.Client
import SchemaEvolution.Operation.Basic

/-!
# Applying operations

Each operation is one call of a client; a list of them stops at the first that fails.
-/

namespace SchemaEvolution.Operation

/-- An action whose result does not matter. -/
def forget {α : Type} (action : Action α) : Action Unit := do
  let _ ← action

/-- Applies an operation. -/
def apply (c : Client) : Operation → Action Unit
  | .createTable table => c.addTable table.name table.columns
  | .dropTable name => c.removeTable name
  | .renameTable oldName newName => c.renameTable oldName newName
  | .addColumn table column => c.addColumn table column
  | .dropColumn table column => c.removeColumn table column
  | .renameColumn table oldName newName => c.renameColumn table oldName newName
  | .modifyColumn table name column _ => c.modifyColumn table name column
  | .addPrimaryKey table name columns => c.addPrimaryKey table name columns
  | .dropPrimaryKey table name => c.removePrimaryKey table name
  | .addForeignKey key => c.addForeignKey key
  | .dropForeignKey table name => c.removeForeignKey name table
  | .addUniqueKey table name columns => c.addUniqueKey name table columns
  | .dropUniqueKey table name => c.removeUniqueKey name table
  | .addIndex table name columns => c.addIndex name table columns
  | .dropIndex table name => c.removeIndex name table
  | .addTableComment table comment => c.addTableComment table comment
  | .removeTableComment table => c.removeTableComment table
  | .addColumnComment table column comment => c.addColumnComment table column comment
  | .removeColumnComment table column => c.removeColumnComment table column
  | .insert table columns values => forget (c.insert table columns (some values))
  | .update table columns values filter => forget (c.update table columns (some values) filter)
  | .delete table filter => forget (c.delete table filter)
  | .runSql forward _ => forget (Client.execute forward [])

/-- Applies operations in order. -/
def applyAll (c : Client) : List Operation → Action Unit
  | [] => pure ()
  | operation :: rest => do
    operation.apply c
    applyAll c rest

end SchemaEvolution.Operation
