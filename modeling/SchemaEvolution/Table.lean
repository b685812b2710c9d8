import SchemaEvolution.Column

/-!
# Tables and foreign keys
-/

namespace SchemaEvolution

/-- A table with its columns in order; the name may carry a schema. -/
structure Table where
  name : String
  columns : List Column
  deriving DecidableEq, Repr

/-- The first column with a given name. -/
def Table.column? (t : Table) (name : String) : Option Column :=
  t.columns.find? fun c => c.name == name

/-- The columns that make up the primary key, in order. -/
def Table.keyColumns (t : Table) : List Column := t.columns.filter (·.primaryKey)

/-- What happens to the referencing rows when a referenced row is deleted. -/
inductive DeleteAction where
  | cascade
  | setNull
  | noAction
  | restrict
  deriving DecidableEq, Repr, Inhabited

namespace DeleteAction

/-- The delete actions with their names. -/
def names : List (String × DeleteAction) :=
  [("Cascade", .cascade), ("SetNull", .setNull), ("NoAction", .noAction), ("Restrict", .restrict)]

/-- The name of a delete action. -/
def name : DeleteAction → String
  | .cascade => "Cascade"
  | .setNull => "SetNull"
  | .noAction => "NoAction"
  | .restrict => "Restrict"

/-- The keywords of a delete action. -/
def keywords : DeleteAction → String
  | .cascade => "CASCADE"
  | .setNull => "SET NULL"
  | .noAction => "NO ACTION"
  | .restrict => "RESTRICT"

end DeleteAction

/-- A foreign key from one column to another. -/
structure ForeignKey where
  name : String
  table : String
  column : String
  referencedTable : String
  referencedColumn : String
  onDelete : DeleteAction := .noAction
  deriving DecidableEq, Repr

end SchemaEvolution
