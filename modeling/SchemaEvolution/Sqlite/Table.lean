import SchemaEvolution.Sqlite.Declaration
import SchemaEvolution.Sqlite.Evaluation

/-!
# Tables of the built-in store

A table has columns, constraints, and rows in the order of their numbers. A single integer primary
key is the number of the row itself; every other key is compared column by column, and a row with a
null in it is like no other.
-/

namespace SchemaEvolution.Sqlite

/-- How a column is computed from the others, and whether its values are stored. -/
structure Generation where
  e : Expression
  stored : Bool
  deriving Repr, BEq

/-- A column of a table: what it is called and declared as, how its values are converted and
compared, what is done about null where it may not be, and what it holds unless it is given. -/
structure StoredColumn where
  name : String
  type : String := ""
  affinity : Affinity := .blob
  collation : Collation := .binary
  notNull : Option Resolution := none
  default : Option Expression := none
  generation : Option Generation := none
  primary : Bool := false
  deriving Repr, BEq

/-- A column of a key, by its position, and how it is compared. -/
structure KeyColumn where
  position : Nat
  collation : Collation
  deriving DecidableEq, Repr

/-- Columns whose values together are unique, what is done about a row with those of another, and
how many keys were declared before. -/
structure UniqueKey where
  primary : Bool
  columns : List KeyColumn
  resolution : Option Resolution := none
  ordinal : Nat := 0
  deriving DecidableEq, Repr

/-- A condition on every row, and what it is called when it fails. -/
structure Check where
  name : String
  e : Expression
  deriving Repr, BEq

/-- Columns, by their positions, whose values together are those of a row that they refer to. -/
structure ForeignKey where
  columns : List Nat
  reference : Reference
  deriving DecidableEq, Repr

/-- A row and its number. -/
structure StoredRow where
  number : Int
  values : List Value
  deriving DecidableEq, Repr

/-- A table. `numbered` ones never give a number twice, even after the row is gone; in those without
row numbers the primary key takes their place; a `typed` one takes no value of another type. The
keys are in the order in which they are looked at. `source` is the text that declares the table. -/
structure StoredTable where
  name : String
  temporary : Bool
  columns : List StoredColumn
  rowKey : Option Nat := none
  rowResolution : Option Resolution := none
  numbered : Bool := false
  hasRowNumbers : Bool := true
  typed : Bool := false
  keys : List UniqueKey := []
  checks : List Check := []
  foreignKeys : List ForeignKey := []
  source : String := ""
  rows : List StoredRow := []
  deriving Repr, BEq

namespace StoredTable

/-- The position of a column. -/
def position? (t : StoredTable) (column : String) : Option Nat :=
  t.columns.findIdx? fun other => fold other.name == fold column

/-- The column at a position. -/
def column (t : StoredTable) (position : Nat) : StoredColumn :=
  t.columns[position]?.getD { name := "" }

/-- The names of columns by their positions. -/
def names (t : StoredTable) (positions : List Nat) : List String :=
  positions.map fun i => (t.column i).name

/-- What an expression about a row of the table sees. -/
def scope (t : StoredTable) (setting : Setting) : Scope where
  columns := t.columns.map fun column => ⟨column.name, column.affinity, column.collation⟩
  tables := [t.name]
  hasRowNumber := t.hasRowNumbers
  setting

/-- Whether a name stands for the number of a row: the key that is this number, or one of three
names that no column has. -/
def namesRow (t : StoredTable) (column : String) : Bool :=
  match t.position? column with
  | some i => t.rowKey == some i
  | none => (t.scope .statement).isRowNumber column

/-- The table with one more row, which stands at its number. -/
def addRow (t : StoredTable) (row : StoredRow) : StoredTable :=
  let before := t.rows.takeWhile fun other => other.number < row.number
  { t with rows := before ++ row :: t.rows.drop before.length }

/-- The table without some rows. -/
def dropRows (t : StoredTable) (isGone : StoredRow → Bool) : StoredTable :=
  { t with rows := t.rows.filter fun row => !isGone row }

/-- A primary key, if it is no number of the row. -/
def primaryKey? (t : StoredTable) : Option UniqueKey := t.keys.find? (·.primary)

/-- The keys, by how many were declared before each, that are kept apart from the rows. A primary
key that takes the place of row numbers is not. -/
def separateKeys (t : StoredTable) : List Nat :=
  let inPlace := if t.hasRowNumbers then none else t.primaryKey?.map (·.ordinal)
  (List.range t.keys.length).filter fun i => inPlace ≠ some i

end StoredTable

end SchemaEvolution.Sqlite
