import SchemaEvolution.Value

/-!
# Result sets

The rows that a query returns, with the names of their columns. Column names are compared without
regard to the case of ASCII letters.
-/

namespace SchemaEvolution

/-- Rows under named columns. A row may be shorter or longer than the list of names. -/
structure ResultSet where
  columns : List String := []
  rows : List (List Value) := []
  deriving DecidableEq, Repr, Inhabited

namespace ResultSet

/-- A text with its ASCII letters in lower case. -/
def foldCase (s : String) : List Char := s.toList.map Char.toLower

/-- The position of the first column with a given name. -/
def columnIndex? (r : ResultSet) (name : String) : Option Nat :=
  r.columns.findIdx? fun column => foldCase column == foldCase name

/-- The cell at a row and a position in it. -/
def cell? (r : ResultSet) (row column : Nat) : Option Value :=
  r.rows[row]? >>= fun cells => cells[column]?

/-- The cell at a row under a named column. -/
def get? (r : ResultSet) (row : Nat) (column : String) : Option Value :=
  r.columnIndex? column >>= r.cell? row

/-- The cells under a named column, top to bottom, without the rows that are too short. -/
def columnValues (r : ResultSet) (column : String) : List Value :=
  match r.columnIndex? column with
  | some index => r.rows.filterMap fun cells => cells[index]?
  | none => []

/-- The first cell of the first row, or null. -/
def scalar (r : ResultSet) : Value := (r.cell? 0 0).getD .null

end ResultSet

end SchemaEvolution
