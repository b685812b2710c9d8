import SchemaEvolution.Filter

/-!
# Selects

The description of a select: which columns of which tables, filtered, sorted and paged.
-/

namespace SchemaEvolution

/-- A sort direction. -/
inductive Direction where
  | ascending
  | descending
  deriving DecidableEq, Repr

namespace Direction

/-- Rows are sorted upwards unless told otherwise. -/
instance : Inhabited Direction := ⟨.ascending⟩

/-- The directions with their names. -/
def names : List (String × Direction) := [("Asc", .ascending), ("Desc", .descending)]

/-- The name of a direction. -/
def name : Direction → String
  | .ascending => "Asc"
  | .descending => "Desc"

/-- The keyword of a direction. -/
def keyword : Direction → String
  | .ascending => "ASC"
  | .descending => "DESC"

end Direction

/-- A column to sort by. -/
structure SortTerm where
  column : String
  direction : Direction
  deriving DecidableEq, Repr

/-- A select. No columns stand for all of them. -/
structure Select where
  tables : List String
  columns : List String := []
  filter : Option Filter := none
  sortedBy : List SortTerm := []
  skip : Option UInt64 := none
  take : Option UInt64 := none
  deriving DecidableEq, Repr

end SchemaEvolution
