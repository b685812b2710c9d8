import SchemaEvolution.Sqlite.Expression

/-!
# Declarations of tables

The body of a table's declaration is a run of clauses: each column with its type and what is said of
it after that, then the constraints over several columns.
-/

namespace SchemaEvolution.Sqlite

/-- What becomes of a row that breaks a constraint: the statement fails, with or without the whole
transaction, the row is left out, or what is in its way is replaced. -/
inductive Resolution where
  | rollback
  | abort
  | fail
  | ignore
  | replace
  deriving DecidableEq, Repr

/-- What a key compares: an expression, which is to be a column. -/
structure KeyItem where
  subject : Expression
  descending : Bool
  nulls : Option String
  deriving Repr, BEq

/-- What becomes of a row when the row that it refers to goes: nothing, so that it may not be left
alone, or what happens at once. -/
inductive Consequence where
  | unchecked
  | refused
  | setNull
  | setDefault
  | cascade
  deriving DecidableEq, Repr

/-- What a foreign key refers to: columns of a table, which are its primary key if they are left
out. -/
structure Reference where
  target : Name
  columns : Option (List String)
  onDelete : Consequence
  deriving DecidableEq, Repr

/-- A clause of a table's declaration. Those on a column are about the column before them, unless
they have columns of their own; `comma` stands between constraints of the table. -/
inductive Clause where
  | column (name : Name) (type : String)
  | called (name : String)
  | comma
  | notNull (resolution : Option Resolution)
  | primaryKey (descending : Bool) (resolution : Option Resolution) (numbered : Bool)
  | unique (resolution : Option Resolution)
  | check (e : Expression) (source : String)
  | default (e : Expression)
  | collate (name : String)
  | references (reference : Reference)
  | generated (e : Expression) (storage : Option String)
  | primaryKeyOf (items : List KeyItem) (resolution : Option Resolution) (numbered : Bool)
  | uniqueOf (items : List KeyItem) (resolution : Option Resolution)
  | foreignKey (columns : List String) (reference : Reference)
  | remark
  deriving Repr, BEq

/-- What is said of a whole table after its body. -/
inductive TableOption where
  | strict
  | withoutRowNumbers
  deriving DecidableEq, Repr

/-- What the text of a declaration says, and where it goes wrong. What the clauses say is judged
first. -/
structure Declaration where
  clauses : List Clause
  options : List TableOption
  flaw : Option Flaw
  deriving Repr, BEq

end SchemaEvolution.Sqlite
