import SchemaEvolution.Value

/-!
# Filters

A filter is a predicate on rows, as a tree. A comparison for equality with null asks whether the
column is null; no other operand may be bound as null, so null operands are written out.
-/

namespace SchemaEvolution

/-- A comparison. -/
inductive Comparison where
  | equal
  | notEqual
  | greater
  | greaterOrEqual
  | less
  | lessOrEqual
  | like
  deriving DecidableEq, Repr

namespace Comparison

/-- The comparisons with their names. -/
def names : List (String × Comparison) :=
  [("Eq", .equal), ("Ne", .notEqual), ("Gt", .greater), ("Ge", .greaterOrEqual), ("Lt", .less),
   ("Le", .lessOrEqual), ("Like", .like)]

/-- The name of a comparison. -/
def name : Comparison → String
  | .equal => "Eq"
  | .notEqual => "Ne"
  | .greater => "Gt"
  | .greaterOrEqual => "Ge"
  | .less => "Lt"
  | .lessOrEqual => "Le"
  | .like => "Like"

/-- The operator that writes a comparison. -/
def operator : Comparison → String
  | .equal => "="
  | .notEqual => "<>"
  | .greater => ">"
  | .greaterOrEqual => ">="
  | .less => "<"
  | .lessOrEqual => "<="
  | .like => "LIKE"

end Comparison

/-- A predicate on rows. -/
inductive Filter where
  | compare (column : String) (comparison : Comparison) (value : Value)
  | between (column : String) (low high : Value)
  | oneOf (column : String) (values : List Value) (negated : Bool)
  | and (left right : Filter)
  | or (left right : Filter)
  | not (inner : Filter)
  deriving DecidableEq, Repr

namespace Filter

/-- The column has a value. -/
def equals (column : String) (value : Value) : Filter := .compare column .equal value

/-- The column is null. -/
def isNull (column : String) : Filter := .compare column .equal .null

/-- The column is not null. -/
def isNotNull (column : String) : Filter := .compare column .notEqual .null

/-- The values that a filter binds, from left to right: its operands without the nulls. -/
def operands : Filter → List Value
  | .compare _ _ value => [value].filter (!·.isNull)
  | .between _ low high => [low, high].filter (!·.isNull)
  | .oneOf _ values _ => values.filter (!·.isNull)
  | .and left right => left.operands ++ right.operands
  | .or left right => left.operands ++ right.operands
  | .not inner => inner.operands

end Filter

end SchemaEvolution
