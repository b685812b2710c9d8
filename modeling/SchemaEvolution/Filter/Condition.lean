import SchemaEvolution.Error
import SchemaEvolution.Filter

/-!
# Conditions

A filter is written in one walk, from left to right. Each operand that is not null takes the next
placeholder, and the value that the placeholder binds is noted in the same step.
-/

namespace SchemaEvolution

/-- A condition with the parameters that its placeholders bind. -/
structure WhereClause where
  sql : String
  parameters : List InParameter
  deriving DecidableEq, Repr

/-- What a walk has bound so far: how many placeholders it wrote, and the values that it noted for
them, in order. -/
structure Bound where
  placeholders : Nat := 0
  values : List Value := []
  deriving DecidableEq, Repr

namespace Filter

/-- Writes an operand: the next placeholder, or the null literal. -/
def writeOperand (placeholder : Nat → String) (offset : Nat) (value : Value) :
    StateM Bound String := do
  if value.isNull then pure "NULL"
  else
    let bound ← get
    set (⟨bound.placeholders + 1, bound.values ++ [value]⟩ : Bound)
    pure (placeholder (offset + bound.placeholders))

/-- Writes a filter. Both sides of a connective stand in parentheses, and membership in an empty
list is a condition that never or always holds. -/
def write (quote : String → String) (placeholder : Nat → String) (offset : Nat) :
    Filter → StateM Bound String
  | .compare column comparison value =>
    match comparison, value.isNull with
    | .equal, true => pure (quote column ++ " IS NULL")
    | .notEqual, true => pure (quote column ++ " IS NOT NULL")
    | _, _ => do
      let operand ← writeOperand placeholder offset value
      pure (quote column ++ " " ++ comparison.operator ++ " " ++ operand)
  | .between column low high => do
    let low ← writeOperand placeholder offset low
    let high ← writeOperand placeholder offset high
    pure (quote column ++ " BETWEEN " ++ low ++ " AND " ++ high)
  | .oneOf column values negated => do
    if values.isEmpty then pure (if negated then "1 = 1" else "1 = 0")
    else
      let items ← values.mapM (writeOperand placeholder offset)
      pure (quote column ++ (if negated then " NOT IN" else " IN") ++ " (" ++
        ", ".intercalate items ++ ")")
  | .and left right => do
    let left ← left.write quote placeholder offset
    let right ← right.write quote placeholder offset
    pure ("(" ++ left ++ ") AND (" ++ right ++ ")")
  | .or left right => do
    let left ← left.write quote placeholder offset
    let right ← right.write quote placeholder offset
    pure ("(" ++ left ++ ") OR (" ++ right ++ ")")
  | .not inner => do
    let inner ← inner.write quote placeholder offset
    pure ("NOT (" ++ inner ++ ")")

/-- The condition that a filter is written as, with placeholders from `offset` on. A walk that wrote
another number of placeholders than it noted values is refused. -/
def compile (quote : String → String) (placeholder parameterName : Nat → String) (filter : Filter)
    (offset : Nat) : Except Error WhereClause :=
  let (body, bound) := (filter.write quote placeholder offset).run {}
  if bound.placeholders = bound.values.length then
    .ok ⟨"WHERE " ++ body, InParameter.number parameterName offset bound.values⟩
  else .error (.parameterMismatch bound.placeholders bound.values.length)

/-- The text of a condition alone. -/
def render (quote : String → String) (placeholder parameterName : Nat → String) (filter : Filter)
    (offset : Nat) : Except Error String :=
  (filter.compile quote placeholder parameterName offset).map (·.sql)

/-- The values that a filter binds, as a walk of its own notes them. -/
def boundValues (filter : Filter) : List Value :=
  ((filter.write id (fun _ => "") 0).run {}).2.values

end Filter

end SchemaEvolution
