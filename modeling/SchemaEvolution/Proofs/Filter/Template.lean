import SchemaEvolution.Filter

/-!
# Templates

The template of a filter is its text with a hole for each operand that is bound. It depends on the
filter and on how column names are quoted; where its placeholders start and how they look is decided
when the holes are filled.
-/

namespace SchemaEvolution

/-- A piece of a template. -/
inductive Fragment where
  | text (s : String)
  | hole
  deriving DecidableEq, Repr

namespace Fragment

/-- How many holes a template has. -/
def holes : List Fragment → Nat
  | [] => 0
  | .text _ :: rest => holes rest
  | .hole :: rest => holes rest + 1

/-- The text of a template whose holes are filled with the placeholders from `start` on. -/
def fill (placeholder : Nat → String) (start : Nat) : List Fragment → String
  | [] => ""
  | .text s :: rest => s ++ fill placeholder start rest
  | .hole :: rest => placeholder start ++ fill placeholder (start + 1) rest

/-- Templates between commas. -/
def commaSeparated : List (List Fragment) → List Fragment
  | [] => []
  | [item] => item
  | item :: items => item ++ .text ", " :: commaSeparated items

end Fragment

namespace Filter

/-- An operand: a hole, or the null literal. -/
def operandTemplate (value : Value) : List Fragment :=
  if value.isNull then [.text "NULL"] else [.hole]

/-- The template of a filter. Both sides of a connective stand in parentheses, and membership in an
empty list is a condition that never or always holds. -/
def template (quote : String → String) : Filter → List Fragment
  | .compare column .equal .null => [.text (quote column ++ " IS NULL")]
  | .compare column .notEqual .null => [.text (quote column ++ " IS NOT NULL")]
  | .compare column comparison value =>
    .text (quote column ++ " " ++ comparison.operator ++ " ") :: operandTemplate value
  | .between column low high =>
    .text (quote column ++ " BETWEEN ") ::
      (operandTemplate low ++ .text " AND " :: operandTemplate high)
  | .oneOf _ [] negated => [.text (if negated then "1 = 1" else "1 = 0")]
  | .oneOf column (value :: values) negated =>
    .text (quote column ++ if negated then " NOT IN (" else " IN (") ::
      (Fragment.commaSeparated ((value :: values).map operandTemplate) ++ [.text ")"])
  | .and left right =>
    .text "(" :: (left.template quote ++ .text ") AND (" :: (right.template quote ++ [.text ")"]))
  | .or left right =>
    .text "(" :: (left.template quote ++ .text ") OR (" :: (right.template quote ++ [.text ")"]))
  | .not inner => .text "NOT (" :: (inner.template quote ++ [.text ")"])

end Filter

end SchemaEvolution
