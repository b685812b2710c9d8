import SchemaEvolution.Json.Row

/-!
# Filters in postfix form

A filter as a list of steps on a stack of filters. A step is a list: its name and its arguments.
Comparisons push a filter, connectives take their operands from the stack, the right one first.
-/

namespace SchemaEvolution.Filter

open Json

/-- The comparisons that a step names. -/
def comparisonSteps : List (String × Comparison) :=
  [("eq", .equal), ("ne", .notEqual), ("gt", .greater), ("ge", .greaterOrEqual), ("lt", .less),
   ("le", .lessOrEqual)]

/-- A filter on one column, by the name of its step and what follows the column. -/
def ofStep (depth : Nat) (name column : String) : List Json → Option Filter
  | [] =>
    match name with
    | "is_null" => some (.isNull column)
    | "is_not_null" => some (.isNotNull column)
    | _ => none
  | [j] =>
    match name with
    | "like" => j.string?.map fun pattern => .compare column .like (.text pattern)
    | "in_list" => (list? Value.ofLenientJson depth j).map fun vs => .oneOf column vs false
    | "not_in_list" => (list? Value.ofLenientJson depth j).map fun vs => .oneOf column vs true
    | _ => do some (.compare column (← comparisonSteps.lookup name) (← Value.ofLenientJson depth j))
  | [low, high] =>
    match name with
    | "between" => do
      some (.between column (← Value.ofLenientJson depth low) (← Value.ofLenientJson depth high))
    | _ => none
  | _ => none

/-- The stack after a step. -/
def step (depth : Nat) (stack : List Filter) (name : String) (arguments : List Json) :
    Option (List Filter) :=
  match name, arguments, stack with
  | "and", [], right :: left :: rest => some (.and left right :: rest)
  | "or", [], right :: left :: rest => some (.or left right :: rest)
  | "not", [], top :: rest => some (.not top :: rest)
  | "not_times", [n], top :: rest =>
    (count? n).map fun n => n.repeat Filter.not top :: rest
  | name, .str (some column) :: more, stack => (ofStep depth name column more).map (· :: stack)
  | _, _, _ => none

/-- The filter on top of the stack after some steps. -/
def ofPostfix : Reader Filter
  | depth, .arr steps => do
    let stack ← steps.foldlM (fun stack j =>
      match j with
      | .arr (.str (some name) :: arguments) => step depth stack name arguments
      | _ => none) []
    stack.head?
  | _, _ => none

end SchemaEvolution.Filter
