import Mathlib.Logic.Basic
import SchemaEvolution.Operation.Basic
import SchemaEvolution.Sqlite.Arithmetic

/-!
# Filters on rows

What a filter says of a row, in a logic with three truth values: nothing is known of a comparison
with null, and what is not known of one side of a connective may not matter. How values compare that
are not null is left open. A row meets the filter for a row of values if and only if it agrees with
each of them (`evaluate_rowFilter_iff`).
-/

namespace SchemaEvolution

/-- A row: what stands in each column. -/
abbrev Row : Type := String → Value

/-- Which comparisons hold of values that are not null. -/
abbrev Comparison.Test : Type := Comparison → Value → Value → Bool

/-- Whether the value is not a number. -/
def Value.isNaN : Value → Bool
  | .float x => x.isNaN
  | _ => false

variable (holds : Comparison.Test)

/-- A cell agrees with a value: both are null, or neither is and they are equal. -/
def Value.agrees (cell value : Value) : Bool :=
  if value.isNull then cell.isNull else !cell.isNull && holds .equal cell value

namespace Filter

/-! ### Evaluation -/

/-- What is known of a comparison of a cell with an operand. -/
def compared (comparison : Comparison) (cell operand : Value) : Option Bool :=
  if cell.isNull || operand.isNull then none else some (holds comparison cell operand)

/-- Whether a cell is equal to one of some operands. -/
def isAmong (cell : Value) : List Value → Option Bool
  | [] => some false
  | operand :: rest => Sqlite.oneTrue (compared holds .equal cell operand) (isAmong cell rest)

/-- What a filter says of a row. -/
def evaluate (row : Row) : Filter → Option Bool
  | .compare column comparison operand =>
    match comparison, operand.isNull with
    | .equal, true => some (row column).isNull
    | .notEqual, true => some !(row column).isNull
    | _, _ => compared holds comparison (row column) operand
  | .between column low high =>
    Sqlite.bothTrue (compared holds .greaterOrEqual (row column) low)
      (compared holds .lessOrEqual (row column) high)
  | .oneOf column operands negated =>
    if negated then (isAmong holds (row column) operands).map Bool.not
    else isAmong holds (row column) operands
  | .and left right => Sqlite.bothTrue (left.evaluate row) (right.evaluate row)
  | .or left right => Sqlite.oneTrue (left.evaluate row) (right.evaluate row)
  | .not inner => (inner.evaluate row).map Bool.not

theorem bothTrue_eq_some_true_iff {a b : Option Bool} :
    Sqlite.bothTrue a b = some true ↔ a = some true ∧ b = some true := by
  rcases a with _ | _ | _ <;> rcases b with _ | _ | _ <;> decide

variable {holds} {row : Row}

/-- A cell that is compared for equality agrees with the operand, or the comparison is not true. -/
theorem evaluate_equals_iff {column : String} {value : Value} :
    (equals column value).evaluate holds row = some true ↔
      (row column).agrees holds value = true := by
  cases hvalue : value.isNull with
  | true => simp [equals, evaluate, Value.agrees, hvalue]
  | false =>
    cases hcell : (row column).isNull <;>
      simp [equals, evaluate, Value.agrees, compared, hvalue, hcell]

/-- All of some filters are true of a row if each of them is. -/
theorem evaluate_allOf_iff {filters : List Filter} {filter : Filter}
    (h : Operation.allOf filters = some filter) :
    filter.evaluate holds row = some true ↔ ∀ f ∈ filters, f.evaluate holds row = some true := by
  cases filters with
  | nil => cases h
  | cons first rest =>
    cases h
    -- The filters are folded from the left, so the first one grows.
    induction rest generalizing first with
    | nil => simp
    | cons next rest ih =>
      rw [List.foldl_cons, ih]
      simp [evaluate, bothTrue_eq_some_true_iff, and_assoc]

/-- A row meets the filter for a row of values if and only if it agrees with each of them. -/
theorem evaluate_rowFilter_iff {columns : List String} {values : List Value} {filter : Filter}
    (h : Operation.rowFilter columns values = some filter) :
    filter.evaluate holds row = some true ↔
      ∀ p ∈ columns.zip values, (row p.1).agrees holds p.2 = true := by
  rw [evaluate_allOf_iff h]
  have heach : List.zipWith equals columns values =
      (columns.zip values).map fun p => equals p.1 p.2 := by
    rw [List.map_zip_eq_zipWith]
    rfl
  rw [heach, List.forall_mem_map]
  exact forall₂_congr fun p _ => evaluate_equals_iff

end Filter

end SchemaEvolution
