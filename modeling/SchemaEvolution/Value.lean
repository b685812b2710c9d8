import SchemaEvolution.Number.Integer
import SchemaEvolution.Number.Shortest
import SchemaEvolution.Text.Blank
import SchemaEvolution.Text.Quoted

/-!
# Values

The values that a statement binds and a row holds.
-/

namespace SchemaEvolution

/-- A value of a cell. -/
inductive Value where
  | null
  | bool (b : Bool)
  | int (n : Int64)
  | float (x : Binary64)
  | text (s : String)
  | blob (bytes : List UInt8)
  deriving DecidableEq, Repr, Inhabited

namespace Value

/-- Whether the value is null. -/
def isNull : Value → Bool
  | .null => true
  | _ => false

/-- The nearest 64-bit integer to an integer. -/
def clamp (n : Int) : Int64 :=
  if n < -9223372036854775808 then Int64.minValue
  else if 9223372036854775807 < n then Int64.maxValue
  else Int64.ofInt n

/-- The integer that a value stands for: a truth value is one or zero, a double stands for the
integer it stores, brought into range, and a text for the integer written in it. -/
def toInt? : Value → Option Int64
  | .int n => some n
  | .bool b => some (if b then 1 else 0)
  | .float x => x.toInt?.map clamp
  | .text s => Number.readInt64 (Text.trim s.toList)
  | _ => none

/-- The text of a text value. -/
def toText? : Value → Option String
  | .text s => some s
  | _ => none

/-- The value as a literal inside a statement. -/
def literal : Value → String
  | .null => "NULL"
  | .bool b => if b then "TRUE" else "FALSE"
  | .int n => toString n.toInt
  | .float x => x.text
  | .text s => Text.quote '\x27' '\x27' s
  | .blob bytes => "X'" ++ String.ofList (bytes.flatMap Number.hexByte) ++ "'"

/-- Equality of values of one kind; doubles are compared as numbers. -/
def same : Value → Value → Bool
  | .float x, .float y => x.same y
  | x, y => x == y

/-- The value or null. -/
def ofOption {α : Type} (f : α → Value) : Option α → Value
  | none => .null
  | some a => f a

end Value

/-- Whether a count stands for at least one. -/
def Value.isPositive (v : Value) : Bool := 0 < v.toInt?.getD 0

end SchemaEvolution
