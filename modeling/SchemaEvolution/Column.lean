import SchemaEvolution.Number.Shortest
import SchemaEvolution.Text.Quoted

/-!
# Columns

The logical description of a column, which each dialect writes in its own words.
-/

namespace SchemaEvolution

/-- A logical column type. -/
inductive ColumnType where
  | smallInt
  | integer
  | bigInt
  | string
  | fixedString
  | text
  | boolean
  | date
  | time
  | dateTime
  | real
  | double
  | decimal
  | binary
  | guid
  deriving DecidableEq, Repr

/-- The column types with their names. -/
def ColumnType.names : List (String × ColumnType) :=
  [("SmallInt", .smallInt), ("Integer", .integer), ("BigInt", .bigInt), ("String", .string),
   ("FixedString", .fixedString), ("Text", .text), ("Boolean", .boolean), ("Date", .date),
   ("Time", .time), ("DateTime", .dateTime), ("Real", .real), ("Double", .double),
   ("Decimal", .decimal), ("Binary", .binary), ("Guid", .guid)]

/-- The name of a column type. -/
def ColumnType.name : ColumnType → String
  | .smallInt => "SmallInt"
  | .integer => "Integer"
  | .bigInt => "BigInt"
  | .string => "String"
  | .fixedString => "FixedString"
  | .text => "Text"
  | .boolean => "Boolean"
  | .date => "Date"
  | .time => "Time"
  | .dateTime => "DateTime"
  | .real => "Real"
  | .double => "Double"
  | .decimal => "Decimal"
  | .binary => "Binary"
  | .guid => "Guid"

/-- The default of a column. -/
inductive DefaultValue where
  | null
  | bool (b : Bool)
  | integer (n : Int64)
  | float (x : Binary64)
  | string (s : String)
  | expression (sql : String)
  deriving DecidableEq, Repr

/-- The default in words that every dialect takes; truth values are one and zero. -/
def DefaultValue.literal : DefaultValue → String
  | .null => "NULL"
  | .bool b => if b then "1" else "0"
  | .integer n => toString n.toInt
  | .float x => x.text
  | .string s => Text.quote '\x27' '\x27' s
  | .expression sql => sql

/-- A column of a table. -/
structure Column where
  name : String
  type : ColumnType
  nullable : Bool := true
  default : Option DefaultValue := none
  size : Option UInt32 := none
  precision : Option UInt8 := none
  scale : Option UInt8 := none
  primaryKey : Bool := false
  autoIncrement : Bool := false
  unique : Bool := false
  comment : Option String := none
  deriving DecidableEq, Repr

namespace Column

/-- A nullable 32-bit integer column. -/
def integer (name : String) : Column := ⟨name, .integer, true, none, none, none, none, false, false,
  false, none⟩

/-- A nullable column of some type. -/
def ofType (name : String) (type : ColumnType) : Column := { integer name with type }

/-- The column that takes no nulls. -/
def notNull (c : Column) : Column := { c with nullable := false }

/-- The column that takes nulls. -/
def allowNull (c : Column) : Column := { c with nullable := true }

/-- The column with a default. -/
def withDefault (c : Column) (value : DefaultValue) : Column := { c with default := some value }

/-- The column with a length. -/
def withSize (c : Column) (size : UInt32) : Column := { c with size := some size }

/-- The column with a precision and a scale. -/
def withPrecision (c : Column) (precision scale : UInt8) : Column :=
  { c with precision := some precision, scale := some scale }

/-- The column as primary key, which takes no nulls. -/
def asPrimaryKey (c : Column) : Column := { c with primaryKey := true, nullable := false }

/-- The column that numbers itself. -/
def asAutoIncrement (c : Column) : Column := { c with autoIncrement := true }

/-- The column whose values are unique. -/
def asUnique (c : Column) : Column := { c with unique := true }

/-- The column with a comment. -/
def withComment (c : Column) (comment : String) : Column := { c with comment := some comment }

/-- The length of a string column; 255 when none is given. -/
def stringSize (c : Column) : UInt32 := c.size.getD 255

/-- The precision and scale of a decimal column; 18 and 2 when none are given. -/
def decimalPrecision (c : Column) : UInt8 × UInt8 := (c.precision.getD 18, c.scale.getD 2)

end Column

end SchemaEvolution
