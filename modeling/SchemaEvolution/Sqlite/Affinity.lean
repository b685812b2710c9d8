import SchemaEvolution.Sqlite.Numeral
import SchemaEvolution.Sqlite.RealFormat
import SchemaEvolution.Text.Separated

/-!
# Affinities

A column converts what is stored in it, as far as its declared type asks for and the value allows.
-/

namespace SchemaEvolution.Sqlite

/-- How a column converts what is stored in it. -/
inductive Affinity where
  | integer
  | text
  | real
  | numeric
  | blob
  deriving DecidableEq, Repr

namespace Affinity

/-- The affinity of a declared type that is not empty, by the first of some words that occur in
it. -/
def ofWords (type : String) : Affinity :=
  let type := type.toUpper.toList
  let has (word : String) : Bool := Text.occurs word.toList type
  if has "INT" then .integer
  else if has "CHAR" || has "CLOB" || has "TEXT" then .text
  else if has "BLOB" then .blob
  else if has "REAL" || has "FLOA" || has "DOUB" then .real
  else .numeric

/-- The affinity of a declared type; without a type nothing is converted. -/
def ofType (type : String) : Affinity := if type.isEmpty then .blob else ofWords type

/-- Whether an affinity asks for numbers. -/
def isNumeric : Affinity → Bool
  | .integer | .real | .numeric => true
  | .text | .blob => false

/-- A value as a number if it is one, and as an integer if it is that. -/
def asNumber (v : Value) : Value :=
  match v with
  | .float x => integerIfExact x
  | .text s => (numberOf? s).getD v
  | v => v

/-- A value as a column of some affinity stores it. An integer becomes a real one last, so that
there is no negative zero. -/
def store (affinity : Affinity) (v : Value) : Value :=
  match affinity with
  | .integer | .numeric => asNumber v
  | .real =>
    match asNumber v with
    | .int n => .float (Binary64.ofInt n.toInt)
    | stored => stored
  | .text =>
    match v with
    | .int n => .text (toString n.toInt)
    | .float x => .text (realText x)
    | v => v
  | .blob => v

end Affinity

end SchemaEvolution.Sqlite
