import SchemaEvolution.Sqlite.Affinity
import SchemaEvolution.Text.Utf8

/-!
# Conversions of values

What a value is as an integer, as a double, as a text, as bytes or as a truth value, and what it is
cast to. A text is converted by the number that it starts with.
-/

namespace SchemaEvolution.Sqlite

/-- The text of some bytes. -/
def textOfBytes (bytes : List UInt8) : String :=
  String.ofList (Text.decodeLossy bytes.length bytes)

/-- The bytes of a text. -/
def bytesOfText (s : String) : List UInt8 := s.toUTF8.toList

end SchemaEvolution.Sqlite

namespace SchemaEvolution.Value

open Sqlite

/-- An integer of 64 bits as a value. -/
def ofInt (n : Int) : Value := .int (Int64.ofInt n)

/-- A truth value as one or zero. -/
def ofBool (b : Bool) : Value := .int (if b then 1 else 0)

/-- A double as a value; what is not a number is null. -/
def ofReal (x : Binary64) : Value := if x.isNaN then .null else .float x

/-- A value as a text; null is the empty one. -/
def asText : Value → String
  | .null => ""
  | .bool b => if b then "1" else "0"
  | .int n => toString n.toInt
  | .float x => realText x
  | .text s => s
  | .blob bytes => textOfBytes bytes

/-- A value as bytes. -/
def asBytes : Value → List UInt8
  | .blob bytes => bytes
  | v => bytesOfText v.asText

/-- A value as an integer of 64 bits. -/
def asInteger : Value → Int
  | .null => 0
  | .bool b => if b then 1 else 0
  | .int n => n.toInt
  | .float x => saturateReal x
  | v => (integerOfText v.asText.toList).value

/-- A value as a double. -/
def asReal : Value → Binary64
  | .null => Binary64.zero false
  | .bool b => Binary64.ofInt (if b then 1 else 0)
  | .int n => Binary64.ofInt n.toInt
  | .float x => x
  | v => (realOfText v.asText.toList).1

/-- A value as a truth value: null is neither, and a number is true unless it is zero. -/
def truth? : Value → Option Bool
  | .null => none
  | .bool b => some b
  | .int n => some (n ≠ 0)
  | v => some (v.asReal.magnitude ≠ 0)

/-- A value as an operand of arithmetic: a text counts as the number that it starts with. -/
def asOperand (v : Value) : Value :=
  let ofText (s : String) : Value :=
    let (x, extent) := realOfText s.toList
    let n := integerOfText s.toList
    match extent with
    | .integer => if n.fits && n.whole then ofInt n.value else .float x
    | .other => if n.fits then ofInt n.value else .float x
    | .decimal | .decimalStart => .float x
  match v with
  | .text s => ofText s
  | .blob bytes => ofText (textOfBytes bytes)
  | v => v

/-- A double as an integer if it is one that a double stores without doubt. -/
def smallIntegerIfExact (x : Binary64) : Value :=
  match x.toInt? with
  | some n =>
    if -2251799813685248 ≤ n && n < 2251799813685248 then ofInt n else .float x
  | none => .float x

/-- A text cast to a number. -/
def castNumeric (text : List Char) : Value :=
  let (x, extent) := realOfText text
  let n := integerOfText text
  match extent with
  | .integer | .other => if n.fits then ofInt n.value else smallIntegerIfExact x
  | .decimal | .decimalStart => smallIntegerIfExact x

/-- A value cast to a type of some affinity. -/
def cast (affinity : Affinity) (v : Value) : Value :=
  match v, affinity with
  | .null, _ => .null
  | _, .blob => .blob v.asBytes
  | _, .text => .text v.asText
  | _, .integer => ofInt v.asInteger
  | _, .real => ofReal v.asReal
  | .text s, .numeric => castNumeric s.toList
  | .blob bytes, .numeric => castNumeric (textOfBytes bytes).toList
  | v, .numeric => v

end SchemaEvolution.Value
