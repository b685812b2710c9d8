/-!
# Reading integers

An integer is written as an optional sign and one or more decimal digits. The readers take any
number of digits and refuse what does not fit 64 bits.
-/

namespace SchemaEvolution.Number

/-- How many values 64 bits have: two to the 64. -/
def wordCount : Nat := 0x10000000000000000

/-- The value of a run of decimal digits. -/
def digitsValue (digits : List Char) : Nat := Nat.ofDigitChars 10 digits 0

/-- A non-empty run of decimal digits and nothing else. -/
def readDigits (text : List Char) : Option Nat :=
  if text.isEmpty || !text.all Char.isDigit then none else some (digitsValue text)

/-- The integer as a 64-bit one, if it fits. -/
def toInt64? (n : Int) : Option Int64 :=
  if -9223372036854775808 ≤ n ∧ n ≤ 9223372036854775807 then some (Int64.ofInt n) else none

/-- An integer written with an optional sign. -/
def readSigned : List Char → Option Int
  | '-' :: digits => (readDigits digits).map fun n => -(n : Int)
  | '+' :: digits => (readDigits digits).map Int.ofNat
  | digits => (readDigits digits).map Int.ofNat

/-- A 64-bit integer written with an optional sign. -/
def readInt64 (text : List Char) : Option Int64 := readSigned text >>= toInt64?

/-- Two upper case hexadecimal digits. -/
def hexByte (byte : UInt8) : List Char :=
  let digit (n : Nat) : Char := if n < 10 then Char.ofNat (48 + n) else Char.ofNat (55 + n)
  [digit (byte.toNat / 16), digit (byte.toNat % 16)]

end SchemaEvolution.Number
