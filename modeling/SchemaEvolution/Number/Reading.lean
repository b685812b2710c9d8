import SchemaEvolution.Number.Binary64
import SchemaEvolution.Number.Integer

/-!
# Reading decimals

Two readers of decimal text. `Binary64.read?` takes any decimal text and gives the nearest double.
`Literal.toBinary64?` takes the number literals of JSON and multiplies or divides the leading
digits by one power of ten, which rounds more than once for long literals.
-/

namespace SchemaEvolution

/-- A number literal: sign, digits before the point, digits after it, and a signed exponent. -/
structure Literal where
  negative : Bool
  whole : List Char
  fraction : Option (List Char)
  exponent : Option (Option Char × List Char)
  deriving DecidableEq, Repr

namespace Binary64

/-- Splits a text into its leading decimal digits and the rest. -/
def spanDigits (text : List Char) : List Char × List Char :=
  (text.takeWhile Char.isDigit, text.dropWhile Char.isDigit)

/-- An exponent: an `e`, an optional sign and digits. No exponent is zero. -/
def readExponent : List Char → Option Int
  | [] => some 0
  | mark :: rest => if mark = 'e' || mark = 'E' then Number.readSigned rest else none

/-- Digits with an optional point and an optional exponent, at least one digit among them. -/
def readUnsigned (negative : Bool) (text : List Char) : Option Binary64 :=
  let (whole, rest) := spanDigits text
  let (fraction, rest) :=
    match rest with
    | '.' :: after => spanDigits after
    | _ => ([], rest)
  if whole.isEmpty && fraction.isEmpty then none
  else
    (readExponent rest).map fun e =>
      ofDecimal negative (Number.digitsValue (whole ++ fraction)) (e - fraction.length)

/-- The words that stand for infinities and for what is not a number, in any case. -/
def readWord (negative : Bool) (text : List Char) : Option Binary64 :=
  match String.ofList (text.map Char.toLower) with
  | "inf" => some (infinity negative)
  | "infinity" => some (infinity negative)
  | "nan" => some (nan.withSign negative)
  | _ => none

/-- The double nearest to a decimal text with an optional sign. -/
def read? (text : String) : Option Binary64 :=
  let signed (negative : Bool) (body : List Char) :=
    (readWord negative body).orElse fun _ => readUnsigned negative body
  match text.toList with
  | '-' :: body => signed true body
  | '+' :: body => signed false body
  | body => signed false body

end Binary64

namespace Literal

/-- Whether a literal is written as an integer. -/
def isIntegral (l : Literal) : Bool := l.fraction.isNone && l.exponent.isNone

/-- The integer that a literal without fraction and exponent denotes, if it is one of 64 bits,
signed or not. Minus zero is no integer. -/
def toInt? (l : Literal) : Option Int :=
  if !l.isIntegral then none
  else
    let n := Number.digitsValue l.whole
    if l.negative then if n = 0 || 0x8000000000000000 < n then none else some (-(n : Int))
    else if Number.wordCount ≤ n then none else some n

/-- The leading digits that fit 64 bits, and how many of the digits given were used. -/
def leadingDigits (start : Nat) : List Char → Nat × Nat
  | [] => (start, 0)
  | c :: rest =>
    let next := start * 10 + (c.toNat - 48)
    if Number.wordCount ≤ next then (start, 0)
    else
      let (value, used) := leadingDigits next rest
      (value, used + 1)

/-- Brings `significand` to the power of ten `e`: one multiplication or division by a double that
is a power of ten, after divisions by `10^308` while the power is below the least double's. -/
def scale (significand : Binary64) (e : Int) : Nat → Option Binary64
  | 0 => some significand
  | fuel + 1 =>
    if e.natAbs ≤ 308 then
      if 0 ≤ e then
        let product := significand.mulAbs (Binary64.ofDecimal false 1 e)
        if product.isInfinite then none else some product
      else some (significand.divAbs (Binary64.ofDecimal false 1 (-e)))
    else if significand.magnitude = 0 then some significand
    else if 0 ≤ e then none
    else scale (significand.divAbs (Binary64.ofDecimal false 1 308)) (e + 308) fuel

/-- The power of ten written after the `e`, if it fits 32 bits. -/
def exponentValue (l : Literal) : Option Int :=
  match l.exponent with
  | none => some 0
  | some (sign, digits) =>
    let n := Number.digitsValue digits
    if 0x80000000 ≤ n then none else some (if sign = some '-' then -(n : Int) else n)

/-- The double that a literal denotes; a literal beyond the greatest double denotes none. -/
def toBinary64? (l : Literal) : Option Binary64 :=
  let (start, used) := leadingDigits 0 l.whole
  let dropped := l.whole.length - used
  let (significand, fractionUsed) := leadingDigits start (l.fraction.getD [])
  match l.exponentValue with
  | some e =>
    let power : Int := dropped - fractionUsed + e
    (scale (Binary64.ofNat significand) power (power.natAbs / 308 + 2)).map (·.withSign l.negative)
  | none =>
    if significand ≠ 0 && (l.exponent.map (·.1)) ≠ some (some '-') then none
    else some (Binary64.zero l.negative)

end Literal

end SchemaEvolution
