import SchemaEvolution.Number.Binary64

/-!
# Shortest decimal text

A double is written with the fewest decimal digits that read back to it, positionally and without
an exponent. Among the shortest candidates the nearer one is taken, and of two equally near ones
the greater.
-/

namespace SchemaEvolution.Binary64

/-- `digits` times ten to the `exponent`. -/
structure Decimal where
  digits : Nat
  exponent : Int
  deriving DecidableEq, Repr

/-- Compares `a * 10^i` with `n * 2^j`. -/
def compareScaled (a : Nat) (i : Int) (n : Nat) (j : Int) : Ordering :=
  compare (a * Nat.pow 10 i.toNat * Nat.pow 2 (-j).toNat)
    (n * Nat.pow 2 j.toNat * Nat.pow 10 (-i).toNat)

/-- Whether the neighbour below is half as far away as the one above: so it is at the powers of
two, except the least ones. -/
def narrowBelow (x : Binary64) : Bool :=
  x.magnitude % fractionCount == 0 && 1 < x.magnitude / fractionCount

/-- Whether a decimal lies among the reals that round to the absolute value of a finite double:
between the midpoints to its neighbours, which belong to it when the significand is even. -/
def readsBack (x : Binary64) (d : Decimal) : Bool :=
  let low := if x.narrowBelow then 4 * x.significand - 1 else 4 * x.significand - 2
  let high := 4 * x.significand + 2
  let inclusive := x.significand % 2 == 0
  let atLow := compareScaled d.digits d.exponent low (x.exponent - 2)
  let atHigh := compareScaled d.digits d.exponent high (x.exponent - 2)
  (atLow == .gt || (inclusive && atLow == .eq)) && (atHigh == .lt || (inclusive && atHigh == .eq))

/-- The least power of ten above a positive double. -/
def decimalScale (x : Binary64) : Int :=
  let guess : Int := ((x.significand.log2 : Int) + x.exponent) * 30103 / 100000
  let above (k : Int) : Bool := compareScaled 1 k x.significand x.exponent == .gt
  if above (guess - 1) then guess - 1
  else if above guess then guess
  else if above (guess + 1) then guess + 1
  else guess + 2

/-- The candidate with `n` digits: of the two neighbours of the value on the grid of `n` digits,
one that reads back, the nearer one if both do, the upper one at a tie. -/
def candidate (x : Binary64) (n : Nat) : Option Decimal :=
  let e := x.decimalScale - n
  let num := x.significand * Nat.pow 2 x.exponent.toNat * Nat.pow 10 (-e).toNat
  let den := Nat.pow 2 (-x.exponent).toNat * Nat.pow 10 e.toNat
  let below : Decimal := ⟨num / den, e⟩
  let above : Decimal := ⟨num / den + 1, e⟩
  match x.readsBack below, x.readsBack above with
  | true, true => some (if 2 * (num % den) < den then below else above)
  | true, false => some below
  | false, true => some above
  | false, false => none

/-- The exact decimal value of a finite double. -/
def exactDecimal (x : Binary64) : Decimal :=
  if 0 ≤ x.exponent then ⟨x.significand * Nat.pow 2 x.exponent.toNat, 0⟩
  else ⟨x.significand * Nat.pow 5 (-x.exponent).toNat, x.exponent⟩

/-- The shortest decimal that reads back to a positive finite double. -/
def shortest (x : Binary64) : Decimal :=
  ((List.range 17).findSome? fun n => x.candidate (n + 1)).getD x.exactDecimal

/-- A decimal written positionally, without zeros at the end of a fraction. -/
def Decimal.layout (d : Decimal) : List Char :=
  let digits := Nat.toDigits 10 d.digits
  if 0 ≤ d.exponent then digits ++ List.replicate d.exponent.toNat '0'
  else
    let places := (-d.exponent).toNat
    let padded := List.replicate (places + 1 - digits.length) '0' ++ digits
    let whole := padded.take (padded.length - places)
    let fraction := ((padded.drop (padded.length - places)).reverse.dropWhile (· == '0')).reverse
    if fraction.isEmpty then whole else whole ++ '.' :: fraction

/-- The text of a double. -/
def text (x : Binary64) : String :=
  if x.isNaN then "NaN"
  else
    let body :=
      if x.isInfinite then "inf".toList
      else if x.magnitude = 0 then ['0']
      else x.shortest.layout
    String.ofList (if x.negative then '-' :: body else body)

example : (ofDecimal false 1 (-1)).text = "0.1" := by decide +kernel
example : (ofDecimal true 15 (-1)).text = "-1.5" := by decide +kernel

end SchemaEvolution.Binary64
