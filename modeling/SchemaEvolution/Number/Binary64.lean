/-!
# Double precision numbers

A double is its 64 bits, so equality, rounding, reading and writing are exact. A finite double is
an integer `significand` times a power of two, and `ofRatio` is the one place that rounds.
-/

namespace SchemaEvolution

/-- A double precision number, as its bit pattern. -/
structure Binary64 where
  bits : UInt64
  deriving DecidableEq, Repr, Inhabited

namespace Binary64

/-- Whether the sign bit is set. -/
def negative (x : Binary64) : Bool := x.bits >>> 63 == 1

/-- What the sign bit counts for: two to the 63. -/
def signWeight : Nat := 0x8000000000000000

/-- How many fractions there are for each exponent: two to the 52. -/
def fractionCount : Nat := 0x10000000000000

/-- The bits below the sign. -/
def magnitude (x : Binary64) : Nat := x.bits.toNat % signWeight

/-- The bits of infinity below the sign; greater ones are no numbers. -/
def infinityMagnitude : Nat := 0x7FF0000000000000

/-- Whether the value is not a number. -/
def isNaN (x : Binary64) : Bool := infinityMagnitude < x.magnitude

/-- Whether the value is an infinity. -/
def isInfinite (x : Binary64) : Bool := x.magnitude == infinityMagnitude

/-- Whether the value is a number and no infinity. -/
def isFinite (x : Binary64) : Bool := x.magnitude < infinityMagnitude

/-- The integer that, times two to the `exponent`, is the absolute value of a finite double. -/
def significand (x : Binary64) : Nat :=
  if x.magnitude / fractionCount = 0 then x.magnitude
  else fractionCount + x.magnitude % fractionCount

/-- The power of two that goes with the `significand`. -/
def exponent (x : Binary64) : Int :=
  if x.magnitude / fractionCount = 0 then -1074 else (x.magnitude / fractionCount : Nat) - 1075

/-- A double from its sign and the bits below it. -/
def ofMagnitude (negative : Bool) (magnitude : Nat) : Binary64 :=
  ⟨UInt64.ofNat (if negative then signWeight + magnitude else magnitude)⟩

/-- Zero with a sign. -/
def zero (negative : Bool) : Binary64 := ofMagnitude negative 0

/-- Infinity with a sign. -/
def infinity (negative : Bool) : Binary64 := ofMagnitude negative infinityMagnitude

/-- The value that is not a number. -/
def nan : Binary64 := ⟨0x7FF8000000000000⟩

/-- A quotient rounded to the nearest integer, a half to the even one. -/
def roundHalfEven (num den : Nat) : Nat :=
  let quotient := num / den
  match compare (2 * (num % den)) den with
  | .lt => quotient
  | .gt => quotient + 1
  | .eq => if quotient % 2 = 0 then quotient else quotient + 1

/-- The quotient `num / den` scaled down by two to the `e`, rounded to the nearest integer. -/
def scaledRound (num den : Nat) (e : Int) : Nat :=
  roundHalfEven (num * Nat.pow 2 (-e).toNat) (den * Nat.pow 2 e.toNat)

/-- The power of two at which `num / den` has 53 binary digits, but never below the least one. -/
def scaleOf (num den : Nat) : Int :=
  let guess : Int := (num.log2 : Int) - den.log2 - 52
  let fits :=
    den * Nat.pow 2 guess.toNat * fractionCount ≤ num * Nat.pow 2 (-guess).toNat
  max (if fits then guess else guess - 1) (-1074)

/-- The double nearest to `num / den`, ties to the even significand; too large is infinity. -/
def ofRatio (negative : Bool) (num den : Nat) : Binary64 :=
  if num = 0 then zero negative
  else
    let e := scaleOf num den
    let magnitude := (e + 1074).toNat * fractionCount + scaledRound num den e
    ofMagnitude negative (min magnitude infinityMagnitude)

/-- The double nearest to `digits` times ten to the `e`. -/
def ofDecimal (negative : Bool) (digits : Nat) (e : Int) : Binary64 :=
  if digits = 0 then zero negative
  else if 400 < e then infinity negative
  else if e < -400 - (digits.log2 : Int) then zero negative
  else ofRatio negative (digits * Nat.pow 10 e.toNat) (Nat.pow 10 (-e).toNat)

/-- The double nearest to a natural number. -/
def ofNat (n : Nat) : Binary64 := ofRatio false n 1

/-- The absolute value of a finite double as a quotient. -/
def ratio (x : Binary64) : Nat × Nat :=
  (x.significand * Nat.pow 2 x.exponent.toNat, Nat.pow 2 (-x.exponent).toNat)

/-- The product of two finite doubles' absolute values, rounded once. -/
def mulAbs (x y : Binary64) : Binary64 :=
  ofRatio false (x.ratio.1 * y.ratio.1) (x.ratio.2 * y.ratio.2)

/-- The quotient of two finite doubles' absolute values, rounded once. -/
def divAbs (x y : Binary64) : Binary64 :=
  ofRatio false (x.ratio.1 * y.ratio.2) (x.ratio.2 * y.ratio.1)

/-- The double with its sign set as given. -/
def withSign (x : Binary64) (negative : Bool) : Binary64 := ofMagnitude negative x.magnitude

/-- The integer that a finite double stores, if it stores one. -/
def toInt? (x : Binary64) : Option Int :=
  if x.isFinite then
    let (num, den) := x.ratio
    if num % den = 0 then
      some (if x.negative then -((num / den : Nat) : Int) else ((num / den : Nat) : Int))
    else none
  else none

/-- Numeric equality: the two zeros are equal, and what is not a number equals nothing. -/
def same (x y : Binary64) : Bool :=
  !x.isNaN && !y.isNaN && (x == y || (x.magnitude == 0 && y.magnitude == 0))

end Binary64

end SchemaEvolution
