import SchemaEvolution.Number.Binary64

/-!
# Arithmetic on doubles

The four operations and the order of doubles. Each operation computes the exact result of its finite
operands as a quotient and rounds it once.
-/

namespace SchemaEvolution.Binary64

/-- The double nearest to an integer. -/
def ofInt (n : Int) : Binary64 := ofRatio (n < 0) n.natAbs 1

/-- The double of the opposite sign. -/
def neg (x : Binary64) : Binary64 := x.withSign (!x.negative)

/-- The significand of a finite double with its sign. -/
def signedSignificand (x : Binary64) : Int :=
  if x.negative then -(x.significand : Int) else x.significand

/-- A finite double as an integer times two to the `e`, which is at most its own exponent. -/
def scaledTo (x : Binary64) (e : Int) : Int :=
  x.signedSignificand * (Nat.pow 2 (x.exponent - e).toNat : Nat)

/-- The sum; opposite infinities have none. -/
def add (x y : Binary64) : Binary64 :=
  if x.isNaN || y.isNaN then nan
  else if x.isInfinite then if y.isInfinite && x.negative != y.negative then nan else x
  else if y.isInfinite then y
  else
    let e := min x.exponent y.exponent
    let sum := x.scaledTo e + y.scaledTo e
    if sum = 0 then zero (x.negative && y.negative)
    else ofRatio (sum < 0) (sum.natAbs * Nat.pow 2 e.toNat) (Nat.pow 2 (-e).toNat)

/-- The difference. -/
def sub (x y : Binary64) : Binary64 := x.add y.neg

/-- The product; zero times infinity is none. -/
def mul (x y : Binary64) : Binary64 :=
  let negative := x.negative != y.negative
  if x.isNaN || y.isNaN then nan
  else if x.isInfinite || y.isInfinite then
    if x.magnitude = 0 || y.magnitude = 0 then nan else infinity negative
  else (x.mulAbs y).withSign negative

/-- The quotient; zero over zero and infinity over infinity are none. -/
def div (x y : Binary64) : Binary64 :=
  let negative := x.negative != y.negative
  if x.isNaN || y.isNaN then nan
  else if x.isInfinite then if y.isInfinite then nan else infinity negative
  else if y.isInfinite then zero negative
  else if y.magnitude = 0 then if x.magnitude = 0 then nan else infinity negative
  else (x.divAbs y).withSign negative

/-- The integer part of a finite double, which is rounded toward zero. -/
def truncate (x : Binary64) : Int :=
  let (num, den) := x.ratio
  if x.negative then -((num / den : Nat) : Int) else ((num / den : Nat) : Int)

/-- The order of two numbers as doubles. -/
def compareWith (x y : Binary64) : Ordering :=
  let rank (z : Binary64) : Int := if z.negative then -(z.magnitude : Int) else z.magnitude
  compare (rank x) (rank y)

/-- The order of an integer and a double, by their exact values. -/
def compareInt (n : Int) (x : Binary64) : Ordering :=
  if x.isInfinite then if x.negative then .gt else .lt
  else
    let e := min x.exponent 0
    compare (n * (Nat.pow 2 (-e).toNat : Nat)) (x.scaledTo e)

example : (ofDecimal false 1 (-1)).add (ofDecimal false 2 (-1)) =
    ⟨0x3FD3333333333334⟩ := by decide +kernel

end SchemaEvolution.Binary64
