import SchemaEvolution.Number.Binary64

/-!
# Extended precision numbers

Positive numbers with 64 binary digits and any power of two. A product is rounded to that precision,
so a run of products is rounded once for each, and turning the last one into a double rounds again.
-/

namespace SchemaEvolution

/-- The number `significand` times two to the `exponent`. -/
structure Extended where
  significand : Nat
  exponent : Int
  deriving DecidableEq, Repr

namespace Extended

/-- The least significand with 64 binary digits: two to the 63. -/
def leastSignificand : Nat := 0x8000000000000000

/-- The power of two at which `num / den` has 64 binary digits. -/
def scaleOf (num den : Nat) : Int :=
  let guess : Int := (num.log2 : Int) - den.log2 - 63
  let fits :=
    den * Nat.pow 2 guess.toNat * leastSignificand ≤ num * Nat.pow 2 (-guess).toNat
  if fits then guess else guess - 1

/-- The number nearest to `num / den`, ties to the even significand. -/
def ofRatio (num den : Nat) : Extended :=
  let e := scaleOf num den
  ⟨Binary64.scaledRound num den e, e⟩

/-- The number nearest to ten to the `e`. -/
def powerOfTen (e : Int) : Extended := ofRatio (Nat.pow 10 e.toNat) (Nat.pow 10 (-e).toNat)

/-- The product, rounded once. -/
def mul (x y : Extended) : Extended :=
  let product := ofRatio (x.significand * y.significand) 1
  ⟨product.significand, product.exponent + x.exponent + y.exponent⟩

/-- The number times ten to the `step`, a number of times in a row. -/
def scaleBy (step : Int) : Nat → Extended → Extended
  | 0, x => x
  | times + 1, x => scaleBy step times (x.mul (powerOfTen step))

/-- The number times ten to the `e`: by hundreds, then by tens, then one by one. -/
def scaleDecimal (e : Int) (x : Extended) : Extended :=
  let sign := e.sign
  let n := e.natAbs
  scaleBy sign (n % 10) (scaleBy (10 * sign) (n % 100 / 10) (scaleBy (100 * sign) (n / 100) x))

/-- The value as a quotient. -/
def ratio (x : Extended) : Nat × Nat :=
  (x.significand * Nat.pow 2 x.exponent.toNat, Nat.pow 2 (-x.exponent).toNat)

/-- The nearest double; what is greater than the greatest double is infinity. -/
def toBinary64 (x : Extended) (negative : Bool) : Binary64 :=
  let (num, den) := x.ratio
  let greatest := Binary64.ofMagnitude false (Binary64.infinityMagnitude - 1)
  if greatest.ratio.1 * den < num then Binary64.infinity negative
  else Binary64.ofRatio negative num den

end Extended

end SchemaEvolution
