import SchemaEvolution.Number.Extended

/-!
# Doubles as decimal text

The digits of a double are taken in extended precision: it is multiplied by powers of ten until 18
or 19 digits stand before the point, and those are rounded to as many as are asked for, a half away
from zero. They are laid out with a fixed number of places, with a power of ten, or in whichever of
the two ways is shorter.
-/

namespace SchemaEvolution.Sqlite

/-- The digits of a positive number without zeros at the end, and how many stand before the
point. -/
structure DecimalDigits where
  digits : List Char
  point : Int
  deriving DecidableEq, Repr

namespace DecimalDigits

/-- Whether a number in extended precision is at least a power of ten. -/
def reaches (x : Extended) (power : Int) : Bool :=
  let (num, den) := x.ratio
  let (num', den') := (Extended.powerOfTen power).ratio
  num' * den ≤ num * den'

/-- Multiplies by ten to the `step` for as long as a test asks for it, and takes the steps off the
power of ten. -/
def settle (test : Extended → Bool) (step : Int) : Nat → Extended × Int → Extended × Int
  | 0, state => state
  | fuel + 1, (x, power) =>
    if test x then settle test step fuel (x.mul (Extended.powerOfTen step), power - step)
    else (x, power)

/-- Eighteen or nineteen digits of a positive number, and the power of ten that goes with them. -/
def leading (x : Extended) : Nat × Int :=
  let (x, power) :=
    if reaches x 19 then
      settle (reaches · 19) (-1) 20 (settle (reaches · 29) (-10) 20
        (settle (reaches · 119) (-100) 4 (x, 0)))
    else
      settle (!reaches · 17) 1 20 (settle (!reaches · 7) 10 20
        (settle (!reaches · (-97)) 100 4 (x, 0)))
  let (num, den) := x.ratio
  (num / den, power)

/-- Digits without the zeros at their end. -/
def withoutZeros (digits : List Char) : List Char :=
  (digits.reverse.dropWhile (· = '0')).reverse

/-- The first `n` digits of some, rounded by the one after them. -/
def roundTo (n : Nat) (d : DecimalDigits) : DecimalDigits :=
  let kept := d.digits.take n
  match d.digits[n]? with
  | some c =>
    if c < '5' then { d with digits := kept }
    else
      let up := Nat.toDigits 10 (Nat.ofDigitChars 10 kept 0 + 1)
      let padded := List.replicate (n - up.length) '0' ++ up
      ⟨padded, d.point + ((padded.length - n : Nat) : Int)⟩
  | none => { d with digits := kept }

/-- How far digits are rounded: to a number of them, or to a number of places. -/
inductive Rounding where
  | digits (n : Nat)
  | places (n : Nat)
  deriving DecidableEq, Repr

/-- The digits of a positive finite double, at most `most` of them. -/
def ofPositive (x : Binary64) (rounding : Rounding) (most : Nat) : DecimalDigits :=
  let (leading, power) := leading (Extended.ofRatio x.ratio.1 x.ratio.2)
  let digits := Nat.toDigits 10 leading
  let d : DecimalDigits := ⟨digits, digits.length + power⟩
  let count : Int := match rounding with
    | .digits n => n
    | .places n => d.point + n
  let (d, count) : DecimalDigits × Int :=
    match rounding, count, d.digits with
    | .places _, 0, c :: _ =>
      if '5' ≤ c then (⟨'0' :: d.digits, d.point + 1⟩, 1) else (d, 0)
    | _, _, _ => (d, count)
  let d :=
    if 0 < count && (count < d.digits.length || most < d.digits.length) then
      d.roundTo (min count.toNat most)
    else d
  { d with digits := withoutZeros d.digits }

/-- The digits of a finite double without its sign; zero has one. -/
def ofReal (x : Binary64) (rounding : Rounding) (most : Nat) : DecimalDigits :=
  if x.magnitude = 0 then ⟨['0'], 1⟩ else ofPositive (x.withSign false) rounding most

end DecimalDigits

/-- How the digits of a double are laid out. -/
inductive RealStyle where
  | fixed
  | power
  | shorter
  deriving DecidableEq, Repr

/-- How a double is written: its style and precision, whether the point is always written, whether
all its digits are shown and a zero follows the point, whether thousands are separated, and whether
the mark of a power of ten is a capital. -/
structure RealFormat where
  style : RealStyle
  precision : Nat
  pointed : Bool := false
  long : Bool := false
  thousands : Bool := false
  capital : Bool := false
  deriving DecidableEq, Repr

namespace RealFormat

/-- The digits that a format asks for. -/
def digits (f : RealFormat) (x : Binary64) : DecimalDigits :=
  let rounding : DecimalDigits.Rounding := match f.style with
    | .fixed => .places f.precision
    | .power => .digits (f.precision + 1)
    | .shorter => .digits (max f.precision 1)
  .ofReal x rounding (if f.long then 26 else 16)

/-- `n + 1` digits before the point, of which the first ones are given, and the digits left over. -/
def whole (thousands : Bool) : Nat → List Char → List Char × List Char
  | n, digits =>
    let shown := digits.take (n + 1) ++ List.replicate (n + 1 - digits.length) '0'
    let separated := (shown.mapIdx fun i c =>
      let left := n - i
      if thousands && left % 3 = 0 && 1 < left then [c, ','] else [c]).flatten
    (separated, digits.drop (n + 1))

/-- `n` digits after the point, of which some follow `zeros` zeros. -/
def fraction (n zeros : Nat) (digits : List Char) : List Char :=
  let shown := (List.replicate zeros '0' ++ digits).take n
  shown ++ List.replicate (n - shown.length) '0'

/-- A power of ten with its mark, its sign and at least two digits. -/
def powerText (f : RealFormat) (e : Int) : List Char :=
  let digits := Nat.toDigits 10 e.natAbs
  let padded := if digits.length < 2 then '0' :: digits else digits
  (if f.capital then 'E' else 'e') :: (if e < 0 then '-' else '+') :: padded

/-- Digits laid out with a number of places; `e` is the power of ten of the first digit. -/
def layout (f : RealFormat) (d : DecimalDigits) (places : Nat) (e : Int) (trimmed : Bool) :
    List Char :=
  let (before, rest) := if e < 0 then (['0'], d.digits) else whole f.thousands e.toNat d.digits
  let isPointed := 0 < places || f.pointed || f.long
  let after := fraction places (if e < 0 then (-e).toNat - 1 else 0) rest
  if !isPointed then before
  else if !trimmed then before ++ '.' :: after
  else
    match DecimalDigits.withoutZeros after with
    | [] => if f.long then before ++ ['.', '0'] else before
    | after => before ++ '.' :: after

/-- The digits of a finite double as they are written, without a sign. -/
def positiveText (f : RealFormat) (d : DecimalDigits) : List Char :=
  let e := d.point - 1
  match f.style with
  | .fixed => f.layout d f.precision e f.long
  | .power => f.layout d f.precision 0 f.long ++ f.powerText e
  | .shorter =>
    let precision := max f.precision 1 - 1
    if e < -4 || precision < e then
      f.layout d precision 0 (!f.pointed) ++ f.powerText e
    else f.layout d (precision - e).toNat e (!f.pointed)

/-- A finite double as it is written. -/
def finiteText (f : RealFormat) (x : Binary64) : List Char :=
  let body := f.positiveText (f.digits x)
  if x.negative && x.magnitude ≠ 0 then '-' :: body else body

end RealFormat

/-- How a double is written where a text is asked for: fifteen digits, always with a point. -/
def plainFormat : RealFormat := { style := .shorter, precision := 15, long := true }

/-- A double as a text; what is not a number has none. -/
def realText (x : Binary64) : String :=
  if x.isInfinite then if x.negative then "-Inf" else "Inf"
  else String.ofList (plainFormat.finiteText x)

end SchemaEvolution.Sqlite
