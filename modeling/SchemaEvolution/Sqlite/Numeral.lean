import SchemaEvolution.Number.Arithmetic
import SchemaEvolution.Number.Extended
import SchemaEvolution.Number.Integer
import SchemaEvolution.Value

/-!
# Numbers in texts

A text may be a number, or start with one. The leading digits of a number make a significand of 64
bits, digits beyond it only count as places, and the power of ten is applied in extended precision,
so a long decimal may come out next to the nearest double.
-/

namespace SchemaEvolution.Sqlite

/-- Whether a character may stand around a number. -/
def isSpace (c : Char) : Bool := c = ' ' || (0x09 ≤ c.toNat && c.toNat ≤ 0x0D)

/-- A text without the spaces at its start. -/
def trimStart (text : List Char) : List Char := text.dropWhile isSpace

/-- Takes the sign off a text, and says whether it is a minus. -/
def takeSign : List Char → Bool × List Char
  | '-' :: rest => (true, rest)
  | '+' :: rest => (false, rest)
  | text => (false, text)

/-! ## Decimal numbers -/

/-- A decimal number as it is written: digits, digits after a point, and a power of ten after its
mark, which may lack its digits. -/
structure Numeral where
  negative : Bool
  whole : List Char
  fraction : Option (List Char)
  power : Option (Option Int)
  deriving DecidableEq, Repr

namespace Numeral

/-- The significand from which no further digit is taken. -/
def significandLimit : Nat := 1844674407370955160

/-- Takes digits into a significand until it reaches the limit, and counts the digits left out. -/
def takeDigits (significand : Nat) : List Char → Nat × Nat
  | [] => (significand, 0)
  | c :: rest =>
    if significand < significandLimit then takeDigits (significand * 10 + (c.toNat - 48)) rest
    else (significand, rest.length + 1)

/-- Moves powers of ten into a significand while it stays within 64 bits. -/
def raise (significand : Nat) : Nat → Nat × Nat
  | 0 => (significand, 0)
  | e + 1 =>
    if significand < 1844674407370955161 then raise (significand * 10) e else (significand, e + 1)

/-- Takes final zeros off a significand, as many as a negative power of ten needs. -/
def lower (significand : Nat) : Nat → Nat × Nat
  | 0 => (significand, 0)
  | e + 1 => if significand % 10 = 0 then lower (significand / 10) e else (significand, e + 1)

/-- The digits after the point. -/
def places (n : Numeral) : List Char := n.fraction.getD []

/-- The number as a double. -/
def toBinary64 (n : Numeral) : Binary64 :=
  let (start, skipped) := takeDigits 0 n.whole
  let (significand, left) := takeDigits start n.places
  if significand = 0 then Binary64.zero n.negative
  else
    let e := (n.power.bind id).getD 0 + skipped - ((n.places.length - left : Nat) : Int)
    let (significand, e) : Nat × Int :=
      if 0 ≤ e then
        let (s, e) := raise significand e.toNat
        (s, e)
      else
        let (s, e) := lower significand (-e).toNat
        (s, -(e : Int))
    if e = 0 then Binary64.ofRatio n.negative significand 1
    else ((Extended.ofRatio significand 1).scaleDecimal e).toBinary64 n.negative

/-- The value of a power of ten; no digit is taken once it has reached ten thousand. -/
def powerValue (digits : List Char) : Nat :=
  digits.foldl (fun e c => if e < 10000 then e * 10 + (c.toNat - 48) else 10000) 0

/-- Takes the power of ten off a text that starts after its mark. -/
def takePower (text : List Char) : Option Int × List Char :=
  let (negative, text) := takeSign text
  let digits := text.takeWhile Char.isDigit
  let value : Int := powerValue digits
  (if digits.isEmpty then none else some (if negative then -value else value),
    text.dropWhile Char.isDigit)

/-- The number at the start of a text, with the spaces around it, and what follows. -/
def ofStart (text : List Char) : Numeral × List Char :=
  let (negative, text) := takeSign (trimStart text)
  let whole := text.takeWhile Char.isDigit
  let (fraction, text) : Option (List Char) × List Char :=
    match text.dropWhile Char.isDigit with
    | '.' :: after => (some (after.takeWhile Char.isDigit), after.dropWhile Char.isDigit)
    | rest => (none, rest)
  let (power, text) : Option (Option Int) × List Char :=
    match text with
    | mark :: after =>
      if mark = 'e' || mark = 'E' then
        let (power, rest) := takePower after
        (some power, rest)
      else (none, text)
    | [] => (none, [])
  (⟨negative, whole, fraction, power⟩, trimStart text)

/-- Whether there is a digit before the power of ten. -/
def hasDigit (n : Numeral) : Bool := !n.whole.isEmpty || !n.places.isEmpty

/-- Whether the mark of a power of ten stands without one. -/
def lacksPower (n : Numeral) : Bool := n.power == some none

end Numeral

/-- How far a text is a number: all of it is an integer or another number, it starts with a number
that has a point or a power of ten, or neither. -/
inductive Extent where
  | integer
  | decimal
  | decimalStart
  | other
  deriving DecidableEq, Repr

/-- A text as a number, which is zero unless the text starts with one, and how far it is one. -/
def realOfText (text : List Char) : Binary64 × Extent :=
  let (n, rest) := Numeral.ofStart text
  let extent : Extent :=
    if !n.hasDigit then .other
    else if rest.isEmpty && !n.lacksPower then
      if n.fraction.isNone && n.power.isNone then .integer else .decimal
    else if n.fraction.isNone && n.power.isNone then .other
    else if n.fraction.isSome && n.power.isSome || !n.lacksPower then .decimalStart
    else .other
  (n.toBinary64, extent)

/-! ## Integers -/

/-- The integer at the start of a text: its value brought into 64 bits, whether it was in them, and
whether the text is an integer and nothing else. -/
structure IntegerStart where
  value : Int
  fits : Bool
  whole : Bool
  deriving DecidableEq, Repr

/-- The least integer of 64 bits. -/
def leastInteger : Int := -9223372036854775808

/-- The greatest integer of 64 bits. -/
def greatestInteger : Int := 9223372036854775807

/-- An integer brought into 64 bits. -/
def saturate (n : Int) : Int := max leastInteger (min n greatestInteger)

/-- The integer at the start of a text; without digits it is zero. -/
def integerOfText (text : List Char) : IntegerStart :=
  let (negative, body) := takeSign (trimStart text)
  let digits := body.takeWhile Char.isDigit
  let n : Int := Number.digitsValue digits
  let n := if negative then -n else n
  { value := saturate n
    fits := saturate n = n
    whole := !digits.isEmpty && (trimStart (body.dropWhile Char.isDigit)).isEmpty }

/-- A double brought into the integers of 64 bits. -/
def saturateReal (x : Binary64) : Int :=
  if x.isNaN then 0
  else if x.isInfinite then if x.negative then leastInteger else greatestInteger
  else saturate x.truncate

/-! ## What is stored -/

/-- The integer that a double stores, as an integer, unless it is at the ends of the range. -/
def integerIfExact (x : Binary64) : Value :=
  match x.toInt? with
  | some n =>
    if leastInteger < n && n < greatestInteger then .int (Int64.ofInt n) else .float x
  | none => .float x

/-- The number that a text is: an integer if it is one of 64 bits. -/
def numberOf? (text : String) : Option Value :=
  let (x, extent) := realOfText text.toList
  let n := integerOfText text.toList
  match extent with
  | .integer => some (if n.fits && n.whole then .int (Int64.ofInt n.value) else integerIfExact x)
  | .decimal => some (integerIfExact x)
  | .decimalStart | .other => none

end SchemaEvolution.Sqlite
