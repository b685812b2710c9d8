import SchemaEvolution.Sqlite.Conversion
import SchemaEvolution.Sqlite.Expression

/-!
# Arithmetic on values

Integers stay integers as long as the result fits 64 bits; otherwise the operation is carried out on
doubles. Null, a division by zero and what is not a number give null.
-/

namespace SchemaEvolution.Sqlite

/-- The result of an operation on integers, unless it does not fit; a division by zero has none. -/
def integerResult (op : BinaryOperator) (m n : Int) : Option Value :=
  let fitting (r : Int) : Option Value := if saturate r = r then some (.ofInt r) else none
  match op with
  | .add => fitting (m + n)
  | .subtract => fitting (m - n)
  | .multiply => fitting (m * n)
  | .divide => if n = 0 then some .null else fitting (m.tdiv n)
  | .remainder => if n = 0 then some .null else fitting (m.tmod n)
  | _ => some .null

/-- The result of an operation on doubles. -/
def realResult (op : BinaryOperator) (v w : Value) : Value :=
  let x := v.asReal
  let y := w.asReal
  match op with
  | .add => .ofReal (x.add y)
  | .subtract => .ofReal (x.sub y)
  | .multiply => .ofReal (x.mul y)
  | .divide => if y.magnitude = 0 then .null else .ofReal (x.div y)
  | .remainder =>
    let n := w.asInteger
    if n = 0 then .null else .ofReal (Binary64.ofInt (v.asInteger.tmod n))
  | _ => .null

/-- A word shifted to the left by a number of bits, or to the right by a negative one, which copies
the sign. -/
def shifted (n bits : Int) : Int :=
  if bits = 0 then n
  else if bits ≤ -64 then if n < 0 then -1 else 0
  else if 64 ≤ bits then 0
  else if 0 < bits then (Int64.ofInt (n * (Nat.pow 2 bits.toNat : Nat))).toInt
  else n.fdiv (Nat.pow 2 (-bits).toNat : Nat)

/-- The bits of two integers combined. -/
def combined (f : UInt64 → UInt64 → UInt64) (m n : Int) : Value :=
  .int (f (Int64.ofInt m).toUInt64 (Int64.ofInt n).toUInt64).toInt64

/-- The result of an operation on two values. -/
def operate (op : BinaryOperator) (v w : Value) : Value :=
  if v.isNull || w.isNull then .null
  else
    match op with
    | .concatenate => .text (v.asText ++ w.asText)
    | .bitAnd => combined (· &&& ·) v.asInteger w.asInteger
    | .bitOr => combined (· ||| ·) v.asInteger w.asInteger
    | .shiftLeft => .ofInt (shifted v.asInteger w.asInteger)
    | .shiftRight => .ofInt (shifted v.asInteger (-w.asInteger))
    | op =>
      match v.asOperand, w.asOperand with
      | .int m, .int n => (integerResult op m.toInt n.toInt).getD (realResult op v w)
      | _, _ => realResult op v w

/-- Both of two truth values, if that is known. -/
def bothTrue : Option Bool → Option Bool → Option Bool
  | some false, _ => some false
  | _, some false => some false
  | some true, some true => some true
  | _, _ => none

/-- One of two truth values, if that is known. -/
def oneTrue : Option Bool → Option Bool → Option Bool
  | some true, _ => some true
  | _, some true => some true
  | some false, some false => some false
  | _, _ => none

/-- A truth value that may be unknown as a value. -/
def truthValue (b : Option Bool) : Value := Value.ofOption .ofBool b

end SchemaEvolution.Sqlite
