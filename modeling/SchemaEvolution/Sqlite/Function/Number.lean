import SchemaEvolution.Sqlite.Function.Text

/-!
# Functions of numbers

Absolute values, signs, rounding, extremes, and random values.
-/

namespace SchemaEvolution.Sqlite.Function

/-- The absolute value of a value as a number; that of the least integer is too large. -/
def absolute : Value → Evaluation Value
  | .null => return .null
  | .int n =>
    if n = Int64.minValue then Evaluation.fail "integer overflow"
    else return .ofInt n.toInt.natAbs
  | v =>
    let x := v.asReal
    return .float (if x.negative && x.magnitude ≠ 0 then x.neg else x)

/-- A value as a number, if it is one or a text that is one. -/
def numeric? : Value → Option Value
  | .int n => some (.int n)
  | .float x => some (.float x)
  | .text s => numberOf? s
  | _ => none

/-- The sign of a value that is a number. -/
def signOf (v : Value) : Value :=
  match numeric? v with
  | some n =>
    let x := n.asReal
    if x.magnitude = 0 then .int 0 else if x.negative then .int (-1) else .int 1
  | none => .null

/-- From where on a double has no places after the point: two to the 52. -/
def wholeBound : Int := 4503599627370496

/-- A double rounded to some places, a half away from zero. -/
def rounded (x : Binary64) (places : Nat) : Binary64 :=
  let isWhole := Binary64.compareInt wholeBound x == .lt ||
    Binary64.compareInt (-wholeBound) x == .gt
  if isWhole then x
  else if places = 0 then
    let half := Binary64.ofRatio x.negative 1 2
    let half := if x.magnitude = 0 then half.withSign false else half
    Binary64.ofInt (x.add half).truncate
  else
    (realOfText (RealFormat.finiteText
      { style := .fixed, precision := places, long := true } x)).1

/-- A value rounded to some places. -/
def roundedValue (v : Value) (places : Int) : Value :=
  if v.isNull then .null else .ofReal (rounded v.asReal (max 0 (min places 30)).toNat)

/-- The best of some values by their order: the first that no later one is better than. -/
def extreme (isBetter : Ordering → Bool) (c : Collation) (best : Datum) : List Datum → Datum
  | [] => best
  | d :: rest =>
    extreme isBetter c (if isBetter (c.compareValues best.value d.value) then d else best) rest

/-- A function of the best of two values or more; null has none better. -/
def extremeFunction (name : String) (isBetter : Ordering → Bool) : Function where
  name
  accepts := atLeast 2
  run _ c arguments := Pure.pure (match arguments with
    | d :: rest =>
      if arguments.any (·.value.isNull) then Datum.null else extreme isBetter c d rest
    | [] => Datum.null)

/-- Some random bytes. -/
def randomBytes : Nat → Evaluation (List UInt8)
  | 0 => return []
  | n + 1 => do
    let word ← Evaluation.word
    return word.toUInt8 :: (← randomBytes n)

/-- The most bytes that a value may have. -/
def mostBytes : Int := 1000000000

/-- The failure of making a value of too many bytes. -/
def tooBig {α : Type} : Evaluation α := fun _ => .error (failure 18 "string or blob too big")

/-- The functions of numbers. -/
def numbers : List Function :=
  [ofValues "abs" (exactly 1) fun values => absolute (values.head?.getD .null),
   pure "sign" (exactly 1) fun values => signOf (values.head?.getD .null),
   pure "round" (within 1 2) fun
     | [v] => roundedValue v 0
     | [v, places] => if places.isNull then .null else roundedValue v (toInt32 places.asInteger)
     | _ => .null,
   extremeFunction "min" (· != .lt),
   extremeFunction "max" (· == .lt),
   { name := "nullif"
     accepts := exactly 2
     run _ c arguments := Pure.pure (match arguments with
       | [a, b] => if c.compareValues a.value b.value == .eq then Datum.null else a
       | _ => Datum.null) },
   { name := "random"
     accepts := exactly 0
     isFixed := false
     run _ _ _ := do
       let n := (← Evaluation.word).toInt64
       return { value := .int (if n = Int64.minValue then 0 else n) } },
   { name := "randomblob"
     accepts := exactly 1
     isFixed := false
     run _ _ arguments := do
       let n := max 1 ((arguments.head?.getD Datum.null).value.asInteger)
       if mostBytes < n then tooBig else return { value := .blob (← randomBytes n.toNat) } },
   ofValues "zeroblob" (exactly 1) fun values =>
     let n := max 0 (values.head?.getD .null).asInteger
     if mostBytes < n then tooBig else return .blob (List.replicate n.toNat 0)]

end SchemaEvolution.Sqlite.Function
