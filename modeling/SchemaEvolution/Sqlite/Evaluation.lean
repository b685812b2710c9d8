import SchemaEvolution.Sqlite.Arithmetic
import SchemaEvolution.Sqlite.Scope

/-!
# Evaluation

The value of a term in its surroundings. The parts of a term are computed from left to right; where
only the truth of a term is asked for, a conjunction or a disjunction stops as soon as it is
decided.
-/

namespace SchemaEvolution.Sqlite

/-- A value as it is bound: truth values are one and zero, and what is no number is null. -/
def bindValue : Value → Value
  | .bool b => .int (if b then 1 else 0)
  | .float x => .ofReal x
  | v => v

/-- The value bound to a placeholder; an unbound one is null. -/
def boundValue (values : List Value) (position : Nat) : Value :=
  bindValue (values[position - 1]?.getD .null)

/-- What a relation says of the order of two values. -/
def Relation.holds : Relation → Ordering → Bool
  | .equal, o => o == .eq
  | .notEqual, o => o != .eq
  | .less, o => o == .lt
  | .lessOrEqual, o => o != .gt
  | .greater, o => o == .gt
  | .greaterOrEqual, o => o != .lt
  | .is, o => o == .eq
  | .isNot, o => o != .eq

/-- What a relation says of two values; most say nothing of null. -/
def Relation.truth? (relation : Relation) (c : Comparing) (v w : Value) : Option Bool :=
  match relation with
  | .is => some (c.same v w)
  | .isNot => some (!c.same v w)
  | relation => (c.order? v w).map relation.holds

/-- What a relation says of two rows of values once it has said something of a pair of them, if the
rest does not matter. -/
def Relation.decided? (relation : Relation) (c : Comparing) (v w : Value) : Option (Option Bool) :=
  match relation with
  | .is => if c.same v w then none else some (some false)
  | .isNot => if c.same v w then none else some (some true)
  | .equal => if relation.truth? c v w = some false then some (some false) else none
  | .notEqual => if relation.truth? c v w = some true then some (some true) else none
  | relation =>
    match c.order? v w with
    | some .eq => none
    | order => some (order.map relation.holds)

/-- What a relation says of two rows of values, given what it says of a pair and of the pairs after
it, where the pair does not decide. -/
def Relation.joined (relation : Relation) (first rest : Option Bool) : Option Bool :=
  match relation with
  | .equal => bothTrue first rest
  | .notEqual => oneTrue first rest
  | _ => rest

/-- What is asked of a term: its value, or only whether it is true. -/
inductive Question where
  | value
  | truth
  deriving DecidableEq, Repr

namespace Term

mutual

/-- The value of a term, or one that is true if and only if it is. What does not matter for the
question any more is not computed. -/
def evaluate (s : Surroundings) (q : Question) (t : Term) : Evaluation Datum :=
  match t with
  | .constant v => return { value := v }
  | .flawed flaw => Evaluation.fail flaw.message
  | .column i => return { value := s.row[i]?.getD .null }
  | .rowNumber => return { value := .ofInt s.rowNumber }
  | .bound n => return { value := boundValue s.bound n }
  | .arithmetic op l r => do
    let v ← evaluate s .value l
    let w ← evaluate s .value r
    return { value := operate op v.value w.value }
  | .complement t => do
    let v ← evaluate s .value t
    return { value := if v.value.isNull then .null else .ofInt (-v.value.asInteger - 1) }
  | .not t => do
    let v ← evaluate s q t
    return { value := truthValue (v.value.truth?.map (!·)) }
  | .and l r => do
    let v ← evaluate s q l
    if q = .truth && v.value.truth? = some false then return { value := .ofBool false }
    let w ← evaluate s q r
    return { value := truthValue (bothTrue v.value.truth? w.value.truth?) }
  | .or l r => do
    let v ← evaluate s q l
    if q = .truth && v.value.truth? = some true then return { value := .ofBool true }
    let w ← evaluate s q r
    return { value := truthValue (oneTrue v.value.truth? w.value.truth?) }
  | .compare relation c l r => do
    let v ← evaluate s .value l
    let w ← evaluate s .value r
    return { value := truthValue (relation.truth? c v.value w.value) }
  | .compareRows relation pairs => do
    return { value := truthValue (← comparePairs s relation pairs) }
  | .isNull t => do
    let v ← evaluate s .value t
    return { value := .ofBool v.value.isNull }
  | .isTruth wanted t => do
    let v ← evaluate s .value t
    return { value := .ofBool (v.value.truth? == some wanted) }
  | .between low high t lower upper => do
    let v ← evaluate s .value t
    let a ← evaluate s .value lower
    let b ← evaluate s .value upper
    return { value := truthValue (bothTrue
      (Relation.greaterOrEqual.truth? low v.value a.value)
      (Relation.lessOrEqual.truth? high v.value b.value)) }
  | .among true c t items => do
    let values ← evaluateList s items
    let v ← evaluate s .value t
    let answers := values.map fun w => Relation.equal.truth? c v.value w.value
    return { value := truthValue (answers.foldl oneTrue (some false)) }
  | .among false c t items => do
    let v ← evaluate s .value t
    return { value := truthValue (← findEqual s c v.value items) }
  | .choice base branches otherwise => do
    let v ← evaluateOption s base
    match ← choose s (v.map (·.value)) branches with
    | some w => return w
    | none => return (← evaluateOption s otherwise).getD Datum.null
  | .cast affinity t => do
    let v ← evaluate s .value t
    return { value := v.value.cast affinity, isJson := v.isJson && affinity = .text }
  | .apply f c arguments => do f.run s c (← evaluateList s arguments)
  | .firstOf terms => firstNonNull s terms

/-- The values of some terms. -/
def evaluateList (s : Surroundings) : List Term → Evaluation (List Datum)
  | [] => return []
  | t :: rest => do
    let v ← evaluate s .value t
    return v :: (← evaluateList s rest)

/-- What a relation says of two rows of terms, of which the pairs that do not matter are not
computed. -/
def comparePairs (s : Surroundings) (relation : Relation) :
    List (Comparing × Term × Term) → Evaluation (Option Bool)
  | [] => return some (relation.holds .eq)
  | (c, l, r) :: rest => do
    let v ← evaluate s .value l
    let w ← evaluate s .value r
    if rest.isEmpty then return relation.truth? c v.value w.value
    match relation.decided? c v.value w.value with
    | some answer => return answer
    | none =>
      let answer ← comparePairs s relation rest
      return relation.joined (relation.truth? c v.value w.value) answer

/-- Whether a value is equal to that of one of some terms, which are computed until one is found. -/
def findEqual (s : Surroundings) (c : Comparing) (v : Value) :
    List Term → Evaluation (Option Bool)
  | [] => return some false
  | t :: rest => do
    let w ← evaluate s .value t
    let answer := Relation.equal.truth? c v w.value
    if answer = some true then return answer else return oneTrue answer (← findEqual s c v rest)

/-- The value of a term that may be left out. -/
def evaluateOption (s : Surroundings) : Option Term → Evaluation (Option Datum)
  | none => return none
  | some t => some <$> evaluate s .value t

/-- The result of the first branch whose condition is true, or equal to a value, if any is. -/
def choose (s : Surroundings) (base : Option Value) :
    List (Comparing × Term × Term) → Evaluation (Option Datum)
  | [] => return none
  | (c, condition, result) :: rest => do
    let v ← evaluate s (if base.isSome then .value else .truth) condition
    let answer := match base with
      | some w => Relation.equal.truth? c w v.value
      | none => v.value.truth?
    if answer = some true then some <$> evaluate s .value result else choose s base rest

/-- The first value that is not null. -/
def firstNonNull (s : Surroundings) : List Term → Evaluation Datum
  | [] => return Datum.null
  | t :: rest => do
    let v ← evaluate s .value t
    if v.value.isNull then firstNonNull s rest else return v

end

/-- Whether a term is true, if that is known. -/
def holds? (s : Surroundings) (t : Term) : Evaluation (Option Bool) := do
  return (← evaluate s .truth t).value.truth?

end Term

end SchemaEvolution.Sqlite
