import SchemaEvolution.Sqlite.Expression
import SchemaEvolution.Sqlite.Function.Catalog

/-!
# Terms

A term is an expression whose names and functions have been looked up: it says how each value is
computed. What cannot be computed stays in the term as a flaw and is complained about when the term
is used.
-/

namespace SchemaEvolution.Sqlite

/-- What is wrong with a part of a term. A flaw is `late` where nothing but literals is computed,
and `mild` if it is passed over once there is another one. -/
structure TermFlaw where
  message : String
  late : Bool
  mild : Bool := false
  deriving DecidableEq, Repr

/-- How a value is computed. Where it is asked whether a value is among others, those may all be
computed first, or else in turn until one is found. -/
inductive Term where
  | constant (v : Value)
  | flawed (flaw : TermFlaw)
  | column (position : Nat)
  | rowNumber
  | bound (position : Nat)
  | arithmetic (op : BinaryOperator) (l r : Term)
  | complement (t : Term)
  | not (t : Term)
  | and (l r : Term)
  | or (l r : Term)
  | compare (relation : Relation) (c : Comparing) (l r : Term)
  | compareRows (relation : Relation) (pairs : List (Comparing × Term × Term))
  | isNull (t : Term)
  | isTruth (wanted : Bool) (t : Term)
  | between (low high : Comparing) (t lower upper : Term)
  | among (allFirst : Bool) (c : Comparing) (t : Term) (items : List Term)
  | choice (base : Option Term) (branches : List (Comparing × Term × Term))
      (otherwise : Option Term)
  | cast (affinity : Affinity) (t : Term)
  | apply (f : Function) (c : Collation) (arguments : List Term)
  | firstOf (terms : List Term)

/-- What a term is made of in the end. -/
inductive Atom where
  | flaw (flaw : TermFlaw)
  | column (position : Nat)
  | rowNumber
  | bound (position : Nat)
  | function (f : Function)

namespace Term

mutual

/-- What a term is made of, in the order in which its parts are looked at. -/
def atoms : Term → List Atom
  | .constant _ => []
  | .flawed flaw => [.flaw flaw]
  | .column i => [.column i]
  | .rowNumber => [.rowNumber]
  | .bound n => [.bound n]
  | .arithmetic _ l r => atoms l ++ atoms r
  | .complement t => atoms t
  | .not t => atoms t
  | .and l r => atoms l ++ atoms r
  | .or l r => atoms l ++ atoms r
  | .compare _ _ l r => atoms l ++ atoms r
  | .compareRows _ pairs => pairAtoms pairs
  | .isNull t => atoms t
  | .isTruth _ t => atoms t
  | .between _ _ t lower upper => atoms t ++ atoms lower ++ atoms upper
  | .among _ _ t items => atoms t ++ listAtoms items
  | .choice base branches otherwise =>
    optionAtoms base ++ pairAtoms branches ++ optionAtoms otherwise
  | .cast _ t => atoms t
  | .apply f _ arguments => .function f :: listAtoms arguments
  | .firstOf terms => listAtoms terms

/-- What some terms are made of. -/
def listAtoms : List Term → List Atom
  | [] => []
  | t :: rest => atoms t ++ listAtoms rest

/-- What pairs of terms are made of. -/
def pairAtoms : List (Comparing × Term × Term) → List Atom
  | [] => []
  | (_, l, r) :: rest => atoms l ++ atoms r ++ pairAtoms rest

/-- What a term that may be left out is made of. -/
def optionAtoms : Option Term → List Atom
  | none => []
  | some t => atoms t

end

/-- The flaws of a term. -/
def flaws (t : Term) : List TermFlaw :=
  t.atoms.filterMap fun
    | .flaw flaw => some flaw
    | _ => none

/-- The columns that a term uses, by their positions. -/
def columns (t : Term) : List Nat :=
  t.atoms.filterMap fun
    | .column i => some i
    | _ => none

/-- Whether a term has the same value for every row and at all times. -/
def isFixed (t : Term) : Bool :=
  t.atoms.all fun
    | .flaw _ => true
    | .function f => f.isFixed
    | _ => false

end Term

/-- The flaw that is complained about: the last one that is not late if there is one, or else the
last; mild ones count only while there is no other. -/
def TermFlaw.decisive (flaws : List TermFlaw) : Option String :=
  let note (best : Option String) (flaw : TermFlaw) : Option String :=
    if flaw.mild && best.isSome then best else some flaw.message
  let early := (flaws.filter (!·.late)).foldl note none
  if early.isSome then early else (flaws.filter (·.late)).foldl note none

end SchemaEvolution.Sqlite
