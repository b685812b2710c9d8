import SchemaEvolution.Sqlite.Conversion

/-!
# The order of values

Null comes first, then numbers by their values, then texts by a collation, then bytes. A collation
compares texts as they are, without regard to the case of ASCII letters, or without the spaces at
their ends.
-/

namespace SchemaEvolution.Sqlite

/-- How two texts are compared. -/
inductive Collation where
  | binary
  | noCase
  | trimmed
  deriving DecidableEq, Repr

namespace Collation

/-- The collation of a name. -/
def ofName? (name : String) : Option Collation :=
  match name.toUpper with
  | "BINARY" => some .binary
  | "NOCASE" => some .noCase
  | "RTRIM" => some .trimmed
  | _ => none

/-- A text as a collation sees it. -/
def view : Collation → String → List Char
  | .binary, s => s.toList
  | .noCase, s => s.toList.map Char.toLower
  | .trimmed, s => (s.toList.reverse.dropWhile (· = ' ')).reverse

/-- The order of two lists by their first difference. -/
def compareLists {α : Type} (rank : α → Nat) : List α → List α → Ordering
  | [], [] => .eq
  | [], _ :: _ => .lt
  | _ :: _, [] => .gt
  | a :: as, b :: bs => (compare (rank a) (rank b)).then (compareLists rank as bs)

/-- The order of two texts. -/
def compareTexts (c : Collation) (s t : String) : Ordering :=
  compareLists Char.toNat (c.view s) (c.view t)

/-- The place of the class of a value among the others. -/
def classRank : Value → Nat
  | .null => 0
  | .bool _ | .int _ | .float _ => 1
  | .text _ => 2
  | .blob _ => 3

/-- The order of two values. -/
def compareValues (c : Collation) : Value → Value → Ordering
  | .int m, .int n => compare m.toInt n.toInt
  | .int m, .float y => Binary64.compareInt m.toInt y
  | .float x, .int n => (Binary64.compareInt n.toInt x).swap
  | .float x, .float y => x.compareWith y
  | .text s, .text t => c.compareTexts s t
  | .blob a, .blob b => compareLists UInt8.toNat a b
  | v, w => compare (classRank v) (classRank w)

/-- Whether two values are equal; null equals nothing. -/
def sameKey (c : Collation) (v w : Value) : Bool :=
  !v.isNull && !w.isNull && c.compareValues v w == .eq

end Collation

/-! ## Comparisons -/

/-- How the two sides of a comparison are converted before it. -/
inductive Leveling where
  | plain
  | numeric
  | text
  deriving DecidableEq, Repr

namespace Leveling

/-- The leveling that an affinity asks for. -/
def ofAffinity : Affinity → Leveling
  | .integer | .real | .numeric => .numeric
  | .text => .text
  | .blob => .plain

/-- The leveling of two sides, each of which has an affinity if it is a column or a cast. -/
def between : Option Affinity → Option Affinity → Leveling
  | some a, some b => if a.isNumeric || b.isNumeric then .numeric else .plain
  | some a, none | none, some a => ofAffinity a
  | none, none => .plain

/-- The two sides of a comparison as they are compared. -/
def apply (l : Leveling) (v w : Value) : Value × Value :=
  let isText : Value → Bool
    | .text _ => true
    | _ => false
  match l with
  | .plain => (v, w)
  | .numeric =>
    if isText v || isText w then (Affinity.numeric.store v, Affinity.numeric.store w) else (v, w)
  | .text =>
    if isText v || isText w then (Affinity.text.store v, Affinity.text.store w) else (v, w)

end Leveling

/-- How two values are compared. -/
structure Comparing where
  leveling : Leveling := .plain
  collation : Collation := .binary
  deriving DecidableEq, Repr

/-- The order of two values, unless one is null. -/
def Comparing.order? (c : Comparing) (v w : Value) : Option Ordering :=
  if v.isNull || w.isNull then none
  else
    let (v, w) := c.leveling.apply v w
    some (c.collation.compareValues v w)

/-- Whether two values are the same, where null is the same as null. -/
def Comparing.same (c : Comparing) (v w : Value) : Bool :=
  match c.order? v w with
  | some order => order == .eq
  | none => v.isNull && w.isNull

end SchemaEvolution.Sqlite
