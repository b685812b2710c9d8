import SchemaEvolution.Sqlite.Collation
import SchemaEvolution.Sqlite.Failure

/-!
# Functions

What a function of the built-in store is given and what it gives. It sees what the connection has
done so far, may draw random numbers, and may fail.
-/

namespace SchemaEvolution.Sqlite

/-- A value on its way through an expression; `isJson` when it is a text made as JSON, which another
function takes as it is. -/
structure Datum where
  value : Value
  isJson : Bool := false
  deriving DecidableEq, Repr

/-- The value null. -/
def Datum.null : Datum := { value := .null }

/-- What an expression sees: a row, what is bound to placeholders, what the connection has done,
and, where the same must come out each time, the words for that place. -/
structure Surroundings where
  row : List Value := []
  rowNumber : Int := 0
  bound : List Value := []
  changes : Nat := 0
  totalChanges : Nat := 0
  lastRow : Int := 0
  steadyIn : Option String := none
  deriving DecidableEq, Repr

/-- A computation that draws random numbers, counted from the first, and may fail. -/
abbrev Evaluation (α : Type) : Type := StateT Nat (Except BackendError) α

/-- Fails with a message. -/
def Evaluation.fail {α : Type} (message : String) : Evaluation α :=
  fun _ => .error (complaint message)

/-- Mixes the bits of a word, so that the words in a row look random. -/
def mixed (n : Nat) : UInt64 :=
  let z := UInt64.ofNat (n + 1) * 0x9E3779B97F4A7C15
  let z := (z ^^^ (z >>> 30)) * 0xBF58476D1CE4E5B9
  let z := (z ^^^ (z >>> 27)) * 0x94D049BB133111EB
  z ^^^ (z >>> 31)

/-- Draws a random word. -/
def Evaluation.word : Evaluation UInt64 := fun n => .ok (mixed n, n + 1)

/-- A function: how many arguments it takes, whether it gives the same for the same ones, and what
it gives for its surroundings, the collation of its arguments, and them. -/
structure Function where
  name : String
  accepts : Nat → Bool
  isFixed : Bool := true
  run : Surroundings → Collation → List Datum → Evaluation Datum

namespace Function

/-- A function in a place where the same must come out each time. -/
def inPlace (f : Function) (place : Option String) : Function :=
  if place.isSome then { f with run := fun s => f.run { s with steadyIn := place } } else f

/-- A function of values that cannot fail. -/
def pure (name : String) (accepts : Nat → Bool) (f : List Value → Value) : Function where
  name
  accepts
  run _ _ arguments := Pure.pure { value := f (arguments.map (·.value)) }

/-- A function of values. -/
def ofValues (name : String) (accepts : Nat → Bool) (f : List Value → Evaluation Value) :
    Function where
  name
  accepts
  run _ _ arguments := do return { value := ← f (arguments.map (·.value)) }

/-- Takes just `n` arguments. -/
def exactly (n : Nat) : Nat → Bool := (· == n)

/-- Takes `n` arguments or more. -/
def atLeast (n : Nat) : Nat → Bool := (n ≤ ·)

/-- Takes from `m` to `n` arguments. -/
def within (m n : Nat) : Nat → Bool := fun count => m ≤ count && count ≤ n

end Function

end SchemaEvolution.Sqlite
