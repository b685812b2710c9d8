import SchemaEvolution.Value

/-!
# Parameters

Every input parameter carries the position of the placeholder that it binds, counted from zero over
the whole statement. An output slot binds no placeholder: it receives a value of the inserted row.
-/

namespace SchemaEvolution

/-- A value bound to a numbered placeholder. -/
structure InParameter where
  name : String
  index : Nat
  value : Value
  deriving DecidableEq, Repr

/-- Input parameters for values, numbered from `start`. -/
def InParameter.number (parameterName : Nat → String) (start : Nat) (values : List Value) :
    List InParameter :=
  values.mapIdx fun i value => ⟨parameterName (start + i), start + i, value⟩

/-- A slot that receives a value. -/
structure OutParameter where
  name : String
  size : Nat
  deriving DecidableEq, Repr

/-- The slot that receives a column of an inserted row. -/
def OutParameter.returning (column : String) : OutParameter := ⟨"returning_" ++ column, 4000⟩

/-- A parameter of a statement. -/
inductive Parameter where
  | input (p : InParameter)
  | output (p : OutParameter)
  deriving DecidableEq, Repr

/-- The value that a parameter binds. -/
def Parameter.value? : Parameter → Option Value
  | .input p => some p.value
  | .output _ => none

/-- The parameters of a statement without output slots. -/
def Parameter.inputs (parameters : List InParameter) : List Parameter :=
  parameters.map Parameter.input

/-- An insert that hands a column of the new row back. -/
structure ReturningInsert where
  sql : String
  parameters : List InParameter
  out : OutParameter
  deriving DecidableEq, Repr

/-- The input parameters followed by the output slot. -/
def ReturningInsert.bound (s : ReturningInsert) : List Parameter :=
  Parameter.inputs s.parameters ++ [.output s.out]

end SchemaEvolution
