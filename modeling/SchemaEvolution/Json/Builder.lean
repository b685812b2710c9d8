import SchemaEvolution.Json.Row

/-!
# Columns built step by step

A column as a name, a kind to start from, and a list of steps that each change one thing. A step is
a list: its name and its arguments.
-/

namespace SchemaEvolution.Column

open Json

/-- A column after one step. -/
def step (depth : Nat) (c : Column) (name : String) : List Json → Option Column
  | [] =>
    match name with
    | "primary_key" => some c.asPrimaryKey
    | "nullable" => some c.allowNull
    | "not_null" => some c.notNull
    | "auto_increment" => some c.asAutoIncrement
    | "unique" => some c.asUnique
    | _ => none
  | [j] =>
    match name with
    | "size" => j.uint32?.map c.withSize
    | "comment" => j.string?.map c.withComment
    | "default_value" => (DefaultValue.ofLenientJson depth j).map c.withDefault
    | _ => none
  | [precision, scale] =>
    match name with
    | "precision" => do some (c.withPrecision (← precision.byte?) (← scale.byte?))
    | _ => none
  | _ => none

/-- A column after a list of steps. -/
def steps (c : Column) : Reader Column
  | depth, .arr steps => steps.foldlM (fun c j =>
      match j with
      | .arr (.str (some name) :: arguments) => step depth c name arguments
      | _ => none) c
  | _, _ => none

/-- The type of the columns that a kind starts from; a new column gives its type. -/
def startType (kind : String) (type : Option ColumnType) : Option ColumnType :=
  match kind with
  | "new" => type
  | "integer" => some .integer
  | "big_int" => some .bigInt
  | "string" => some .string
  | _ => none

end SchemaEvolution.Column
