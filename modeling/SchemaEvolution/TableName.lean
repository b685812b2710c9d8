import SchemaEvolution.Text.Separated

/-!
# Table names

A table name may carry a schema in front of a dot. Where more dots occur, the last one ends the
schema.
-/

namespace SchemaEvolution.TableName

/-- The parts of a name between its dots. -/
def parts (name : String) : List String :=
  (Text.splitEvery '.' name.toList).map String.ofList

/-- Whether a name carries a schema. -/
def isQualified (name : String) : Bool := name.toList.contains '.'

/-- The schema and the bare name. -/
def split (name : String) : Option String × String :=
  match Text.splitLast '.' name.toList with
  | some (schema, bare) => (some (String.ofList schema), String.ofList bare)
  | none => (none, name)

/-- The name without its schema. -/
def bare (name : String) : String := (split name).2

/-- The name in front of which a schema is put; an empty schema is none. -/
def qualify (schema : Option String) (name : String) : String :=
  match schema with
  | some s => if s.isEmpty then name else s ++ "." ++ name
  | none => name

/-- The name of the primary key of a table when no other name is given. -/
def primaryKey (table : String) : String := "pk_" ++ bare table

end SchemaEvolution.TableName
