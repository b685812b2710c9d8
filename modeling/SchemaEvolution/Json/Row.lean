import SchemaEvolution.Json.Schema
import SchemaEvolution.Parameter
import SchemaEvolution.ResultSet
import SchemaEvolution.Select

/-!
# Rows, parameters and queries in JSON

What is bound to a statement and what it returns, and how a query is described. Here a double may
be given as text, since a JSON number cannot be infinite or no number.
-/

namespace SchemaEvolution

open Json

/-- A value from JSON, whose double may be given as text. -/
def Value.ofLenientJson : Reader Value
  | _, .obj [(some "Float", .str (some s))] => (Binary64.read? s).map .float
  | depth, j => ofJson depth j

/-- The reader of values of a named type. -/
def Value.typed (type : String) : Option (Reader Value) :=
  match type with
  | "bool" => some fun _ j => j.bool?.map .bool
  | "i64" => some fun _ j => j.int64?.map .int
  | "i32" => some fun _ j => (int32? j).map .int
  | "i16" => some fun _ j => (int16? j).map .int
  | "u32" => some fun _ j => j.uint32?.map fun n => .int n.toUInt64.toInt64
  | "f64" => some fun _ j => (j.string? >>= Binary64.read?).map .float
  | "string" => some fun _ j => j.string?.map .text
  | "str" => some fun _ j => j.string?.map .text
  | "bytes" => some fun depth j => (list? (fun _ => byte?) depth j).map .blob
  | "option_i32" => some fun _ j => (option? int32? j).map (ofOption .int)
  | "option_string" => some fun _ j => (option? string? j).map (ofOption .text)
  | "value" => some Value.ofLenientJson
  | _ => none

/-- A default from JSON, whose double may be given as text. -/
def DefaultValue.ofLenientJson : Reader DefaultValue
  | _, .obj [(some "Float", .str (some s))] => (Binary64.read? s).map .float
  | depth, j => ofJson depth j

/-- Rows from JSON. -/
def rowsOfJson : Reader (List (List Value)) := list? (list? Value.ofLenientJson)

namespace ResultSet

/-- A result set as JSON. -/
def toJson (float : Binary64 → Json) (r : ResultSet) : Json := .record
  [("columns", .texts r.columns), ("rows", .list (.list (Value.toJson float)) r.rows)]

/-- What a look-up finds. It is a list: what is looked up, and where. -/
def lookUp (float : Binary64 → Json) (r : ResultSet) : Json → Option Json
  | .arr [.str (some "column_index"), name] => do
    some (.option .nat (r.columnIndex? (← name.string?)))
  | .arr [.str (some "get"), row, name] => do
    some (.option (Value.toJson float) (r.get? (← count? row) (← name.string?)))
  | .arr [.str (some "value"), row, column] => do
    some (.option (Value.toJson float)
      (r.cell? (← count? row) (← count? column)))
  | .arr [.str (some "column_values"), name] => do
    some (.list (Value.toJson float) (r.columnValues (← name.string?)))
  | _ => none

end ResultSet

/-- An input parameter as JSON. -/
def InParameter.toJson (float : Binary64 → Json) (p : InParameter) : Json := .record
  [("in", .text p.name), ("index", .nat p.index), ("value", p.value.toJson float)]

/-- An output slot as JSON. -/
def OutParameter.toJson (p : OutParameter) : Json := .record
  [("out", .text p.name), ("size", .nat p.size)]

/-- A parameter as JSON. -/
def Parameter.toJson (float : Binary64 → Json) : Parameter → Json
  | .input p => p.toJson float
  | .output p => p.toJson

/-- A query from JSON; all but its tables may be left out. -/
def Select.ofJson : Reader Select := fun depth j => do
  let tables ← j.field? "tables" >>= texts? depth
  let columns ← optional (texts? depth) (j.field? "columns")
  let filter ← optional (Filter.ofJson depth) (j.field? "filter")
  let sortedBy ← optional (list? SortTerm.ofJson depth) (j.field? "order_by")
  let skip ← optional uint64? (j.field? "skip")
  let take ← optional uint64? (j.field? "take")
  some { tables, columns := columns.getD [], filter, sortedBy := sortedBy.getD [], skip, take }

namespace Column

/-- What the fields of a column are when they are left out. -/
def absentFields : List (String × Json) :=
  [("nullable", .bool true), ("default", .null), ("size", .null), ("precision", .null),
   ("scale", .null), ("primary_key", .bool false), ("auto_increment", .bool false),
   ("unique", .bool false), ("comment", .null)]

/-- The fields of an object; those of a column are completed. -/
def completeFields (fields : List (Option String × Json)) : List (Option String × Json) :=
  let has (key : String) : Bool := fields.any fun f => f.1 == some key
  if has "db_type" then
    fields ++ (absentFields.filter fun f => !has f.1).map fun (key, value) => (some key, value)
  else fields

mutual

/-- A JSON value in which no column leaves out a field. -/
def complete : Json → Json
  | .arr items => .arr (completeAll items)
  | .obj fields => .obj (completeFields (completeEach fields))
  | j => j

/-- Items in which no column leaves out a field. -/
def completeAll : List Json → List Json
  | [] => []
  | item :: items => complete item :: completeAll items

/-- Fields in which no column leaves out a field. -/
def completeEach : List (Option String × Json) → List (Option String × Json)
  | [] => []
  | (key, value) :: fields => (key, complete value) :: completeEach fields

end

end Column

end SchemaEvolution
