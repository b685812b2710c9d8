import SchemaEvolution.Json.Decode
import SchemaEvolution.Select
import SchemaEvolution.Table

/-!
# Schemas and filters in JSON

How values, columns, tables and filters are written as JSON and read from it. How a double is
written is left to whoever writes.
-/

namespace SchemaEvolution

namespace Json

/-- A double as a number; what is not a finite number is null. -/
def float (x : Binary64) : Json :=
  if x.isFinite then
    let body := if x.magnitude = 0 then ['0'] else x.shortest.layout
    let fraction := (body.dropWhile (· != '.')).drop 1
    .num ⟨x.negative, body.takeWhile (· != '.'),
      if fraction.isEmpty then none else some fraction, none⟩
  else .null

end Json

open Json

namespace Value

/-- A value as JSON. -/
def toJson (float : Binary64 → Json) : Value → Json
  | .null => .text "Null"
  | .bool b => .tagged "Bool" (.bool b)
  | .int n => .tagged "Int" (.int64 n)
  | .float x => .tagged "Float" (float x)
  | .text s => .tagged "Text" (.text s)
  | .blob bytes => .tagged "Blob" (.list (fun b => .nat b.toNat) bytes)

/-- A value from JSON. -/
def ofJson : Reader Value := fun depth j => do
  match ← variant? depth j with
  | ("Null", none) => some .null
  | ("Null", some (_, .null)) => some .null
  | ("Bool", some (_, j)) => j.bool?.map .bool
  | ("Int", some (_, j)) => j.int64?.map .int
  | ("Float", some (_, j)) => j.float?.map .float
  | ("Text", some (_, j)) => j.string?.map .text
  | ("Blob", some (depth, j)) => (list? (fun _ => byte?) depth j).map .blob
  | _ => none

end Value

namespace DefaultValue

/-- A default as JSON. -/
def toJson (float : Binary64 → Json) : DefaultValue → Json
  | .null => .text "Null"
  | .bool b => .tagged "Bool" (.bool b)
  | .integer n => .tagged "Integer" (.int64 n)
  | .float x => .tagged "Float" (float x)
  | .string s => .tagged "String" (.text s)
  | .expression s => .tagged "Expression" (.text s)

/-- A default from JSON. -/
def ofJson : Reader DefaultValue := fun depth j => do
  match ← variant? depth j with
  | ("Null", none) => some .null
  | ("Null", some (_, .null)) => some .null
  | ("Bool", some (_, j)) => j.bool?.map .bool
  | ("Integer", some (_, j)) => j.int64?.map .integer
  | ("Float", some (_, j)) => j.float?.map .float
  | ("String", some (_, j)) => j.string?.map .string
  | ("Expression", some (_, j)) => j.string?.map .expression
  | _ => none

end DefaultValue

/-- A column type from JSON. -/
def ColumnType.ofJson : Reader ColumnType := unit? ColumnType.names

/-- A delete action from JSON. -/
def DeleteAction.ofJson : Reader DeleteAction := unit? DeleteAction.names

/-- A comparison from JSON. -/
def Comparison.ofJson : Reader Comparison := unit? Comparison.names

/-- A direction from JSON. -/
def Direction.ofJson : Reader Direction := unit? Direction.names

namespace Column

/-- A column as JSON. -/
def toJson (float : Binary64 → Json) (c : Column) : Json := .record
  [("name", .text c.name), ("db_type", .text c.type.name), ("nullable", .bool c.nullable),
   ("default", .option (DefaultValue.toJson float) c.default),
   ("size", .option (fun n => .nat n.toNat) c.size),
   ("precision", .option (fun n => .nat n.toNat) c.precision),
   ("scale", .option (fun n => .nat n.toNat) c.scale), ("primary_key", .bool c.primaryKey),
   ("auto_increment", .bool c.autoIncrement), ("unique", .bool c.unique),
   ("comment", .option .text c.comment)]

/-- A column from JSON. -/
def ofJson : Reader Column := fun depth j => do
  match ← record? ["name", "db_type", "nullable", "default", "size", "precision", "scale",
      "primary_key", "auto_increment", "unique", "comment"] depth j with
  | (depth, [name, type, nullable, default, size, precision, scale, primaryKey, autoIncrement,
      unique, comment]) =>
    let name ← required string? name
    let type ← required (ColumnType.ofJson depth) type
    let nullable ← required bool? nullable
    let default ← optional (DefaultValue.ofJson depth) default
    let size ← optional uint32? size
    let precision ← optional byte? precision
    let scale ← optional byte? scale
    let primaryKey ← required bool? primaryKey
    let autoIncrement ← required bool? autoIncrement
    let unique ← required bool? unique
    let comment ← optional string? comment
    some ⟨name, type, nullable, default, size, precision, scale, primaryKey, autoIncrement, unique,
      comment⟩
  | _ => none

end Column

namespace Table

/-- A table as JSON. -/
def toJson (float : Binary64 → Json) (t : Table) : Json := .record
  [("name", .text t.name), ("columns", .list (Column.toJson float) t.columns)]

/-- A table from JSON. -/
def ofJson : Reader Table := fun depth j => do
  match ← record? ["name", "columns"] depth j with
  | (depth, [name, columns]) =>
    let name ← required string? name
    let columns ← required (list? Column.ofJson depth) columns
    some ⟨name, columns⟩
  | _ => none

end Table

namespace ForeignKey

/-- A foreign key as JSON. -/
def toJson (k : ForeignKey) : Json := .record
  [("name", .text k.name), ("table", .text k.table), ("column", .text k.column),
   ("referenced_table", .text k.referencedTable),
   ("referenced_column", .text k.referencedColumn), ("on_delete", .text k.onDelete.name)]

/-- A foreign key from JSON. -/
def ofJson : Reader ForeignKey := fun depth j => do
  match ← record? ["name", "table", "column", "referenced_table", "referenced_column",
      "on_delete"] depth j with
  | (depth, [name, table, column, referencedTable, referencedColumn, onDelete]) =>
    let name ← required string? name
    let table ← required string? table
    let column ← required string? column
    let referencedTable ← required string? referencedTable
    let referencedColumn ← required string? referencedColumn
    let onDelete ← required (DeleteAction.ofJson depth) onDelete
    some ⟨name, table, column, referencedTable, referencedColumn, onDelete⟩
  | _ => none

end ForeignKey

namespace SortTerm

/-- A sort term as JSON. -/
def toJson (o : SortTerm) : Json := .record
  [("column", .text o.column), ("direction", .text o.direction.name)]

/-- A sort term from JSON. -/
def ofJson : Reader SortTerm := fun depth j => do
  match ← record? ["column", "direction"] depth j with
  | (depth, [column, direction]) =>
    let column ← required string? column
    let direction ← required (Direction.ofJson depth) direction
    some ⟨column, direction⟩
  | _ => none

end SortTerm

namespace Filter

/-- A filter as JSON. -/
def toJson (float : Binary64 → Json) : Filter → Json
  | .compare column comparison value => .tagged "Compare" (.record
      [("column", .text column), ("op", .text comparison.name), ("value", value.toJson float)])
  | .between column low high => .tagged "Between" (.record
      [("column", .text column), ("low", low.toJson float), ("high", high.toJson float)])
  | .oneOf column values negated => .tagged "In" (.record
      [("column", .text column), ("values", .list (Value.toJson float) values),
       ("negated", .bool negated)])
  | .and left right => .tagged "And" (.arr [left.toJson float, right.toJson float])
  | .or left right => .tagged "Or" (.arr [left.toJson float, right.toJson float])
  | .not inner => .tagged "Not" (inner.toJson float)

/-- The content of a comparison. -/
def compareOfJson : Reader Filter := fun depth j => do
  match ← record? ["column", "op", "value"] depth j with
  | (depth, [column, comparison, value]) =>
    let column ← required string? column
    let comparison ← required (Comparison.ofJson depth) comparison
    let value ← required (Value.ofJson depth) value
    some (.compare column comparison value)
  | _ => none

/-- The content of a range. -/
def betweenOfJson : Reader Filter := fun depth j => do
  match ← record? ["column", "low", "high"] depth j with
  | (depth, [column, low, high]) =>
    let column ← required string? column
    let low ← required (Value.ofJson depth) low
    let high ← required (Value.ofJson depth) high
    some (.between column low high)
  | _ => none

/-- The content of a membership. -/
def oneOfOfJson : Reader Filter := fun depth j => do
  match ← record? ["column", "values", "negated"] depth j with
  | (depth, [column, values, negated]) =>
    let column ← required string? column
    let values ← required (list? Value.ofJson depth) values
    let negated ← required bool? negated
    some (.oneOf column values negated)
  | _ => none

/-- A filter from JSON. -/
def ofJson : Nat → Json → Option Filter
  | 0, _ => none
  | depth + 1, .obj [(some name, j)] =>
    match name with
    | "Compare" => compareOfJson depth j
    | "Between" => betweenOfJson depth j
    | "In" => oneOfOfJson depth j
    | "Not" => (ofJson depth j).map .not
    | "And" => pair .and depth j
    | "Or" => pair .or depth j
    | _ => none
  | _, _ => none
where
  pair (f : Filter → Filter → Filter) : Nat → Json → Option Filter
    | depth + 1, .arr [left, right] => do
      let left ← ofJson depth left
      let right ← ofJson depth right
      some (f left right)
    | _, _ => none

end Filter

end SchemaEvolution
