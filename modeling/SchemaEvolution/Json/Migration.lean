import SchemaEvolution.Json.Failure
import SchemaEvolution.Json.Operation
import SchemaEvolution.Migration.Runner

/-!
# Migrations in JSON

How migrations and version tables are declared, and what is shown of them.
-/

namespace SchemaEvolution

open Json

/-- Where versions are recorded, as JSON. -/
def VersionTable.toJson (t : VersionTable) : Json := .record
  [("schema", .option .text t.schema), ("table_name", .text t.table), ("group", .text t.group)]

/-- Where versions are recorded: by a JSON text, by the fields of an object, or by default. -/
def VersionTable.ofDeclaration (j : Option Json) : Option (Except MigrationError VersionTable) :=
  match j with
  | none => some (.ok {})
  | some .null => some (.ok {})
  | some (.str text) => text.map VersionTable.parse
  | some j => do
    let defaults : VersionTable := {}
    let schema ← optional string? (j.field? "schema")
    let table ← optional string? (j.field? "table_name")
    let group ← optional string? (j.field? "group")
    some (.ok ⟨schema, table.getD defaults.table, group.getD defaults.group⟩)

/-- The name of what some logic can do. -/
def Logic.kindName (l : Logic) : String := if l.isReversible then "Reversible" else "Irreversible"

/-- Logic from JSON: operations that are undone by their inverses, or not at all, or by others. -/
def Logic.ofJson : Reader Logic := fun depth j => do
  let up ← optional (list? Operation.ofJson depth) (j.field? "up")
  let down ← optional (list? Operation.ofJson depth) (j.field? "down")
  let kind ← optional string? (j.field? "kind")
  let up := up.getD []
  match kind.getD "operations" with
  | "operations" => some (.ofOperations up)
  | "fn" => some (.irreversible fun c => Operation.applyAll c up)
  | "fns" =>
    some (.reversible (fun c => Operation.applyAll c up)
      fun c => Operation.applyAll c (down.getD []))
  | _ => none

namespace Migration

/-- A migration from JSON: with a version of its own, or with the one that leads its name. -/
def ofJson (depth : Nat) (j : Json) : Option (Except MigrationError Migration) := do
  let logic ← Logic.ofJson depth j
  let group ← optional string? (j.field? "group")
  let version ← optional int64? (j.field? "version")
  let name ← optional string? (j.field? "name")
  let named ← match version with
    | some version => some (.ok ⟨version, defaultGroup, name.getD "m", logic⟩)
    | none => name.map fun name => Migration.ofName name logic
  some (named.map fun m => { m with group := group.getD m.group })

/-- Migrations from JSON, or the failure of the first that has no version. -/
def listOfJson (depth : Nat) (j : Json) : Option (Except MigrationError (List Migration)) :=
  (list? ofJson depth j).map fun list => list.mapM id

/-- A migration as JSON. -/
def toJson (m : Migration) : Json := .record
  [("version", .int64 m.version), ("name", .text m.name), ("group", .text m.group),
   ("reversible", .bool m.logic.isReversible), ("kind", .text m.logic.kindName)]

end Migration

/-- What a catalog shows: itself, the migrations with some versions, and what is pending when some
versions are applied. -/
def Catalog.fields (c : Catalog) (wanted applied : List Int64) : List (String × Json) :=
  [("group", .text c.group), ("len", .nat c.migrations.length),
   ("is_empty", .bool c.migrations.isEmpty), ("versions", .list .int64 c.versions),
   ("all", .list Migration.toJson c.migrations),
   ("found", .list (fun v => .option Migration.toJson (c.get? v)) wanted),
   ("pending", .list (fun m => .int64 m.version) (c.pending applied))]

/-- The status of a migration as JSON. -/
def MigrationStatus.toJson (s : MigrationStatus) : Json := .record
  [("version", .int64 s.version), ("name", .text s.name),
   ("state", .text (if s.applied then "applied" else "pending")),
   ("reversible", .bool s.reversible)]

end SchemaEvolution
