import SchemaEvolution.Json.Decode
import SchemaEvolution.Json.Parser
import SchemaEvolution.Migration.Basic

/-!
# The version table

What has been applied is recorded in a table, one row for each version of each group. Nothing else
records it, and reading it never creates it.
-/

namespace SchemaEvolution

/-- Where the versions of a group are recorded. -/
structure VersionTable where
  schema : Option String := none
  table : String := "strata_version"
  group : String := defaultGroup
  deriving DecidableEq, Repr

/-- Adds a version to a list of versions in ascending order. -/
def insertVersion (version : Int64) : List Int64 → List Int64
  | [] => [version]
  | first :: rest =>
    if version < first then version :: first :: rest
    else if version = first then first :: rest
    else first :: insertVersion version rest

namespace VersionTable

/-- Reads where versions are recorded from JSON; what is not given has its default. The fields may
also be given in order, the last ones left out. -/
def ofJson : Json.Reader VersionTable := fun depth j => do
  let fields := ["schema", "table_name", "group"]
  let values ← match depth, j with
    | _ + 1, .arr items => if items.length ≤ fields.length then some (items.map some) else none
    | _, _ => (Json.record? fields depth j).map (·.2)
  let defaults : VersionTable := {}
  let schema ← Json.optional Json.string? (values[0]?.bind id)
  let table ← ((values[1]?.bind id).map Json.string?).getD (some defaults.table)
  let group ← ((values[2]?.bind id).map Json.string?).getD (some defaults.group)
  some ⟨schema, table, group⟩

/-- Reads where versions are recorded from JSON text. -/
def parse (text : String) : Except MigrationError VersionTable :=
  match Json.parse text >>= ofJson Json.maxDepth with
  | some table => .ok table
  | none => .error .serialization

/-- The name of the table as a client sees it. -/
def name (t : VersionTable) (c : Client) : String :=
  match t.schema with
  | some schema => TableName.qualify (some schema) t.table
  | none => c.tableName t.table

/-- The rows of the group. -/
def groupFilter (t : VersionTable) : Filter := .equals "group" (.text t.group)

/-- Whether the table exists. -/
def isPresent (t : VersionTable) (c : Client) : Action Bool := c.tableExists (t.name c)

/-- The columns of the table. -/
def columns : List Column :=
  [(Column.ofType "version" .bigInt).notNull,
    ((Column.ofType "group" .string).withSize 255).notNull.withDefault (.string defaultGroup)]

/-- Creates the table. -/
def create (t : VersionTable) (c : Client) : Action Unit := c.addTable (t.name c) columns

/-- Creates the table unless it exists. -/
def ensure (t : VersionTable) (c : Client) : Action Unit := do
  if ← t.isPresent c then pure () else t.create c

/-- The versions recorded in some rows, ascending and each once. -/
def versionsOf (rows : ResultSet) : List Int64 :=
  (rows.rows.filterMap fun row => row.head? >>= Value.toInt?).foldl
    (fun versions version => insertVersion version versions) []

/-- The versions applied in the group, ascending; none if the table does not exist. -/
def applied (t : VersionTable) (c : Client) : Action (List Int64) := do
  if ← t.isPresent c then
    let rows ← c.select
      { tables := [t.name c], columns := ["version"], filter := some t.groupFilter }
    pure (versionsOf rows)
  else pure []

/-- The greatest of some ascending versions, or zero. -/
def greatest (versions : List Int64) : Int64 := versions.getLast?.getD 0

/-- The greatest version applied in the group, or zero. -/
def current (t : VersionTable) (c : Client) : Action Int64 := do
  let versions ← t.applied c
  pure (greatest versions)

/-- Records a version. -/
def record (t : VersionTable) (c : Client) (version : Int64) : Action Unit :=
  Operation.forget
    (c.insert (t.name c) ["version", "group"] (some [.int version, .text t.group]))

/-- Forgets a version. -/
def forget (t : VersionTable) (c : Client) (version : Int64) : Action Unit :=
  Operation.forget
    (c.delete (t.name c) (some (.and (.equals "version" (.int version)) t.groupFilter)))

end VersionTable

end SchemaEvolution
