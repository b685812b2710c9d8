import SchemaEvolution.Migration.Basic

/-!
# Catalogs

A catalog holds the migrations of one group in ascending order of their versions, however they were
supplied.
-/

namespace SchemaEvolution

/-- The migrations of one group, in ascending order of their versions. -/
structure Catalog where
  group : String
  migrations : List Migration

namespace Catalog

/-- Puts a migration in its place; there is none if its version is taken. -/
def place (m : Migration) : List Migration → Option (List Migration)
  | [] => some [m]
  | first :: rest =>
    if m.version < first.version then some (m :: first :: rest)
    else if m.version = first.version then none
    else (place m rest).map (first :: ·)

/-- Adds the migrations of a group to those already placed. -/
def collect (group : String) (placed : List Migration) :
    List Migration → Except MigrationError (List Migration)
  | [] => .ok placed
  | m :: rest =>
    if m.group = group then
      match place m placed with
      | some placed => collect group placed rest
      | none => .error (.versionConflict m.version group)
    else collect group placed rest

/-- The catalog of a group out of some migrations. Those of other groups are left out, and no two of
the group may have one version. -/
def discover (group : String) (migrations : List Migration) : Except MigrationError Catalog :=
  (collect group [] migrations).map (⟨group, ·⟩)

/-- The migration with a given version. -/
def get? (c : Catalog) (version : Int64) : Option Migration :=
  c.migrations.find? fun m => m.version == version

/-- The versions, ascending. -/
def versions (c : Catalog) : List Int64 := c.migrations.map (·.version)

/-- The migrations whose versions are not among those applied, ascending. -/
def pending (c : Catalog) (applied : List Int64) : List Migration :=
  c.migrations.filter fun m => !applied.contains m.version

end Catalog

end SchemaEvolution
