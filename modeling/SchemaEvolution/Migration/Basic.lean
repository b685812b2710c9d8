import SchemaEvolution.Migration.Version
import SchemaEvolution.Operation.Apply

/-!
# Migrations

A migration has a version in a group and logic that carries it out, and perhaps logic that undoes
it. Built from operations it can be undone exactly when every one of them can.
-/

namespace SchemaEvolution

/-- Why a migration could not be read, found, applied or rolled back. -/
inductive MigrationError where
  | notReversible (version : Int64) (group : String)
  | versionConflict (version : Int64) (group : String)
  | unknownVersion (version : Int64) (group : String)
  | invalidName (name : String)
  | failed (version : Int64) (cause : Error)
  | client (cause : Error)
  | serialization
  deriving DecidableEq, Repr

/-- The wording of a failure. -/
def MigrationError.message : MigrationError → String
  | .notReversible version group =>
    "Migration " ++ toString version.toInt ++ " in group '" ++ group ++ "' is not reversible"
  | .versionConflict version group =>
    "Version " ++ toString version.toInt ++ " is declared more than once in group '" ++ group ++ "'"
  | .unknownVersion version group =>
    "No migration with version " ++ toString version.toInt ++ " in group '" ++ group ++ "'"
  | .invalidName name => "Migration name '" ++ name ++ "' does not start with a version number"
  | .failed version cause => "Migration " ++ toString version.toInt ++ " failed: " ++ cause.message
  | .client cause => "Database error: " ++ cause.message
  | .serialization => "Serialization error"

/-- What a migration does. -/
inductive Logic where
  | irreversible (up : Client → Action Unit)
  | reversible (up down : Client → Action Unit)

namespace Logic

/-- Logic that applies operations, and undoes them if all of them can be undone. -/
def ofOperations (operations : List Operation) : Logic :=
  match Operation.reverseAll operations with
  | some down =>
    .reversible (fun c => Operation.applyAll c operations) fun c => Operation.applyAll c down
  | none => .irreversible fun c => Operation.applyAll c operations

/-- What carries the migration out. -/
def up : Logic → Client → Action Unit
  | .irreversible up => up
  | .reversible up _ => up

/-- What undoes the migration, if it can be undone. -/
def down? : Logic → Option (Client → Action Unit)
  | .irreversible _ => none
  | .reversible _ down => some down

/-- Whether the migration can be undone. -/
def isReversible (l : Logic) : Bool := l.down?.isSome

end Logic

/-- The group of migrations and version tables that name none. -/
def defaultGroup : String := "default"

/-- A migration. -/
structure Migration where
  version : Int64
  group : String
  name : String
  logic : Logic

/-- A migration in the default group whose version leads its name. -/
def Migration.ofName (name : String) (logic : Logic) : Except MigrationError Migration :=
  match parseVersion name with
  | some version => .ok ⟨version, defaultGroup, name, logic⟩
  | none => .error (.invalidName name)

end SchemaEvolution
