import SchemaEvolution.Migration.Catalog
import SchemaEvolution.Migration.VersionTable

/-!
# Runners

A runner brings a database to a version: it applies the pending migrations of one group in ascending
order and rolls applied ones back in descending order, and records each success in the version
table. What is applied is read from the table anew for every procedure.

A procedure is a program of steps: calls of the runner's own, and runs of a migration's logic. As a
session it is nothing but calls.
-/

namespace SchemaEvolution

/-- Which logic of a migration runs. -/
inductive Phase where
  | up
  | down
  deriving DecidableEq, Repr

/-- A step of a runner. -/
inductive Step where
  /-- A call of the runner's own. -/
  | call (c : Call)
  /-- A run of the logic of the migration with a given version. -/
  | run (phase : Phase) (version : Int64) (logic : Action Unit)

/-- What a step gives: what its call gives, or whether the logic went well. -/
abbrev Step.Answer : Step → Type
  | .call c => Except BackendError c.Answer
  | .run _ _ _ => Except Error Unit

/-- A program of steps that may fail. -/
abbrev Procedure : Type → Type := ExceptT MigrationError (Program Step Step.Answer)

namespace Procedure

/-- One call of the runner's own. -/
def askCall (c : Call) : Program Step Step.Answer (Except BackendError c.Answer) :=
  Program.perform (Step.call c)

/-- An action on the version table, whose failure is one of the client. -/
def ofAction {α : Type} (action : Action α) : Procedure α :=
  ExceptT.mk do
    match ← action.run.run askCall with
    | .ok a => pure (.ok a)
    | .error cause => pure (.error (.client cause))

/-- A run of the logic of a migration. -/
def runLogic (phase : Phase) (version : Int64) (logic : Action Unit) : Procedure Unit :=
  ExceptT.mk do
    match ← (Program.perform (Step.run phase version logic) : Program Step Step.Answer _) with
    | .ok _ => pure (.ok ())
    | .error cause => pure (.error (.failed version cause))

/-- A result that is known without any step. -/
def ofExcept {α : Type} (result : Except MigrationError α) : Procedure α :=
  ExceptT.mk (pure result)

/-- The calls that answer a step. -/
def callsOf : (step : Step) → Session step.Answer
  | .call c => Program.perform c
  | .run _ _ logic => logic.run

/-- A procedure as a session. -/
def session {α : Type} (p : Procedure α) : Session (Except MigrationError α) := p.run.run callsOf

end Procedure

/-- Applies and rolls back the migrations of one group. -/
structure Runner where
  client : Client
  catalog : Catalog
  versions : VersionTable

/-- A migration and whether it is applied. -/
structure MigrationStatus where
  version : Int64
  name : String
  applied : Bool
  reversible : Bool
  deriving DecidableEq, Repr

namespace Runner

/-- A runner for the group that a version table records. -/
def ofMigrations (client : Client) (versions : VersionTable) (migrations : List Migration) :
    Except MigrationError Runner :=
  (Catalog.discover versions.group migrations).map fun catalog => ⟨client, catalog, versions⟩

/-- The group of a runner. -/
def group (r : Runner) : String := r.catalog.group

/-- Creates the version table unless it exists. -/
def ensure (r : Runner) : Procedure Unit := Procedure.ofAction (r.versions.ensure r.client)

/-- The versions applied, ascending. -/
def applied (r : Runner) : Procedure (List Int64) :=
  Procedure.ofAction (r.versions.applied r.client)

/-- The versions known and not applied, ascending. -/
def pending (r : Runner) : Procedure (List Int64) := do
  let applied ← r.applied
  pure ((r.catalog.pending applied).map (·.version))

/-- The greatest version applied, or zero. -/
def current (r : Runner) : Procedure Int64 := Procedure.ofAction (r.versions.current r.client)

/-- The migration with a given version. -/
def find (r : Runner) (version : Int64) : Except MigrationError Migration :=
  match r.catalog.get? version with
  | some m => .ok m
  | none => .error (.unknownVersion version r.group)

/-- What undoes the migration with a given version. -/
def findDown (r : Runner) (version : Int64) : Except MigrationError (Client → Action Unit) :=
  match r.find version with
  | .ok m =>
    match m.logic.down? with
    | some down => .ok down
    | none => .error (.notReversible version r.group)
  | .error e => .error e

/-- Applies one migration and records it. -/
def apply (r : Runner) (version : Int64) : Procedure Unit := do
  let m ← Procedure.ofExcept (r.find version)
  Procedure.runLogic .up version (m.logic.up r.client)
  Procedure.ofAction (r.versions.ensure r.client)
  Procedure.ofAction (r.versions.record r.client version)

/-- Rolls one migration back and forgets it. -/
def revert (r : Runner) (version : Int64) : Procedure Unit := do
  let down ← Procedure.ofExcept (r.findDown version)
  Procedure.runLogic .down version (down r.client)
  Procedure.ofAction (r.versions.forget r.client version)

/-- Applies migrations one after the other. -/
def applyAll (r : Runner) : List Int64 → Procedure Unit
  | [] => pure ()
  | version :: rest => do
    r.apply version
    applyAll r rest

/-- Rolls migrations back one after the other. -/
def revertAll (r : Runner) : List Int64 → Procedure Unit
  | [] => pure ()
  | version :: rest => do
    r.revert version
    revertAll r rest

/-- Whether migrations can all be rolled back, or why the first that cannot may not. -/
def checkDown (r : Runner) : List Int64 → Except MigrationError Unit
  | [] => .ok ()
  | version :: rest =>
    match r.findDown version with
    | .ok _ => checkDown r rest
    | .error e => .error e

/-- Applies all pending migrations and gives their versions. -/
def migrateUp (r : Runner) : Procedure (List Int64) := do
  let pending ← r.pending
  r.applyAll pending
  pure pending

/-- Brings the database to a target: applied migrations above it are rolled back, the latest first,
and then pending ones up to it are applied. Nothing runs if one of those above the target cannot be
rolled back. -/
def migrateTo (r : Runner) (target : Int64) : Procedure Unit := do
  let applied ← r.applied
  let above := applied.reverse.filter fun version => target < version
  Procedure.ofExcept (r.checkDown above)
  r.revertAll above
  r.applyAll (((r.catalog.pending applied).map (·.version)).filter fun version => version ≤ target)

/-- Rolls one migration back, if it is applied, and tells whether it was. -/
def rollback (r : Runner) (version : Int64) : Procedure Bool := do
  let _ ← Procedure.ofExcept (r.findDown version)
  let applied ← r.applied
  if applied.contains version then
    r.revert version
    pure true
  else pure false

/-- Rolls the latest applied migration back, if there is one, and gives its version. -/
def rollbackLast (r : Runner) : Procedure (Option Int64) := do
  let applied ← r.applied
  match applied.getLast? with
  | none => pure none
  | some version =>
    let _ ← r.rollback version
    pure (some version)

/-- The known migrations, ascending, and which of them are applied. -/
def status (r : Runner) : Procedure (List MigrationStatus) := do
  let applied ← r.applied
  pure (r.catalog.migrations.map fun m =>
    ⟨m.version, m.name, applied.contains m.version, m.logic.isReversible⟩)

end Runner

end SchemaEvolution
