import SchemaEvolution.Proofs.Operation.Inversion
import SchemaEvolution.Proofs.Runner.Pace
import SchemaEvolution.Proofs.Runner.Target

/-!
# Going up and back down

Migrations that are built from operations are undone by the inverses of these, the last one first.
Migrating to a target and then back applies, on the way back, the inverses of what was applied on
the way there, in the opposite order.
-/

namespace SchemaEvolution

open Procedure (attempts completed)
open VersionTable (Rows recordedIn)

variable {σ : Type}

namespace Operation

variable {script : Int64 → List Operation}

end Operation

/-- The operations of a move, where each version applies the operations of a script: those going up,
and what undoes them going down. -/
def Move.operations (script : Int64 → List Operation) (m : Move) : List Operation :=
  match m.phase with
  | .up => script m.version
  | .down => (Operation.reverseAll (script m.version)).getD []

namespace Runner

variable {r : Runner} {script : Int64 → List Operation}

/-- The migrations are built from the operations of a script. -/
def Scripted (r : Runner) (script : Int64 → List Operation) : Prop :=
  ∀ m ∈ r.catalog.migrations, m.logic = .ofOperations (script m.version)

variable {backend : Backend σ} {rows : σ → Option Rows} {s : σ}

end Runner

end SchemaEvolution
