import SchemaEvolution.Proofs.Runner.Procedures
import SchemaEvolution.Proofs.VersionTable.Keeper

/-!
# Idle runners

Runners of migrations that do nothing, against a keeper of their version table. What is said of
runners on kept tables that migrations leave alone is said of these.
-/

namespace SchemaEvolution

/-- Logic that does nothing, either way. -/
def Logic.idle : Logic := .reversible (fun _ => pure ()) fun _ => pure ()

/-- A migration that does nothing. -/
def Migration.idle (group : String) (version : Int64) : Migration := ⟨version, group, "", .idle⟩

/-- A client of SQLite. -/
def Client.sqlite : Client := ⟨.sqlite, none, {}⟩

namespace Runner

/-- A runner of migrations that do nothing. -/
def idle (group : String) (versions : List Int64) : Runner :=
  ⟨.sqlite, ⟨group, versions.map (Migration.idle group)⟩, { group }⟩

/-- A keeper of the version table, for every group. -/
def keeper : Backend VersionTable.Memory := VersionTable.keeper {} .sqlite

/-- The version table of an idle runner is kept. -/
theorem keptBy_idle (group : String) (versions : List Int64) :
    (idle group versions).versions.KeptBy (idle group versions).client keeper
      VersionTable.Memory.rows :=
  VersionTable.keptBy_keeper Dialect.plain_sqlite {} group

variable {σ : Type}

private theorem logic_idle {group : String} {versions : List Int64} {v : Int64} {m : Migration}
    (h : (idle group versions).catalog.get? v = some m) : m.logic = .idle := by
  obtain ⟨w, -, rfl⟩ := List.mem_map.mp (List.mem_of_find?_eq_some h)
  rfl

/-- The logic of an idle runner does nothing, either way. -/
theorem logic?_idle {group : String} {versions : List Int64} {phase : Phase} {v : Int64}
    {logic : Action Unit} (h : (idle group versions).logic? phase v = some logic) :
    logic = pure () := by
  cases phase with
  | up =>
    obtain ⟨m, hm, rfl⟩ := Option.map_eq_some_iff.mp h
    rw [logic_idle hm]
    rfl
  | down =>
    obtain ⟨m, hm, hdown⟩ := Option.bind_eq_some_iff.mp h
    rw [logic_idle hm] at hdown
    cases hdown
    rfl

/-- Migrations that do nothing leave the version table alone. -/
theorem spares_idle (group : String) (versions : List Int64) (backend : Backend σ)
    (rows : σ → Option VersionTable.Rows) : (idle group versions).Spares backend rows := by
  intro phase v logic hlogic s
  rw [logic?_idle hlogic]
  rfl

/-- The versions of an idle runner can be undone. -/
theorem canUndo_idle {group : String} {versions : List Int64} {v : Int64} (h : v ∈ versions) :
    (idle group versions).CanUndo v := by
  have hversion : v ∈ (idle group versions).catalog.versions :=
    List.mem_map.mpr ⟨_, List.mem_map.mpr ⟨v, h, rfl⟩, rfl⟩
  obtain ⟨m, hm⟩ := Option.isSome_iff_exists.mp ((Catalog.isSome_get? _ v).mpr hversion)
  exact ⟨m, hm, by rw [logic_idle hm]; rfl⟩

end Runner

end SchemaEvolution
