import SchemaEvolution.Migration.Catalog
import SchemaEvolution.Migration.VersionTable

/-!
# Ascending versions

The versions read from rows and the migrations of a catalog stand in strictly ascending order, so
each version occurs once. A catalog that was discovered holds exactly the migrations of its group.
-/

namespace SchemaEvolution

/-- Strictly ascending versions, so that none occurs twice. -/
abbrev Ascending (versions : List Int64) : Prop := versions.Pairwise (· < ·)

theorem Ascending.nodup {versions : List Int64} (h : Ascending versions) : versions.Nodup := by
  apply h.imp
  intro a b hab he
  subst he
  exact Int64.lt_irrefl hab

theorem Ascending.filter {versions : List Int64} (h : Ascending versions) (p : Int64 → Bool) :
    Ascending (versions.filter p) :=
  List.Pairwise.filter p h

/-- Ascending versions are determined by which they are. -/
theorem Ascending.ext {versions others : List Int64} (h : Ascending versions)
    (h' : Ascending others) (hmem : ∀ v, v ∈ versions ↔ v ∈ others) : versions = others := by
  have hperm := (List.perm_ext_iff_of_nodup h.nodup h'.nodup).mpr hmem
  apply List.Perm.eq_of_pairwise _ h h' hperm
  intro v w _ _ hvw hwv
  exact absurd (Int64.lt_trans hvw hwv) Int64.lt_irrefl

/-! ### Versions read from rows -/

/-- Adding a version adds no other. -/
theorem mem_insertVersion {v w : Int64} {versions : List Int64} :
    w ∈ insertVersion v versions ↔ w = v ∨ w ∈ versions := by
  induction versions with
  | nil => simp [insertVersion]
  | cons first rest ih =>
    rw [insertVersion]
    split
    · rw [List.mem_cons]
    · split
      · next _ he =>
        subst he
        simp
      · rw [List.mem_cons, ih, List.mem_cons, or_left_comm]

/-- Adding a version keeps the order. -/
theorem ascending_insertVersion {v : Int64} {versions : List Int64} (h : Ascending versions) :
    Ascending (insertVersion v versions) := by
  induction versions with
  | nil => simp [insertVersion]
  | cons first rest ih =>
    obtain ⟨hfirst, hrest⟩ := List.pairwise_cons.mp h
    rw [insertVersion]
    split
    · next hlt =>
      apply List.pairwise_cons.mpr
      refine ⟨?_, h⟩
      intro w hw
      rcases List.mem_cons.mp hw with rfl | hw
      · exact hlt
      · exact Int64.lt_trans hlt (hfirst w hw)
    · split
      · exact h
      · next hlt hne =>
        apply List.pairwise_cons.mpr
        refine ⟨?_, ih hrest⟩
        intro w hw
        rcases mem_insertVersion.mp hw with rfl | hw
        · exact Int64.lt_of_le_of_ne (Int64.not_lt.mp hlt) (Ne.symm hne)
        · exact hfirst w hw

private theorem foldl_insertVersion (cells versions : List Int64) (h : Ascending versions) :
    Ascending (cells.foldl (fun versions v => insertVersion v versions) versions) ∧
      ∀ v, v ∈ cells.foldl (fun versions v => insertVersion v versions) versions ↔
        v ∈ cells ∨ v ∈ versions := by
  induction cells generalizing versions with
  | nil => exact ⟨h, by simp⟩
  | cons cell cells ih =>
    obtain ⟨hasc, hmem⟩ := ih _ (ascending_insertVersion (v := cell) h)
    refine ⟨hasc, fun v => ?_⟩
    rw [List.foldl_cons, hmem, mem_insertVersion, List.mem_cons, or_left_comm, or_assoc]

namespace VersionTable

/-- The versions read from rows are ascending. -/
theorem ascending_versionsOf (rows : ResultSet) : Ascending (versionsOf rows) :=
  (foldl_insertVersion _ [] List.Pairwise.nil).1

/-- The versions read from rows are those that a row starts with. -/
theorem mem_versionsOf {rows : ResultSet} {v : Int64} :
    v ∈ versionsOf rows ↔ ∃ row ∈ rows.rows, row.head? >>= Value.toInt? = some v := by
  rw [versionsOf, (foldl_insertVersion _ [] List.Pairwise.nil).2]
  simp

end VersionTable

/-! ### Catalogs -/

namespace Catalog

/-- Placing a migration adds it and nothing else. -/
theorem perm_of_place {m : Migration} {placed result : List Migration}
    (h : place m placed = some result) : result.Perm (m :: placed) := by
  induction placed generalizing result with
  | nil =>
    cases h
    exact List.Perm.refl _
  | cons first rest ih =>
    rw [place] at h
    split at h
    · cases h
      exact List.Perm.refl _
    · split at h
      · cases h
      · obtain ⟨inner, hinner, rfl⟩ := Option.map_eq_some_iff.mp h
        exact ((ih hinner).cons first).trans (List.Perm.swap m first rest)

/-- Placing a migration keeps the order. -/
theorem ascending_of_place {m : Migration} {placed result : List Migration}
    (h : place m placed = some result) (hasc : Ascending (placed.map (·.version))) :
    Ascending (result.map (·.version)) := by
  induction placed generalizing result with
  | nil =>
    cases h
    simp
  | cons first rest ih =>
    obtain ⟨hfirst, hrest⟩ := List.pairwise_cons.mp hasc
    rw [place] at h
    split at h
    · next hlt =>
      cases h
      apply List.pairwise_cons.mpr
      refine ⟨?_, hasc⟩
      intro v hv
      rcases List.mem_cons.mp hv with rfl | hv
      · exact hlt
      · exact Int64.lt_trans hlt (hfirst v hv)
    · next hlt =>
      split at h
      · cases h
      · next hne =>
        obtain ⟨inner, hinner, rfl⟩ := Option.map_eq_some_iff.mp h
        apply List.pairwise_cons.mpr
        refine ⟨?_, ih hinner hrest⟩
        intro v hv
        have hmem := ((perm_of_place hinner).map (·.version)).mem_iff.mp hv
        rcases List.mem_cons.mp hmem with rfl | hv
        · exact Int64.lt_of_le_of_ne (Int64.not_lt.mp hlt) (Ne.symm hne)
        · exact hfirst v hv

private theorem collect_ok {group : String} {placed migrations result : List Migration}
    (h : collect group placed migrations = .ok result)
    (hasc : Ascending (placed.map (·.version))) :
    result.Perm (placed ++ migrations.filter fun m => m.group = group) ∧
      Ascending (result.map (·.version)) := by
  induction migrations generalizing placed with
  | nil =>
    cases h
    simpa using hasc
  | cons m rest ih =>
    rw [collect] at h
    split at h
    · next hgroup =>
      cases hplace : place m placed with
      | none =>
        rw [hplace] at h
        cases h
      | some next =>
        rw [hplace] at h
        obtain ⟨hperm, hresult⟩ := ih h (ascending_of_place hplace hasc)
        refine ⟨?_, hresult⟩
        rw [List.filter_cons_of_pos (by simpa using hgroup)]
        exact hperm.trans (((perm_of_place hplace).append_right _).trans List.perm_middle.symm)
    · next hgroup =>
      obtain ⟨hperm, hresult⟩ := ih h hasc
      refine ⟨?_, hresult⟩
      rwa [List.filter_cons_of_neg (by simpa using hgroup)]

/-- A catalog that was discovered is of its group. -/
theorem group_of_discover {group : String} {migrations : List Migration} {c : Catalog}
    (h : discover group migrations = .ok c) : c.group = group := by
  rw [discover] at h
  cases hcollect : collect group [] migrations with
  | error e =>
    rw [hcollect] at h
    cases h
  | ok placed =>
    rw [hcollect] at h
    cases h
    rfl

/-- A catalog that was discovered is ascending and holds the migrations of its group. -/
theorem perm_of_discover {group : String} {migrations : List Migration} {c : Catalog}
    (h : discover group migrations = .ok c) :
    c.migrations.Perm (migrations.filter fun m => m.group = group) ∧ Ascending c.versions := by
  rw [discover] at h
  cases hcollect : collect group [] migrations with
  | error e =>
    rw [hcollect] at h
    cases h
  | ok placed =>
    rw [hcollect] at h
    cases h
    exact collect_ok hcollect List.Pairwise.nil

/-- A version is looked up successfully when it is one of the catalog's. -/
theorem isSome_get? (c : Catalog) (v : Int64) : (c.get? v).isSome ↔ v ∈ c.versions := by
  simp [get?, versions]

/-- The versions that are pending are the catalog's without those applied. -/
theorem versions_pending (c : Catalog) (applied : List Int64) :
    (c.pending applied).map (·.version) = c.versions.filter fun v => !applied.contains v := by
  rw [pending, versions, List.filter_map]
  rfl

end Catalog

end SchemaEvolution
