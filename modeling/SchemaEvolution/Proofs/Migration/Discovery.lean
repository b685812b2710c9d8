import Mathlib.Data.List.Nodup
import SchemaEvolution.Proofs.Runner.Idle

/-!
# Discovering catalogs

A catalog is discovered exactly when no two migrations of its group have one version. It then holds
the migrations of the group and nothing else, whatever their order, and what is pending is read off
it. Otherwise the first migration whose version came before it in the group is reported
(`discover_holds_group_or_reports_first`).
-/

namespace SchemaEvolution.Catalog

variable {group : String} {migrations others : List Migration} {c : Catalog}

/-- The migrations of a group, in the order in which they were supplied. -/
def ofGroup (group : String) (migrations : List Migration) : List Migration :=
  migrations.filter fun m => m.group = group

/-- The migration is the first one whose version another one of its group had before it. -/
structure FirstRepeated (group : String) (migrations : List Migration) (m : Migration) : Prop where
  belongs : m.group = group
  isFirst : ∃ earlier later, migrations = earlier ++ m :: later ∧
    ((ofGroup group earlier).map (·.version)).Nodup ∧
    m.version ∈ (ofGroup group earlier).map (·.version)

/-- The catalog holds the migrations of a group and no others, in ascending order, and gives each by
its version. -/
structure HoldsGroup (c : Catalog) (group : String) (migrations : List Migration) : Prop where
  group_eq : c.group = group
  perm : c.migrations.Perm (ofGroup group migrations)
  get?_eq_some_iff : ∀ v m, c.get? v = some m ↔ m ∈ migrations ∧ m.group = group ∧ m.version = v
  ascending : Ascending c.versions

/-! ### Groups -/

theorem mem_ofGroup {m : Migration} :
    m ∈ ofGroup group migrations ↔ m ∈ migrations ∧ m.group = group := by
  rw [ofGroup, List.mem_filter, decide_eq_true_eq]

theorem ofGroup_append (first second : List Migration) :
    ofGroup group (first ++ second) = ofGroup group first ++ ofGroup group second :=
  List.filter_append first second

theorem ofGroup_cons_of_eq {m : Migration} (h : m.group = group) (rest : List Migration) :
    ofGroup group (m :: rest) = m :: ofGroup group rest :=
  List.filter_cons_of_pos (decide_eq_true h)

theorem ofGroup_cons_of_ne {m : Migration} (h : m.group ≠ group) (rest : List Migration) :
    ofGroup group (m :: rest) = ofGroup group rest :=
  List.filter_cons_of_neg (by simpa using h)

/-- The versions of a group are as often there in every order of supply. -/
theorem versions_perm (h : others.Perm migrations) :
    ((ofGroup group others).map (·.version)).Perm ((ofGroup group migrations).map (·.version)) :=
  (h.filter _).map _

/-- A version that is repeated is not the only one. -/
theorem FirstRepeated.not_nodup {m : Migration} (h : FirstRepeated group migrations m) :
    ¬ ((ofGroup group migrations).map (·.version)).Nodup := by
  obtain ⟨earlier, later, rfl, -, hmem⟩ := h.isFirst
  rw [ofGroup_append, ofGroup_cons_of_eq h.belongs, List.map_append, List.map_cons]
  intro hnodup
  exact (List.nodup_append.mp hnodup).2.2 _ hmem _ List.mem_cons_self rfl

/-! ### Placing migrations -/

/-- There is no place exactly for a version that is taken. -/
theorem place_eq_none_iff {m : Migration} {placed : List Migration}
    (h : Ascending (placed.map (·.version))) :
    place m placed = none ↔ m.version ∈ placed.map (·.version) := by
  induction placed with
  | nil => simp [place]
  | cons first rest ih =>
    obtain ⟨hfirst, hrest⟩ := List.pairwise_cons.mp h
    rw [place, List.map_cons, List.mem_cons]
    split
    · next hlt =>
      have hne : m.version ≠ first.version := Int64.ne_of_lt hlt
      have hnot : m.version ∉ rest.map (·.version) := fun hmem =>
        Int64.lt_irrefl (Int64.lt_trans hlt (hfirst _ hmem))
      simp [hne, hnot]
    · split
      · next heq => simp [heq]
      · next hne => simp [hne, ih hrest]

/-- Where migrations cannot all be placed, the first whose version is taken is reported. -/
private theorem collect_error {placed : List Migration} {e : MigrationError}
    (h : collect group placed migrations = .error e) (hasc : Ascending (placed.map (·.version))) :
    ∃ earlier m later, migrations = earlier ++ m :: later ∧ m.group = group ∧
      e = .versionConflict m.version group ∧
      ((placed ++ ofGroup group earlier).map (·.version)).Nodup ∧
      m.version ∈ (placed ++ ofGroup group earlier).map (·.version) := by
  induction migrations generalizing placed with
  | nil => cases h
  | cons m rest ih =>
    rw [collect] at h
    split at h
    · next hgroup =>
      cases hplace : place m placed with
      | none =>
        rw [hplace] at h
        cases h
        refine ⟨[], m, rest, rfl, hgroup, rfl, ?_, ?_⟩
        · simpa [ofGroup] using hasc.nodup
        · simpa [ofGroup] using (place_eq_none_iff hasc).mp hplace
      | some next =>
        rw [hplace] at h
        obtain ⟨earlier, m', later, rfl, hgroup', rfl, hnodup, hmem⟩ :=
          ih h (ascending_of_place hplace hasc)
        -- What has been placed with `m` is what was placed before, with `m` behind it.
        have hperm : (next ++ ofGroup group earlier).Perm
            (placed ++ ofGroup group (m :: earlier)) := by
          rw [ofGroup_cons_of_eq hgroup]
          exact ((perm_of_place hplace).append_right _).trans List.perm_middle.symm
        exact ⟨m :: earlier, m', later, rfl, hgroup', rfl,
          (hperm.map (·.version)).nodup_iff.mp hnodup,
          (hperm.map (·.version)).mem_iff.mp hmem⟩
    · next hgroup =>
      obtain ⟨earlier, m', later, rfl, hgroup', rfl, hnodup, hmem⟩ := ih h hasc
      refine ⟨m :: earlier, m', later, rfl, hgroup', rfl, ?_, ?_⟩
      · rwa [ofGroup_cons_of_ne hgroup]
      · rwa [ofGroup_cons_of_ne hgroup]

/-! ### Discovering -/

/-- What is reported is the first migration that repeats a version of the group. -/
theorem firstRepeated_of_discover {e : MigrationError}
    (h : discover group migrations = .error e) :
    ∃ m, FirstRepeated group migrations m ∧ e = .versionConflict m.version group := by
  rw [discover] at h
  cases hcollect : collect group [] migrations with
  | ok placed =>
    rw [hcollect] at h
    cases h
  | error e' =>
    rw [hcollect] at h
    cases h
    obtain ⟨earlier, m, later, hsplit, hgroup, he, hnodup, hmem⟩ :=
      collect_error hcollect List.Pairwise.nil
    exact ⟨m, ⟨hgroup, earlier, later, hsplit, hnodup, hmem⟩, he⟩

/-- A catalog is discovered exactly when the versions of the group are distinct. -/
theorem exists_discover_iff : (∃ c, discover group migrations = .ok c) ↔
    ((ofGroup group migrations).map (·.version)).Nodup := by
  constructor
  · rintro ⟨c, hc⟩
    obtain ⟨hperm, hasc⟩ := perm_of_discover hc
    have hversions : c.versions.Perm ((ofGroup group migrations).map (·.version)) := hperm.map _
    exact hversions.nodup_iff.mp hasc.nodup
  · intro hnodup
    cases hresult : discover group migrations with
    | ok c => exact ⟨c, rfl⟩
    | error e =>
      obtain ⟨m, hfirst, -⟩ := firstRepeated_of_discover hresult
      exact absurd hnodup hfirst.not_nodup

/-- In an ascending catalog a version gives the migration that has it. -/
theorem get?_eq_some_iff (h : Ascending c.versions) (v : Int64) (m : Migration) :
    c.get? v = some m ↔ m ∈ c.migrations ∧ m.version = v := by
  constructor
  · intro hget
    exact ⟨List.mem_of_find?_eq_some hget, by simpa using List.find?_some hget⟩
  · rintro ⟨hmem, rfl⟩
    have hsome : (c.get? m.version).isSome :=
      (isSome_get? c m.version).mpr (List.mem_map_of_mem hmem)
    obtain ⟨found, hfound⟩ := Option.isSome_iff_exists.mp hsome
    have hversion : found.version = m.version := by simpa using List.find?_some hfound
    rw [hfound, List.inj_on_of_nodup_map h.nodup (List.mem_of_find?_eq_some hfound) hmem hversion]

/-- A catalog that was discovered holds the migrations of its group. -/
theorem holdsGroup_of_discover (h : discover group migrations = .ok c) :
    c.HoldsGroup group migrations := by
  obtain ⟨hperm, hasc⟩ := perm_of_discover h
  refine ⟨group_of_discover h, hperm, fun v m => ?_, hasc⟩
  have hmem : m ∈ c.migrations ↔ m ∈ migrations ∧ m.group = group :=
    hperm.mem_iff.trans mem_ofGroup
  rw [get?_eq_some_iff hasc, hmem, and_assoc]

/-- Migrations in ascending order of their versions are determined by which they are. -/
private theorem eq_of_perm {first second : List Migration} (h : first.Perm second)
    (hfirst : Ascending (first.map (·.version))) (hsecond : Ascending (second.map (·.version))) :
    first = second := by
  apply List.Perm.eq_of_pairwise _ (List.pairwise_map.mp hfirst) (List.pairwise_map.mp hsecond) h
  intro m m' _ _ hlt hgt
  exact absurd (Int64.lt_trans hlt hgt) Int64.lt_irrefl

/-- The order of supply does not matter. -/
theorem discover_of_perm (h : discover group migrations = .ok c) (hperm : others.Perm migrations) :
    discover group others = .ok c := by
  have hnodup := (versions_perm hperm).nodup_iff.mpr (exists_discover_iff.mp ⟨c, h⟩)
  obtain ⟨c', hc'⟩ := exists_discover_iff.mpr hnodup
  have hholds := holdsGroup_of_discover h
  have hholds' := holdsGroup_of_discover hc'
  have hmigrations : c'.migrations = c.migrations :=
    eq_of_perm (hholds'.perm.trans ((hperm.filter _).trans hholds.perm.symm)) hholds'.ascending
      hholds.ascending
  obtain ⟨group', migrations'⟩ := c'
  obtain ⟨group'', migrations''⟩ := c
  cases hholds.group_eq
  cases hholds'.group_eq
  cases hmigrations
  exact hc'

/-- What is pending are the catalog's migrations whose versions are not applied, ascending. -/
theorem pending_of_ascending (h : Ascending c.versions) (applied : List Int64) :
    (∀ m, m ∈ c.pending applied ↔ m ∈ c.migrations ∧ m.version ∉ applied) ∧
      Ascending ((c.pending applied).map (·.version)) := by
  constructor
  · intro m
    simp [pending]
  · rw [versions_pending]
    exact h.filter _

/-- Discovering the catalog of a group succeeds exactly if the versions of the group's migrations
are distinct. The catalog then holds these migrations and no others, it is the same for every order
of supply, and what is pending is what it holds and is not applied. Otherwise the first migration
that repeats a version of the group is reported, and every order of supply fails alike. -/
theorem discover_holds_group_or_reports_first (group : String) (migrations : List Migration) :
    ((∃ c, discover group migrations = .ok c) ↔
      ((ofGroup group migrations).map (·.version)).Nodup) ∧
    (∀ c, discover group migrations = .ok c →
      c.HoldsGroup group migrations ∧
      (∀ others, others.Perm migrations → discover group others = .ok c) ∧
      ∀ applied, (∀ m, m ∈ c.pending applied ↔ m ∈ c.migrations ∧ m.version ∉ applied) ∧
        Ascending ((c.pending applied).map (·.version))) ∧
    ∀ e, discover group migrations = .error e →
      (∃ m, FirstRepeated group migrations m ∧ e = .versionConflict m.version group) ∧
      ∀ others, others.Perm migrations →
        ∃ v, discover group others = .error (.versionConflict v group) := by
  refine ⟨exists_discover_iff, fun c hc => ?_, fun e he => ?_⟩
  · have hholds := holdsGroup_of_discover hc
    exact ⟨hholds, fun others hperm => discover_of_perm hc hperm,
      pending_of_ascending hholds.ascending⟩
  · obtain ⟨m, hfirst, rfl⟩ := firstRepeated_of_discover he
    refine ⟨⟨m, hfirst, rfl⟩, fun others hperm => ?_⟩
    cases hothers : discover group others with
    | ok c => cases he.symm.trans (discover_of_perm hothers hperm.symm)
    | error e' =>
      obtain ⟨m', -, rfl⟩ := firstRepeated_of_discover hothers
      exact ⟨m'.version, rfl⟩

/-- Two versions that another group has as well, and two that are both repeated. -/
theorem discover_holds_group_or_reports_first_of_two :
    (∃ c, discover "a" [.idle "b" 1, .idle "a" 2, .idle "b" 2, .idle "a" 1] = .ok c ∧
      c.HoldsGroup "a" [.idle "b" 1, .idle "a" 2, .idle "b" 2, .idle "a" 1] ∧
      discover "a" [.idle "a" 1, .idle "b" 2, .idle "a" 2, .idle "b" 1] = .ok c ∧
      Ascending ((c.pending [2, 3]).map (·.version))) ∧
    discover "a" [.idle "a" 1, .idle "b" 3, .idle "a" 1, .idle "a" 2, .idle "a" 2] =
      .error (.versionConflict 1 "a") ∧
    ∃ v, discover "a" [.idle "a" 2, .idle "a" 2, .idle "a" 1, .idle "b" 3, .idle "a" 1] =
      .error (.versionConflict v "a") := by
  have hdiscovered : discover "a" [.idle "b" 1, .idle "a" 2, .idle "b" 2, .idle "a" 1] =
      .ok ⟨"a", [.idle "a" 1, .idle "a" 2]⟩ := rfl
  have hrefused : discover "a" [.idle "a" 1, .idle "b" 3, .idle "a" 1, .idle "a" 2, .idle "a" 2] =
      .error (.versionConflict 1 "a") := rfl
  obtain ⟨hholds, hsame, hpending⟩ :=
    (discover_holds_group_or_reports_first "a" _).2.1 _ hdiscovered
  obtain ⟨-, hfails⟩ := (discover_holds_group_or_reports_first "a" _).2.2 _ hrefused
  refine ⟨⟨_, hdiscovered, hholds, hsame _ ?_, (hpending [2, 3]).2⟩, hrefused, hfails _ ?_⟩
  · exact List.reverse_perm
      ([.idle "b" 1, .idle "a" 2, .idle "b" 2, .idle "a" 1] : List Migration)
  · exact List.reverse_perm
      ([.idle "a" 1, .idle "b" 3, .idle "a" 1, .idle "a" 2, .idle "a" 2] : List Migration)

end SchemaEvolution.Catalog
