import SchemaEvolution.Proofs.Runner.Plan

/-!
# Procedures as plans

Each procedure of a runner that moves versions reads the version table and then carries out a plan
that what it read determines (`migrateUp_eq`, `migrateTo_eq`). The moves of such a plan are of
distinct versions, fit the rows that were read, and have logic.
-/

namespace SchemaEvolution.Runner

open Procedure (attempts)
open VersionTable (Rows recordedIn Lists)

variable {σ : Type} {r : Runner}

/-! ### Runners that were built -/

/-- The catalog is ascending and of the group whose versions are recorded. -/
structure Proper (r : Runner) : Prop where
  ascending : Ascending r.catalog.versions
  group_eq : r.catalog.group = r.versions.group

theorem ofMigrations_ok {client : Client} {versions : VersionTable} {migrations : List Migration}
    (h : ofMigrations client versions migrations = .ok r) :
    ∃ catalog, Catalog.discover versions.group migrations = .ok catalog ∧
      r = ⟨client, catalog, versions⟩ := by
  rw [ofMigrations] at h
  cases hdiscover : Catalog.discover versions.group migrations with
  | error e =>
    rw [hdiscover] at h
    cases h
  | ok catalog =>
    rw [hdiscover] at h
    cases h
    exact ⟨catalog, rfl, rfl⟩

/-- A runner that was built is proper. -/
theorem proper_of_ofMigrations {client : Client} {versions : VersionTable}
    {migrations : List Migration} (h : ofMigrations client versions migrations = .ok r) :
    r.Proper := by
  obtain ⟨catalog, hdiscover, rfl⟩ := ofMigrations_ok h
  exact ⟨(Catalog.perm_of_discover hdiscover).2, Catalog.group_of_discover hdiscover⟩

/-! ### What can be undone -/

/-- The version is one of the catalog's, and there is logic that undoes it. -/
def CanUndo (r : Runner) (v : Int64) : Prop :=
  ∃ m, r.catalog.get? v = some m ∧ m.logic.isReversible = true

/-- The version is recorded above a target and cannot be undone. -/
def Blocks (r : Runner) (target : Int64) (present : Rows) (v : Int64) : Prop :=
  (v, r.versions.group) ∈ present ∧ target < v ∧ ¬ r.CanUndo v

/-- Why a version cannot be undone: the catalog does not have it, or nothing undoes it. -/
def refusal (r : Runner) (v : Int64) : MigrationError :=
  match r.catalog.get? v with
  | some _ => .notReversible v r.group
  | none => .unknownVersion v r.group

theorem isSome_logic?_down_of_canUndo {v : Int64} (h : r.CanUndo v) :
    (r.logic? .down v).isSome = true := by
  obtain ⟨m, hm, hdown⟩ := h
  rw [Logic.isReversible] at hdown
  rw [logic?, hm, Option.bind_some, Option.isSome_map, hdown]

theorem findDown_of_canUndo {v : Int64} (h : r.CanUndo v) : ∃ down, r.findDown v = .ok down :=
  isSome_logic?_down.mp (isSome_logic?_down_of_canUndo h)

theorem findDown_of_not_canUndo {v : Int64} (h : ¬ r.CanUndo v) :
    r.findDown v = .error (r.refusal v) := by
  rw [findDown, find, refusal]
  cases hm : r.catalog.get? v with
  | none => rfl
  | some m =>
    cases hdown : m.logic.down? with
    | none => simp only [hdown]
    | some down => exact absurd ⟨m, hm, by rw [Logic.isReversible, hdown]; rfl⟩ h

/-- Versions that can all be undone pass the check. -/
theorem checkDown_of_canUndo {versions : List Int64} (h : ∀ v ∈ versions, r.CanUndo v) :
    r.checkDown versions = .ok () := by
  induction versions with
  | nil => rfl
  | cons v rest ih =>
    obtain ⟨down, hdown⟩ := findDown_of_canUndo (h v List.mem_cons_self)
    rw [checkDown, hdown]
    exact ih fun w hw => h w (List.mem_cons_of_mem _ hw)

/-- The check reports the first version that cannot be undone. -/
theorem checkDown_of_first {earlier later : List Int64} {v : Int64}
    (h : ∀ w ∈ earlier, r.CanUndo w) (hv : ¬ r.CanUndo v) :
    r.checkDown (earlier ++ v :: later) = .error (r.refusal v) := by
  induction earlier with
  | nil => rw [List.nil_append, checkDown, findDown_of_not_canUndo hv]
  | cons w rest ih =>
    obtain ⟨down, hdown⟩ := findDown_of_canUndo (h w List.mem_cons_self)
    rw [List.cons_append, checkDown, hdown]
    exact ih fun w hw => h w (List.mem_cons_of_mem _ hw)

/-- Versions can all be undone, or there is a first that cannot. -/
theorem canUndo_or_first (versions : List Int64) :
    (∀ v ∈ versions, r.CanUndo v) ∨ ∃ earlier v later, versions = earlier ++ v :: later ∧
      (∀ w ∈ earlier, r.CanUndo w) ∧ ¬ r.CanUndo v := by
  induction versions with
  | nil => exact .inl nofun
  | cons v rest ih =>
    by_cases hv : r.CanUndo v
    · rcases ih with hall | ⟨earlier, w, later, rfl, hearlier, hw⟩
      · left
        intro w hw
        rcases List.mem_cons.mp hw with rfl | hw
        · exact hv
        · exact hall w hw
      · right
        refine ⟨v :: earlier, w, later, rfl, ?_, hw⟩
        intro u hu
        rcases List.mem_cons.mp hu with rfl | hu
        · exact hv
        · exact hearlier u hu
    · exact .inr ⟨[], v, rest, rfl, nofun, hv⟩

/-! ### Plans -/

/-- The applied versions above a target, the latest first. -/
def above (target : Int64) (applied : List Int64) : List Int64 :=
  applied.reverse.filter fun v => target < v

/-- The versions of the catalog that are not applied, ascending. -/
def missing (r : Runner) (applied : List Int64) : List Int64 :=
  r.catalog.versions.filter fun v => !applied.contains v

/-- The moves that apply what is missing. -/
def planUp (r : Runner) (applied : List Int64) : List Move := (r.missing applied).map Move.up

/-- The moves that lead to a target: down from above it, then up to it. -/
def planTo (r : Runner) (target : Int64) (applied : List Int64) : List Move :=
  (above target applied).map Move.down ++
    ((r.missing applied).filter fun v => v ≤ target).map Move.up

/-- The moves that roll a version back, if it is applied. -/
def planBack (version : Int64) (applied : List Int64) : List Move :=
  if applied.contains version then [Move.down version] else []

theorem mem_above {target : Int64} {applied : List Int64} {v : Int64} :
    v ∈ above target applied ↔ v ∈ applied ∧ target < v := by
  simp [above]

theorem mem_missing {applied : List Int64} {v : Int64} :
    v ∈ r.missing applied ↔ v ∈ r.catalog.versions ∧ v ∉ applied := by
  simp [missing]

theorem mem_missing_le {target : Int64} {applied : List Int64} {v : Int64} :
    v ∈ ((r.missing applied).filter fun v => v ≤ target) ↔
      (v ∈ r.catalog.versions ∧ v ∉ applied) ∧ v ≤ target := by
  rw [List.mem_filter, mem_missing, decide_eq_true_eq]

theorem mem_planBack {version : Int64} {applied : List Int64} {m : Move} :
    m ∈ planBack version applied ↔ m = Move.down version ∧ version ∈ applied := by
  rw [planBack]
  split <;> simp_all

/-- What goes down goes down in descending order. -/
theorem descending_above {target : Int64} {applied : List Int64} (h : Ascending applied) :
    (above target applied).Pairwise (· > ·) :=
  List.Pairwise.filter _ (List.pairwise_reverse.mpr h)

/-- What goes up goes up in ascending order. -/
theorem ascending_missing (proper : r.Proper) (applied : List Int64) :
    Ascending (r.missing applied) :=
  proper.ascending.filter _

private theorem nodup_of_descending {versions : List Int64} (h : versions.Pairwise (· > ·)) :
    versions.Nodup :=
  List.nodup_reverse.mp (Ascending.nodup (List.pairwise_reverse.mpr h))

private theorem versions_map_up (versions : List Int64) :
    (versions.map Move.up).map (·.version) = versions := by
  rw [List.map_map]
  exact List.map_id _

private theorem versions_map_down (versions : List Int64) :
    (versions.map Move.down).map (·.version) = versions := by
  rw [List.map_map]
  exact List.map_id _

/-- No version moves twice on the way to a target. -/
theorem nodup_planTo (proper : r.Proper) (target : Int64) {applied : List Int64}
    (h : Ascending applied) : ((r.planTo target applied).map (·.version)).Nodup := by
  rw [planTo, List.map_append, versions_map_down, versions_map_up]
  apply List.nodup_append.mpr
  refine ⟨nodup_of_descending (descending_above h),
    ((ascending_missing proper applied).filter _).nodup, ?_⟩
  intro v hv w hw he
  subst he
  exact (mem_missing_le.mp hw).1.2 (mem_above.mp hv).1

/-- At most one version is rolled back. -/
theorem nodup_planBack (version : Int64) (applied : List Int64) :
    ((planBack version applied).map (·.version)).Nodup := by
  rw [planBack]
  split
  · exact List.nodup_singleton _
  · exact List.nodup_nil

/-- The plan that leads to the greatest target applies what is missing. -/
theorem planTo_maxValue (applied : List Int64) :
    r.planTo Int64.maxValue applied = r.planUp applied := by
  have habove : above Int64.maxValue applied = [] := by
    apply List.eq_nil_iff_forall_not_mem.mpr
    intro v hv
    exact Int64.not_lt.mpr (Int64.le_maxValue v) (mem_above.mp hv).2
  have hall : (r.missing applied).filter (fun v => v ≤ Int64.maxValue) = r.missing applied := by
    apply List.filter_eq_self.mpr
    intro v _
    exact decide_eq_true (Int64.le_maxValue v)
  rw [planTo, habove, hall, planUp]
  rfl

variable {rows : σ → Option Rows} {present : Rows} {group : String}

/-- The moves to a target fit the rows that were read. -/
theorem fits_planTo {target : Int64} {applied : List Int64} (h : Lists present group applied) :
    ∀ m ∈ r.planTo target applied, m.Fits group present := by
  intro m hm
  rcases List.mem_append.mp hm with hm | hm
  · obtain ⟨v, hv, rfl⟩ := List.mem_map.mp hm
    exact ⟨fun _ => (h.mem_iff v).mp (mem_above.mp hv).1, fun _ => rfl⟩
  · obtain ⟨v, hv, rfl⟩ := List.mem_map.mp hm
    refine ⟨nofun, fun hrow => ?_⟩
    exact absurd ((h.mem_iff v).mpr hrow) (mem_missing_le.mp hv).1.2

/-- The moves to a target fit one after the other. -/
theorem fitInTurn_planTo (proper : r.Proper) {target : Int64} {applied : List Int64}
    (h : Lists present group applied) :
    Move.FitInTurn group present (r.planTo target applied) :=
  Move.fitInTurn_of_fits (nodup_planTo proper target h.ascending) (fits_planTo h)

/-- What is rolled back fits the rows that were read. -/
theorem fitInTurn_planBack (version : Int64) {applied : List Int64}
    (h : Lists present group applied) :
    Move.FitInTurn group present (planBack version applied) := by
  apply Move.fitInTurn_of_fits (nodup_planBack version applied)
  intro m hm
  obtain ⟨rfl, happlied⟩ := mem_planBack.mp hm
  exact ⟨fun _ => (h.mem_iff version).mp happlied, fun _ => rfl⟩

/-- The moves to a target have logic when what is above it can be undone. -/
theorem isSome_logic?_of_mem_planTo {target : Int64} {applied : List Int64}
    (h : ∀ v ∈ above target applied, r.CanUndo v) :
    ∀ m ∈ r.planTo target applied, (r.logic? m.phase m.version).isSome = true := by
  intro m hm
  rcases List.mem_append.mp hm with hm | hm
  · obtain ⟨v, hv, rfl⟩ := List.mem_map.mp hm
    exact isSome_logic?_down_of_canUndo (h v hv)
  · obtain ⟨v, hv, rfl⟩ := List.mem_map.mp hm
    exact isSome_logic?_up.mpr (mem_missing_le.mp hv).1.1

/-- What is rolled back has logic when what undoes it is found. -/
theorem isSome_logic?_of_mem_planBack {version : Int64} {applied : List Int64}
    {down : Client → Action Unit} (h : r.findDown version = .ok down) :
    ∀ m ∈ planBack version applied, (r.logic? m.phase m.version).isSome = true := by
  intro m hm
  obtain ⟨rfl, -⟩ := mem_planBack.mp hm
  exact isSome_logic?_down.mpr ⟨down, h⟩

/-! ### Procedures -/

/-- What is pending is read off what is applied. -/
theorem pending_eq :
    r.pending = r.applied >>= fun applied => pure (r.missing applied) := by
  simp only [pending, missing, Catalog.versions_pending]

/-- Migrating up reads what is applied and applies what is missing. -/
theorem migrateUp_eq :
    r.migrateUp = r.applied >>= fun applied =>
      (fun _ => r.missing applied) <$> r.carryAll (r.planUp applied) := by
  simp only [migrateUp, pending_eq, applyAll_eq, planUp, bind_assoc, pure_bind, map_eq_pure_bind]

/-- Migrating to a target reads what is applied, checks what goes down, and moves. -/
theorem migrateTo_eq (target : Int64) :
    r.migrateTo target = r.applied >>= fun applied =>
      Procedure.ofExcept (r.checkDown (above target applied)) >>= fun _ =>
        r.carryAll (r.planTo target applied) := by
  simp only [migrateTo, revertAll_eq, applyAll_eq, Catalog.versions_pending, planTo,
    carryAll_append]
  rfl

/-- Migrating up is migrating to the greatest target, apart from what it gives. -/
theorem migrateTo_maxValue : r.migrateTo Int64.maxValue = (fun _ => ()) <$> r.migrateUp := by
  have hcheck (applied : List Int64) : r.checkDown (above Int64.maxValue applied) = .ok () := by
    apply checkDown_of_canUndo
    intro v hv
    exact absurd (mem_above.mp hv).2 (Int64.not_lt.mpr (Int64.le_maxValue v))
  have hpass (next : Procedure Unit) :
      (Procedure.ofExcept (.ok ()) >>= fun _ => next) = next := rfl
  simp only [migrateTo_eq, migrateUp_eq, hcheck, hpass, planTo_maxValue, map_bind, Functor.map_map,
    id_map']

/-- Rolling a version back looks up what undoes it, reads what is applied, and moves. -/
theorem rollback_eq (version : Int64) :
    r.rollback version = Procedure.ofExcept (r.findDown version) >>= fun _ =>
      r.applied >>= fun applied =>
        (fun _ => applied.contains version) <$> r.carryAll (planBack version applied) := by
  have hback (applied : List Int64) :
      (if applied.contains version then r.revert version >>= fun _ => pure true else pure false) =
        (fun _ => applied.contains version) <$> r.carryAll (planBack version applied) := by
    by_cases happlied : applied.contains version = true
    · simp only [happlied, if_true, planBack, carryAll, carry, Move.down, map_eq_pure_bind,
        bind_assoc, pure_bind]
    · simp only [happlied, planBack]
      rfl
  simp only [rollback, hback]

/-! ### Procedures on a kept table -/

variable {backend : Backend σ} {s : σ}

/-- Reading what is applied gives it, asks nothing but queries, and changes no row. -/
theorem runFrom_applied (kept : r.versions.KeptBy r.client backend rows) (s : σ) :
    ∃ applied s' exchanges, r.applied.runFrom backend s = ⟨.ok applied, s', exchanges⟩ ∧
      rows s' = rows s ∧ Lists (recordedIn rows s) r.versions.group applied ∧
      ∀ x ∈ exchanges, x.request.isQuery = true := by
  obtain ⟨applied, s', exchanges, hread, hrows, hlists, hqueries⟩ := kept.runFrom_applied s
  refine ⟨applied, s', _, Procedure.runFrom_ofAction hread, hrows, hlists, ?_⟩
  intro x hx
  obtain ⟨y, hy, rfl⟩ := List.mem_map.mp hx
  exact hqueries y hy

/-- What comes before and moves nothing does not matter. -/
theorem CarriesOut.after {plan : List Move} {s' : σ}
    {course : Course Step Step.Answer σ (Except MigrationError Unit)}
    {earlier : List Procedure.Exchange} (h : CarriesOut rows group plan s' course)
    (hrows : rows s' = rows s) (hqueries : ∀ x ∈ earlier, x.request.isQuery = true) :
    CarriesOut rows group plan s (course.after earlier) := by
  have hrecorded := VersionTable.recordedIn_congr hrows
  have htried : attempts (earlier ++ course.exchanges) = attempts course.exchanges := by
    rw [Procedure.attempts_append, Procedure.attempts_of_queries hqueries, List.nil_append]
  cases h with
  | all result tried left =>
    exact .all result (htried.trans tried) (by rw [← hrecorded]; exact left)
  | upTo done failed rest cause split result tried left =>
    exact .upTo done failed rest cause split result (htried.trans tried)
      (by rw [← hrecorded]; exact left)

/-- The plan to a target is carried out when nothing blocks it. -/
theorem carriesOut_migrateTo (proper : r.Proper) (kept : r.versions.KeptBy r.client backend rows)
    (spares : r.Spares backend rows) {target : Int64}
    (hfree : ∀ v, ¬ r.Blocks target (recordedIn rows s) v) :
    ∃ applied, Lists (recordedIn rows s) r.versions.group applied ∧
      CarriesOut rows r.versions.group (r.planTo target applied) s
        ((r.migrateTo target).runFrom backend s) := by
  obtain ⟨applied, s', reading, hread, hrows, hlists, hqueries⟩ := runFrom_applied kept s
  have habove : ∀ v ∈ above target applied, r.CanUndo v := by
    intro v hv
    obtain ⟨happlied, hlt⟩ := mem_above.mp hv
    by_contra hundo
    exact hfree v ⟨(hlists.mem_iff v).mp happlied, hlt, hundo⟩
  refine ⟨applied, hlists, ?_⟩
  rw [migrateTo_eq, Procedure.runFrom_bind_of_ok hread, checkDown_of_canUndo habove]
  refine CarriesOut.after ?_ hrows hqueries
  apply carriesOut_carryAll kept spares (isSome_logic?_of_mem_planTo habove)
  rw [VersionTable.recordedIn_congr hrows]
  exact fitInTurn_planTo proper hlists

/-- The highest version that blocks the way to a target is reported before anything runs. -/
theorem runFrom_migrateTo_of_blocked (kept : r.versions.KeptBy r.client backend rows)
    {target : Int64} (hblocked : ∃ v, r.Blocks target (recordedIn rows s) v) :
    ∃ v s' exchanges, r.Blocks target (recordedIn rows s) v ∧
      (∀ w, r.Blocks target (recordedIn rows s) w → w ≤ v) ∧
      (r.migrateTo target).runFrom backend s = ⟨.error (r.refusal v), s', exchanges⟩ ∧
      rows s' = rows s ∧ ∀ x ∈ exchanges, x.request.isQuery = true := by
  obtain ⟨applied, s', reading, hread, hrows, hlists, hqueries⟩ := runFrom_applied kept s
  have hmem {w : Int64} (hw : r.Blocks target (recordedIn rows s) w) : w ∈ above target applied :=
    mem_above.mpr ⟨(hlists.mem_iff w).mpr hw.1, hw.2.1⟩
  rcases canUndo_or_first (r := r) (above target applied) with
    hall | ⟨earlier, v, later, hsplit, hearlier, hv⟩
  · obtain ⟨v, hv⟩ := hblocked
    exact absurd (hall v (hmem hv)) hv.2.2
  · have hdescending : (above target applied).Pairwise (· > ·) := descending_above hlists.ascending
    have habove : v ∈ above target applied := by
      rw [hsplit]
      exact List.mem_append_right _ List.mem_cons_self
    obtain ⟨happlied, hlt⟩ := mem_above.mp habove
    refine ⟨v, s', reading, ⟨(hlists.mem_iff v).mp happlied, hlt, hv⟩, ?_, ?_, hrows, hqueries⟩
    · intro w hw
      have hmem' := hmem hw
      rw [hsplit] at hmem' hdescending
      rcases List.mem_append.mp hmem' with hbefore | hafter
      · exact absurd (hearlier w hbefore) hw.2.2
      · rcases List.mem_cons.mp hafter with rfl | hafter
        · exact Int64.le_refl w
        · exact Int64.le_of_lt (List.rel_of_pairwise_cons (List.pairwise_append.mp hdescending).2.1
            hafter)
    · rw [migrateTo_eq, Procedure.runFrom_bind_of_ok hread, hsplit,
        checkDown_of_first hearlier hv,
        Procedure.runFrom_bind_of_error (Procedure.runFrom_ofExcept _ _), Course.after_mk,
        List.append_nil]

end SchemaEvolution.Runner
