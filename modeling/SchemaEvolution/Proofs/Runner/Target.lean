import SchemaEvolution.Proofs.Runner.Command
import SchemaEvolution.Proofs.Runner.Idle

/-!
# Migrating to a target

On a kept table, migrating to a target is refused before anything runs, or goes down from above the
target and then up to it, to the end or to the first failure. Each of these says what the call
gives, which logic it tries, and what is recorded afterwards.
-/

namespace SchemaEvolution.Runner

open Procedure (attempts QueriesKeep)
open VersionTable (Rows recordedIn Lists)

variable {σ : Type}

/-- The way to a target: the versions recorded above it, descending, and then the versions of the
catalog up to it that are not recorded, ascending. -/
structure Way (r : Runner) (target : Int64) (present : Rows) (downs ups : List Int64) : Prop where
  descending : downs.Pairwise (· > ·)
  mem_downs : ∀ v, v ∈ downs ↔ (v, r.versions.group) ∈ present ∧ target < v
  ascending : ups.Pairwise (· < ·)
  mem_ups : ∀ v, v ∈ ups ↔
    v ∈ r.catalog.versions ∧ v ≤ target ∧ (v, r.versions.group) ∉ present

section Outcomes

variable (r : Runner) (backend : Backend σ) (rows : σ → Option Rows) (target : Int64) (s : σ)

/-- The highest version that blocks the way is reported. Nothing runs, and what queries do not
change is as it was. -/
structure RefusesTarget (v : Int64) : Prop where
  blocks : r.Blocks target (recordedIn rows s) v
  highest : ∀ w, r.Blocks target (recordedIn rows s) w → w ≤ v
  result : ((r.migrateTo target).runFrom backend s).result = .error (r.refusal v)
  queries : ∀ x ∈ ((r.migrateTo target).runFrom backend s).exchanges, x.request.isQuery = true
  rows_eq : rows ((r.migrateTo target).runFrom backend s).final = rows s
  observe_eq : ∀ (τ : Type) (observe : σ → τ), QueriesKeep backend observe →
    observe ((r.migrateTo target).runFrom backend s).final = observe s

/-- All of the way is gone. What is recorded is what was up to the target, with the versions of the
catalog up to it, and a second call runs nothing. -/
structure ReachesTarget (downs ups : List Int64) : Prop where
  result : ((r.migrateTo target).runFrom backend s).result = .ok ()
  tried : attempts ((r.migrateTo target).runFrom backend s).exchanges =
    downs.map (fun v => ⟨.down v, true⟩) ++ ups.map (fun v => ⟨.up v, true⟩)
  left : ∀ v,
    (v, r.versions.group) ∈ recordedIn rows ((r.migrateTo target).runFrom backend s).final ↔
      ((v, r.versions.group) ∈ recordedIn rows s ∧ v ≤ target) ∨
        (v ∈ r.catalog.versions ∧ v ≤ target)
  again : ∀ s', rows s' = rows ((r.migrateTo target).runFrom backend s).final →
    ((r.migrateTo target).runFrom backend s').result = .ok () ∧
      attempts ((r.migrateTo target).runFrom backend s').exchanges = []

/-- The logic of one move on the way fails after those before it went well. Its failure is reported,
nothing later runs, and what is recorded is what the moves before it leave: the version that failed
is recorded if it was to go down. -/
structure FailsOnWay (downs ups : List Int64) (done : List Move) (failed : Move) (rest : List Move)
    (cause : Error) : Prop where
  split : downs.map Move.down ++ ups.map Move.up = done ++ failed :: rest
  result : ((r.migrateTo target).runFrom backend s).result = .error (.failed failed.version cause)
  tried : attempts ((r.migrateTo target).runFrom backend s).exchanges =
    done.map (fun m => ⟨m, true⟩) ++ [⟨failed, false⟩]
  left : ∀ v,
    (v, r.versions.group) ∈ recordedIn rows ((r.migrateTo target).runFrom backend s).final ↔
      Move.up v ∈ done ∨ ((v, r.versions.group) ∈ recordedIn rows s ∧ Move.down v ∉ done)
  failed_left : (failed.version, r.versions.group) ∈
    recordedIn rows ((r.migrateTo target).runFrom backend s).final ↔ failed.phase = .down

end Outcomes

variable {r : Runner} {backend : Backend σ} {rows : σ → Option Rows} {target : Int64} {s : σ}

/-- The plan for what is applied is the way to the target. -/
theorem way_of_lists (proper : r.Proper) {present : Rows} {applied : List Int64}
    (h : Lists present r.versions.group applied) :
    r.Way target present (above target applied)
      ((r.missing applied).filter fun v => v ≤ target) where
  descending := descending_above h.ascending
  mem_downs v := by rw [mem_above, h.mem_iff]
  ascending := (ascending_missing proper applied).filter _
  mem_ups v := by rw [mem_missing_le, h.mem_iff, and_assoc, and_comm (b := v ≤ target)]

private theorem up_mem_way {downs ups : List Int64} {v : Int64} :
    Move.up v ∈ downs.map Move.down ++ ups.map Move.up ↔ v ∈ ups := by
  simp [Move.up, Move.down]

private theorem down_mem_way {downs ups : List Int64} {v : Int64} :
    Move.down v ∈ downs.map Move.down ++ ups.map Move.up ↔ v ∈ downs := by
  simp [Move.up, Move.down]

/-- What the whole way leaves recorded. -/
private theorem mem_effects_way {present : Rows} {downs ups : List Int64}
    (way : r.Way target present downs ups)
    (hnodup : ((downs.map Move.down ++ ups.map Move.up).map (·.version)).Nodup) (v : Int64) :
    (v, r.versions.group) ∈ Move.effects r.versions.group present
        (downs.map Move.down ++ ups.map Move.up) ↔
      ((v, r.versions.group) ∈ present ∧ v ≤ target) ∨ (v ∈ r.catalog.versions ∧ v ≤ target) := by
  rw [Move.mem_effects hnodup, up_mem_way, down_mem_way, way.mem_ups, way.mem_downs]
  by_cases hpresent : (v, r.versions.group) ∈ present
  · simp only [hpresent, not_true, and_false, true_and, false_or, Int64.not_lt]
    constructor
    · exact Or.inl
    · rintro (hle | ⟨-, hle⟩) <;> exact hle
  · simp only [hpresent, not_false_iff, and_true, false_and, or_false, false_or]

/-- Nothing is left to do where all of the catalog up to the target is recorded, and nothing above
the target. -/
private theorem planTo_eq_nil {present : Rows} {applied : List Int64}
    (h : Lists present r.versions.group applied)
    (hbelow : ∀ v, (v, r.versions.group) ∈ present → v ≤ target)
    (hall : ∀ v ∈ r.catalog.versions, v ≤ target → (v, r.versions.group) ∈ present) :
    r.planTo target applied = [] := by
  have habove : above target applied = [] := by
    apply List.eq_nil_iff_forall_not_mem.mpr
    intro v hv
    obtain ⟨happlied, hlt⟩ := mem_above.mp hv
    exact Int64.not_lt.mpr (hbelow v ((h.mem_iff v).mp happlied)) hlt
  have hmissing : ((r.missing applied).filter fun v => v ≤ target) = [] := by
    apply List.eq_nil_iff_forall_not_mem.mpr
    intro v hv
    obtain ⟨⟨hversion, hnot⟩, hle⟩ := mem_missing_le.mp hv
    exact hnot ((h.mem_iff v).mpr (hall v hversion hle))
  rw [planTo, habove, hmissing]
  rfl

private theorem runs_nothing_of_nil {group : String}
    {course : Course Step Step.Answer σ (Except MigrationError Unit)}
    (h : CarriesOut rows group [] s course) :
    course.result = .ok () ∧ attempts course.exchanges = [] := by
  cases h with
  | all result tried left => exact ⟨result, tried⟩
  | upTo done failed rest cause split result tried left => simp at split

/-- Where the way is gone, a call runs nothing. -/
private theorem migrateTo_again (proper : r.Proper)
    (kept : r.versions.KeptBy r.client backend rows) (spares : r.Spares backend rows)
    (hbelow : ∀ v, (v, r.versions.group) ∈ recordedIn rows s → v ≤ target)
    (hall : ∀ v ∈ r.catalog.versions, v ≤ target →
      (v, r.versions.group) ∈ recordedIn rows s) :
    ((r.migrateTo target).runFrom backend s).result = .ok () ∧
      attempts ((r.migrateTo target).runFrom backend s).exchanges = [] := by
  have hfree : ∀ v, ¬ r.Blocks target (recordedIn rows s) v :=
    fun v hv => Int64.not_lt.mpr (hbelow v hv.1) hv.2.1
  obtain ⟨applied, hlists, hcarries⟩ := carriesOut_migrateTo proper kept spares hfree
  rw [planTo_eq_nil hlists hbelow hall] at hcarries
  exact runs_nothing_of_nil hcarries

/-- A version that failed on the way is recorded if it was to go down. -/
private theorem mem_effects_failed {group : String} {present : Rows} {done rest : List Move}
    {failed : Move} (hnodup : ((done ++ failed :: rest).map (·.version)).Nodup)
    (hfits : failed.Fits group present) :
    (failed.version, group) ∈ Move.effects group present done ↔ failed.phase = .down := by
  rw [List.map_append, List.map_cons] at hnodup
  obtain ⟨hdone, -, hapart⟩ := List.nodup_append.mp hnodup
  have hfresh : ∀ m ∈ done, m.version ≠ failed.version := fun m hm =>
    hapart _ (List.mem_map.mpr ⟨m, hm, rfl⟩) _ List.mem_cons_self
  have hup : Move.up failed.version ∉ done := fun hm => hfresh _ hm rfl
  have hdown : Move.down failed.version ∉ done := fun hm => hfresh _ hm rfl
  rw [Move.mem_effects hdone]
  simp only [hup, hdown, not_false_iff, and_true, false_or]
  exact hfits.symm

/-- Where something blocks the way, the call is refused. -/
theorem refusesTarget_of_blocked (kept : r.versions.KeptBy r.client backend rows)
    (hblocked : ∃ v, r.Blocks target (recordedIn rows s) v) :
    ∃ v, r.RefusesTarget backend rows target s v := by
  obtain ⟨v, s', exchanges, hblocks, hhighest, hcourse, hrows, hqueries⟩ :=
    runFrom_migrateTo_of_blocked kept hblocked
  have hqueries' : ∀ x ∈ ((r.migrateTo target).runFrom backend s).exchanges,
      x.request.isQuery = true := by
    rw [hcourse]
    exact hqueries
  exact ⟨v, hblocks, hhighest, by rw [hcourse], hqueries', by rw [hcourse, hrows],
    fun τ observe hkeep => Procedure.observe_final_of_queries hkeep hqueries'⟩

/-- A call that carries all of the way out reaches the target. -/
private theorem reachesTarget_of_all (proper : r.Proper)
    (kept : r.versions.KeptBy r.client backend rows) (spares : r.Spares backend rows)
    {applied : List Int64} (hlists : Lists (recordedIn rows s) r.versions.group applied)
    (result : ((r.migrateTo target).runFrom backend s).result = .ok ())
    (tried : attempts ((r.migrateTo target).runFrom backend s).exchanges =
      (r.planTo target applied).map fun m => ⟨m, true⟩)
    (left : recordedIn rows ((r.migrateTo target).runFrom backend s).final =
      Move.effects r.versions.group (recordedIn rows s) (r.planTo target applied)) :
    r.ReachesTarget backend rows target s (above target applied)
      ((r.missing applied).filter fun v => v ≤ target) := by
  have hleft (v : Int64) : (v, r.versions.group) ∈
      recordedIn rows ((r.migrateTo target).runFrom backend s).final ↔
        ((v, r.versions.group) ∈ recordedIn rows s ∧ v ≤ target) ∨
          (v ∈ r.catalog.versions ∧ v ≤ target) := by
    rw [left]
    exact mem_effects_way (way_of_lists proper hlists)
      (nodup_planTo proper target hlists.ascending) v
  refine ⟨result, ?tried, hleft, ?again⟩
  case tried =>
    rw [tried, planTo, List.map_append, List.map_map, List.map_map]
    rfl
  case again =>
    intro s' hrows
    have hrecorded := VersionTable.recordedIn_congr hrows
    apply migrateTo_again proper kept spares
    · intro v hv
      rw [hrecorded, hleft] at hv
      exact hv.elim And.right And.right
    · intro v hv hle
      rw [hrecorded, hleft]
      exact .inr ⟨hv, hle⟩

/-- A call that carries the way out up to a failure fails on it. -/
private theorem failsOnWay_of_upTo (proper : r.Proper) {applied : List Int64}
    (hlists : Lists (recordedIn rows s) r.versions.group applied) {done rest : List Move}
    {failed : Move} {cause : Error}
    (split : r.planTo target applied = done ++ failed :: rest)
    (result : ((r.migrateTo target).runFrom backend s).result =
      .error (.failed failed.version cause))
    (tried : attempts ((r.migrateTo target).runFrom backend s).exchanges =
      done.map (fun m => ⟨m, true⟩) ++ [⟨failed, false⟩])
    (left : recordedIn rows ((r.migrateTo target).runFrom backend s).final =
      Move.effects r.versions.group (recordedIn rows s) done) :
    r.FailsOnWay backend rows target s (above target applied)
      ((r.missing applied).filter fun v => v ≤ target) done failed rest cause := by
  have hnodup := nodup_planTo proper target hlists.ascending
  rw [split] at hnodup
  have hfits : failed.Fits r.versions.group (recordedIn rows s) := by
    apply fits_planTo hlists
    rw [split]
    exact List.mem_append_right _ List.mem_cons_self
  refine ⟨split, result, tried, ?left, ?failed⟩
  case left =>
    intro v
    rw [left]
    rw [List.map_append] at hnodup
    exact Move.mem_effects (List.nodup_append.mp hnodup).1 v
  case failed =>
    rw [left]
    exact mem_effects_failed hnodup hfits

/-- Where nothing blocks the way, the call goes it. -/
theorem goes_of_free (proper : r.Proper)
    (kept : r.versions.KeptBy r.client backend rows) (spares : r.Spares backend rows)
    (hfree : ∀ v, ¬ r.Blocks target (recordedIn rows s) v) :
    ∃ downs ups, r.Way target (recordedIn rows s) downs ups ∧
      (r.ReachesTarget backend rows target s downs ups ∨
        ∃ done failed rest cause,
          r.FailsOnWay backend rows target s downs ups done failed rest cause) := by
  obtain ⟨applied, hlists, hcarries⟩ := carriesOut_migrateTo proper kept spares hfree
  refine ⟨_, _, way_of_lists proper hlists, ?_⟩
  cases hcarries with
  | all result tried left =>
    exact .inl (reachesTarget_of_all proper kept spares hlists result tried left)
  | upTo done failed rest cause split result tried left =>
    exact .inr ⟨done, failed, rest, cause,
      failsOnWay_of_upTo proper hlists split result tried left⟩

/-- Migrating to a target with a runner that was built, on a kept table that the migrations leave
alone: the highest version that blocks the way is reported, if there is one. Otherwise the call goes
the way to the target, to its end or to the first failure. What runs is the runner's own logic. -/
theorem migrateTo_refuses_or_goes {client : Client} {versions : VersionTable}
    {migrations : List Migration} (built : ofMigrations client versions migrations = .ok r)
    (kept : r.versions.KeptBy r.client backend rows) (spares : r.Spares backend rows)
    (target : Int64) (s : σ) :
    ((∃ v, r.Blocks target (recordedIn rows s) v) → ∃ v, r.RefusesTarget backend rows target s v) ∧
    ((∀ v, ¬ r.Blocks target (recordedIn rows s) v) →
      ∃ downs ups, r.Way target (recordedIn rows s) downs ups ∧
        (r.ReachesTarget backend rows target s downs ups ∨
          ∃ done failed rest cause,
            r.FailsOnWay backend rows target s downs ups done failed rest cause)) ∧
    ∀ x ∈ ((r.migrateTo target).runFrom backend s).exchanges, r.RunsOwn x.request := by
  have proper := proper_of_ofMigrations built
  exact ⟨refusesTarget_of_blocked kept, goes_of_free proper kept spares,
    runsOwn_procedure backend (.migrateTo target) s⟩

/-- The first and the last of three migrations are recorded, and the second is the target. -/
theorem migrateTo_second_of_three :
    ofMigrations .sqlite { group := "a" } [.idle "a" 3, .idle "a" 1, .idle "a" 2] =
      .ok (idle "a" [1, 2, 3]) ∧
    attempts (((idle "a" [1, 2, 3]).migrateTo 2).runFrom keeper
      (some [(1, "a"), (3, "a")])).exchanges = [⟨.down 3, true⟩, ⟨.up 2, true⟩] ∧
    ∃ downs ups, (idle "a" [1, 2, 3]).Way 2
        (recordedIn VersionTable.Memory.rows (some [(1, "a"), (3, "a")])) downs ups ∧
      ((idle "a" [1, 2, 3]).ReachesTarget keeper VersionTable.Memory.rows 2
          (some [(1, "a"), (3, "a")]) downs ups ∨
        ∃ done failed rest cause, (idle "a" [1, 2, 3]).FailsOnWay keeper VersionTable.Memory.rows 2
          (some [(1, "a"), (3, "a")]) downs ups done failed rest cause) := by
  have built : ofMigrations .sqlite { group := "a" } [.idle "a" 3, .idle "a" 1, .idle "a" 2] =
      .ok (idle "a" [1, 2, 3]) := rfl
  refine ⟨built, by decide +kernel, ?_⟩
  apply (migrateTo_refuses_or_goes built (keptBy_idle _ _) (spares_idle _ _ _ _) 2
    (some [(1, "a"), (3, "a")])).2.1
  rintro v ⟨hv, -, hundo⟩
  have hversion : v = 1 ∨ v = 3 := by simpa [recordedIn, VersionTable.Memory.rows, idle] using hv
  apply hundo (canUndo_idle _)
  rcases hversion with rfl | rfl <;> decide

end SchemaEvolution.Runner
