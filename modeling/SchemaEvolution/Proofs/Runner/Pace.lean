import SchemaEvolution.Proofs.Runner.Command

/-!
# Calls that keep pace with the rows

What each call does on a kept table: the moves that it completes fit the rows one after the other,
and the rows it leaves are those that these moves leave (`keepsPace_procedure`). Only reading and
settling happen besides.
-/

namespace SchemaEvolution

open Procedure (attempts completed)
open VersionTable (Rows recordedIn)

namespace Procedure

/-- The moves that are completed on a part are completed on the whole. -/
@[simp] theorem completed_append (first second : List Exchange) :
    completed (first ++ second) = completed first ++ completed second := by
  simp [completed]

theorem completed_of_attempts_nil {exchanges : List Exchange} (h : attempts exchanges = []) :
    completed exchanges = [] := by
  rw [completed, h]
  rfl

/-- Moves that were tried and all went well are completed. -/
theorem completed_of_tried {exchanges : List Exchange} {moves : List Move}
    (h : attempts exchanges = moves.map (⟨·, true⟩)) : completed exchanges = moves := by
  simp [completed, h, List.filter_map, Function.comp_def]

/-- A move that failed is not completed. -/
theorem completed_of_failed {exchanges : List Exchange} {done : List Move} {failed : Move}
    (h : attempts exchanges = done.map (⟨·, true⟩) ++ [⟨failed, false⟩]) :
    completed exchanges = done := by
  simp [completed, h, List.filter_map, Function.comp_def]

end Procedure

variable {σ α β : Type}

/-- The moves that a course completes fit the rows one after the other, and the rows that it leaves
are what these moves leave. -/
structure KeepsPace (rows : σ → Option Rows) (group : String) (s : σ)
    (course : Course Step Step.Answer σ (Except MigrationError α)) : Prop where
  fits : Move.FitInTurn group (recordedIn rows s) (completed course.exchanges)
  left : recordedIn rows course.final =
    Move.effects group (recordedIn rows s) (completed course.exchanges)

namespace KeepsPace

variable {rows : σ → Option Rows} {group : String} {s s' : σ}

/-- A course that completes nothing and leaves the rows keeps pace. -/
theorem of_still {result : Except MigrationError α} {exchanges : List Procedure.Exchange}
    (hnone : attempts exchanges = []) (hrows : recordedIn rows s' = recordedIn rows s) :
    KeepsPace rows group s (⟨result, s', exchanges⟩ : Course Step Step.Answer σ _) := by
  constructor
  · rw [Procedure.completed_of_attempts_nil hnone]
    trivial
  · rw [Procedure.completed_of_attempts_nil hnone]
    exact hrows

/-- A plan that fits and is carried out keeps pace. -/
theorem of_carriesOut {plan : List Move}
    {course : Course Step Step.Answer σ (Except MigrationError Unit)}
    (hfits : Move.FitInTurn group (recordedIn rows s) plan)
    (h : Runner.CarriesOut rows group plan s course) : KeepsPace rows group s course := by
  cases h with
  | all result tried left =>
    rw [← Procedure.completed_of_tried tried] at hfits left
    exact ⟨hfits, left⟩
  | upTo done failed rest cause split result tried left =>
    rw [split] at hfits
    have hdone := hfits.of_append
    rw [← Procedure.completed_of_failed tried] at hdone left
    exact ⟨hdone, left⟩

/-- What comes before, completes nothing and leaves the rows does not matter. -/
theorem after {course : Course Step Step.Answer σ (Except MigrationError α)}
    {earlier : List Procedure.Exchange} (h : KeepsPace rows group s' course)
    (hnone : attempts earlier = []) (hrows : recordedIn rows s' = recordedIn rows s) :
    KeepsPace rows group s (course.after earlier) := by
  obtain ⟨hfits, hleft⟩ := h
  rw [hrows] at hfits hleft
  have hcompleted : completed (earlier ++ course.exchanges) = completed course.exchanges := by
    rw [Procedure.completed_append, Procedure.completed_of_attempts_nil hnone, List.nil_append]
  refine ⟨?_, ?_⟩
  · rw [Course.exchanges_after, hcompleted]
    exact hfits
  · rw [Course.exchanges_after, hcompleted]
    exact hleft

/-- What becomes of the result does not matter. -/
theorem map {backend : Backend σ} {p : Procedure α} (f : α → β)
    (h : KeepsPace rows group s (p.runFrom backend s)) :
    KeepsPace rows group s (Procedure.runFrom backend (f <$> p) s) := by
  rw [Procedure.runFrom_map]
  exact ⟨h.fits, h.left⟩

end KeepsPace

namespace Runner

variable {r : Runner} {backend : Backend σ} {rows : σ → Option Rows}

/-- A procedure that reads what is applied goes on from there. -/
private theorem keepsPace_applied_bind (kept : r.versions.KeptBy r.client backend rows) (s : σ)
    (f : List Int64 → Procedure α)
    (h : ∀ applied s', rows s' = rows s →
      VersionTable.Lists (recordedIn rows s) r.versions.group applied →
      KeepsPace rows r.versions.group s' ((f applied).runFrom backend s')) :
    KeepsPace rows r.versions.group s (Procedure.runFrom backend (r.applied >>= f) s) := by
  obtain ⟨applied, s', reading, hread, hrows, hlists, hqueries⟩ := runFrom_applied kept s
  rw [Procedure.runFrom_bind_of_ok hread]
  exact (h applied s' hrows hlists).after (Procedure.attempts_of_queries hqueries)
    (VersionTable.recordedIn_congr hrows)

private theorem keepsPace_applied (kept : r.versions.KeptBy r.client backend rows) (s : σ) :
    KeepsPace rows r.versions.group s (r.applied.runFrom backend s) := by
  obtain ⟨applied, s', reading, hread, hrows, -, hqueries⟩ := runFrom_applied kept s
  rw [hread]
  exact .of_still (Procedure.attempts_of_queries hqueries) (VersionTable.recordedIn_congr hrows)

private theorem keepsPace_rollback (kept : r.versions.KeptBy r.client backend rows)
    (spares : r.Spares backend rows) (version : Int64) (s : σ) :
    KeepsPace rows r.versions.group s ((r.rollback version).runFrom backend s) := by
  rw [rollback_eq]
  cases hfind : r.findDown version with
  | error e =>
    rw [Procedure.runFrom_bind_of_error (Procedure.runFrom_ofExcept _ _)]
    exact .of_still rfl rfl
  | ok down =>
    rw [Procedure.runFrom_bind_of_ok (Procedure.runFrom_ofExcept _ _), Course.after_nil]
    apply keepsPace_applied_bind kept
    intro applied s' hrows hlists
    apply KeepsPace.map
    rw [← VersionTable.recordedIn_congr hrows] at hlists
    have hfits := fitInTurn_planBack version hlists
    apply KeepsPace.of_carriesOut hfits
    exact carriesOut_carryAll kept spares (isSome_logic?_of_mem_planBack hfind) hfits

private theorem keepsPace_rollbackLast (kept : r.versions.KeptBy r.client backend rows)
    (spares : r.Spares backend rows) (s : σ) :
    KeepsPace rows r.versions.group s (r.rollbackLast.runFrom backend s) := by
  rw [rollbackLast]
  apply keepsPace_applied_bind kept
  intro applied s' _ _
  cases applied.getLast? with
  | none => exact .of_still rfl rfl
  | some version =>
    apply KeepsPace.map (p := r.rollback version)
    exact keepsPace_rollback kept spares version s'

private theorem keepsPace_migrateTo (proper : r.Proper)
    (kept : r.versions.KeptBy r.client backend rows) (spares : r.Spares backend rows)
    (target : Int64) (s : σ) :
    KeepsPace rows r.versions.group s ((r.migrateTo target).runFrom backend s) := by
  by_cases hblocked : ∃ v, r.Blocks target (recordedIn rows s) v
  · obtain ⟨v, s', exchanges, -, -, hcourse, hrows, hqueries⟩ :=
      runFrom_migrateTo_of_blocked kept hblocked
    rw [hcourse]
    exact .of_still (Procedure.attempts_of_queries hqueries) (VersionTable.recordedIn_congr hrows)
  · obtain ⟨applied, hlists, hcarries⟩ :=
      carriesOut_migrateTo proper kept spares (not_exists.mp hblocked)
    exact .of_carriesOut (fitInTurn_planTo proper hlists) hcarries

/-- Every call keeps pace. -/
theorem keepsPace_procedure (proper : r.Proper) (kept : r.versions.KeptBy r.client backend rows)
    (spares : r.Spares backend rows) (command : Command) (s : σ) :
    KeepsPace rows r.versions.group s ((command.procedure r).runFrom backend s) := by
  cases command with
  | migrateUp =>
    change KeepsPace _ _ _ (Procedure.runFrom backend ((fun _ => ()) <$> r.migrateUp) s)
    rw [← migrateTo_maxValue]
    exact keepsPace_migrateTo proper kept spares _ s
  | migrateTo target => exact keepsPace_migrateTo proper kept spares target s
  | rollback version => exact (keepsPace_rollback kept spares version s).map _
  | rollbackLast => exact (keepsPace_rollbackLast kept spares s).map _
  | status =>
    apply KeepsPace.map
    exact keepsPace_applied_bind kept s _ fun _ _ _ _ => .of_still rfl rfl
  | pending =>
    apply KeepsPace.map
    rw [pending_eq]
    exact keepsPace_applied_bind kept s _ fun _ _ _ _ => .of_still rfl rfl
  | applied => exact (keepsPace_applied kept s).map _
  | current =>
    apply KeepsPace.map
    obtain ⟨versions, s', exchanges, hread, hrows, -⟩ := kept.runFrom_current s
    rw [current, Procedure.runFrom_ofAction hread]
    exact .of_still (Procedure.attempts_own _) (VersionTable.recordedIn_congr hrows)
  | ensure =>
    obtain ⟨s', exchanges, hensure, hrows⟩ := kept.runFrom_ensure s
    change KeepsPace _ _ _ (r.ensure.runFrom backend s)
    rw [ensure, Procedure.runFrom_ofAction hensure]
    exact .of_still (Procedure.attempts_own _) (VersionTable.recordedIn_of_some hrows)

end Runner

end SchemaEvolution
