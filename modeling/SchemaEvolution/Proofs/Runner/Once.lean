import SchemaEvolution.Proofs.Runner.Command
import SchemaEvolution.Proofs.VersionTable.Plain

/-!
# Moves of distinct versions

Whatever a backend answers, no call of a runner moves a version twice (`movesOnce_procedure`): what
is tried are the first moves of a plan, and the moves of a plan are of distinct versions.
-/

namespace SchemaEvolution.Runner

open Procedure (attempts)

variable {σ α β : Type} {r : Runner}

/-- No version moves twice, whatever the backend. -/
def MovesOnce (p : Procedure α) : Prop :=
  ∀ (σ : Type) (backend : Backend σ) (s : σ),
    ((attempts (p.runFrom backend s).exchanges).map (·.move.version)).Nodup

private theorem attempts_settle (m : Move) (s : σ) :
    attempts ((r.settle m).runFrom backend s).exchanges = [] := by
  apply Procedure.attempts_of_calls
  intro x hx
  exact Program.Every.of_mem _
    (every_settle (P := fun step => ∃ c, step = .call c) (fun c => ⟨c, rfl⟩) m) hx

/-- A move is tried, or is refused before it is. -/
private theorem attempts_carry (r : Runner) (backend : Backend σ) (m : Move) (s : σ) :
    (∃ succeeded, attempts ((r.carry m).runFrom backend s).exchanges = [⟨m, succeeded⟩]) ∨
      ∃ e, (r.carry m).runFrom backend s = ⟨.error e, s, []⟩ := by
  cases hlogic : r.logic? m.phase m.version with
  | none =>
    obtain ⟨e, he⟩ := carry_of_none hlogic
    rw [he]
    exact .inr ⟨e, rfl⟩
  | some logic =>
    left
    cases hrun : (logic.run.on backend).run s with
    | mk result s' =>
      cases result with
      | error cause =>
        rw [runFrom_carry_of_error hlogic hrun]
        exact ⟨false, rfl⟩
      | ok a =>
        rw [runFrom_carry_of_ok hlogic hrun, Course.exchanges_after, Procedure.attempts_append,
          attempts_settle, List.append_nil]
        exact ⟨true, rfl⟩

/-- The moves that are tried are the first of the plan. -/
theorem moves_carryAll (r : Runner) (backend : Backend σ) (plan : List Move) (s : σ) :
    (attempts ((r.carryAll plan).runFrom backend s).exchanges).map (·.move) <+: plan := by
  induction plan generalizing s with
  | nil => exact List.prefix_refl []
  | cons m rest ih =>
    cases hcourse : (r.carry m).runFrom backend s with
    | mk result s' exchanges =>
      rw [carryAll]
      rcases attempts_carry r backend m s with ⟨succeeded, htried⟩ | ⟨e, he⟩
      · rw [hcourse] at htried
        cases result with
        | error e =>
          rw [Procedure.runFrom_bind_of_error hcourse, htried]
          exact List.prefix_append [m] rest
        | ok a =>
          rw [Procedure.runFrom_bind_of_ok hcourse, Course.exchanges_after,
            Procedure.attempts_append, htried]
          exact List.prefix_cons_inj m |>.mpr (ih s')
      · rw [Procedure.runFrom_bind_of_error he]
        exact List.nil_prefix

theorem movesOnce_carryAll {plan : List Move} (h : (plan.map (·.version)).Nodup) :
    MovesOnce (r.carryAll plan) := by
  intro σ backend s
  have hprefix := (moves_carryAll r backend plan s).map (·.version)
  rw [List.map_map] at hprefix
  exact hprefix.sublist.nodup h

theorem movesOnce_ofExcept (result : Except MigrationError α) :
    MovesOnce (Procedure.ofExcept result) :=
  fun _ _ _ => List.nodup_nil

theorem movesOnce_pure (a : α) : MovesOnce (pure a) := movesOnce_ofExcept (.ok a)

theorem movesOnce_ofAction (action : Action α) : MovesOnce (Procedure.ofAction action) := by
  intro σ backend s
  rw [Procedure.runFrom_ofAction rfl, Procedure.attempts_own]
  exact List.nodup_nil

theorem MovesOnce.map {p : Procedure α} (h : MovesOnce p) (f : α → β) : MovesOnce (f <$> p) := by
  intro σ backend s
  rw [Procedure.runFrom_map]
  exact h σ backend s

/-- What is known without a step is no move. -/
theorem movesOnce_ofExcept_bind (result : Except MigrationError α) {f : α → Procedure β}
    (h : ∀ a, MovesOnce (f a)) : MovesOnce (Procedure.ofExcept result >>= f) := by
  cases result with
  | error e => exact movesOnce_ofExcept (.error e)
  | ok a => exact h a

/-- Reading what is applied is no move, and what it gives is ascending. -/
theorem movesOnce_applied_bind (plain : r.client.dialect.Plain) {f : List Int64 → Procedure α}
    (h : ∀ applied, Ascending applied → MovesOnce (f applied)) :
    MovesOnce (r.applied >>= f) := by
  intro σ backend s
  rcases VersionTable.runFrom_applied_cases backend plain r.versions s with
    ⟨read, s', exchanges, hread, hascending, -⟩ | ⟨e, s', exchanges, hread, -⟩
  · have happlied := Procedure.runFrom_ofAction hread
    rw [applied, Procedure.runFrom_bind_of_ok happlied, Course.exchanges_after,
      Procedure.attempts_append, Procedure.attempts_own]
    exact h _ hascending σ backend s'
  · have happlied := Procedure.runFrom_ofAction hread
    rw [applied, Procedure.runFrom_bind_of_error happlied, Procedure.attempts_own]
    exact List.nodup_nil

private theorem movesOnce_migrateTo (proper : r.Proper) (plain : r.client.dialect.Plain)
    (target : Int64) : MovesOnce (r.migrateTo target) := by
  rw [migrateTo_eq]
  apply movesOnce_applied_bind plain
  intro applied hascending
  apply movesOnce_ofExcept_bind
  intro _
  exact movesOnce_carryAll (nodup_planTo proper target hascending)

private theorem movesOnce_rollback (plain : r.client.dialect.Plain) (v : Int64) :
    MovesOnce (r.rollback v) := by
  rw [rollback_eq]
  apply movesOnce_ofExcept_bind
  intro _
  apply movesOnce_applied_bind plain
  intro applied _
  apply MovesOnce.map
  exact movesOnce_carryAll (nodup_planBack v applied)

private theorem movesOnce_rollbackLast (plain : r.client.dialect.Plain) :
    MovesOnce r.rollbackLast := by
  rw [rollbackLast]
  apply movesOnce_applied_bind plain
  intro applied _
  cases applied.getLast? with
  | none => exact movesOnce_pure none
  | some v => exact (movesOnce_rollback plain v).map fun _ => some v

/-- No call moves a version twice. -/
theorem movesOnce_procedure (proper : r.Proper) (plain : r.client.dialect.Plain)
    (command : Command) : MovesOnce (command.procedure r) := by
  cases command with
  | migrateUp =>
    change MovesOnce ((fun _ => ()) <$> r.migrateUp)
    rw [← migrateTo_maxValue]
    exact movesOnce_migrateTo proper plain _
  | migrateTo target => exact movesOnce_migrateTo proper plain target
  | rollback v => exact (movesOnce_rollback plain v).map _
  | rollbackLast => exact (movesOnce_rollbackLast plain).map _
  | status => exact (movesOnce_applied_bind plain fun _ _ => movesOnce_pure _).map _
  | pending => exact (movesOnce_applied_bind plain fun _ _ => movesOnce_pure _).map _
  | applied => exact (movesOnce_ofAction _).map _
  | current => exact (movesOnce_ofAction _).map _
  | ensure => exact movesOnce_ofAction _

end SchemaEvolution.Runner
