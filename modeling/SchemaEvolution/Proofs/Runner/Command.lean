import SchemaEvolution.Proofs.Runner.Procedures

/-!
# Calls of a runner

The calls that a runner offers. What a runner does for each of them is composed of few parts:
results that are known, actions on the version table, and moves. A property that the parts have and
that goes over to what is composed is one of every call (`HoldsOfParts.procedure`); that all logic
is the runner's own is such a property.
-/

namespace SchemaEvolution

/-- A call that a runner offers. -/
inductive Command where
  | migrateUp
  | migrateTo (target : Int64)
  | rollback (version : Int64)
  | rollbackLast
  | status
  | pending
  | applied
  | current
  | ensure
  deriving DecidableEq, Repr

/-- What a runner does for a call, whatever it gives. -/
def Command.procedure (r : Runner) : Command → Procedure Unit
  | .migrateUp => (fun _ => ()) <$> r.migrateUp
  | .migrateTo target => r.migrateTo target
  | .rollback version => (fun _ => ()) <$> r.rollback version
  | .rollbackLast => (fun _ => ()) <$> r.rollbackLast
  | .status => (fun _ => ()) <$> r.status
  | .pending => (fun _ => ()) <$> r.pending
  | .applied => (fun _ => ()) <$> r.applied
  | .current => (fun _ => ()) <$> r.current
  | .ensure => r.ensure

namespace Runner

/-- A property that the parts have of which the calls of a runner are composed, and that goes over
to what is composed of them. -/
structure HoldsOfParts (r : Runner) (P : (α : Type) → Procedure α → Prop) : Prop where
  ofExcept {α : Type} (result : Except MigrationError α) : P α (Procedure.ofExcept result)
  bind {α β : Type} {p : Procedure α} {f : α → Procedure β} :
    P α p → (∀ a, P β (f a)) → P β (p >>= f)
  applied : P _ r.applied
  current : P _ r.current
  ensure : P _ r.ensure
  carry (m : Move) : P _ (r.carry m)

variable {r : Runner}

namespace HoldsOfParts

variable {P : (α : Type) → Procedure α → Prop} {α β : Type}

theorem map (h : r.HoldsOfParts P) {p : Procedure α} (hp : P α p) (f : α → β) : P β (f <$> p) := by
  rw [map_eq_pure_bind]
  exact h.bind hp fun a => h.ofExcept (.ok (f a))

private theorem carryAll (h : r.HoldsOfParts P) (plan : List Move) : P _ (r.carryAll plan) := by
  induction plan with
  | nil => exact h.ofExcept (.ok ())
  | cons m rest ih => exact h.bind (h.carry m) fun _ => ih

theorem migrateUp (h : r.HoldsOfParts P) : P _ r.migrateUp := by
  rw [migrateUp_eq]
  exact h.bind h.applied fun applied => h.map (h.carryAll _) _

theorem migrateTo (h : r.HoldsOfParts P) (target : Int64) : P _ (r.migrateTo target) := by
  rw [migrateTo_eq]
  apply h.bind h.applied
  intro applied
  exact h.bind (h.ofExcept _) fun _ => h.carryAll _

theorem rollback (h : r.HoldsOfParts P) (version : Int64) : P _ (r.rollback version) := by
  rw [rollback_eq]
  apply h.bind (h.ofExcept _)
  intro _
  exact h.bind h.applied fun applied => h.map (h.carryAll _) _

theorem rollbackLast (h : r.HoldsOfParts P) : P _ r.rollbackLast := by
  rw [Runner.rollbackLast]
  apply h.bind h.applied
  intro applied
  cases applied.getLast? with
  | none => exact h.ofExcept (.ok none)
  | some version => exact h.bind (h.rollback version) fun _ => h.ofExcept (.ok (some version))

/-- What holds of the parts holds of every call. -/
theorem procedure (h : r.HoldsOfParts P) (command : Command) : P _ (command.procedure r) := by
  cases command with
  | migrateUp => exact h.map h.migrateUp _
  | migrateTo target => exact h.migrateTo target
  | rollback version => exact h.map (h.rollback version) _
  | rollbackLast => exact h.map h.rollbackLast _
  | status => exact h.map (h.bind h.applied fun _ => h.ofExcept (.ok _)) _
  | pending => exact h.map (h.bind h.applied fun _ => h.ofExcept (.ok _)) _
  | applied => exact h.map h.applied _
  | current => exact h.map h.current _
  | ensure => exact h.ensure

end HoldsOfParts

/-! ### Logic -/

/-- Settling a move asks nothing but calls. -/
theorem every_settle {P : Step → Prop} (h : ∀ c, P (.call c)) (m : Move) :
    Program.Every P (r.settle m).run := by
  obtain ⟨phase, version⟩ := m
  cases phase with
  | up =>
    exact Program.every_run_bind (Procedure.every_ofAction h _) fun _ =>
      Procedure.every_ofAction h _
  | down => exact Procedure.every_ofAction h _

/-- Where a step runs logic, it is the runner's logic for that phase and version. -/
def RunsOwn (r : Runner) : Step → Prop
  | .call _ => True
  | .run phase version logic => r.logic? phase version = some logic

private theorem every_carry (m : Move) : Program.Every r.RunsOwn (r.carry m).run := by
  cases h : r.logic? m.phase m.version with
  | none =>
    obtain ⟨e, he⟩ := carry_of_none h
    rw [he]
    exact True.intro
  | some logic =>
    rw [carry_eq h]
    exact Program.every_run_bind (Procedure.every_runLogic h) fun _ =>
      every_settle (fun _ => True.intro) m

/-- Whatever is composed of the parts of a runner runs its own logic and no other. -/
theorem runsOwn_of_parts : r.HoldsOfParts fun _ p => Program.Every r.RunsOwn p.run where
  ofExcept _ := True.intro
  bind := Program.every_run_bind
  applied := Procedure.every_ofAction (fun _ => True.intro) _
  current := Procedure.every_ofAction (fun _ => True.intro) _
  ensure := Procedure.every_ofAction (fun _ => True.intro) _
  carry := every_carry

/-- Every call runs the runner's own logic and no other. -/
theorem runsOwn_procedure {σ : Type} (backend : Backend σ) (command : Command) (s : σ) :
    ∀ x ∈ ((command.procedure r).runFrom backend s).exchanges, r.RunsOwn x.request := by
  intro x hx
  exact Program.Every.of_mem _ (runsOwn_of_parts.procedure command) hx

end Runner

end SchemaEvolution
