import SchemaEvolution.Proofs.Runner.Command
import SchemaEvolution.Proofs.Runner.Idle

/-!
# Calls that only ask

Whatever a backend answers, reading what is applied asks nothing but queries. So the calls that only
read leave it at that, and so does every call that finds nothing to do, or that may not do what it
was asked to; all others run logic (`onlyQueries_iff_refrains`). A version that may not be rolled
back is refused before anything is asked.
-/

namespace SchemaEvolution

variable {σ α β : Type} {backend : Backend σ} {s : σ}

/-! ### Reading -/

namespace VersionTable

/-- Reading asks nothing but queries, in every dialect. -/
theorem every_applied (t : VersionTable) (c : Client) :
    Program.Every (fun call => call.isQuery = true) (t.applied c).run := by
  have hcall {call : Call} (h : call.isQuery = true) :
      Program.Every (fun call => call.isQuery = true) (Action.call call).run := by
    refine ⟨h, fun reply => ?_⟩
    cases reply <;> exact True.intro
  have hprobe : Program.Every (fun call => call.isQuery = true) (t.isPresent c).run :=
    Program.every_run_bind (hcall rfl) fun _ => True.intro
  refine Program.every_run_bind hprobe fun present => ?_
  cases present with
  | false => exact True.intro
  | true =>
    refine Program.every_run_bind ?_ fun _ => True.intro
    exact Program.every_run_bind (p := Action.ofExcept _) True.intro fun _ => hcall rfl

/-- The versions that are read are ascending, whatever is answered. -/
theorem ascending_of_applied {t : VersionTable} {c : Client} {versions : List Int64}
    (h : ((t.applied c).runFrom backend s).result = .ok versions) : Ascending versions := by
  rw [applied] at h
  cases hprobe : (t.isPresent c).runFrom backend s with
  | mk result s' exchanges =>
    cases result with
    | error e =>
      rw [Action.runFrom_bind_of_error hprobe] at h
      cases h
    | ok present =>
      rw [Action.runFrom_bind_of_ok hprobe] at h
      cases present with
      | false =>
        cases h
        exact List.Pairwise.nil
      | true =>
        cases hread : (c.select ⟨[t.name c], ["version"], some t.groupFilter, [], none,
            none⟩).runFrom backend s' with
        | mk result s'' reading =>
          cases result with
          | error e =>
            rw [if_pos rfl, Action.runFrom_bind_of_error hread] at h
            cases h
          | ok rows =>
            rw [if_pos rfl, Action.runFrom_bind_of_ok hread] at h
            cases h
            exact ascending_versionsOf rows

end VersionTable

/-- A course that asks nothing but queries: no statement is sent, nothing is committed or rolled
back, and no logic runs. -/
def OnlyQueries (course : Course Step Step.Answer σ α) : Prop :=
  ∀ x ∈ course.exchanges, x.request.isQuery = true

namespace Runner

variable {r : Runner}

/-- The versions that a runner reads to be applied from a state of a backend. -/
def Reads (r : Runner) (backend : Backend σ) (s : σ) (applied : List Int64) : Prop :=
  (r.applied.runFrom backend s).result = .ok applied

/-- An action that makes no call but queries asks nothing else as a part of a procedure. -/
theorem onlyQueries_ofAction {action : Action α}
    (h : Program.Every (fun call => call.isQuery = true) action.run) :
    OnlyQueries ((Procedure.ofAction action).runFrom backend s) := by
  intro x hx
  rw [Procedure.runFrom_ofAction rfl] at hx
  obtain ⟨y, hy, rfl⟩ := List.mem_map.mp hx
  exact Program.Every.of_mem _ h hy

theorem onlyQueries_applied (r : Runner) (backend : Backend σ) (s : σ) :
    OnlyQueries (r.applied.runFrom backend s) :=
  onlyQueries_ofAction (VersionTable.every_applied r.versions r.client)

theorem Reads.ascending {applied : List Int64} (h : r.Reads backend s applied) :
    Ascending applied := by
  cases hread : (r.versions.applied r.client).runFrom backend s with
  | mk result s' exchanges =>
    rw [Reads, Runner.applied, Procedure.runFrom_ofAction hread] at h
    cases result with
    | error e => cases h
    | ok versions =>
      cases h
      exact VersionTable.ascending_of_applied (congrArg (·.result) hread)

/-! ### Parts -/

/-- What becomes of the result asks nothing. -/
theorem onlyQueries_map_iff {p : Procedure α} (f : α → β) :
    OnlyQueries (Procedure.runFrom backend (f <$> p) s) ↔ OnlyQueries (p.runFrom backend s) := by
  rw [Procedure.runFrom_map]
  rfl

/-- A result that is known asks nothing, and a failure ends the procedure. -/
theorem onlyQueries_ofExcept_bind_iff {result : Except MigrationError α} {f : α → Procedure β} :
    OnlyQueries (Procedure.runFrom backend (Procedure.ofExcept result >>= f) s) ↔
      ∀ a, result = .ok a → OnlyQueries ((f a).runFrom backend s) := by
  cases result with
  | error e =>
    rw [Procedure.runFrom_bind_of_error (Procedure.runFrom_ofExcept _ _)]
    simp [OnlyQueries]
  | ok a =>
    rw [Procedure.runFrom_bind_of_ok (Procedure.runFrom_ofExcept _ _), Course.after_nil]
    simp

/-- Behind reading it matters what is done with the versions that were read. -/
theorem onlyQueries_applied_bind_iff {f : List Int64 → Procedure α} :
    OnlyQueries (Procedure.runFrom backend (r.applied >>= f) s) ↔
      ∀ applied, r.Reads backend s applied →
        OnlyQueries ((f applied).runFrom backend (r.applied.runFrom backend s).final) := by
  have hqueries := onlyQueries_applied r backend s
  cases hread : r.applied.runFrom backend s with
  | mk result s' reading =>
    rw [hread] at hqueries
    cases result with
    | error e =>
      rw [Procedure.runFrom_bind_of_error hread]
      exact ⟨fun _ applied happlied => by simp [Reads, hread] at happlied, fun _ => hqueries⟩
    | ok applied =>
      rw [Procedure.runFrom_bind_of_ok hread]
      constructor
      · intro h versions hversions
        obtain rfl : applied = versions := by simpa [Reads, hread] using hversions
        exact fun x hx => h x (List.mem_append_right _ hx)
      · intro h x hx
        rcases List.mem_append.mp hx with hx | hx
        · exact hqueries x hx
        · exact h applied (by rw [Reads, hread]) x hx

/-- A plan whose moves have logic asks nothing but queries exactly if it is empty. -/
theorem onlyQueries_carryAll_iff {plan : List Move}
    (hlogic : ∀ m ∈ plan, (r.logic? m.phase m.version).isSome = true) :
    OnlyQueries ((r.carryAll plan).runFrom backend s) ↔ plan = [] := by
  cases plan with
  | nil => simp [carryAll, OnlyQueries]
  | cons m rest =>
    obtain ⟨logic, hm⟩ := Option.isSome_iff_exists.mp (hlogic m List.mem_cons_self)
    refine ⟨fun h => ?_, fun h => absurd h (List.cons_ne_nil m rest)⟩
    -- The logic of the first move is the first step, and it is no query.
    have hfirst : ∃ answer, ⟨.run m.phase m.version logic, answer⟩ ∈
        ((r.carryAll (m :: rest)).runFrom backend s).exchanges := by
      rw [carryAll]
      cases hrun : (logic.run.on backend).run s with
      | mk result s' =>
        cases result with
        | error cause =>
          rw [Procedure.runFrom_bind_of_error (runFrom_carry_of_error hm hrun)]
          exact ⟨_, List.mem_singleton_self _⟩
        | ok _ =>
          rw [carry_eq hm, bind_assoc,
            Procedure.runFrom_bind_of_ok (Procedure.runFrom_runLogic_of_ok hrun)]
          exact ⟨_, List.mem_cons_self⟩
    obtain ⟨answer, hmem⟩ := hfirst
    cases h _ hmem

/-! ### Calls -/

/-- The call does nothing to the database. Calls that read never do. The others do not when there is
nothing to do: nothing is missing, the version is not applied, or the target is reached. And they do
not when they may not: a version that they would roll back is unknown or irreversible. The latest
version is read a second time before it is rolled back. -/
def Refrains (r : Runner) (backend : Backend σ) (s : σ) : Command → Prop
  | .status | .pending | .applied | .current => True
  | .ensure => False
  | .migrateUp => ∀ applied, r.Reads backend s applied → ∀ v ∈ r.catalog.versions, v ∈ applied
  | .migrateTo target => ∀ applied, r.Reads backend s applied →
    (∃ v ∈ applied, target < v ∧ ¬ r.CanUndo v) ∨
      (∀ v ∈ applied, v ≤ target) ∧ ∀ v ∈ r.catalog.versions, v ≤ target → v ∈ applied
  | .rollback version => r.CanUndo version → ∀ applied, r.Reads backend s applied →
    version ∉ applied
  | .rollbackLast => ∀ applied, r.Reads backend s applied →
    ∀ v ∈ applied, (∀ w ∈ applied, w ≤ v) → r.CanUndo v →
      ∀ again, r.Reads backend (r.applied.runFrom backend s).final again → v ∉ again

private theorem onlyQueries_migrateUp_iff :
    OnlyQueries (r.migrateUp.runFrom backend s) ↔ r.Refrains backend s .migrateUp := by
  rw [migrateUp_eq, onlyQueries_applied_bind_iff]
  refine forall₂_congr fun applied _ => ?_
  have hlogic : ∀ m ∈ r.planUp applied, (r.logic? m.phase m.version).isSome = true := by
    intro m hm
    obtain ⟨v, hv, rfl⟩ := List.mem_map.mp hm
    exact isSome_logic?_up.mpr (mem_missing.mp hv).1
  rw [onlyQueries_map_iff, onlyQueries_carryAll_iff hlogic, planUp, List.map_eq_nil_iff,
    List.eq_nil_iff_forall_not_mem]
  simp [mem_missing]

private theorem onlyQueries_migrateTo_iff (target : Int64) :
    OnlyQueries ((r.migrateTo target).runFrom backend s) ↔
      r.Refrains backend s (.migrateTo target) := by
  rw [migrateTo_eq, onlyQueries_applied_bind_iff]
  refine forall₂_congr fun applied _ => ?_
  rw [onlyQueries_ofExcept_bind_iff]
  rcases canUndo_or_first (r := r) (above target applied) with
    hall | ⟨earlier, v, later, hsplit, hearlier, hv⟩
  · have hnone : ¬ ∃ v ∈ applied, target < v ∧ ¬ r.CanUndo v := by
      rintro ⟨v, hv, hlt, hundo⟩
      exact hundo (hall v (mem_above.mpr ⟨hv, hlt⟩))
    have hempty : r.planTo target applied = [] ↔
        (∀ v ∈ applied, v ≤ target) ∧ ∀ v ∈ r.catalog.versions, v ≤ target → v ∈ applied := by
      rw [planTo, List.append_eq_nil_iff, List.map_eq_nil_iff, List.map_eq_nil_iff,
        List.eq_nil_iff_forall_not_mem, List.eq_nil_iff_forall_not_mem]
      simp only [mem_above, mem_missing_le, not_and, Int64.not_lt]
      exact and_congr_right fun _ => forall_congr' fun v =>
        ⟨fun h hv hle => by_contra fun hnot => h ⟨hv, hnot⟩ hle,
          fun h hv hle => hv.2 (h hv.1 hle)⟩
    rw [checkDown_of_canUndo hall, or_iff_right hnone, ← hempty]
    simp only [forall_const]
    exact onlyQueries_carryAll_iff (isSome_logic?_of_mem_planTo hall)
  · have hblocked : ∃ v ∈ applied, target < v ∧ ¬ r.CanUndo v := by
      have habove : v ∈ above target applied := by
        rw [hsplit]
        exact List.mem_append_right _ List.mem_cons_self
      exact ⟨v, (mem_above.mp habove).1, (mem_above.mp habove).2, hv⟩
    rw [hsplit, checkDown_of_first hearlier hv]
    refine iff_of_true (fun _ hok => ?_) (.inl hblocked)
    cases hok

private theorem onlyQueries_rollback_iff (version : Int64) :
    OnlyQueries ((r.rollback version).runFrom backend s) ↔
      r.Refrains backend s (.rollback version) := by
  rw [rollback_eq, onlyQueries_ofExcept_bind_iff]
  by_cases hundo : r.CanUndo version
  · obtain ⟨down, hdown⟩ := findDown_of_canUndo hundo
    have hplan (applied : List Int64) : planBack version applied = [] ↔ version ∉ applied := by
      simp [planBack]
    have hcarry (applied : List Int64) (s' : σ) :
        OnlyQueries (Procedure.runFrom backend ((fun _ => applied.contains version) <$>
          r.carryAll (planBack version applied)) s') ↔ version ∉ applied := by
      rw [onlyQueries_map_iff, onlyQueries_carryAll_iff (isSome_logic?_of_mem_planBack hdown),
        hplan]
    simp only [hdown, Except.ok.injEq, forall_eq', onlyQueries_applied_bind_iff, hcarry]
    exact ⟨fun h _ => h, fun h => h hundo⟩
  · rw [findDown_of_not_canUndo hundo]
    refine iff_of_true (fun _ hok => ?_) fun h => absurd h hundo
    cases hok

private theorem onlyQueries_rollbackLast_iff :
    OnlyQueries (r.rollbackLast.runFrom backend s) ↔ r.Refrains backend s .rollbackLast := by
  rw [rollbackLast, onlyQueries_applied_bind_iff]
  refine forall₂_congr fun applied hreads => ?_
  rcases List.eq_nil_or_concat applied with rfl | ⟨lower, v, rfl⟩
  · simp [OnlyQueries]
  · rw [List.concat_eq_append] at hreads ⊢
    have hlatest : ∀ w ∈ lower ++ [v], w ≤ v := by
      intro w hw
      rcases List.mem_append.mp hw with hw | hw
      · exact Int64.le_of_lt ((List.pairwise_append.mp hreads.ascending).2.2 w hw v
          (List.mem_singleton_self v))
      · exact Int64.le_of_eq (List.mem_singleton.mp hw)
    have hsame {w : Int64} (hw : w ∈ lower ++ [v]) (hgreatest : ∀ u ∈ lower ++ [v], u ≤ w) :
        w = v :=
      Int64.le_antisymm (hlatest w hw) (hgreatest v (by simp))
    rw [List.getLast?_concat]
    change OnlyQueries (Procedure.runFrom backend ((fun _ => some v) <$> r.rollback v) _) ↔ _
    rw [onlyQueries_map_iff, onlyQueries_rollback_iff]
    constructor
    · intro h w hw hgreatest
      rw [hsame hw hgreatest]
      exact h
    · exact fun h => h v (by simp) hlatest

/-- What is only read asks nothing but queries. -/
private theorem onlyQueries_reading (f : List Int64 → α) :
    OnlyQueries (Procedure.runFrom backend (r.applied >>= fun applied => pure (f applied)) s) := by
  refine onlyQueries_applied_bind_iff.mpr fun applied _ => ?_
  simp [OnlyQueries]

private theorem onlyQueries_current : OnlyQueries (r.current.runFrom backend s) := by
  have hcurrent : Program.Every (fun call => call.isQuery = true)
      (r.versions.current r.client).run :=
    Program.every_run_bind (VersionTable.every_applied r.versions r.client) fun _ => True.intro
  exact onlyQueries_ofAction hcurrent

/-- A call other than ensuring the version table asks nothing but queries exactly if it refrains. -/
theorem onlyQueries_procedure_iff {command : Command} (hcommand : command ≠ .ensure) :
    OnlyQueries ((command.procedure r).runFrom backend s) ↔ r.Refrains backend s command := by
  cases command with
  | migrateUp => exact (onlyQueries_map_iff _).trans onlyQueries_migrateUp_iff
  | migrateTo target => exact onlyQueries_migrateTo_iff target
  | rollback version => exact (onlyQueries_map_iff _).trans (onlyQueries_rollback_iff version)
  | rollbackLast => exact (onlyQueries_map_iff _).trans onlyQueries_rollbackLast_iff
  | status =>
    exact iff_of_true ((onlyQueries_map_iff _).mpr (onlyQueries_reading _)) True.intro
  | pending =>
    refine iff_of_true ((onlyQueries_map_iff _).mpr ?_) True.intro
    rw [pending_eq]
    exact onlyQueries_reading _
  | applied =>
    exact iff_of_true ((onlyQueries_map_iff _).mpr (onlyQueries_applied r backend s)) True.intro
  | current => exact iff_of_true ((onlyQueries_map_iff _).mpr onlyQueries_current) True.intro
  | ensure => exact absurd rfl hcommand

/-- Whatever a backend answers, or fails to: the calls that read ask it nothing but queries, and the
others do so exactly if there is nothing to do or what is asked for may not be done. No logic runs
then. A rollback of a version that is unknown or irreversible is refused before anything is asked. -/
theorem onlyQueries_iff_refrains (r : Runner) (backend : Backend σ) (s : σ) :
    (∀ command : Command, command ≠ .ensure →
      (OnlyQueries ((command.procedure r).runFrom backend s) ↔ r.Refrains backend s command)) ∧
    (∀ command : Command, r.Refrains backend s command →
      Procedure.attempts ((command.procedure r).runFrom backend s).exchanges = []) ∧
    ∀ v, ¬ r.CanUndo v → (r.rollback v).runFrom backend s = ⟨.error (r.refusal v), s, []⟩ := by
  refine ⟨fun command hcommand => onlyQueries_procedure_iff hcommand, ?_, ?_⟩
  · intro command hrefrains
    have hcommand : command ≠ .ensure := by
      rintro rfl
      exact hrefrains
    exact Procedure.attempts_of_queries ((onlyQueries_procedure_iff hcommand).mpr hrefrains)
  · intro v hundo
    rw [rollback_eq, findDown_of_not_canUndo hundo]
    rfl

/-- A recorded version that the catalog lacks keeps a runner from going below it, and from rolling
it back. It does not keep it from going up. -/
theorem onlyQueries_iff_refrains_of_unknown :
    OnlyQueries (((Command.migrateTo 2).procedure (idle "a" [1, 2])).runFrom keeper
      (some [(1, "a"), (3, "a")])) ∧
    Procedure.attempts (((Command.migrateTo 2).procedure (idle "a" [1, 2])).runFrom keeper
      (some [(1, "a"), (3, "a")])).exchanges = [] ∧
    ¬ OnlyQueries ((Command.migrateUp.procedure (idle "a" [1, 2])).runFrom keeper
      (some [(1, "a"), (3, "a")])) ∧
    ((idle "a" [1, 2]).rollback 3).runFrom keeper (some [(1, "a"), (3, "a")]) =
      ⟨.error (.unknownVersion 3 "a"), some [(1, "a"), (3, "a")], []⟩ := by
  have hreads : (idle "a" [1, 2]).Reads keeper (some [(1, "a"), (3, "a")]) [1, 3] := rfl
  have hunknown : ¬ (idle "a" [1, 2]).CanUndo 3 := by
    rintro ⟨m, hm, -⟩
    have hnone : (idle "a" [1, 2]).catalog.get? 3 = none := rfl
    cases hnone.symm.trans hm
  obtain ⟨hqueries, hattempts, hrefused⟩ :=
    onlyQueries_iff_refrains (idle "a" [1, 2]) keeper (some [(1, "a"), (3, "a")])
  have hto : (idle "a" [1, 2]).Refrains keeper (some [(1, "a"), (3, "a")]) (.migrateTo 2) := by
    intro applied happlied
    cases hreads.symm.trans happlied
    exact .inl ⟨3, by decide, by decide, hunknown⟩
  refine ⟨(hqueries (.migrateTo 2) nofun).mpr hto, hattempts (.migrateTo 2) hto, ?_,
    hrefused 3 hunknown⟩
  rw [hqueries .migrateUp nofun]
  intro h
  exact absurd (h [1, 3] hreads 2 (by decide)) (by decide)

end Runner

end SchemaEvolution
