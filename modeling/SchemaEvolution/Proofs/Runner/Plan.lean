import SchemaEvolution.Proofs.Runner.Move

/-!
# Plans of a runner

A runner carries moves out: it runs the logic of each and then records or forgets the version. What
a procedure of the runner does after reading the version table is to carry out the moves of a plan
in order. On a kept table it gets to the end of the plan or to the first move whose logic fails, and
the rows are those that the moves before leave (`carriesOut_carryAll`).
-/

namespace SchemaEvolution.Runner

open Procedure (attempts)
open VersionTable (Rows recordedIn)

variable {σ : Type} (r : Runner)

/-- The logic that the runner runs to move a version. -/
def logic? : Phase → Int64 → Option (Action Unit)
  | .up, version => (r.catalog.get? version).map fun m => m.logic.up r.client
  | .down, version =>
    (r.catalog.get? version).bind fun m => m.logic.down?.map fun down => down r.client

/-- Records or forgets a version that has moved. -/
def settle (m : Move) : Procedure Unit :=
  match m.phase with
  | .up => do
    Procedure.ofAction (r.versions.ensure r.client)
    Procedure.ofAction (r.versions.record r.client m.version)
  | .down => Procedure.ofAction (r.versions.forget r.client m.version)

/-- Carries a move out. -/
def carry (m : Move) : Procedure Unit :=
  match m.phase with
  | .up => r.apply m.version
  | .down => r.revert m.version

/-- Carries moves out one after the other. -/
def carryAll : List Move → Procedure Unit
  | [] => pure ()
  | m :: rest => do
    r.carry m
    carryAll rest

variable {r}

/-! ### Moves of one version -/

/-- A version goes up when it is one of the catalog's. -/
theorem isSome_logic?_up {v : Int64} : (r.logic? .up v).isSome ↔ v ∈ r.catalog.versions := by
  rw [logic?, Option.isSome_map, Catalog.isSome_get?]

/-- A version goes down when what undoes it is found. -/
theorem isSome_logic?_down {v : Int64} :
    (r.logic? .down v).isSome ↔ ∃ down, r.findDown v = .ok down := by
  rw [logic?, findDown, find]
  cases r.catalog.get? v with
  | none => simp
  | some m => cases hdown : m.logic.down? <;> simp [hdown]

/-- Carrying a move out is running its logic and settling it. -/
theorem carry_eq {m : Move} {logic : Action Unit} (h : r.logic? m.phase m.version = some logic) :
    r.carry m = Procedure.runLogic m.phase m.version logic >>= fun _ => r.settle m := by
  obtain ⟨phase, version⟩ := m
  cases phase with
  | up =>
    obtain ⟨found, hfound, rfl⟩ := Option.map_eq_some_iff.mp h
    have hfind : r.find version = .ok found := by rw [find, hfound]
    rw [carry, apply, hfind]
    rfl
  | down =>
    obtain ⟨found, hfound, h⟩ := Option.bind_eq_some_iff.mp h
    obtain ⟨down, hdown, rfl⟩ := Option.map_eq_some_iff.mp h
    have hfind : r.findDown version = .ok down := by simp only [findDown, find, hfound, hdown]
    rw [carry, revert, hfind]
    rfl

/-- A move without logic is refused before anything runs. -/
theorem carry_of_none {m : Move} (h : r.logic? m.phase m.version = none) :
    ∃ e, r.carry m = Procedure.ofExcept (.error e) := by
  obtain ⟨phase, version⟩ := m
  cases phase with
  | up =>
    have hget : r.catalog.get? version = none := Option.map_eq_none_iff.mp h
    have hfind : r.find version = .error (.unknownVersion version r.group) := by rw [find, hget]
    refine ⟨.unknownVersion version r.group, ?_⟩
    rw [carry, apply, hfind]
    rfl
  | down =>
    cases hfind : r.findDown version with
    | ok down =>
      have hsome := isSome_logic?_down.mpr ⟨down, hfind⟩
      rw [h] at hsome
      cases hsome
    | error e =>
      refine ⟨e, ?_⟩
      rw [carry, revert, hfind]
      rfl

variable {backend : Backend σ} {s s' : σ}

/-- A move whose logic goes well is settled. -/
theorem runFrom_carry_of_ok {m : Move} {logic : Action Unit}
    (h : r.logic? m.phase m.version = some logic)
    (hlogic : (logic.run.on backend).run s = (.ok (), s')) :
    (r.carry m).runFrom backend s =
      ((r.settle m).runFrom backend s').after [⟨.run m.phase m.version logic, .ok ()⟩] := by
  rw [carry_eq h, Procedure.runFrom_bind_of_ok (Procedure.runFrom_runLogic_of_ok hlogic)]

/-- A move whose logic fails ends there. -/
theorem runFrom_carry_of_error {m : Move} {logic : Action Unit} {cause : Error}
    (h : r.logic? m.phase m.version = some logic)
    (hlogic : (logic.run.on backend).run s = (.error cause, s')) :
    (r.carry m).runFrom backend s =
      ⟨.error (.failed m.version cause), s',
        [⟨.run m.phase m.version logic, .error cause⟩]⟩ := by
  rw [carry_eq h, Procedure.runFrom_bind_of_error (Procedure.runFrom_runLogic_of_error hlogic)]

/-! ### Plans -/

theorem applyAll_eq (versions : List Int64) :
    r.applyAll versions = r.carryAll (versions.map Move.up) := by
  induction versions with
  | nil => rfl
  | cons v rest ih =>
    rw [applyAll, ih]
    rfl

theorem revertAll_eq (versions : List Int64) :
    r.revertAll versions = r.carryAll (versions.map Move.down) := by
  induction versions with
  | nil => rfl
  | cons v rest ih =>
    rw [revertAll, ih]
    rfl

/-- Plans are carried out one after the other. -/
theorem carryAll_append (first second : List Move) :
    r.carryAll (first ++ second) = r.carryAll first >>= fun _ => r.carryAll second := by
  induction first with
  | nil => rfl
  | cons m rest ih =>
    rw [List.cons_append, carryAll, ih, carryAll, bind_assoc]

/-! ### Plans on a kept table -/

/-- The logic of the runner's migrations does nothing to the rows of the version table. -/
def Spares (r : Runner) (backend : Backend σ) (rows : σ → Option Rows) : Prop :=
  ∀ phase version logic, r.logic? phase version = some logic →
    ∀ s, rows ((logic.run.on backend).run s).2 = rows s

/-- The course carries the moves of a plan out from a state, in order, to the end or to the first
whose logic fails; the rows it leaves are those of the moves whose logic went well. -/
inductive CarriesOut (rows : σ → Option Rows) (group : String) (plan : List Move) (s : σ)
    (course : Course Step Step.Answer σ (Except MigrationError Unit)) : Prop where
  | all (result : course.result = .ok ())
      (tried : attempts course.exchanges = plan.map (⟨·, true⟩))
      (left : recordedIn rows course.final = Move.effects group (recordedIn rows s) plan)
  | upTo (done : List Move) (failed : Move) (rest : List Move) (cause : Error)
      (split : plan = done ++ failed :: rest)
      (result : course.result = .error (.failed failed.version cause))
      (tried : attempts course.exchanges = done.map (⟨·, true⟩) ++ [⟨failed, false⟩])
      (left : recordedIn rows course.final = Move.effects group (recordedIn rows s) done)

variable {rows : σ → Option Rows}

/-- Settling a move leaves a table, and does to the rows what the move does. -/
theorem runFrom_settle (kept : r.versions.KeptBy r.client backend rows) {m : Move}
    (h : m.phase = .down → rows s = some (recordedIn rows s)) :
    ∃ s' exchanges, (r.settle m).runFrom backend s = ⟨.ok (), s', exchanges⟩ ∧
      attempts exchanges = [] ∧
      rows s' = some (m.effect r.versions.group (recordedIn rows s)) := by
  obtain ⟨phase, version⟩ := m
  cases phase with
  | up =>
    obtain ⟨s₁, ensuring, hensure, hrows⟩ := kept.runFrom_ensure s
    obtain ⟨s₂, recording, hrecord, hrows'⟩ := kept.runFrom_record version hrows
    refine ⟨s₂, ensuring.map Procedure.ownExchange ++ recording.map Procedure.ownExchange,
      ?_, ?_, hrows'⟩
    · refine (Procedure.runFrom_bind_of_ok (Procedure.runFrom_ofAction hensure) _).trans ?_
      rw [Procedure.runFrom_ofAction hrecord]
      rfl
    · rw [Procedure.attempts_append, Procedure.attempts_own, Procedure.attempts_own,
        List.append_nil]
  | down =>
    obtain ⟨s₁, forgetting, hforget, hrows⟩ := kept.runFrom_forget version (h rfl)
    exact ⟨s₁, _, Procedure.runFrom_ofAction hforget, Procedure.attempts_own _, hrows⟩

/-- A plan is carried out when its first move goes well and then its rest is carried out. -/
theorem CarriesOut.cons {group : String} {m : Move} {rest : List Move}
    {course : Course Step Step.Answer σ (Except MigrationError Unit)}
    {earlier : List Procedure.Exchange} (h : CarriesOut rows group rest s' course)
    (hfirst : attempts earlier = [⟨m, true⟩])
    (hrows : recordedIn rows s' = m.effect group (recordedIn rows s)) :
    CarriesOut rows group (m :: rest) s (course.after earlier) := by
  cases h with
  | all result tried left =>
    refine .all result ?_ ?_
    · rw [Course.exchanges_after, Procedure.attempts_append, hfirst, tried]
      rfl
    · rw [Course.final_after, left, hrows, Move.effects_cons]
  | upTo done failed rest' cause split result tried left =>
    refine .upTo (m :: done) failed rest' cause (by rw [split]; rfl) result ?_ ?_
    · rw [Course.exchanges_after, Procedure.attempts_append, hfirst, tried]
      rfl
    · rw [Course.final_after, left, hrows, Move.effects_cons]

/-- A plan whose moves fit in turn and have logic is carried out. -/
theorem carriesOut_carryAll (kept : r.versions.KeptBy r.client backend rows)
    (spares : r.Spares backend rows) {plan : List Move}
    (hlogic : ∀ m ∈ plan, (r.logic? m.phase m.version).isSome = true)
    (hfits : Move.FitInTurn r.versions.group (recordedIn rows s) plan) :
    CarriesOut rows r.versions.group plan s ((r.carryAll plan).runFrom backend s) := by
  induction plan generalizing s with
  | nil => exact .all rfl rfl rfl
  | cons m rest ih =>
    obtain ⟨logic, hm⟩ := Option.isSome_iff_exists.mp (hlogic m (by simp))
    have hspared := spares _ _ _ hm s
    cases hrun : (logic.run.on backend).run s with
    | mk result s₁ =>
      rw [hrun] at hspared
      cases result with
      | error cause =>
        -- The plan ends with the failure of its first move.
        have hcarry := Procedure.runFrom_bind_of_error (runFrom_carry_of_error hm hrun)
          fun _ => r.carryAll rest
        rw [carryAll, hcarry]
        exact .upTo [] m rest cause rfl rfl rfl (VersionTable.recordedIn_congr hspared)
      | ok _ =>
        -- What goes down was recorded, so the table that it is forgotten in exists.
        have hdown : m.phase = .down → rows s₁ = some (recordedIn rows s₁) := by
          intro hphase
          have hrow := hfits.1.mp hphase
          rw [← VersionTable.recordedIn_congr hspared] at hrow
          exact VersionTable.rows_eq_some_of_mem hrow
        obtain ⟨s₂, settling, hsettle, htried, hrows⟩ := runFrom_settle kept hdown
        have hleft := VersionTable.recordedIn_of_some hrows
        rw [VersionTable.recordedIn_congr hspared] at hleft
        have hcarry := runFrom_carry_of_ok hm hrun
        rw [hsettle, Course.after_mk] at hcarry
        have hfits' := hfits.2
        rw [← hleft] at hfits'
        have hrest := ih (fun other hother => hlogic other (List.mem_cons_of_mem _ hother)) hfits'
        have htried' : attempts ([⟨.run m.phase m.version logic, .ok ()⟩] ++ settling) =
            [⟨m, true⟩] := by
          rw [Procedure.attempts_append, htried]
          rfl
        rw [carryAll, Procedure.runFrom_bind_of_ok hcarry]
        exact hrest.cons htried' hleft

end SchemaEvolution.Runner
