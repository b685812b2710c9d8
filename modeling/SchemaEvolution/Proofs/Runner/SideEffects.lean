import SchemaEvolution.Proofs.Procedure.Prompt
import SchemaEvolution.Proofs.Runner.Idle
import SchemaEvolution.Proofs.Runner.Once

/-!
# The order of side effects

Whatever a backend answers, a runner records a version after its logic went up and the version table
was ensured, forgets a version straight after its logic went down, moves no version twice in a call,
and stops at the first failure with that failure as the result.
-/

namespace SchemaEvolution

open Procedure (attempts failure?)

variable {σ α β : Type}

namespace Runner

/-- The logic of a version has just gone up, and since then the version table was ensured. -/
def JustUp (r : Runner) (v : Int64) (before : List Procedure.Exchange) : Prop :=
  ∃ earlier logic ensuring, r.logic? .up v = some logic ∧
    r.versions.Ensures r.client ensuring ∧
    before = earlier ++ ⟨.run .up v logic, .ok ()⟩ :: ensuring.map Procedure.ownExchange

/-- The logic of a version has just gone down. -/
def JustDown (r : Runner) (v : Int64) (before : List Procedure.Exchange) : Prop :=
  ∃ earlier logic, r.logic? .down v = some logic ∧
    before = earlier ++ [⟨.run .down v logic, .ok ()⟩]

/-- After some exchanges a step may be taken: if it records a version, the version has just gone up,
and if it forgets one, that has just gone down. -/
structure Permits (r : Runner) (before : List Procedure.Exchange) (step : Step) : Prop where
  recording : ∀ v, step = .call (r.versions.recording r.client v) → r.JustUp v before
  forgetting : ∀ v call, step = .call call → r.versions.Forgets r.client v call →
    r.JustDown v before

/-- Each exchange is one that those before it permit. -/
def Orderly (r : Runner) (exchanges : List Procedure.Exchange) : Prop :=
  ∀ before x after, exchanges = before ++ x :: after → r.Permits before x.request

variable {r : Runner}

/-! ### Orderly exchanges -/

/-- What went before does not matter. -/
theorem Permits.after {before : List Procedure.Exchange} {step : Step}
    (h : r.Permits before step) (earlier : List Procedure.Exchange) :
    r.Permits (earlier ++ before) step where
  recording v hstep := by
    obtain ⟨first, logic, ensuring, hlogic, hensures, rfl⟩ := h.recording v hstep
    exact ⟨earlier ++ first, logic, ensuring, hlogic, hensures, (List.append_assoc ..).symm⟩
  forgetting v call hstep hforgets := by
    obtain ⟨first, logic, hlogic, rfl⟩ := h.forgetting v call hstep hforgets
    exact ⟨earlier ++ first, logic, hlogic, (List.append_assoc ..).symm⟩

/-- A run of logic is always permitted. -/
theorem permits_run (before : List Procedure.Exchange) (phase : Phase) (v : Int64)
    (logic : Action Unit) : r.Permits before (.run phase v logic) :=
  ⟨nofun, nofun⟩

/-- What is neutral is always permitted. -/
theorem permits_neutral (plain : r.client.dialect.Plain) (before : List Procedure.Exchange)
    {call : Call} (h : VersionTable.Neutral call) : r.Permits before (.call call) where
  recording v hstep := by
    cases hstep
    exact absurd rfl (h.ne_recording plain v)
  forgetting v call' hstep hforgets := by
    cases hstep
    exact absurd hforgets (h.not_forgets plain v)

/-- After a version went up and the table was ensured, the version may be recorded. -/
theorem permits_recording (plain : r.client.dialect.Plain) {v : Int64}
    {before : List Procedure.Exchange} (h : r.JustUp v before) :
    r.Permits before (.call (r.versions.recording r.client v)) where
  recording w hstep := by
    cases VersionTable.recording_injective plain (Step.call.inj hstep)
    exact h
  forgetting w call hstep hforgets := by
    cases hstep
    exact absurd hforgets (VersionTable.not_forgets_recording plain v w)

/-- After a version went down, it may be forgotten. -/
theorem permits_forgetting (plain : r.client.dialect.Plain) {v : Int64} {call : Call}
    {before : List Procedure.Exchange} (hcall : r.versions.Forgets r.client v call)
    (h : r.JustDown v before) : r.Permits before (.call call) where
  recording w hstep := by
    cases hstep
    exact absurd hcall (VersionTable.not_forgets_recording plain w v)
  forgetting w call' hstep hforgets := by
    cases hstep
    cases VersionTable.forgets_injective plain hcall hforgets
    exact h

/-- Exchanges that are permitted anyway are orderly. -/
theorem orderly_of_permits {exchanges : List Procedure.Exchange}
    (h : ∀ x ∈ exchanges, ∀ before, r.Permits before x.request) : r.Orderly exchanges := by
  intro before x after hsplit
  apply h
  rw [hsplit]
  exact List.mem_append_right _ List.mem_cons_self

/-- Orderly exchanges one after the other are orderly. -/
theorem Orderly.append {first second : List Procedure.Exchange} (h : r.Orderly first)
    (h' : r.Orderly second) : r.Orderly (first ++ second) := by
  intro before x after hsplit
  rcases split_append hsplit with ⟨later, hfirst⟩ | ⟨earlier, rfl, hsecond⟩
  · exact h before x later hfirst
  · exact (h' earlier x after hsecond).after first

/-- An exchange that is permitted may come last. -/
theorem Orderly.concat {exchanges : List Procedure.Exchange} {x : Procedure.Exchange}
    (h : r.Orderly exchanges) (hx : r.Permits exchanges x.request) :
    r.Orderly (exchanges ++ [x]) := by
  intro before y after hsplit
  rcases split_append hsplit with ⟨later, hfirst⟩ | ⟨earlier, rfl, hsecond⟩
  · exact h before y later hfirst
  · cases earlier with
    | nil =>
      obtain ⟨rfl, -⟩ := List.cons.inj hsecond
      rw [List.append_nil]
      exact hx
    | cons z earlier => simp at hsecond

/-! ### Moves -/

variable {backend : Backend σ}

private theorem orderly_up (plain : r.client.dialect.Plain) (strict : r.client.config.strict = true)
    {v : Int64} {logic : Action Unit} (hlogic : r.logic? .up v = some logic) (s : σ) :
    r.Orderly (⟨.run .up v logic, .ok ()⟩ ::
      ((r.settle (Move.up v)).runFrom backend s).exchanges) := by
  obtain ⟨result, s', ensuring, hensure, hensures, hneutral⟩ :=
    VersionTable.runFrom_ensure_cases backend plain strict r.versions s
  have hfirst : r.Orderly
      (⟨.run .up v logic, .ok ()⟩ :: ensuring.map Procedure.ownExchange) := by
    apply orderly_of_permits
    intro x hx before
    rcases List.mem_cons.mp hx with rfl | hx
    · exact permits_run before .up v logic
    · obtain ⟨y, hy, rfl⟩ := List.mem_map.mp hx
      exact permits_neutral plain before (hneutral y hy)
  have hsettle : r.settle (Move.up v) =
      Procedure.ofAction (r.versions.ensure r.client) >>= fun _ =>
        Procedure.ofAction (r.versions.record r.client v) := rfl
  rw [hsettle]
  cases result with
  | error e =>
    rw [Procedure.runFrom_bind_of_error (Procedure.runFrom_ofAction hensure)]
    exact hfirst
  | ok a =>
    obtain ⟨result, s'', answer, hrecord⟩ :=
      VersionTable.runFrom_record_cases backend r.versions r.client v s'
    rw [Procedure.runFrom_bind_of_ok (Procedure.runFrom_ofAction hensure),
      Procedure.runFrom_ofAction hrecord, Course.exchanges_after]
    exact hfirst.concat (permits_recording plain
      ⟨[], logic, ensuring, hlogic, hensures a rfl, rfl⟩)

private theorem orderly_down (plain : r.client.dialect.Plain) {v : Int64} {logic : Action Unit}
    (hlogic : r.logic? .down v = some logic) (s : σ) :
    r.Orderly (⟨.run .down v logic, .ok ()⟩ ::
      ((r.settle (Move.down v)).runFrom backend s).exchanges) := by
  obtain ⟨result, s', condition, answer, hforgets, hforget⟩ :=
    VersionTable.runFrom_forget_cases backend plain r.versions v s
  have hfirst : r.Orderly [⟨.run .down v logic, .ok ()⟩] := by
    apply orderly_of_permits
    intro x hx before
    rw [List.mem_singleton.mp hx]
    exact permits_run before .down v logic
  have hsettle : r.settle (Move.down v) =
      Procedure.ofAction (r.versions.forget r.client v) := rfl
  rw [hsettle, Procedure.runFrom_ofAction hforget]
  exact hfirst.concat (permits_forgetting plain hforgets ⟨[], logic, hlogic, rfl⟩)

/-- Carrying a move out is orderly, whatever is answered. -/
private theorem orderly_carry (plain : r.client.dialect.Plain)
    (strict : r.client.config.strict = true) (m : Move) (s : σ) :
    r.Orderly ((r.carry m).runFrom backend s).exchanges := by
  cases hlogic : r.logic? m.phase m.version with
  | none =>
    obtain ⟨e, he⟩ := carry_of_none hlogic
    rw [he]
    exact orderly_of_permits nofun
  | some logic =>
    cases hrun : (logic.run.on backend).run s with
    | mk result s' =>
      cases result with
      | error cause =>
        rw [runFrom_carry_of_error hlogic hrun]
        apply orderly_of_permits
        intro x hx before
        rw [List.mem_singleton.mp hx]
        exact permits_run before m.phase m.version logic
      | ok a =>
        rw [runFrom_carry_of_ok hlogic hrun, Course.exchanges_after]
        obtain ⟨phase, v⟩ := m
        cases phase with
        | up => exact orderly_up plain strict hlogic s'
        | down => exact orderly_down plain hlogic s'

/-! ### Procedures that are orderly and prompt -/

/-- What a procedure does is orderly and prompt, whatever the backend. -/
structure Careful (r : Runner) (p : Procedure α) : Prop where
  orderly : ∀ (σ : Type) (backend : Backend σ) (s : σ), r.Orderly (p.runFrom backend s).exchanges
  prompt : p.Prompt

theorem careful_ofExcept (result : Except MigrationError α) :
    r.Careful (Procedure.ofExcept result) where
  orderly _ _ _ := orderly_of_permits nofun
  prompt := Procedure.prompt_ofExcept result

theorem Careful.bind {p : Procedure α} {f : α → Procedure β} (h : r.Careful p)
    (hf : ∀ a, r.Careful (f a)) : r.Careful (p >>= f) where
  orderly σ backend s := by
    have hp := h.orderly σ backend s
    cases hcourse : p.runFrom backend s with
    | mk result s' exchanges =>
      rw [hcourse] at hp
      cases result with
      | error e =>
        rw [Procedure.runFrom_bind_of_error hcourse]
        exact hp
      | ok a =>
        rw [Procedure.runFrom_bind_of_ok hcourse]
        exact hp.append ((hf a).orderly σ backend s')
  prompt := h.prompt.bind fun a => (hf a).prompt

/-- An action on the version table that asks what is neutral is careful when it is prompt. -/
theorem careful_ofAction (plain : r.client.dialect.Plain) {action : Action α}
    (hprompt : action.Prompt) (hneutral : ∀ (σ : Type) (backend : Backend σ) (s : σ),
      ∀ x ∈ (action.runFrom backend s).exchanges, VersionTable.Neutral x.request) :
    r.Careful (Procedure.ofAction action) where
  orderly σ backend s := by
    rw [Procedure.runFrom_ofAction rfl]
    apply orderly_of_permits
    intro x hx before
    obtain ⟨y, hy, rfl⟩ := List.mem_map.mp hx
    exact permits_neutral plain before (hneutral σ backend s y hy)
  prompt := Procedure.prompt_ofAction hprompt

private theorem prompt_settle (strict : r.client.config.strict = true) (m : Move) :
    (r.settle m).Prompt := by
  obtain ⟨phase, v⟩ := m
  cases phase with
  | up =>
    exact (Procedure.prompt_ofAction (VersionTable.prompt_ensure strict)).bind fun _ =>
      Procedure.prompt_ofAction (VersionTable.prompt_record v)
  | down => exact Procedure.prompt_ofAction (VersionTable.prompt_forget v)

private theorem careful_carry (plain : r.client.dialect.Plain)
    (strict : r.client.config.strict = true) (m : Move) : r.Careful (r.carry m) where
  orderly _ _ s := orderly_carry plain strict m s
  prompt := by
    cases hlogic : r.logic? m.phase m.version with
    | none =>
      obtain ⟨e, he⟩ := carry_of_none hlogic
      rw [he]
      exact Procedure.prompt_ofExcept _
    | some logic =>
      rw [carry_eq hlogic]
      exact (Procedure.prompt_runLogic _ _ _).bind fun _ => prompt_settle strict m

/-- Every call is careful. -/
theorem careful_procedure (plain : r.client.dialect.Plain)
    (strict : r.client.config.strict = true) (command : Command) :
    r.Careful (command.procedure r) := by
  have parts : r.HoldsOfParts fun _ p => r.Careful p :=
    { ofExcept := careful_ofExcept
      bind := Careful.bind
      applied := careful_ofAction plain VersionTable.prompt_applied fun _ backend s =>
        VersionTable.neutral_applied backend plain r.versions s
      current := careful_ofAction plain VersionTable.prompt_current fun _ backend s =>
        VersionTable.neutral_current backend plain r.versions s
      ensure := careful_ofAction plain (VersionTable.prompt_ensure strict) fun _ backend s =>
        VersionTable.neutral_ensure backend plain strict r.versions s
      carry := careful_carry plain strict }
  exact parts.procedure command

/-! ### The order of side effects -/

/-- A call of a runner that was built, with a strict client in a plain dialect, whatever the backend
answers. A version is recorded only after its logic went up in this call and the version table was
ensured, with nothing else in between. It is forgotten only straight after its logic went down in
this call. No version is moved twice. What fails comes last, and its failure is the result. -/
theorem side_effects_in_order {client : Client} {versions : VersionTable}
    {migrations : List Migration} (built : ofMigrations client versions migrations = .ok r)
    (plain : client.dialect.Plain) (strict : client.config.strict = true) (command : Command)
    (backend : Backend σ) (s : σ) :
    (∀ before v answer after,
      ((command.procedure r).runFrom backend s).exchanges =
          before ++ ⟨.call (versions.recording client v), answer⟩ :: after →
        r.JustUp v before) ∧
    (∀ before v call answer after, versions.Forgets client v call →
      ((command.procedure r).runFrom backend s).exchanges =
          before ++ ⟨.call call, answer⟩ :: after →
        r.JustDown v before) ∧
    ((attempts ((command.procedure r).runFrom backend s).exchanges).map
      (·.move.version)).Nodup ∧
    ∀ before x after e, ((command.procedure r).runFrom backend s).exchanges = before ++ x :: after →
      failure? x = some e →
        after = [] ∧ ((command.procedure r).runFrom backend s).result = .error e := by
  have proper := proper_of_ofMigrations built
  obtain ⟨catalog, -, rfl⟩ := ofMigrations_ok built
  have careful := careful_procedure (r := ⟨client, catalog, versions⟩) plain strict command
  refine ⟨?_, ?_, movesOnce_procedure proper plain command σ backend s,
    careful.prompt σ backend s⟩
  · intro before v answer after hsplit
    exact (careful.orderly σ backend s before _ after hsplit).recording v rfl
  · intro before v call answer after hforgets hsplit
    exact (careful.orderly σ backend s before _ after hsplit).forgetting v call rfl hforgets

/-- Two migrations go up where there is no version table yet. -/
theorem side_effects_in_order_of_two :
    ofMigrations .sqlite { group := "a" } [.idle "a" 2, .idle "a" 1] = .ok (idle "a" [1, 2]) ∧
    attempts ((Command.migrateUp.procedure (idle "a" [1, 2])).runFrom keeper none).exchanges =
      [⟨.up 1, true⟩, ⟨.up 2, true⟩] ∧
    ∀ before v answer after,
      ((Command.migrateUp.procedure (idle "a" [1, 2])).runFrom keeper none).exchanges =
          before ++ ⟨.call ((idle "a" [1, 2]).versions.recording .sqlite v), answer⟩ :: after →
        (idle "a" [1, 2]).JustUp v before := by
  have built : ofMigrations .sqlite { group := "a" } [.idle "a" 2, .idle "a" 1] =
      .ok (idle "a" [1, 2]) := rfl
  exact ⟨built, by decide +kernel,
    (side_effects_in_order built Dialect.plain_sqlite rfl .migrateUp keeper none).1⟩

end Runner

end SchemaEvolution
