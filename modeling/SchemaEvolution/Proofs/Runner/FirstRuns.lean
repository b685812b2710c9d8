import SchemaEvolution.Proofs.Runner.Isolation
import SchemaEvolution.Proofs.VersionTable.Sharing

/-!
# First runs of different groups

Two runners of different groups migrate up on one database whose version table does not exist yet.
Each asks for the table after the logic of its first version and creates it if there is none, so
both may have found none when the first of them creates it. What the other does then depends on its
client: one that is not strict goes on, and a strict one fails, with a version that went up and is
not recorded. Nothing else can go amiss, and that to one of them only.
-/

namespace SchemaEvolution

open Procedure (attempts callsOf)
open VersionTable (Rows recordedIn ofGroup World Ensured)
open VersionTable.World (ChangeBy)

variable {σ α β : Type}

/-! ### Procedures beside another group -/

/-- The procedure, told as its calls, makes changes by a group, beside changes by another group. In
the end its result, what it tried and the world are some of `P`. -/
def Procedure.Cooperates (backend : Backend σ) {rows : σ → Option Rows} (group other : String)
    (P : Except MigrationError α → List Attempt → World rows → Prop) (p : Procedure α)
    (w : World rows) : Prop :=
  Program.Cooperates backend.answer World.state (ChangeBy other) (ChangeBy group)
    (fun x => P x.1 (attempts x.2)) (p.run.recount callsOf) w

variable {backend : Backend σ} {rows : σ → Option Rows} {group other : String} {w : World rows}

namespace Procedure.Cooperates

variable {P : Except MigrationError α → List Attempt → World rows → Prop}

theorem mono {P' : Except MigrationError α → List Attempt → World rows → Prop} {p : Procedure α}
    (h : p.Cooperates backend group other P w) (hP : ∀ result tried w', P result tried w' →
      P' result tried w') : p.Cooperates backend group other P' w :=
  Program.Cooperates.mono h fun x w' => hP x.1 (attempts x.2) w'

theorem ofPure {a : α} (h : P (.ok a) [] w) :
    Procedure.Cooperates backend group other P (pure a) w := h

/-- A procedure goes on after a part that does not fail. -/
theorem bind {P' : Except MigrationError β → List Attempt → World rows → Prop} {p : Procedure α}
    {f : α → Procedure β} (hp : p.Cooperates backend group other P w)
    (herror : ∀ e tried w', P (.error e) tried w' → P' (.error e) tried w')
    (hok : ∀ a tried w', P (.ok a) tried w' → (f a).Cooperates backend group other
      (fun result later => P' result (tried ++ later)) w') :
    Procedure.Cooperates backend group other P' (p >>= f) w := by
  rw [Procedure.Cooperates, ExceptT.run_bind, Program.recount_bind]
  apply Program.cooperates_bind hp
  rintro ⟨result, xs⟩ w' hresult
  rw [map_eq_pure_bind]
  cases result with
  | error e =>
    change P' (.error e) (attempts (xs ++ [])) w'
    rw [List.append_nil]
    exact herror e _ w' hresult
  | ok a =>
    apply Program.cooperates_bind (hok a _ w' hresult)
    rintro ⟨b, ys⟩ w'' hb
    change P' b (attempts (xs ++ ys)) w''
    rw [Procedure.attempts_append]
    exact hb

private theorem recount_askCall {Q : α → World rows → Prop} {session : Session α}
    (h : session.Cooperates backend.answer World.state (ChangeBy other) (ChangeBy group) Q w) :
    ((session.run Procedure.askCall).recount callsOf).Cooperates backend.answer World.state
      (ChangeBy other) (ChangeBy group) (fun x w' => Q x.1 w' ∧ attempts x.2 = []) w := by
  induction session generalizing w with
  | done a => exact ⟨h, rfl⟩
  | ask call next ih =>
    intro w' hw'
    obtain ⟨w'', hstate, hchange, hrest⟩ := h w' hw'
    refine ⟨w'', hstate, hchange, ?_⟩
    exact Program.cooperates_bind (p := ((next _).run Procedure.askCall).recount callsOf)
      (ih _ hrest) fun x w' hx => hx

/-- An action on the version table tries nothing. -/
theorem ofAction {Q : Except Error α → World rows → Prop} {action : Action α}
    (h : action.Cooperates backend group other Q w) :
    (Procedure.ofAction action).Cooperates backend group other
      (fun result tried w' => tried = [] ∧ ∃ ended, Q ended w' ∧ result = Procedure.ownResult ended)
      w := by
  change Program.Cooperates _ _ _ _ _ ((action.run.run Procedure.askCall >>= _).recount callsOf) w
  rw [Program.recount_bind]
  apply Program.cooperates_bind (recount_askCall h)
  rintro ⟨ended, xs⟩ w' ⟨hended, hxs⟩
  cases ended with
  | ok a => exact ⟨by rw [← hxs]; exact congrArg _ (List.append_nil xs), _, hended, rfl⟩
  | error cause => exact ⟨by rw [← hxs]; exact congrArg _ (List.append_nil xs), _, hended, rfl⟩

/-- A run of logic is tried, and goes well or fails. -/
theorem runLogic {phase : Phase} {version : Int64} {logic : Action Unit}
    {Q : World rows → Prop} (h : logic.Cooperates backend group other (fun _ => Q) w) :
    (Procedure.runLogic phase version logic).Cooperates backend group other (fun result tried w' =>
      Q w' ∧ ((result = .ok () ∧ tried = [⟨⟨phase, version⟩, true⟩]) ∨
        ∃ cause, result = .error (.failed version cause) ∧ tried = [⟨⟨phase, version⟩, false⟩]))
      w := by
  refine Program.cooperates_bind h fun outcome w' hw' => ?_
  cases outcome with
  | ok _ => exact ⟨hw', .inl ⟨rfl, rfl⟩⟩
  | error cause => exact ⟨hw', .inr ⟨cause, rfl, rfl⟩⟩

end Procedure.Cooperates

namespace Runner

variable {r : Runner} {versions : List Int64}

/-! ### Applying versions beside another group -/

/-- How applying some versions ends, beside another group. All of them go up and are recorded, or
the logic of one fails, or making sure that the table exists fails after the logic of the first. -/
inductive AppliesBeside (r : Runner) (other : String) (w : World rows) (versions : List Int64) :
    Except MigrationError Unit → List Attempt → World rows → Prop
  | all {w' : World rows}
      (present : versions ≠ [] ∨ w.creator.isSome = true → w'.creator.isSome = true)
      (own : w'.own r.versions.group =
        (versions.map fun v => (v, r.versions.group) : Rows) + w.own r.versions.group) :
    AppliesBeside r other w versions (.ok ()) (versions.map fun v => ⟨.up v, true⟩) w'
  | failed {w' : World rows} {e : MigrationError} {tried : List Attempt} {a : Attempt}
      (mem : a ∈ tried) (failed : a.succeeded = false) :
    AppliesBeside r other w versions (.error e) tried w'
  | outrun {w' : World rows} {v : Int64} {rest : List Int64} {cause : Error}
      (split : versions = v :: rest)
      (ensured : Ensured r.versions r.client other w (.error cause) w') :
    AppliesBeside r other w versions (.error (.client cause)) [⟨.up v, true⟩] w'

namespace AppliesBeside

variable {w' w'' : World rows} {result : Except MigrationError Unit} {tried : List Attempt}

/-- Changes by the other group may come before. -/
theorem behind (h : r.AppliesBeside other w' versions result tried w'') (hw : ChangeBy other w w')
    (hne : r.versions.group ≠ other) : r.AppliesBeside other w versions result tried w'' := by
  cases h with
  | all present own =>
    refine .all (fun h => present (h.imp_right hw.isSome)) ?_
    rw [own, hw.others _ hne]
  | failed mem failed => exact .failed mem failed
  | outrun split ensured => exact .outrun split (ensured.behind hw hne)

/-- Changes by the other group may follow. -/
theorem before (h : r.AppliesBeside other w versions result tried w') (hw : ChangeBy other w' w'')
    (hne : r.versions.group ≠ other) : r.AppliesBeside other w versions result tried w'' := by
  cases h with
  | all present own => exact .all (fun h => hw.isSome (present h)) ((hw.others _ hne).trans own)
  | failed mem failed => exact .failed mem failed
  | outrun split ensured => exact .outrun split (ensured.before hw hne)

/-- Nothing is applied after a version that could not be. -/
theorem of_error {v : Int64} {rest : List Int64} {e : MigrationError}
    (h : r.AppliesBeside other w [v] (.error e) tried w') :
    r.AppliesBeside other w (v :: rest) (.error e) tried w' := by
  cases h with
  | failed mem failed => exact .failed mem failed
  | outrun split ensured =>
    cases split
    exact .outrun rfl ensured

/-- A version that goes up is recorded. -/
theorem of_ok {v : Int64} (h : r.AppliesBeside other w [v] (.ok ()) tried w') :
    tried = [⟨.up v, true⟩] ∧ w'.creator.isSome = true ∧
      w'.own r.versions.group = (v, r.versions.group) ::ₘ w.own r.versions.group := by
  cases h with
  | all present own => exact ⟨rfl, present (.inl (List.cons_ne_nil _ _)), own⟩

/-- Versions after the first find the table. -/
theorem cons {v : Int64} {rest : List Int64}
    (h : r.AppliesBeside other w' rest result tried w'') (hexists : w'.creator.isSome = true)
    (hown : w'.own r.versions.group = (v, r.versions.group) ::ₘ w.own r.versions.group) :
    r.AppliesBeside other w (v :: rest) result (⟨.up v, true⟩ :: tried) w'' := by
  cases h with
  | all present own =>
    refine .all (fun _ => present (.inr hexists)) ?_
    rw [own, hown, Multiset.add_cons]
    exact (Multiset.cons_add _ _ _).symm
  | failed mem failed => exact .failed (List.mem_cons_of_mem _ mem) failed
  | outrun split ensured =>
    cases ensured with
    | outrun strict missing creation kind creator own =>
      rw [missing] at hexists
      cases hexists

end AppliesBeside

/-- What the logic of a version does to the version table is nothing. -/
private theorem logic_cooperates (spares : r.SparesEach backend rows) {phase : Phase}
    {version : Int64} {logic : Action Unit} (hlogic : r.logic? phase version = some logic)
    (group other : String) (w : World rows) :
    logic.Cooperates backend group other (fun _ => ChangeBy other w) w := by
  have hevery : logic.run.Every fun call => ∀ w' : World rows, ChangeBy other w w' →
      ∃ w'', w''.state = ((backend.answer call).run w'.state).2 ∧ ChangeBy group w' w'' ∧
        ChangeBy other w w'' := by
    refine (spares phase version logic hlogic).mono fun call hcall w' hw' => ?_
    obtain ⟨w'', hstate, -, -, hchange⟩ := w'.exists_unchanged (hcall w'.state)
    exact ⟨w'', hstate, hchange group, trans_of _ hw' (hchange other)⟩
  exact hevery.cooperates (fun w₁ w₂ hw₂ hw₁ => trans_of _ hw₁ hw₂) (refl_of _ w)

section Beside

variable (kept : r.versions.KeptBy r.client backend rows)
  (refuses : r.versions.RefusesAgain r.client backend rows) (spares : r.SparesEach backend rows)
  (hne : r.versions.group ≠ other)

include kept refuses hne

/-- After its logic, a version is recorded, unless the other group was faster. -/
private theorem settle_cooperates (v : Int64) (w : World rows) :
    (r.settle (.up v)).Cooperates backend r.versions.group other
      (fun result later => r.AppliesBeside other w [v] result (⟨.up v, true⟩ :: later)) w := by
  refine .bind (.ofAction (kept.ensure_cooperates refuses hne w)) ?_ ?_
  · rintro e tried w₁ ⟨rfl, ended, hensured, hended⟩
    cases ended with
    | ok _ => cases hended
    | error cause =>
      cases hended
      exact .outrun rfl hensured
  · rintro a tried w₁ ⟨rfl, ended, hensured, hended⟩
    cases hensured with
    | outrun => cases hended
    | there present own =>
      refine (Procedure.Cooperates.ofAction (kept.record_cooperates hne v present)).mono ?_
      rintro result tried w₂ ⟨rfl, ended, ⟨rfl, hexists, hown⟩, rfl⟩
      refine .all (fun _ => hexists) ?_
      rw [hown, own]
      rfl

include spares

/-- One version goes up and is recorded, or its logic fails, or the other group was faster. -/
theorem carry_cooperates {v : Int64} (hv : (r.logic? .up v).isSome = true) (w : World rows) :
    (r.carry (.up v)).Cooperates backend r.versions.group other (r.AppliesBeside other w [v])
      w := by
  obtain ⟨logic, hlogic⟩ := Option.isSome_iff_exists.mp hv
  rw [carry_eq (m := .up v) hlogic]
  refine .bind (.runLogic (logic_cooperates spares hlogic r.versions.group other w)) ?_ ?_
  · rintro e tried w₁ ⟨-, ⟨he, -⟩ | ⟨cause, -, rfl⟩⟩
    · cases he
    · exact .failed (List.mem_singleton_self _) rfl
  · rintro a tried w₁ ⟨hw₁, ⟨-, rfl⟩ | ⟨cause, he, -⟩⟩
    · apply (settle_cooperates kept refuses hne v w₁).mono
      exact fun result later w₂ happlies => happlies.behind hw₁ hne
    · cases he

/-- Applying versions one after the other ends so. -/
theorem carryAll_cooperates (hversions : ∀ v ∈ versions, (r.logic? .up v).isSome = true)
    (w : World rows) :
    (r.carryAll (versions.map Move.up)).Cooperates backend r.versions.group other
      (r.AppliesBeside other w versions) w := by
  induction versions generalizing w with
  | nil =>
    refine .ofPure (.all ?_ (Multiset.zero_add _).symm)
    rintro (hnil | hexists)
    · exact absurd rfl hnil
    · exact hexists
  | cons v rest ih =>
    refine .bind (carry_cooperates kept refuses spares hne (hversions v List.mem_cons_self) w) ?_ ?_
    · intro e tried w₁ hfirst
      exact hfirst.of_error
    · intro a tried w₁ hfirst
      obtain ⟨rfl, hexists, hown⟩ := hfirst.of_ok
      apply (ih (fun v hv => hversions v (List.mem_cons_of_mem _ hv)) w₁).mono
      exact fun result later w₂ hrest => hrest.cons hexists hown

/-- Migrating up is applying the whole catalog while no row is the group's. -/
theorem migrateUp_cooperates (hown : w.own r.versions.group = 0) :
    r.migrateUp.Cooperates backend r.versions.group other
      (fun result tried w' => ∃ ended, result = ended.map (fun _ => r.catalog.versions) ∧
        r.AppliesBeside other w r.catalog.versions ended tried w') w := by
  have hmissing : r.missing [] = r.catalog.versions := List.filter_eq_self.mpr fun _ _ => rfl
  have hlogic : ∀ v ∈ r.catalog.versions, (r.logic? .up v).isSome = true :=
    fun v hv => isSome_logic?_up.mpr hv
  rw [migrateUp_eq]
  refine .bind (.ofAction (kept.applied_cooperates hne hown)) ?_ ?_
  · rintro e tried w₁ ⟨-, ended, ⟨rfl, -⟩, he⟩
    cases he
  · rintro applied tried w₁ ⟨rfl, ended, ⟨rfl, hw₁⟩, happlied⟩
    cases happlied
    rw [planUp, hmissing, map_eq_pure_bind]
    refine .bind (carryAll_cooperates kept refuses spares hne hlogic w₁) ?_ ?_
    · exact fun e tried w₂ happlies => ⟨.error e, rfl, happlies.behind hw₁ hne⟩
    · intro a tried w₂ happlies
      refine .ofPure ⟨.ok (), rfl, ?_⟩
      rw [List.append_nil]
      exact happlies.behind hw₁ hne

end Beside

/-! ### First runs by turns -/

section Outcomes

variable (r : Runner) (rows : σ → Option Rows) (t : σ) (result : Except MigrationError (List Int64))
  (exchanges : List Procedure.Exchange)

/-- Every version of the catalog went up, in order, and is recorded, once. -/
structure Completes : Prop where
  result : result = .ok r.catalog.versions
  tried : attempts exchanges = r.catalog.versions.map fun v => ⟨.up v, true⟩
  recorded : recordedIn (ofGroup r.versions.group rows) t =
    (r.catalog.versions.map fun v => (v, r.versions.group) : Rows)

/-- The first version of the catalog went up and is not recorded, and nothing else happened: the
client, which is strict, reports that the version table could not be created because it exists. -/
structure Loses : Prop where
  strict : r.client.config.strict = true
  tried : ∃ v rest, r.catalog.versions = v :: rest ∧ attempts exchanges = [⟨.up v, true⟩]
  result : ∃ sql cause, r.client.dialect.createTable (r.versions.shape r.client) = .ok [sql] ∧
    cause.kind = .alreadyExists ∧ result = .error (.client (.execution sql [] cause))
  recorded : recordedIn (ofGroup r.versions.group rows) t = 0

end Outcomes

/-- If no logic fails, applying the whole catalog from no rows completes or loses the first version,
and then the other group has created the table. -/
private theorem AppliesBeside.completes_or_loses {w' : World rows}
    {ended : Except MigrationError Unit} {exchanges : List Procedure.Exchange}
    (h : r.AppliesBeside other w r.catalog.versions ended (attempts exchanges) w')
    (hown : w.own r.versions.group = 0)
    (hsucceeded : ∀ a ∈ attempts exchanges, a.succeeded = true) :
    r.Completes rows w'.state (ended.map fun _ => r.catalog.versions) exchanges ∨
      (r.Loses rows w'.state (ended.map fun _ => r.catalog.versions) exchanges ∧
        w'.creator = some other) := by
  generalize htried : attempts exchanges = tried at h hsucceeded
  cases h with
  | all present own =>
    rw [hown, Multiset.add_zero] at own
    exact .inl ⟨rfl, htried, own⟩
  | failed mem failed =>
    rw [hsucceeded _ mem] at failed
    cases failed
  | outrun split ensured =>
    cases ensured with
    | outrun strict missing creation kind creator own =>
      rw [hown] at own
      exact .inr ⟨⟨strict, ⟨_, _, split, htried⟩, ⟨_, _, creation, kind, rfl⟩, own⟩, creator⟩

/-- Two runners of different groups each migrate up, for the first time, on one database without a
version table, which is kept for both and which the migrations of both leave alone. A statement that
creates the table where it exists is refused. Whatever the order in which their calls on the backend
take turns, if all logic goes well, then both runs complete, or one of them completes and the other
loses its first version. A run of a client that is not strict completes. -/
theorem first_runs_lose_at_most_one {r₁ r₂ : Runner}
    (hne : r₁.versions.group ≠ r₂.versions.group)
    (kept₁ : r₁.versions.KeptBy r₁.client backend rows)
    (kept₂ : r₂.versions.KeptBy r₂.client backend rows)
    (refuses₁ : r₁.versions.RefusesAgain r₁.client backend rows)
    (refuses₂ : r₂.versions.RefusesAgain r₂.client backend rows)
    (spares₁ : r₁.SparesEach backend rows) (spares₂ : r₂.SparesEach backend rows)
    {s t : σ} (hs : rows s = none) {a b : Except MigrationError (List Int64)}
    {xs ys : List Procedure.Exchange}
    (hturns : Program.Interleaves backend.answer (r₁.migrateUp.run.recount callsOf)
      (r₂.migrateUp.run.recount callsOf) s (a, xs) (b, ys) t)
    (succeeded₁ : ∀ tried ∈ attempts xs, tried.succeeded = true)
    (succeeded₂ : ∀ tried ∈ attempts ys, tried.succeeded = true) :
    (r₁.Completes rows t a xs ∧ r₂.Completes rows t b ys) ∨
    (r₁.Loses rows t a xs ∧ r₂.Completes rows t b ys) ∨
    (r₁.Completes rows t a xs ∧ r₂.Loses rows t b ys) := by
  let w : World rows := ⟨s, none, by rw [hs]; rfl⟩
  have hown (g : String) : w.own g = 0 := World.own_of_none hs g
  obtain ⟨w', rfl, ⟨ended₁, rfl, happlies₁⟩, ⟨ended₂, rfl, happlies₂⟩⟩ := hturns.cooperate
    (w := w) rfl (migrateUp_cooperates kept₁ refuses₁ spares₁ hne (hown _))
    (migrateUp_cooperates kept₂ refuses₂ spares₂ hne.symm (hown _)) (refl_of _ w) (refl_of _ w)
    (fun x w w' ⟨ended, hended, happlies⟩ hw' => ⟨ended, hended, happlies.before hw' hne⟩)
    (fun x w w' ⟨ended, hended, happlies⟩ hw' => ⟨ended, hended, happlies.before hw' hne.symm⟩)
  rcases happlies₁.completes_or_loses (hown _) succeeded₁ with hcompletes₁ | ⟨hloses₁, hcreator₁⟩
  · rcases happlies₂.completes_or_loses (hown _) succeeded₂ with hcompletes₂ | ⟨hloses₂, -⟩
    · exact .inl ⟨hcompletes₁, hcompletes₂⟩
    · exact .inr (.inr ⟨hcompletes₁, hloses₂⟩)
  · rcases happlies₂.completes_or_loses (hown _) succeeded₂ with hcompletes₂ | ⟨-, hcreator₂⟩
    · exact .inr (.inl ⟨hloses₁, hcompletes₂⟩)
    · -- Only one of them has created the table.
      exact absurd (Option.some.inj (hcreator₂.symm.trans hcreator₁)) hne

/-- A keeper of the version table that refuses to create it again. -/
def guardian : Backend VersionTable.Memory := VersionTable.guard {} .sqlite

/-- An idle runner that is done before the other begins leaves it a table to record in. -/
theorem first_runs_in_a_row_complete :
    ∃ a xs b ys t, Program.Interleaves guardian.answer
        ((idle "a" [1, 2]).migrateUp.run.recount callsOf)
        ((idle "b" [1]).migrateUp.run.recount callsOf) none (a, xs) (b, ys) t ∧
      (idle "a" [1, 2]).Completes VersionTable.Memory.rows t a xs ∧
      (idle "b" [1]).Completes VersionTable.Memory.rows t b ys := by
  obtain ⟨⟨a, xs⟩, ⟨b, ys⟩, t, hturns, hcheck⟩ := Program.exists_of_scheduled guardian.answer
    ((idle "a" [1, 2]).migrateUp.run.recount callsOf)
    ((idle "b" [1]).migrateUp.run.recount callsOf) none
    (List.replicate 6 true ++ List.replicate 4 false)
    (fun (x, y, _) => x.1.isOk && y.1.isOk &&
      (attempts x.2).all (·.succeeded) && (attempts y.2).all (·.succeeded)) (by decide +kernel)
  simp only [Bool.and_eq_true, List.all_eq_true] at hcheck
  obtain ⟨⟨⟨ha, hb⟩, hxs⟩, hys⟩ := hcheck
  refine ⟨a, xs, b, ys, t, hturns, ?_⟩
  rcases first_runs_lose_at_most_one (by decide)
    (VersionTable.keptBy_guard Dialect.plain_sqlite {} "a")
    (VersionTable.keptBy_guard Dialect.plain_sqlite {} "b")
    (VersionTable.refusesAgain_guard {} .sqlite "a")
    (VersionTable.refusesAgain_guard {} .sqlite "b")
    (sparesEach_idle _ _) (sparesEach_idle _ _) rfl hturns hxs hys with
    hcomplete | ⟨hloses, -⟩ | ⟨-, hloses⟩
  · exact hcomplete
  · obtain ⟨-, -, ⟨sql, cause, -, -, rfl⟩, -⟩ := hloses
    cases ha
  · obtain ⟨-, -, ⟨sql, cause, -, -, rfl⟩, -⟩ := hloses
    cases hb

/-- Idle runners with strict clients that both ask for the table before either creates it. The first
one completes. The second one applied its version, fails, and has not recorded it. -/
theorem first_runs_lose_a_version :
    (idle "a" [1]).client.config.strict = true ∧ (idle "b" [2]).client.config.strict = true ∧
    ∃ a xs b ys t, Program.Interleaves guardian.answer
        ((idle "a" [1]).migrateUp.run.recount callsOf)
        ((idle "b" [2]).migrateUp.run.recount callsOf) none (a, xs) (b, ys) t ∧
      attempts xs = [⟨.up 1, true⟩] ∧ attempts ys = [⟨.up 2, true⟩] ∧
      a.isOk = true ∧ b.isOk = false ∧ (2, "b") ∉ recordedIn VersionTable.Memory.rows t := by
  obtain ⟨⟨a, xs⟩, ⟨b, ys⟩, t, hturns, hcheck⟩ := Program.exists_of_scheduled guardian.answer
    ((idle "a" [1]).migrateUp.run.recount callsOf)
    ((idle "b" [2]).migrateUp.run.recount callsOf) none
    [true, true, false, false, true, true, false]
    (fun (x, y, t) => attempts x.2 = [⟨.up 1, true⟩] && attempts y.2 = [⟨.up 2, true⟩] &&
      x.1.isOk && !y.1.isOk && (2, "b") ∉ recordedIn VersionTable.Memory.rows t)
    (by decide +kernel)
  simp only [Bool.and_eq_true, decide_eq_true_eq, Bool.not_eq_true'] at hcheck
  obtain ⟨⟨⟨⟨hxs, hys⟩, ha⟩, hb⟩, ht⟩ := hcheck
  exact ⟨rfl, rfl, a, xs, b, ys, t, hturns, hxs, hys, ha, hb, ht⟩

end Runner

end SchemaEvolution
