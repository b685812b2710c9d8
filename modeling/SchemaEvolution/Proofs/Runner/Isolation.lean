import SchemaEvolution.Proofs.Program.Recount
import SchemaEvolution.Proofs.Runner.Agreement
import SchemaEvolution.Proofs.Runner.Idle
import SchemaEvolution.Proofs.VersionTable.Groups

/-!
# Runners of different groups

Runners of different groups may work on one database at a time, their calls in any order. Each stays
within the rows of its group, so to the other it is a change that the other does not observe; amid
such changes a call of a runner does what it does alone.

Turns are taken call by call, but what was tried is a matter of steps. So the turns are those of
procedures that recount their steps; the turns of the procedures as sessions are no others
(`Procedure.exists_recount`).
-/

namespace SchemaEvolution

open Procedure (attempts callsOf)
open VersionTable (Rows ofGroup ofOthers)

variable {σ α β : Type}

/-- What a procedure recounts, told as its calls, is the result of its course and the exchanges. -/
theorem Procedure.runFrom_recount (backend : Backend σ) (p : Procedure α) (s : σ) :
    ∃ calls, (p.run.recount callsOf).runFrom backend.answer s =
      ⟨((p.runFrom backend s).result, (p.runFrom backend s).exchanges),
        (p.runFrom backend s).final, calls⟩ :=
  Program.runFrom_recount callsOf backend.answer p.run s

/-- When two procedures take turns as sessions, they do as procedures that recount, with the same
results. -/
theorem Procedure.exists_recount {backend : Backend σ} {p : Procedure α} {q : Procedure β} {s t : σ}
    {a : Except MigrationError α} {b : Except MigrationError β}
    (h : Program.Interleaves backend.answer p.session q.session s a b t) :
    ∃ xs ys, Program.Interleaves backend.answer (p.run.recount callsOf) (q.run.recount callsOf) s
      (a, xs) (b, ys) t := by
  rw [Procedure.session, Procedure.session, ← Program.map_recount, ← Program.map_recount] at h
  obtain ⟨⟨a', xs⟩, ⟨b', ys⟩, rfl, rfl, hturns⟩ := h.of_map
  exact ⟨xs, ys, hturns⟩

/-! ### Staying within a group -/

/-- A procedure, told as its calls, stays within a group. -/
def Procedure.StaysWithin (backend : Backend σ) (rows : σ → Option Rows) (group : String)
    (p : Procedure α) : Prop :=
  Session.StaysWithin backend rows group (fun _ => True) (p.run.recount callsOf)

variable {backend : Backend σ} {rows : σ → Option Rows} {group : String}

namespace Procedure.StaysWithin

theorem ofExcept (result : Except MigrationError α) :
    (Procedure.ofExcept result).StaysWithin backend rows group :=
  True.intro

theorem bind {p : Procedure α} {f : α → Procedure β} (hp : p.StaysWithin backend rows group)
    (hf : ∀ a, (f a).StaysWithin backend rows group) :
    Procedure.StaysWithin backend rows group (p >>= f) := by
  rw [Procedure.StaysWithin, ExceptT.run_bind]
  refine Program.guarantees_recount_bind hp fun result => ?_
  cases result with
  | ok a => exact hf a
  | error e => exact True.intro

private theorem recount_askCall {Q : α → Prop} {session : Session α}
    (h : session.StaysWithin backend rows group Q) :
    Session.StaysWithin backend rows group (fun _ => True)
      ((session.run Procedure.askCall).recount callsOf) := by
  induction session with
  | done a => exact True.intro
  | ask call next ih =>
    intro s hs
    obtain ⟨hkeeps, hchanges, hrest⟩ := h s hs
    refine ⟨hkeeps, hchanges, ?_⟩
    exact Program.guarantees_bind (p := ((next _).run Procedure.askCall).recount callsOf)
      (ih _ hrest) fun _ _ => trivial

theorem ofAction {Q : α → Prop} {action : Action α} (h : action.StaysWithin backend rows group Q) :
    (Procedure.ofAction action).StaysWithin backend rows group := by
  refine Program.guarantees_recount_bind (recount_askCall h) fun result => ?_
  cases result <;> exact True.intro

theorem runLogic {phase : Phase} {version : Int64} {logic : Action Unit}
    (h : Session.StaysWithin backend rows group (fun _ => True) logic.run) :
    (Procedure.runLogic phase version logic).StaysWithin backend rows group := by
  refine Program.guarantees_recount_ask h fun outcome => ?_
  cases outcome <;> exact True.intro

end Procedure.StaysWithin

namespace Runner

variable {r : Runner}

/-- No call of the logic of the runner's migrations does anything to the rows of the version
table. -/
def SparesEach (r : Runner) (backend : Backend σ) (rows : σ → Option Rows) : Prop :=
  ∀ phase version logic, r.logic? phase version = some logic →
    logic.run.Every fun call => ∀ s, rows ((backend.answer call).run s).2 = rows s

namespace SparesEach

/-- What each call spares the logic spares as a whole. -/
theorem spares (h : r.SparesEach backend rows) : r.Spares backend rows := by
  intro phase version logic hlogic s
  have hrun : ((logic.run.on backend).run s).2 = (logic.run.runFrom backend.answer s).final :=
    congrArg Prod.snd (Program.run_eq_runFrom backend.answer logic.run s)
  rw [hrun]
  exact Program.observe_final _ rows fun x hx =>
    Program.Every.of_mem _ (h phase version logic hlogic) hx

theorem ofGroup (h : r.SparesEach backend rows) (group : String) :
    r.SparesEach backend (ofGroup group rows) := by
  intro phase version logic hlogic
  refine (h phase version logic hlogic).mono fun call hcall s => ?_
  rw [VersionTable.ofGroup, VersionTable.ofGroup, hcall]

/-- So it is amid changes that leave the rows alone. -/
theorem amid (h : r.SparesEach backend rows) :
    r.SparesEach (backend.amid rows) fun s => rows s.1 := by
  intro phase version logic hlogic
  refine (h phase version logic hlogic).mono fun call hcall => ?_
  rintro ⟨s, others⟩
  exact (hcall _).trans (Program.view_resumed rows s others)

/-- Logic that does nothing to the version table stays within any group. -/
theorem staysWithin (h : r.SparesEach backend rows) (group : String) {phase : Phase}
    {version : Int64} {logic : Action Unit} (hlogic : r.logic? phase version = some logic) :
    Session.StaysWithin backend rows group (fun _ => True) logic.run := by
  refine ((h phase version logic hlogic).mono fun call hcall s hs => ?_).guarantees
  rw [hcall]
  exact ⟨hs, by rw [ofOthers, ofOthers, hcall]⟩

end SparesEach

/-- Whatever is composed of the parts of a runner stays within its group. -/
theorem stay_of_parts (kept : r.versions.KeptBy r.client backend rows)
    (spares : r.SparesEach backend rows) :
    r.HoldsOfParts fun _ p => p.StaysWithin backend rows r.versions.group where
  ofExcept := .ofExcept
  bind := .bind
  applied := .ofAction kept.applied_staysWithin
  current := .ofAction kept.current_staysWithin
  ensure := .ofAction kept.ensure_staysWithin
  carry m := by
    cases hlogic : r.logic? m.phase m.version with
    | none =>
      obtain ⟨e, he⟩ := carry_of_none hlogic
      rw [he]
      exact .ofExcept _
    | some logic =>
      rw [carry_eq hlogic]
      refine .bind (.runLogic (spares.staysWithin _ hlogic)) fun _ => ?_
      obtain ⟨phase, version⟩ := m
      cases phase with
      | up =>
        exact .bind (.ofAction kept.ensure_staysWithin) fun _ =>
          .ofAction (kept.record_staysWithin version)
      | down => exact .ofAction (kept.forget_staysWithin version)

/-! ### Calls by turns -/

/-- The procedures that a runner offers. -/
inductive Offers (r : Runner) : {α : Type} → Procedure α → Prop
  | migrateUp : Offers r r.migrateUp
  | migrateTo (target : Int64) : Offers r (r.migrateTo target)
  | rollback (version : Int64) : Offers r (r.rollback version)
  | rollbackLast : Offers r r.rollbackLast
  | status : Offers r r.status
  | pending : Offers r r.pending
  | applied : Offers r r.applied
  | current : Offers r r.current
  | ensure : Offers r r.ensure

/-- What holds of the parts holds of what is offered. -/
theorem HoldsOfParts.offered {P : (α : Type) → Procedure α → Prop} (h : r.HoldsOfParts P)
    {p : Procedure α} (hp : r.Offers p) : P α p := by
  cases hp with
  | migrateUp => exact h.migrateUp
  | migrateTo target => exact h.migrateTo target
  | rollback version => exact h.rollback version
  | rollbackLast => exact h.rollbackLast
  | status => exact h.bind h.applied fun _ => h.ofExcept (.ok _)
  | pending => exact h.bind h.applied fun _ => h.ofExcept (.ok _)
  | applied => exact h.applied
  | current => exact h.current
  | ensure => exact h.ensure

/-- What a call does by turns is what it does alone: it gives the same result and tries the same
moves in the same order, and the rows of its group are those that it leaves alone. -/
structure AsAlone (r : Runner) (backend : Backend σ) (rows : σ → Option Rows) (p : Procedure α)
    (s t : σ) (result : Except MigrationError α) (exchanges : List Procedure.Exchange) : Prop where
  result : result = (p.runFrom backend s).result
  tried : attempts exchanges = attempts (p.runFrom backend s).exchanges
  left : ofGroup r.versions.group rows t = ofGroup r.versions.group rows (p.runFrom backend s).final

/-- A call, by turns with a session that stays within another group, does what it does alone and
leaves the rows of its group as it does alone. -/
private theorem as_alone {γ : Type} {Q : γ → Prop} {session : Session γ} {p : Procedure α}
    {s t : σ} {a : Except MigrationError α} {xs : List Procedure.Exchange} {b : γ}
    (hne : r.versions.group ≠ group) (kept : r.versions.KeptBy r.client backend rows)
    (spares : r.SparesEach backend rows) (hp : r.Offers p)
    (hsession : session.StaysWithin backend rows group Q) (hs : (rows s).isSome = true)
    (hturns : Program.Interleaves backend.answer (p.run.recount callsOf) session s (a, xs) b t)
    (hsame : SameOutcomes xs (p.runFrom backend s).exchanges) :
    r.AsAlone backend rows p s t a xs := by
  obtain ⟨present, hpresent⟩ := Option.isSome_iff_exists.mp hs
  -- The turns are a course of the call on a backend that changes in between.
  obtain ⟨others, t₀, rest, calls, hcourse, ht⟩ :=
    hturns.runFrom_amid hs ((stay_of_parts kept spares).offered hp) hsession
      (fun s s' h => VersionTable.ofGroup_congr h hne) rfl
  obtain ⟨calls', hrecount⟩ :=
    Procedure.runFrom_recount (backend.amid (ofGroup r.versions.group rows)) p (s, others)
  obtain ⟨htold, hfinal, -⟩ := Course.mk.inj (hcourse.symm.trans hrecount)
  obtain ⟨ha, hxs⟩ := Prod.mk.inj htold
  -- And that backend agrees with the one that is alone on the rows of the group.
  have hagrees := (agree_of_parts kept.ofGroup.amid kept.ofGroup (spares.ofGroup _).amid.spares
    (spares.ofGroup _).spares).offered hp (s, others) s _ (VersionTable.ofGroup_of_some hpresent)
    (VersionTable.ofGroup_of_some hpresent)
  rw [← hxs] at hagrees
  obtain ⟨hresult, htried, left, hleft, hleft'⟩ := hagrees hsame
  rw [← hfinal] at hleft
  rw [← hxs] at htried
  exact ⟨ha.trans hresult, htried, ht.trans (hleft.trans hleft'.symm)⟩

/-- The logic of each migration ends in one way, whatever others do between its calls. -/
def Steady (r : Runner) (backend : Backend σ) : Prop :=
  ∀ phase version logic, r.logic? phase version = some logic → ∃ outcome,
    logic.run.Guarantees backend.answer (fun _ => True) (fun _ _ => True) (· = outcome)

/-- The logic of a step that runs some ends as it did in the exchange, whatever others do. -/
private def EndsSo (backend : Backend σ) : Procedure.Exchange → Prop
  | ⟨.call _, _⟩ => True
  | ⟨.run _ _ logic, outcome⟩ =>
    logic.run.Guarantees backend.answer (fun _ => True) (fun _ _ => True) (· = outcome)

private theorem sameOutcomes_of_endsSo {xs ys : List Procedure.Exchange} (s : σ)
    (hxs : ∀ x ∈ xs, EndsSo backend x) (hys : ∀ y ∈ ys, EndsSo backend y) : SameOutcomes xs ys := by
  intro phase version logic outcome outcome' hx hy
  have houtcome : (logic.run.runFrom backend.answer s).result = outcome :=
    Program.Guarantees.result_runFrom (hxs _ hx) s
  have houtcome' : (logic.run.runFrom backend.answer s).result = outcome' :=
    Program.Guarantees.result_runFrom (hys _ hy) s
  exact houtcome.symm.trans houtcome'

/-- Steady logic ends by turns as it does alone. -/
theorem sameOutcomes_of_steady {γ : Type} {session : Session γ} {p : Procedure α} {s t : σ}
    {a : Except MigrationError α} {xs : List Procedure.Exchange} {b : γ} (steady : r.Steady backend)
    (hp : r.Offers p)
    (hturns : Program.Interleaves backend.answer (p.run.recount callsOf) session s (a, xs) b t) :
    SameOutcomes xs (p.runFrom backend s).exchanges := by
  have hends : (p.run.recount callsOf).Guarantees backend.answer (fun _ => True) (fun _ _ => True)
      fun x => ∀ exchange ∈ x.2, EndsSo backend exchange := by
    refine (runsOwn_of_parts.offered hp).guarantees_exchanges fun step hown => ?_
    cases step with
    | call c => exact fun s _ => ⟨trivial, trivial, trivial⟩
    | run phase version logic =>
      obtain ⟨outcome, houtcome⟩ := steady phase version logic hown
      refine houtcome.mono ?_
      rintro _ rfl
      exact houtcome
  obtain ⟨calls, hrecount⟩ := Procedure.runFrom_recount backend p s
  have halone := hends.result_runFrom s
  rw [hrecount] at halone
  exact sameOutcomes_of_endsSo s (hturns.result_of_guarantees hends) halone

/-- Calls of two runners of different groups on one database whose version table exists, which is
kept for both and which the migrations of both leave alone: whatever the order in which their calls
on the backend take turns, if the logic of each migration ends as it does when its runner is alone,
then each gives the result, tries the moves and leaves the rows of its group that it does alone, and
the rows of all other groups are as they were. -/
theorem turns_of_two_groups_as_alone {r₁ r₂ : Runner}
    (hne : r₁.versions.group ≠ r₂.versions.group)
    (kept₁ : r₁.versions.KeptBy r₁.client backend rows)
    (kept₂ : r₂.versions.KeptBy r₂.client backend rows)
    (spares₁ : r₁.SparesEach backend rows) (spares₂ : r₂.SparesEach backend rows)
    {p₁ : Procedure α} {p₂ : Procedure β} (offers₁ : r₁.Offers p₁) (offers₂ : r₂.Offers p₂)
    {s t : σ} (hs : (rows s).isSome = true) {a : Except MigrationError α}
    {b : Except MigrationError β} {xs ys : List Procedure.Exchange}
    (hturns : Program.Interleaves backend.answer (p₁.run.recount callsOf) (p₂.run.recount callsOf) s
      (a, xs) (b, ys) t)
    (same₁ : SameOutcomes xs (p₁.runFrom backend s).exchanges)
    (same₂ : SameOutcomes ys (p₂.runFrom backend s).exchanges) :
    r₁.AsAlone backend rows p₁ s t a xs ∧ r₂.AsAlone backend rows p₂ s t b ys ∧
    ∀ group, group ≠ r₁.versions.group → group ≠ r₂.versions.group →
      ofGroup group rows t = ofGroup group rows s := by
  have stays₁ := (stay_of_parts kept₁ spares₁).offered offers₁
  have stays₂ := (stay_of_parts kept₂ spares₂).offered offers₂
  refine ⟨as_alone hne kept₁ spares₁ offers₁ stays₂ hs hturns same₁,
    as_alone hne.symm kept₂ spares₂ offers₂ stays₁ hs hturns.symm same₂, fun group h₁ h₂ => ?_⟩
  exact hturns.observe_eq hs stays₁ stays₂ (ofGroup group rows)
    (fun s s' h => VersionTable.ofGroup_congr h h₁) fun s s' h => VersionTable.ofGroup_congr h h₂

/-- Migrations that do nothing do nothing to the version table. -/
theorem sparesEach_idle (group : String) (versions : List Int64) :
    (idle group versions).SparesEach backend rows := by
  intro phase version logic hlogic
  rw [logic?_idle hlogic]
  exact True.intro

private theorem steady_idle (group : String) (versions : List Int64) :
    (idle group versions).Steady backend := by
  intro phase version logic hlogic
  rw [logic?_idle hlogic]
  exact ⟨.ok (), rfl⟩

/-- One runner applies two versions while another rolls one back, beside a row of a third group. -/
theorem turns_of_two_groups_idle :
    ∃ xs ys t, Program.Interleaves keeper.answer ((idle "a" [1, 2]).migrateUp.run.recount callsOf)
        (((idle "b" [1]).rollback 1).run.recount callsOf) (some [(1, "b"), (7, "c")])
        (.ok [1, 2], xs) (.ok true, ys) t ∧
      attempts xs = [⟨.up 1, true⟩, ⟨.up 2, true⟩] ∧ attempts ys = [⟨.down 1, true⟩] ∧
      ofGroup "a" VersionTable.Memory.rows t = some {(1, "a"), (2, "a")} ∧
      ofGroup "b" VersionTable.Memory.rows t = some 0 ∧
      ofGroup "c" VersionTable.Memory.rows t = some {(7, "c")} := by
  have offersUp : (idle "a" [1, 2]).Offers (idle "a" [1, 2]).migrateUp := .migrateUp
  have offersBack : (idle "b" [1]).Offers ((idle "b" [1]).rollback 1) := .rollback 1
  obtain ⟨⟨a, xs⟩, ⟨b, ys⟩, t, hturns⟩ := Program.exists_interleaves keeper.answer
    ((idle "a" [1, 2]).migrateUp.run.recount callsOf)
    (((idle "b" [1]).rollback 1).run.recount callsOf) (some [(1, "b"), (7, "c")])
  obtain ⟨⟨ha, hxs, hleft⟩, ⟨hb, hys, hleft'⟩, hothers⟩ := turns_of_two_groups_as_alone (by decide)
    (keptBy_idle "a" [1, 2]) (keptBy_idle "b" [1]) (sparesEach_idle _ _) (sparesEach_idle _ _)
    offersUp offersBack rfl hturns
    (sameOutcomes_of_steady (steady_idle _ _) offersUp hturns)
    (sameOutcomes_of_steady (steady_idle _ _) offersBack hturns.symm)
  have hresult : ((idle "a" [1, 2]).migrateUp.runFrom keeper
      (some [(1, "b"), (7, "c")])).result = .ok [1, 2] := by decide +kernel
  have hresult' : (((idle "b" [1]).rollback 1).runFrom keeper
      (some [(1, "b"), (7, "c")])).result = .ok true := by decide +kernel
  rw [ha, hb, hresult, hresult'] at hturns
  refine ⟨xs, ys, t, hturns, hxs.trans ?_, hys.trans ?_, hleft.trans ?_, hleft'.trans ?_,
    hothers "c" (by decide) (by decide)⟩
  all_goals decide +kernel

end Runner

end SchemaEvolution
