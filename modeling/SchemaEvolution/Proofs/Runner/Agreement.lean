import SchemaEvolution.Proofs.Runner.Command

/-!
# Calls on tables that agree

Two backends that keep a version table may differ in all else. From states with the same rows a call
of a runner does the same on both, as far as the logic of the migrations ends in the same way
(`agree_of_parts`).
-/

namespace SchemaEvolution.Runner

open Procedure (attempts)
open VersionTable (Rows recordedIn Lists)

variable {σ τ α β : Type}

/-- Logic that runs among both of two lists of exchanges ends in the same way. -/
def SameOutcomes (xs ys : List Procedure.Exchange) : Prop :=
  ∀ (phase : Phase) (version : Int64) (logic : Action Unit) (outcome outcome' : Except Error Unit),
    ⟨.run phase version logic, outcome⟩ ∈ xs → ⟨.run phase version logic, outcome'⟩ ∈ ys →
      outcome = outcome'

theorem SameOutcomes.mono {xs xs' ys ys' : List Procedure.Exchange} (h : SameOutcomes xs ys)
    (hxs : xs' ⊆ xs) (hys : ys' ⊆ ys) : SameOutcomes xs' ys' :=
  fun phase version logic outcome outcome' hmem hmem' =>
    h phase version logic outcome outcome' (hxs hmem) (hys hmem')

/-- Two courses give the same result, try the same moves, and leave tables with the same rows. -/
structure Agrees (rows : σ → Option Rows) (rows' : τ → Option Rows)
    (course : Course Step Step.Answer σ α) (course' : Course Step Step.Answer τ α) : Prop where
  result : course.result = course'.result
  tried : attempts course.exchanges = attempts course'.exchanges
  left : ∃ present, rows course.final = some present ∧ rows' course'.final = some present

section Parts

variable {r : Runner} {backend : Backend σ} {backend' : Backend τ} {rows : σ → Option Rows}
  {rows' : τ → Option Rows} {s : σ} {s' : τ} {present : Rows}

theorem Agrees.after {course : Course Step Step.Answer σ α} {course' : Course Step Step.Answer τ α}
    {xs ys : List Procedure.Exchange} (h : Agrees rows rows' course course')
    (htried : attempts xs = attempts ys) :
    Agrees rows rows' (course.after xs) (course'.after ys) := by
  refine ⟨h.result, ?_, h.left⟩
  rw [Course.exchanges_after, Course.exchanges_after, Procedure.attempts_append,
    Procedure.attempts_append, htried, h.tried]

/-- The exchanges of a first part are exchanges of the whole. -/
private theorem exchanges_subset_bind (p : Procedure α) (f : α → Procedure β) :
    (p.runFrom backend s).exchanges ⊆ (Procedure.runFrom backend (p >>= f) s).exchanges := by
  rw [Procedure.runFrom, Procedure.runFrom, ExceptT.run_bind, Program.runFrom_bind]
  exact List.subset_append_left _ _

private theorem agrees_bind {p : Procedure α} {f : α → Procedure β}
    (hp : SameOutcomes (p.runFrom backend s).exchanges (p.runFrom backend' s').exchanges →
      Agrees rows rows' (p.runFrom backend s) (p.runFrom backend' s'))
    (hf : ∀ a t t' present, rows t = some present → rows' t' = some present →
      SameOutcomes ((f a).runFrom backend t).exchanges ((f a).runFrom backend' t').exchanges →
      Agrees rows rows' ((f a).runFrom backend t) ((f a).runFrom backend' t'))
    (hsame : SameOutcomes (Procedure.runFrom backend (p >>= f) s).exchanges
      (Procedure.runFrom backend' (p >>= f) s').exchanges) :
    Agrees rows rows' (Procedure.runFrom backend (p >>= f) s)
      (Procedure.runFrom backend' (p >>= f) s') := by
  have hfirst := hp (hsame.mono (exchanges_subset_bind p f) (exchanges_subset_bind p f))
  obtain ⟨hresult, htried, left, hleft, hleft'⟩ := hfirst
  cases hcourse : p.runFrom backend s with
  | mk result t xs =>
    cases hcourse' : p.runFrom backend' s' with
    | mk result' t' ys =>
      rw [hcourse, hcourse'] at hresult htried
      rw [hcourse] at hleft
      rw [hcourse'] at hleft'
      change result = result' at hresult
      subst hresult
      cases result with
      | error e =>
        rw [Procedure.runFrom_bind_of_error hcourse, Procedure.runFrom_bind_of_error hcourse']
        exact ⟨rfl, htried, left, hleft, hleft'⟩
      | ok a =>
        rw [Procedure.runFrom_bind_of_ok hcourse, Procedure.runFrom_bind_of_ok hcourse'] at hsame ⊢
        refine (hf a t t' left hleft hleft' (hsame.mono ?_ ?_)).after htried
        · exact List.subset_append_right _ _
        · exact List.subset_append_right _ _

/-- Versions that are read off the same rows are the same. -/
private theorem eq_of_lists {group : String} {versions versions' : List Int64}
    (h : Lists present group versions) (h' : Lists present group versions') :
    versions = versions' :=
  Ascending.ext h.ascending h'.ascending fun v => (h.mem_iff v).trans (h'.mem_iff v).symm

variable (kept : r.versions.KeptBy r.client backend rows)
  (kept' : r.versions.KeptBy r.client backend' rows')
  (hrows : rows s = some present) (hrows' : rows' s' = some present)

include kept kept' hrows hrows'

private theorem agrees_applied :
    Agrees rows rows' (r.applied.runFrom backend s) (r.applied.runFrom backend' s') := by
  obtain ⟨applied, t, xs, hread, hleft, hlists, hqueries⟩ := runFrom_applied kept s
  obtain ⟨applied', t', ys, hread', hleft', hlists', hqueries'⟩ := runFrom_applied kept' s'
  rw [VersionTable.recordedIn_of_some hrows] at hlists
  rw [VersionTable.recordedIn_of_some hrows'] at hlists'
  rw [hread, hread', eq_of_lists hlists hlists']
  refine ⟨rfl, ?_, present, hleft.trans hrows, hleft'.trans hrows'⟩
  rw [Procedure.attempts_of_queries hqueries, Procedure.attempts_of_queries hqueries']

private theorem agrees_current :
    Agrees rows rows' (r.current.runFrom backend s) (r.current.runFrom backend' s') := by
  obtain ⟨applied, t, xs, hread, hleft, hlists⟩ := kept.runFrom_current s
  obtain ⟨applied', t', ys, hread', hleft', hlists'⟩ := kept'.runFrom_current s'
  rw [VersionTable.recordedIn_of_some hrows] at hlists
  rw [VersionTable.recordedIn_of_some hrows'] at hlists'
  rw [current, Procedure.runFrom_ofAction hread, Procedure.runFrom_ofAction hread',
    eq_of_lists hlists hlists']
  refine ⟨rfl, ?_, present, hleft.trans hrows, hleft'.trans hrows'⟩
  rw [Procedure.attempts_own, Procedure.attempts_own]

private theorem agrees_ensure :
    Agrees rows rows' (r.ensure.runFrom backend s) (r.ensure.runFrom backend' s') := by
  obtain ⟨t, xs, hensure, hleft⟩ := kept.runFrom_ensure s
  obtain ⟨t', ys, hensure', hleft'⟩ := kept'.runFrom_ensure s'
  rw [VersionTable.recordedIn_of_some hrows] at hleft
  rw [VersionTable.recordedIn_of_some hrows'] at hleft'
  rw [ensure, Procedure.runFrom_ofAction hensure, Procedure.runFrom_ofAction hensure']
  refine ⟨rfl, ?_, present, hleft, hleft'⟩
  rw [Procedure.attempts_own, Procedure.attempts_own]

omit kept kept' hrows hrows' in
/-- The logic of a move that is carried out is among the exchanges, with how it ends. -/
private theorem mem_exchanges_carry {m : Move} {logic : Action Unit} {outcome : Except Error Unit}
    {t : σ} (h : r.logic? m.phase m.version = some logic)
    (hrun : (logic.run.on backend).run s = (outcome, t)) :
    ⟨.run m.phase m.version logic, outcome⟩ ∈ ((r.carry m).runFrom backend s).exchanges := by
  cases outcome with
  | ok _ =>
    rw [runFrom_carry_of_ok h hrun]
    exact List.mem_cons_self
  | error cause =>
    rw [runFrom_carry_of_error h hrun]
    exact List.mem_singleton_self _

private theorem agrees_carry (spares : r.Spares backend rows) (spares' : r.Spares backend' rows')
    (m : Move) (hsame : SameOutcomes ((r.carry m).runFrom backend s).exchanges
      ((r.carry m).runFrom backend' s').exchanges) :
    Agrees rows rows' ((r.carry m).runFrom backend s) ((r.carry m).runFrom backend' s') := by
  cases hlogic : r.logic? m.phase m.version with
  | none =>
    obtain ⟨e, he⟩ := carry_of_none hlogic
    rw [he, Procedure.runFrom_ofExcept, Procedure.runFrom_ofExcept]
    exact ⟨rfl, rfl, present, hrows, hrows'⟩
  | some logic =>
    have hspared := spares _ _ _ hlogic s
    have hspared' := spares' _ _ _ hlogic s'
    cases hrun : (logic.run.on backend).run s with
    | mk outcome t =>
      cases hrun' : (logic.run.on backend').run s' with
      | mk outcome' t' =>
        obtain rfl : outcome = outcome' := hsame _ _ _ _ _ (mem_exchanges_carry hlogic hrun)
          (mem_exchanges_carry hlogic hrun')
        rw [hrun] at hspared
        rw [hrun'] at hspared'
        have ht : rows t = some present := hspared.trans hrows
        have ht' : rows' t' = some present := hspared'.trans hrows'
        cases outcome with
        | error cause =>
          rw [runFrom_carry_of_error hlogic hrun, runFrom_carry_of_error hlogic hrun']
          exact ⟨rfl, rfl, present, ht, ht'⟩
        | ok _ =>
          rw [runFrom_carry_of_ok hlogic hrun, runFrom_carry_of_ok hlogic hrun']
          obtain ⟨u, xs, hsettle, htried, hleft⟩ := runFrom_settle kept (m := m) fun _ =>
            ht.trans (congrArg some (VersionTable.recordedIn_of_some ht).symm)
          obtain ⟨u', ys, hsettle', htried', hleft'⟩ := runFrom_settle kept' (m := m) fun _ =>
            ht'.trans (congrArg some (VersionTable.recordedIn_of_some ht').symm)
          rw [VersionTable.recordedIn_of_some ht] at hleft
          rw [VersionTable.recordedIn_of_some ht'] at hleft'
          rw [hsettle, hsettle']
          exact Agrees.after ⟨rfl, htried.trans htried'.symm, _, hleft, hleft'⟩ rfl

end Parts

variable {r : Runner} {backend : Backend σ} {backend' : Backend τ} {rows : σ → Option Rows}
  {rows' : τ → Option Rows}

/-- Whatever is composed of the parts of a runner does the same on two tables with the same rows. -/
theorem agree_of_parts (kept : r.versions.KeptBy r.client backend rows)
    (kept' : r.versions.KeptBy r.client backend' rows') (spares : r.Spares backend rows)
    (spares' : r.Spares backend' rows') :
    r.HoldsOfParts fun _ p => ∀ s s' present, rows s = some present → rows' s' = some present →
      SameOutcomes (p.runFrom backend s).exchanges (p.runFrom backend' s').exchanges →
      Agrees rows rows' (p.runFrom backend s) (p.runFrom backend' s') where
  ofExcept _ _ _ present hrows hrows' _ := ⟨rfl, rfl, present, hrows, hrows'⟩
  bind hp hf s s' present hrows hrows' :=
    agrees_bind (hp s s' present hrows hrows') hf
  applied _ _ _ hrows hrows' _ := agrees_applied kept kept' hrows hrows'
  current _ _ _ hrows hrows' _ := agrees_current kept kept' hrows hrows'
  ensure _ _ _ hrows hrows' _ := agrees_ensure kept kept' hrows hrows'
  carry m _ _ _ hrows hrows' := agrees_carry kept kept' hrows hrows' spares spares' m

end SchemaEvolution.Runner
