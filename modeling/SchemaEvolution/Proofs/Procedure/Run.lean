import SchemaEvolution.Migration.Runner
import SchemaEvolution.Proofs.Program.Run

/-!
# Courses of actions and procedures

An action asks calls of a backend; a procedure takes steps, each of which is a call of its own or a
run of logic. The course of a procedure is that of its session, seen step by step
(`Procedure.session_on`), and `attempts` reads off it which logic ran and how it ended.
-/

namespace SchemaEvolution

variable {σ α β : Type}

/-- Whether a call only asks. -/
def Call.isQuery : Call → Bool
  | .query _ _ => true
  | .scalar _ _ => true
  | _ => false

/-- Whether a step only asks. -/
def Step.isQuery : Step → Bool
  | .call c => c.isQuery
  | .run _ _ _ => false

namespace Action

/-- The course of an action against a backend. -/
def runFrom (backend : Backend σ) (action : Action α) (s : σ) :
    Course Call (fun call => Except BackendError call.Answer) σ (Except Error α) :=
  Program.runFrom backend.answer action.run s

variable {backend : Backend σ}

@[simp] theorem runFrom_pure (a : α) (s : σ) :
    (pure a : Action α).runFrom backend s = ⟨.ok a, s, []⟩ := rfl

@[simp] theorem runFrom_ofExcept (result : Except Error α) (s : σ) :
    (ofExcept result).runFrom backend s = ⟨result, s, []⟩ := rfl

/-- A call that is answered is one exchange. -/
theorem runFrom_call_of_ok {c : Call} {answer : c.Answer} {s t : σ}
    (h : (backend.answer c).run s = (.ok answer, t)) :
    (call c).runFrom backend s = ⟨.ok answer, t, [⟨c, .ok answer⟩]⟩ := by
  change Program.runFrom backend.answer (Program.perform c >>= _) s = _
  rw [Program.runFrom_bind, Program.runFrom_perform, h]
  rfl

/-- A call that is refused fails with its own text. -/
theorem runFrom_call_of_error {c : Call} {cause : BackendError} {s t : σ}
    (h : (backend.answer c).run s = (.error cause, t)) :
    (call c).runFrom backend s =
      ⟨.error (.execution c.sql c.parameters cause), t, [⟨c, .error cause⟩]⟩ := by
  change Program.runFrom backend.answer (Program.perform c >>= _) s = _
  rw [Program.runFrom_bind, Program.runFrom_perform, h]
  rfl

/-- An action goes on with the result of a part that succeeds. -/
theorem runFrom_bind_of_ok {p : Action α} {a : α} {s t : σ}
    {exchanges : List (Exchange Call fun call => Except BackendError call.Answer)}
    (h : p.runFrom backend s = ⟨.ok a, t, exchanges⟩) (f : α → Action β) :
    Action.runFrom backend (p >>= f) s = ((f a).runFrom backend t).after exchanges :=
  Program.runFrom_bind_of_ok backend.answer f h

/-- An action ends with the failure of a part. -/
theorem runFrom_bind_of_error {p : Action α} {e : Error} {s t : σ}
    {exchanges : List (Exchange Call fun call => Except BackendError call.Answer)}
    (h : p.runFrom backend s = ⟨.error e, t, exchanges⟩) (f : α → Action β) :
    Action.runFrom backend (p >>= f) s = ⟨.error e, t, exchanges⟩ :=
  Program.runFrom_bind_of_error backend.answer f h

end Action

/-- A change of what is applied: a version goes up or down. -/
structure Move where
  phase : Phase
  version : Int64
  deriving DecidableEq, Repr

/-- A move that was tried, and whether its logic went well. -/
structure Attempt where
  move : Move
  succeeded : Bool
  deriving DecidableEq, Repr

namespace Procedure

/-- An exchange of a procedure. -/
abbrev Exchange : Type := SchemaEvolution.Exchange Step Step.Answer

/-- A call of the runner's own, as an exchange of a procedure. -/
def ownExchange (x : SchemaEvolution.Exchange Call fun call => Except BackendError call.Answer) :
    Exchange :=
  ⟨.call x.request, x.answer⟩

/-- The attempt that an exchange is, if it is one. -/
def attempt? : Exchange → Option Attempt
  | ⟨.call _, _⟩ => none
  | ⟨.run phase version _, .ok _⟩ => some ⟨⟨phase, version⟩, true⟩
  | ⟨.run phase version _, .error _⟩ => some ⟨⟨phase, version⟩, false⟩

/-- The runs of logic among some exchanges, in order. -/
def attempts (exchanges : List Exchange) : List Attempt := exchanges.filterMap attempt?

/-- The moves whose logic went well, in order. -/
def completed (exchanges : List Exchange) : List Move :=
  ((attempts exchanges).filter (·.succeeded)).map (·.move)

@[simp] theorem attempts_nil : attempts [] = [] := rfl

@[simp] theorem attempts_append (first second : List Exchange) :
    attempts (first ++ second) = attempts first ++ attempts second := by
  simp [attempts]

@[simp] theorem attempts_own
    (xs : List (SchemaEvolution.Exchange Call fun call => Except BackendError call.Answer)) :
    attempts (xs.map ownExchange) = [] := by
  induction xs with
  | nil => rfl
  | cons x xs ih => exact ih

/-- What is calls and nothing else runs no logic. -/
theorem attempts_of_calls {exchanges : List Exchange}
    (h : ∀ x ∈ exchanges, ∃ c, x.request = .call c) : attempts exchanges = [] := by
  apply List.filterMap_eq_nil_iff.mpr
  rintro ⟨request, answer⟩ hx
  obtain ⟨c, rfl⟩ := h _ hx
  rfl

/-- What only asks runs no logic. -/
theorem attempts_of_queries {exchanges : List Exchange}
    (h : ∀ x ∈ exchanges, x.request.isQuery = true) : attempts exchanges = [] := by
  apply attempts_of_calls
  rintro ⟨request, answer⟩ hx
  cases request with
  | call c => exact ⟨c, rfl⟩
  | run phase version logic => cases h _ hx

/-- Answers a step from the state of a backend. -/
def answering (backend : Backend σ) (step : Step) : StateM σ step.Answer :=
  (callsOf step).on backend

/-- The course of a procedure against a backend. -/
def runFrom (backend : Backend σ) (p : Procedure α) (s : σ) :
    Course Step Step.Answer σ (Except MigrationError α) :=
  Program.runFrom (answering backend) p.run s

variable {backend : Backend σ}

private theorem run_answering (p : Program Step Step.Answer α) (s : σ) :
    ((p.run callsOf : Session α).on backend).run s = (p.run (answering backend)).run s := by
  induction p generalizing s with
  | done a => rfl
  | ask step next ih =>
    simp only [Program.run, Session.on, answering, Program.run_bind, StateT.run_bind]
    exact ih _ _

/-- The session of a procedure ends as its course does. -/
theorem session_on (p : Procedure α) (s : σ) :
    (p.session.on backend).run s = ((p.runFrom backend s).result, (p.runFrom backend s).final) := by
  rw [session, run_answering, Program.run_eq_runFrom]
  rfl

@[simp] theorem runFrom_pure (a : α) (s : σ) :
    (pure a : Procedure α).runFrom backend s = ⟨.ok a, s, []⟩ := rfl

@[simp] theorem runFrom_ofExcept (result : Except MigrationError α) (s : σ) :
    (ofExcept result).runFrom backend s = ⟨result, s, []⟩ := rfl

/-- A procedure goes on with the result of a part that succeeds. -/
theorem runFrom_bind_of_ok {p : Procedure α} {a : α} {s t : σ} {exchanges : List Exchange}
    (h : p.runFrom backend s = ⟨.ok a, t, exchanges⟩) (f : α → Procedure β) :
    Procedure.runFrom backend (p >>= f) s = ((f a).runFrom backend t).after exchanges :=
  Program.runFrom_bind_of_ok (answering backend) f h

/-- A procedure ends with the failure of a part. -/
theorem runFrom_bind_of_error {p : Procedure α} {e : MigrationError} {s t : σ}
    {exchanges : List Exchange} (h : p.runFrom backend s = ⟨.error e, t, exchanges⟩)
    (f : α → Procedure β) :
    Procedure.runFrom backend (p >>= f) s = ⟨.error e, t, exchanges⟩ :=
  Program.runFrom_bind_of_error (answering backend) f h

/-- What becomes of the result does not change the course. -/
theorem runFrom_map (f : α → β) (p : Procedure α) (s : σ) :
    Procedure.runFrom backend (f <$> p) s =
      ⟨(p.runFrom backend s).result.map f, (p.runFrom backend s).final,
        (p.runFrom backend s).exchanges⟩ := by
  rw [map_eq_pure_bind]
  cases h : p.runFrom backend s with
  | mk result t exchanges =>
    cases result with
    | ok a =>
      rw [runFrom_bind_of_ok h, runFrom_pure, Course.after_mk, List.append_nil]
      rfl
    | error e => rw [runFrom_bind_of_error h, Except.map]

private theorem runFrom_askCall (p : Session α) (s : σ) :
    (p.run askCall).runFrom (answering backend) s =
      ⟨(p.runFrom backend.answer s).result, (p.runFrom backend.answer s).final,
        (p.runFrom backend.answer s).exchanges.map ownExchange⟩ := by
  induction p generalizing s with
  | done a => rfl
  | ask call next ih =>
    have hcall : (answering backend (.call call)).run s = (backend.answer call).run s := rfl
    rw [Program.run, askCall, Program.runFrom_bind, Program.runFrom_perform, hcall, ih]
    rfl

/-- The failure of an action on the version table is one of the client. -/
def ownResult : Except Error α → Except MigrationError α
  | .ok a => .ok a
  | .error cause => .error (.client cause)

/-- An action on the version table goes the same way step by step. -/
theorem runFrom_ofAction {action : Action α} {result : Except Error α} {s t : σ}
    {exchanges : List (SchemaEvolution.Exchange Call fun call => Except BackendError call.Answer)}
    (h : action.runFrom backend s = ⟨result, t, exchanges⟩) :
    (ofAction action).runFrom backend s =
      ⟨ownResult result, t, exchanges.map ownExchange⟩ := by
  change Program.runFrom _ (action.run.run askCall >>= _) s = _
  rw [Program.runFrom_bind, runFrom_askCall]
  change action.run.runFrom backend.answer s = _ at h
  rw [h]
  cases result <;> simp [ownResult]

/-- Logic that goes well is one exchange. -/
theorem runFrom_runLogic_of_ok {phase : Phase} {version : Int64} {logic : Action Unit} {s t : σ}
    (h : (logic.run.on backend).run s = (.ok (), t)) :
    (runLogic phase version logic).runFrom backend s =
      ⟨.ok (), t, [⟨.run phase version logic, .ok ()⟩]⟩ := by
  have hrun : (answering backend (.run phase version logic)).run s = (.ok (), t) := h
  change Program.runFrom _ (Program.perform (Step.run phase version logic) >>= _) s = _
  rw [Program.runFrom_bind, Program.runFrom_perform, hrun]
  rfl

/-- Logic that fails is one exchange and ends the procedure. -/
theorem runFrom_runLogic_of_error {phase : Phase} {version : Int64} {logic : Action Unit}
    {cause : Error} {s t : σ} (h : (logic.run.on backend).run s = (.error cause, t)) :
    (runLogic phase version logic).runFrom backend s =
      ⟨.error (.failed version cause), t, [⟨.run phase version logic, .error cause⟩]⟩ := by
  have hrun : (answering backend (.run phase version logic)).run s = (.error cause, t) := h
  change Program.runFrom _ (Program.perform (Step.run phase version logic) >>= _) s = _
  rw [Program.runFrom_bind, Program.runFrom_perform, hrun]
  rfl

/-! ### Queries -/

/-- Queries change nothing of what is observed. -/
def QueriesKeep {τ : Type} (backend : Backend σ) (observe : σ → τ) : Prop :=
  ∀ call : Call, call.isQuery = true → ∀ s, observe ((backend.answer call).run s).2 = observe s

/-- What queries do not change is as it was after a procedure that only asks. -/
theorem observe_final_of_queries {τ : Type} {observe : σ → τ} (h : QueriesKeep backend observe)
    {p : Procedure α} {s : σ}
    (hqueries : ∀ x ∈ (p.runFrom backend s).exchanges, x.request.isQuery = true) :
    observe (p.runFrom backend s).final = observe s := by
  apply Program.observe_final (answering backend) observe
  rintro ⟨request, answer⟩ hx s
  cases request with
  | call c => exact h c (hqueries _ hx) s
  | run phase version logic => cases hqueries _ hx

/-! ### What a procedure can ask -/

variable {P : Step → Prop}

private theorem every_askCall (h : ∀ c, P (.call c)) (p : Session α) :
    (p.run askCall).Every P := by
  induction p with
  | done a => exact True.intro
  | ask call next ih => exact ⟨h call, ih⟩

/-- An action on the version table asks nothing but calls. -/
theorem every_ofAction (h : ∀ c, P (.call c)) (action : Action α) :
    Program.Every P (ofAction action).run := by
  apply Program.every_bind (every_askCall h action.run)
  intro result
  cases result <;> exact True.intro

/-- A run of logic asks for that run. -/
theorem every_runLogic {phase : Phase} {version : Int64} {logic : Action Unit}
    (h : P (.run phase version logic)) :
    Program.Every P (runLogic phase version logic).run := by
  refine ⟨h, fun result => ?_⟩
  cases result <;> exact True.intro

end Procedure

end SchemaEvolution
