import SchemaEvolution.Proofs.VersionTable.Statements

/-!
# Prompt actions and procedures

An action is prompt if, whatever the backend, the first call that is refused is its last one and the
refusal is its result; a procedure also if the first logic that fails is its last step. What the
runner does on the version table is prompt when its client is strict: a client that is not goes on
when what it creates exists.
-/

namespace SchemaEvolution

variable {α β : Type}

namespace Action

/-- The failure of an action that an exchange reports. -/
def failure? : Exchange → Option Error
  | ⟨call, .error cause⟩ => some (.execution call.sql call.parameters cause)
  | ⟨_, .ok _⟩ => none

/-- The first refusal ends the action and is its result, whatever the backend. -/
def Prompt (action : Action α) : Prop :=
  ∀ (σ : Type) (backend : Backend σ) (s : σ), Program.Prompt failure? (action.runFrom backend s)

theorem prompt_ofExcept (result : Except Error α) : Prompt (ofExcept result) :=
  fun _ _ s => Program.prompt_nil result s

theorem prompt_pure (a : α) : Prompt (pure a) := prompt_ofExcept (.ok a)

theorem prompt_call (c : Call) : Prompt (call c) := by
  intro σ backend s
  cases hanswer : (backend.answer c).run s with
  | mk result t =>
    cases result with
    | ok answer =>
      rw [runFrom_call_of_ok hanswer]
      exact Program.prompt_singleton nofun
    | error cause =>
      rw [runFrom_call_of_error hanswer]
      apply Program.prompt_singleton
      intro e he
      cases he
      rfl

theorem Prompt.bind {action : Action α} {f : α → Action β} (h : Prompt action)
    (hf : ∀ a, Prompt (f a)) : Prompt (action >>= f) :=
  fun σ backend s => Program.prompt_bind (h σ backend s) fun a t => hf a σ backend t

end Action

/-! ### Actions on the version table -/

theorem Client.prompt_executeAll (sqls : List String) : Action.Prompt (executeAll sqls) := by
  induction sqls with
  | nil => exact Action.prompt_pure 0
  | cons sql rest ih =>
    exact (Action.prompt_call _).bind fun _ => ih.bind fun _ => Action.prompt_pure _

/-- A strict client reports every refusal to create. -/
theorem Client.prompt_create {c : Client} (strict : c.config.strict = true) (sqls : List String) :
    Action.Prompt (c.create sqls) := by
  intro σ backend s before x after e hsplit hfailed
  rw [runFrom_create] at hsplit ⊢
  obtain ⟨hafter, hresult⟩ := prompt_executeAll sqls σ backend s before x after e hsplit hfailed
  refine ⟨hafter, ?_⟩
  rw [hresult, strict]
  rfl

namespace VersionTable

variable {t : VersionTable} {c : Client}

theorem prompt_isPresent : Action.Prompt (t.isPresent c) :=
  (Action.prompt_call _).bind fun _ => Action.prompt_pure _

theorem prompt_ensure (strict : c.config.strict = true) : Action.Prompt (t.ensure c) := by
  apply prompt_isPresent.bind
  intro present
  cases present with
  | true => exact Action.prompt_pure ()
  | false => exact (Action.prompt_ofExcept _).bind fun sqls => Client.prompt_create strict sqls

theorem prompt_applied : Action.Prompt (t.applied c) := by
  apply prompt_isPresent.bind
  intro present
  cases present with
  | true =>
    refine Action.Prompt.bind ?_ fun _ => Action.prompt_pure _
    exact (Action.prompt_ofExcept _).bind fun _ => Action.prompt_call _
  | false => exact Action.prompt_pure []

theorem prompt_current : Action.Prompt (t.current c) :=
  prompt_applied.bind fun _ => Action.prompt_pure _

private theorem prompt_forgetting {action : Action Nat} (h : Action.Prompt action) :
    Action.Prompt (Operation.forget action) :=
  h.bind fun _ => Action.prompt_pure ()

theorem prompt_record (version : Int64) : Action.Prompt (t.record c version) :=
  prompt_forgetting ((Action.prompt_ofExcept _).bind fun _ => Action.prompt_call _)

theorem prompt_forget (version : Int64) : Action.Prompt (t.forget c version) :=
  prompt_forgetting ((Action.prompt_ofExcept _).bind fun _ => Action.prompt_call _)

end VersionTable

namespace Procedure

/-- The failure of a procedure that an exchange reports. -/
def failure? : Exchange → Option MigrationError
  | ⟨.call call, .error cause⟩ => some (.client (.execution call.sql call.parameters cause))
  | ⟨.run _ version _, .error cause⟩ => some (.failed version cause)
  | _ => none

/-- The first failure ends the procedure and is its result, whatever the backend. -/
def Prompt (p : Procedure α) : Prop :=
  ∀ (σ : Type) (backend : Backend σ) (s : σ), Program.Prompt failure? (p.runFrom backend s)

theorem prompt_ofExcept (result : Except MigrationError α) : Prompt (ofExcept result) :=
  fun _ _ s => Program.prompt_nil result s

theorem prompt_runLogic (phase : Phase) (version : Int64) (logic : Action Unit) :
    Prompt (runLogic phase version logic) := by
  intro σ backend s
  cases hrun : (logic.run.on backend).run s with
  | mk result t =>
    cases result with
    | ok _ =>
      rw [runFrom_runLogic_of_ok hrun]
      exact Program.prompt_singleton nofun
    | error cause =>
      rw [runFrom_runLogic_of_error hrun]
      apply Program.prompt_singleton
      intro e he
      cases he
      rfl

theorem Prompt.bind {p : Procedure α} {f : α → Procedure β} (h : Prompt p)
    (hf : ∀ a, Prompt (f a)) : Prompt (p >>= f) :=
  fun σ backend s => Program.prompt_bind (h σ backend s) fun a t => hf a σ backend t

private theorem failure?_own {x : Action.Exchange} {e : MigrationError}
    (h : failure? (ownExchange x) = some e) :
    ∃ cause, Action.failure? x = some cause ∧ e = .client cause := by
  obtain ⟨call, answer⟩ := x
  cases answer with
  | ok answer => cases h
  | error cause =>
    cases h
    exact ⟨_, rfl, rfl⟩

/-- A prompt action on the version table is a prompt procedure. -/
theorem prompt_ofAction {action : Action α} (h : action.Prompt) : Prompt (ofAction action) := by
  intro σ backend s before x after e hsplit hfailed
  rw [runFrom_ofAction rfl] at hsplit ⊢
  obtain ⟨earlier, others, hexchanges, rfl, hothers⟩ := List.map_eq_append_iff.mp hsplit
  obtain ⟨y, later, rfl, rfl, rfl⟩ := List.map_eq_cons_iff.mp hothers
  obtain ⟨cause, hcause, rfl⟩ := failure?_own hfailed
  obtain ⟨rfl, hresult⟩ := h σ backend s earlier y later cause hexchanges hcause
  exact ⟨rfl, congrArg ownResult hresult⟩

end Procedure

end SchemaEvolution
