import SchemaEvolution.Proofs.Dialect.Plain
import SchemaEvolution.Proofs.Migration.Ascending
import SchemaEvolution.Proofs.VersionTable.Statements

/-!
# Statements in plain dialects

What a plain dialect makes of the statements on the version table: each can be written, those on a
row bind the version and the group, and no two of them are confused. What the actions on the table
ask is then known, however a backend answers.
-/

namespace SchemaEvolution.VersionTable

variable {t : VersionTable} {c : Client}

/-- The table is created in one statement. -/
theorem exists_creation (plain : c.dialect.Plain) (t : VersionTable) :
    ∃ sql, c.dialect.createTable (t.shape c) = .ok [sql] := by
  apply plain.createTable
  · exact List.cons_ne_nil _ _
  · intro column hcolumn
    rcases List.mem_cons.mp hcolumn with rfl | hcolumn
    · rfl
    · rw [List.mem_singleton.mp hcolumn]
      rfl

/-- The select that reads the versions binds the group. -/
theorem exists_selection (plain : c.dialect.Plain) (t : VersionTable) :
    ∃ sql, (t.selection c).build c.dialect =
      .ok ⟨sql, InParameter.number c.dialect.parameterName 0 [.text t.group], true⟩ := by
  have hclause : ∃ sql, c.dialect.whereClause t.groupFilter 0 =
      .ok ⟨sql, InParameter.number c.dialect.parameterName 0 [.text t.group]⟩ := by
    rw [plain.whereClause]
    exact ⟨_, rfl⟩
  obtain ⟨sql, hclause⟩ := hclause
  refine ⟨c.dialect.select (t.selection c) (some sql), ?_⟩
  change (c.dialect.whereClause t.groupFilter 0 >>= fun clause => _) = _
  rw [hclause]
  rfl

/-- The condition on the rows of a version binds the version and the group. -/
theorem exists_condition (plain : c.dialect.Plain) (t : VersionTable) (v : Int64) :
    ∃ sql, c.dialect.whereClause (t.rowFilter v) 0 =
      .ok ⟨sql, InParameter.number c.dialect.parameterName 0 [.int v, .text t.group]⟩ := by
  rw [plain.whereClause]
  exact ⟨_, rfl⟩

/-- Recording binds the version and the group. -/
theorem values_recording (plain : c.dialect.Plain) (t : VersionTable) (v : Int64) :
    Parameter.values (t.recording c v).parameters = [.int v, .text t.group] := by
  rw [recording, plain.nameParameters]
  exact Parameter.values_inputs_number _ _ _

/-- Forgetting binds the version and the group. -/
theorem values_of_forgets (plain : c.dialect.Plain) {v : Int64} {call : Call}
    (h : t.Forgets c v call) :
    Parameter.values call.parameters = [.int v, .text t.group] := by
  obtain ⟨condition, hcondition, rfl⟩ := h
  obtain ⟨sql, hsql⟩ := exists_condition plain t v
  cases hcondition.symm.trans hsql
  exact Parameter.values_inputs_number _ _ _

private theorem version_eq_of_values {v w : Int64} {group : String}
    (h : [Value.int v, .text group] = [.int w, .text group]) : v = w := by
  cases h
  rfl

/-- One call records one version. -/
theorem recording_injective (plain : c.dialect.Plain) {v w : Int64}
    (h : t.recording c v = t.recording c w) : v = w := by
  have hvalues := values_recording plain t v
  rw [h, values_recording plain] at hvalues
  exact version_eq_of_values hvalues.symm

/-- One call forgets one version. -/
theorem forgets_injective (plain : c.dialect.Plain) {v w : Int64} {call : Call}
    (hv : t.Forgets c v call) (hw : t.Forgets c w call) : v = w :=
  version_eq_of_values ((values_of_forgets plain hv).symm.trans (values_of_forgets plain hw))

/-- An insert is written differently from a delete. -/
theorem delete_ne_insert (plain : c.dialect.Plain) (table : String) (columns : List String)
    (condition : String) :
    c.dialect.delete table ++ condition ≠ c.dialect.insert table columns := by
  intro h
  have hhead := congrArg (fun sql => sql.toList.head?) h
  rw [plain.insert, plain.delete, insertStatement] at hhead
  split at hhead <;> simp at hhead

/-- What records does not forget. -/
theorem not_forgets_recording (plain : c.dialect.Plain) (v w : Int64) :
    ¬ t.Forgets c w (t.recording c v) := by
  rintro ⟨condition, -, h⟩
  exact delete_ne_insert plain _ _ _ (congrArg Call.sql h).symm

/-- What creates the table binds nothing. -/
theorem values_creation (sql : String) : Parameter.values (Call.execute sql []).parameters = [] :=
  rfl

/-- The call asks, or is a statement that binds nothing. -/
def Neutral (call : Call) : Prop := call.isQuery = true ∨ ∃ sql, call = .execute sql []

/-- What is neutral records nothing. -/
theorem Neutral.ne_recording (plain : c.dialect.Plain) {call : Call} (h : Neutral call)
    (v : Int64) : call ≠ t.recording c v := by
  rintro rfl
  rcases h with hquery | ⟨sql, hsql⟩
  · cases hquery
  · have hvalues := values_recording plain t v
    rw [hsql, values_creation] at hvalues
    cases hvalues

/-- What is neutral forgets nothing. -/
theorem Neutral.not_forgets (plain : c.dialect.Plain) {call : Call} (h : Neutral call) (v : Int64) :
    ¬ t.Forgets c v call := by
  intro hforgets
  have hvalues := values_of_forgets plain hforgets
  rcases h with hquery | ⟨sql, rfl⟩
  · obtain ⟨condition, -, rfl⟩ := hforgets
    cases hquery
  · cases hvalues

/-! ### Whatever is answered -/

variable {σ : Type} (backend : Backend σ)

/-- Reading asks nothing but queries, and what it gives is ascending. -/
theorem runFrom_applied_cases (plain : c.dialect.Plain) (t : VersionTable) (s : σ) :
    (∃ versions s' exchanges, (t.applied c).runFrom backend s = ⟨.ok versions, s', exchanges⟩ ∧
      Ascending versions ∧ ∀ x ∈ exchanges, x.request.isQuery = true) ∨
    ∃ e s' exchanges, (t.applied c).runFrom backend s = ⟨.error e, s', exchanges⟩ ∧
      ∀ x ∈ exchanges, x.request.isQuery = true := by
  cases hprobe : (backend.answer (t.probe c)).run s with
  | mk result s' =>
    cases result with
    | error cause => exact .inr ⟨_, s', _, runFrom_applied_of_error hprobe, by simp [Call.isQuery]⟩
    | ok answer =>
      cases hpositive : answer.isPositive with
      | false =>
        exact .inl ⟨[], s', _, runFrom_applied_of_missing hpositive hprobe, List.Pairwise.nil,
          by simp [Call.isQuery]⟩
      | true =>
        obtain ⟨sql, hsql⟩ := exists_selection plain t
        cases hread : (backend.answer (reading
            ⟨sql, InParameter.number c.dialect.parameterName 0 [.text t.group], true⟩)).run s' with
        | mk result s'' =>
          cases result with
          | error cause =>
            exact .inr ⟨_, s'', _, runFrom_applied_of_unread hpositive hsql hprobe hread,
              by simp [Call.isQuery]⟩
          | ok rows =>
            exact .inl ⟨_, s'', _, runFrom_applied_of_ok hpositive hsql hprobe hread,
              ascending_versionsOf rows, by simp [Call.isQuery]⟩

/-- The exchanges by which a table is ensured: it is asked for, and created if it is not there. -/
inductive Ensures (t : VersionTable) (c : Client) : List Action.Exchange → Prop where
  | present (answer : Value) : Ensures t c [⟨t.probe c, .ok answer⟩]
  | created (answer : Value) (sql : String) (n : Nat)
      (creates : c.dialect.createTable (t.shape c) = .ok [sql]) :
      Ensures t c [⟨t.probe c, .ok answer⟩, ⟨.execute sql [], .ok n⟩]

/-- Ensuring with a strict client ends well after the exchanges that this takes, or fails. What is
asked is neutral. -/
theorem runFrom_ensure_cases (plain : c.dialect.Plain) (strict : c.config.strict = true)
    (t : VersionTable) (s : σ) :
    ∃ result s' exchanges, (t.ensure c).runFrom backend s = ⟨result, s', exchanges⟩ ∧
      (∀ a, result = .ok a → t.Ensures c exchanges) ∧ ∀ x ∈ exchanges, Neutral x.request := by
  cases hprobe : (backend.answer (t.probe c)).run s with
  | mk result s' =>
    cases result with
    | error cause =>
      exact ⟨_, s', _, runFrom_ensure_of_error hprobe, nofun, by simp [Neutral, Call.isQuery]⟩
    | ok answer =>
      cases hpositive : answer.isPositive with
      | true =>
        exact ⟨_, s', _, runFrom_ensure_of_present hpositive hprobe, fun _ _ => .present answer,
          by simp [Neutral, Call.isQuery]⟩
      | false =>
        obtain ⟨sql, hsql⟩ := exists_creation plain t
        have hmissing := runFrom_ensure_of_missing hpositive hprobe
        cases hcreate : (backend.answer (.execute sql [])).run s' with
        | mk result s'' =>
          cases result with
          | error cause =>
            rw [runFrom_create_of_error strict hsql hcreate] at hmissing
            exact ⟨_, s'', _, hmissing, nofun, by simp [Neutral, Call.isQuery]⟩
          | ok n =>
            rw [runFrom_create_of_ok hsql hcreate] at hmissing
            exact ⟨_, s'', _, hmissing, fun _ _ => .created answer sql n hsql,
              by simp [Neutral, Call.isQuery]⟩

/-- What reading asks is neutral. -/
theorem neutral_applied (plain : c.dialect.Plain) (t : VersionTable) (s : σ) :
    ∀ x ∈ ((t.applied c).runFrom backend s).exchanges, Neutral x.request := by
  rcases runFrom_applied_cases backend plain t s with
    ⟨versions, s', exchanges, h, -, hqueries⟩ | ⟨e, s', exchanges, h, hqueries⟩
  all_goals
    rw [h]
    exact fun x hx => .inl (hqueries x hx)

/-- What reading the greatest version asks is neutral. -/
theorem neutral_current (plain : c.dialect.Plain) (t : VersionTable) (s : σ) :
    ∀ x ∈ ((t.current c).runFrom backend s).exchanges, Neutral x.request := by
  have happlied := neutral_applied backend plain t s
  rw [current]
  cases h : (t.applied c).runFrom backend s with
  | mk result s' exchanges =>
    rw [h] at happlied
    cases result with
    | ok versions =>
      rw [Action.runFrom_bind_of_ok h, Action.runFrom_pure, Course.after_mk, List.append_nil]
      exact happlied
    | error e =>
      rw [Action.runFrom_bind_of_error h]
      exact happlied

/-- What ensuring asks is neutral. -/
theorem neutral_ensure (plain : c.dialect.Plain) (strict : c.config.strict = true)
    (t : VersionTable) (s : σ) :
    ∀ x ∈ ((t.ensure c).runFrom backend s).exchanges, Neutral x.request := by
  obtain ⟨result, s', exchanges, h, -, hneutral⟩ := runFrom_ensure_cases backend plain strict t s
  rw [h]
  exact hneutral

/-- Recording is one exchange. -/
theorem runFrom_record_cases (t : VersionTable) (c : Client) (v : Int64) (s : σ) :
    ∃ result s' answer, (t.record c v).runFrom backend s =
      ⟨result, s', [⟨t.recording c v, answer⟩]⟩ := by
  cases hrecord : (backend.answer (t.recording c v)).run s with
  | mk result s' =>
    cases result with
    | error cause => exact ⟨_, s', _, runFrom_record_of_error hrecord⟩
    | ok n => exact ⟨_, s', _, runFrom_record_of_ok hrecord⟩

/-- Forgetting is one exchange. -/
theorem runFrom_forget_cases (plain : c.dialect.Plain) (t : VersionTable) (v : Int64) (s : σ) :
    ∃ result s' condition answer, t.Forgets c v (t.deletion c condition) ∧
      (t.forget c v).runFrom backend s = ⟨result, s', [⟨t.deletion c condition, answer⟩]⟩ := by
  obtain ⟨sql, hsql⟩ := exists_condition plain t v
  cases hforget : (backend.answer (t.deletion c _)).run s with
  | mk result s' =>
    cases result with
    | error cause =>
      exact ⟨_, s', _, _, ⟨_, hsql, rfl⟩, runFrom_forget_of_error hsql hforget⟩
    | ok n => exact ⟨_, s', _, _, ⟨_, hsql, rfl⟩, runFrom_forget_of_ok hsql hforget⟩

end SchemaEvolution.VersionTable
