import SchemaEvolution.Proofs.Procedure.Run

/-!
# Statements on the version table

Which calls the actions on the version table ask, in which order, and what they give for each
answer, whatever the backend.
-/

namespace SchemaEvolution

variable {σ α : Type} {backend : Backend σ}

/-- The exchanges of an action. -/
abbrev Action.Exchange : Type :=
  SchemaEvolution.Exchange Call fun call => Except BackendError call.Answer

namespace Client

/-- A statement that is carried out. -/
theorem runFrom_execute_of_ok {sql : String} {parameters : List Parameter} {n : Nat} {s s' : σ}
    (h : (backend.answer (.execute sql parameters)).run s = (.ok n, s')) :
    (execute sql parameters).runFrom backend s =
      ⟨.ok n, s', [⟨.execute sql parameters, .ok n⟩]⟩ :=
  Action.runFrom_call_of_ok h

/-- A statement that is refused. -/
theorem runFrom_execute_of_error {sql : String} {parameters : List Parameter}
    {cause : BackendError} {s s' : σ}
    (h : (backend.answer (.execute sql parameters)).run s = (.error cause, s')) :
    (execute sql parameters).runFrom backend s =
      ⟨.error (.execution sql parameters cause), s', [⟨.execute sql parameters, .error cause⟩]⟩ :=
  Action.runFrom_call_of_error h

/-- A single statement that is carried out. -/
theorem runFrom_executeAll_of_ok {sql : String} {n : Nat} {s s' : σ}
    (h : (backend.answer (.execute sql [])).run s = (.ok n, s')) :
    (executeAll [sql]).runFrom backend s = ⟨.ok n, s', [⟨.execute sql [], .ok n⟩]⟩ := by
  rw [executeAll, Action.runFrom_bind_of_ok (runFrom_execute_of_ok h)]
  rfl

/-- A single statement that is refused. -/
theorem runFrom_executeAll_of_error {sql : String} {cause : BackendError} {s s' : σ}
    (h : (backend.answer (.execute sql [])).run s = (.error cause, s')) :
    (executeAll [sql]).runFrom backend s =
      ⟨.error (.execution sql [] cause), s', [⟨.execute sql [], .error cause⟩]⟩ := by
  rw [executeAll, Action.runFrom_bind_of_error (runFrom_execute_of_error h)]

/-- Creating is sending the statements, except that a client that is not strict takes it as done
when what it creates exists. -/
theorem runFrom_create (c : Client) (sqls : List String) (s : σ) :
    (c.create sqls).runFrom backend s =
      ⟨match ((executeAll sqls).runFrom backend s).result with
        | .ok _ => .ok ()
        | .error e => if !c.config.strict && e.isAlreadyExists then .ok () else .error e,
        ((executeAll sqls).runFrom backend s).final,
        ((executeAll sqls).runFrom backend s).exchanges⟩ := by
  change Program.runFrom backend.answer ((executeAll sqls).run >>= _) s = _
  rw [Program.runFrom_bind]
  change _ = Course.mk _ (Program.runFrom backend.answer (executeAll sqls).run s).final
    (Program.runFrom backend.answer (executeAll sqls).run s).exchanges
  simp only [Action.runFrom]
  cases (Program.runFrom backend.answer (executeAll sqls).run s).result with
  | ok n => simp
  | error e => by_cases he : (!c.config.strict && e.isAlreadyExists) = true <;> simp [he]

end Client

namespace VersionTable

variable (t : VersionTable) (c : Client)

/-- The name by which a client's statements address the table. -/
def address : String := c.tableName (t.name c)

/-- The call that asks whether the table exists. -/
abbrev probe : Call := .scalar (c.dialect.tableExists (t.address c)) []

/-- The table as it is created. -/
def shape : Table := ⟨t.address c, columns⟩

/-- The select that reads the versions of the group. -/
def selection : Select :=
  { tables := [t.address c], columns := ["version"], filter := some t.groupFilter }

/-- The call that records a version. -/
abbrev recording (version : Int64) : Call :=
  .execute (c.dialect.insert (t.address c) ["version", "group"])
    (Parameter.inputs (c.dialect.nameParameters 0 [.int version, .text t.group]))

/-- The rows of a version. -/
def rowFilter (version : Int64) : Filter :=
  .and (.equals "version" (.int version)) t.groupFilter

/-- The call that deletes the rows that meet a condition. -/
abbrev deletion (condition : WhereClause) : Call :=
  .execute (c.dialect.delete (t.address c) ++ (" " ++ condition.sql))
    (Parameter.inputs condition.parameters)

/-- The call forgets a version: it deletes its rows. -/
def Forgets (version : Int64) (call : Call) : Prop :=
  ∃ condition, c.dialect.whereClause (t.rowFilter version) 0 = .ok condition ∧
    call = t.deletion c condition

variable {t c} {s s' : σ}

/-! ### Whether the table exists -/

theorem runFrom_isPresent_of_ok {answer : Value}
    (h : (backend.answer (t.probe c)).run s = (.ok answer, s')) :
    (t.isPresent c).runFrom backend s =
      ⟨.ok answer.isPositive, s', [⟨t.probe c, .ok answer⟩]⟩ := by
  rw [isPresent, Client.tableExists]
  exact Action.runFrom_bind_of_ok (Action.runFrom_call_of_ok h) _

theorem runFrom_isPresent_of_error {cause : BackendError}
    (h : (backend.answer (t.probe c)).run s = (.error cause, s')) :
    (t.isPresent c).runFrom backend s =
      ⟨.error (.execution (t.probe c).sql (t.probe c).parameters cause), s',
        [⟨t.probe c, .error cause⟩]⟩ := by
  rw [isPresent, Client.tableExists]
  exact Action.runFrom_bind_of_error (Action.runFrom_call_of_error h) _

/-! ### Creating the table -/

theorem runFrom_create_of_ok {sql : String} {n : Nat}
    (hsql : c.dialect.createTable (t.shape c) = .ok [sql])
    (h : (backend.answer (.execute sql [])).run s = (.ok n, s')) :
    (t.create c).runFrom backend s = ⟨.ok (), s', [⟨.execute sql [], .ok n⟩]⟩ := by
  have hwritten : (Action.ofExcept (c.dialect.createTable (t.shape c))).runFrom backend s =
      ⟨.ok [sql], s, []⟩ := by rw [Action.runFrom_ofExcept, hsql]
  refine (Action.runFrom_bind_of_ok hwritten _).trans ?_
  rw [Client.runFrom_create, Client.runFrom_executeAll_of_ok h]
  rfl

theorem runFrom_create_of_error {sql : String} {cause : BackendError}
    (hstrict : c.config.strict = true)
    (hsql : c.dialect.createTable (t.shape c) = .ok [sql])
    (h : (backend.answer (.execute sql [])).run s = (.error cause, s')) :
    (t.create c).runFrom backend s =
      ⟨.error (.execution sql [] cause), s', [⟨.execute sql [], .error cause⟩]⟩ := by
  have hwritten : (Action.ofExcept (c.dialect.createTable (t.shape c))).runFrom backend s =
      ⟨.ok [sql], s, []⟩ := by rw [Action.runFrom_ofExcept, hsql]
  refine (Action.runFrom_bind_of_ok hwritten _).trans ?_
  rw [Client.runFrom_create, Client.runFrom_executeAll_of_error h, hstrict]
  rfl

/-- What becomes of a creation that is refused. -/
def refused (c : Client) (sql : String) (cause : BackendError) : Except Error Unit :=
  if !c.config.strict && cause.kind == .alreadyExists then .ok ()
  else .error (.execution sql [] cause)

theorem runFrom_create_of_refused {sql : String} {cause : BackendError}
    (hsql : c.dialect.createTable (t.shape c) = .ok [sql])
    (h : (backend.answer (.execute sql [])).run s = (.error cause, s')) :
    (t.create c).runFrom backend s =
      ⟨refused c sql cause, s', [⟨.execute sql [], .error cause⟩]⟩ := by
  have hwritten : (Action.ofExcept (c.dialect.createTable (t.shape c))).runFrom backend s =
      ⟨.ok [sql], s, []⟩ := by rw [Action.runFrom_ofExcept, hsql]
  refine (Action.runFrom_bind_of_ok hwritten _).trans ?_
  rw [Client.runFrom_create, Client.runFrom_executeAll_of_error h]
  rfl

theorem refused_eq_ok {sql : String} {cause : BackendError} (h : refused c sql cause = .ok ()) :
    cause.kind = .alreadyExists := by
  rw [refused] at h
  split at h
  · next hexists => exact beq_iff_eq.mp (Bool.and_eq_true_iff.mp hexists).2
  · cases h

/-- Creating the table is one statement. -/
theorem create_eq {sql : String} (hsql : c.dialect.createTable (t.shape c) = .ok [sql]) :
    (t.create c).run = Program.perform (.execute sql []) >>= fun reply =>
      .done (match reply with
        | .ok _ => .ok ()
        | .error cause => refused c sql cause) := by
  have hwritten : t.create c = c.create [sql] := by
    change (Action.ofExcept (c.dialect.createTable (t.shape c)) >>= c.create) = _
    rw [hsql]
    rfl
  rw [hwritten]
  refine congrArg (Program.ask _) (funext fun reply => ?_)
  cases reply with
  | ok n => rfl
  | error cause =>
    change (if !c.config.strict && cause.kind == .alreadyExists then Program.done (.ok ())
      else Program.done (.error (.execution sql [] cause))) = .done (refused c sql cause)
    exact (apply_ite Program.done _ _ _).symm

/-- A table that exists is left alone. -/
theorem runFrom_ensure_of_present {answer : Value} (hpositive : answer.isPositive = true)
    (h : (backend.answer (t.probe c)).run s = (.ok answer, s')) :
    (t.ensure c).runFrom backend s = ⟨.ok (), s', [⟨t.probe c, .ok answer⟩]⟩ := by
  rw [ensure, Action.runFrom_bind_of_ok (runFrom_isPresent_of_ok h), hpositive]
  rfl

/-- A table that does not exist is created. -/
theorem runFrom_ensure_of_missing {answer : Value} (hpositive : answer.isPositive = false)
    (h : (backend.answer (t.probe c)).run s = (.ok answer, s')) :
    (t.ensure c).runFrom backend s =
      ((t.create c).runFrom backend s').after [⟨t.probe c, .ok answer⟩] := by
  rw [ensure, Action.runFrom_bind_of_ok (runFrom_isPresent_of_ok h), hpositive]
  rfl

theorem runFrom_ensure_of_error {cause : BackendError}
    (h : (backend.answer (t.probe c)).run s = (.error cause, s')) :
    (t.ensure c).runFrom backend s =
      ⟨.error (.execution (t.probe c).sql (t.probe c).parameters cause), s',
        [⟨t.probe c, .error cause⟩]⟩ := by
  rw [ensure, Action.runFrom_bind_of_error (runFrom_isPresent_of_error h)]

/-! ### Recording and forgetting -/

theorem record_eq (version : Int64) :
    t.record c version = Operation.forget (Action.call (t.recording c version)) := rfl

theorem runFrom_record_of_ok {version : Int64} {n : Nat}
    (h : (backend.answer (t.recording c version)).run s = (.ok n, s')) :
    (t.record c version).runFrom backend s =
      ⟨.ok (), s', [⟨t.recording c version, .ok n⟩]⟩ := by
  rw [record_eq, Operation.forget, Action.runFrom_bind_of_ok (Action.runFrom_call_of_ok h)]
  rfl

theorem runFrom_record_of_error {version : Int64} {cause : BackendError}
    (h : (backend.answer (t.recording c version)).run s = (.error cause, s')) :
    (t.record c version).runFrom backend s =
      ⟨.error (.execution (t.recording c version).sql (t.recording c version).parameters cause), s',
        [⟨t.recording c version, .error cause⟩]⟩ := by
  rw [record_eq, Operation.forget, Action.runFrom_bind_of_error (Action.runFrom_call_of_error h)]

theorem forget_eq {version : Int64} {condition : WhereClause}
    (hcondition : c.dialect.whereClause (t.rowFilter version) 0 = .ok condition) :
    t.forget c version = Operation.forget (Action.call (t.deletion c condition)) := by
  have hwritten : c.condition (some (t.rowFilter version)) 0 =
      .ok (" " ++ condition.sql, condition.parameters) := by
    rw [Client.condition, hcondition]
    rfl
  change Operation.forget (Client.delete c (t.name c) (some (t.rowFilter version))) = _
  rw [Client.delete, hwritten]
  rfl

theorem runFrom_forget_of_ok {version : Int64} {condition : WhereClause} {n : Nat}
    (hcondition : c.dialect.whereClause (t.rowFilter version) 0 = .ok condition)
    (h : (backend.answer (t.deletion c condition)).run s = (.ok n, s')) :
    (t.forget c version).runFrom backend s =
      ⟨.ok (), s', [⟨t.deletion c condition, .ok n⟩]⟩ := by
  rw [forget_eq hcondition, Operation.forget,
    Action.runFrom_bind_of_ok (Action.runFrom_call_of_ok h)]
  rfl

theorem runFrom_forget_of_error {version : Int64} {condition : WhereClause} {cause : BackendError}
    (hcondition : c.dialect.whereClause (t.rowFilter version) 0 = .ok condition)
    (h : (backend.answer (t.deletion c condition)).run s = (.error cause, s')) :
    (t.forget c version).runFrom backend s =
      ⟨.error (.execution (t.deletion c condition).sql (t.deletion c condition).parameters cause),
        s', [⟨t.deletion c condition, .error cause⟩]⟩ := by
  rw [forget_eq hcondition, Operation.forget,
    Action.runFrom_bind_of_error (Action.runFrom_call_of_error h)]

/-! ### Reading -/

/-- No version is applied while the table does not exist. -/
theorem runFrom_applied_of_missing {answer : Value} (hpositive : answer.isPositive = false)
    (h : (backend.answer (t.probe c)).run s = (.ok answer, s')) :
    (t.applied c).runFrom backend s = ⟨.ok [], s', [⟨t.probe c, .ok answer⟩]⟩ := by
  rw [applied, Action.runFrom_bind_of_ok (runFrom_isPresent_of_ok h), hpositive]
  rfl

theorem runFrom_applied_of_error {cause : BackendError}
    (h : (backend.answer (t.probe c)).run s = (.error cause, s')) :
    (t.applied c).runFrom backend s =
      ⟨.error (.execution (t.probe c).sql (t.probe c).parameters cause), s',
        [⟨t.probe c, .error cause⟩]⟩ := by
  rw [applied, Action.runFrom_bind_of_error (runFrom_isPresent_of_error h)]

/-- The call that reads the versions, as a select was written. -/
abbrev reading (built : BuiltSelect) : Call :=
  .query built.sql (Parameter.inputs built.parameters)

theorem applied_eq {built : BuiltSelect}
    (hbuilt : (t.selection c).build c.dialect = .ok built) :
    t.applied c = t.isPresent c >>= fun present =>
      if present then Action.call (reading built) >>= fun rows => pure (versionsOf rows)
      else pure [] := by
  have hselect : c.select ⟨[t.name c], ["version"], some t.groupFilter, [], none, none⟩ =
      Action.call (reading built) := by
    change (Action.ofExcept ((t.selection c).build c.dialect) >>= _) = _
    rw [hbuilt]
    rfl
  rw [applied, hselect]

/-- The versions applied are those of the rows that are read. -/
theorem runFrom_applied_of_ok {answer : Value} {built : BuiltSelect} {rows : ResultSet} {s'' : σ}
    (hpositive : answer.isPositive = true)
    (hbuilt : (t.selection c).build c.dialect = .ok built)
    (h : (backend.answer (t.probe c)).run s = (.ok answer, s'))
    (hrows : (backend.answer (reading built)).run s' = (.ok rows, s'')) :
    (t.applied c).runFrom backend s =
      ⟨.ok (versionsOf rows), s'', [⟨t.probe c, .ok answer⟩, ⟨reading built, .ok rows⟩]⟩ := by
  rw [applied_eq hbuilt, Action.runFrom_bind_of_ok (runFrom_isPresent_of_ok h), hpositive]
  refine (congrArg _ (Action.runFrom_bind_of_ok (Action.runFrom_call_of_ok hrows) _)).trans ?_
  rfl

theorem runFrom_applied_of_unread {answer : Value} {built : BuiltSelect} {cause : BackendError}
    {s'' : σ} (hpositive : answer.isPositive = true)
    (hbuilt : (t.selection c).build c.dialect = .ok built)
    (h : (backend.answer (t.probe c)).run s = (.ok answer, s'))
    (hrows : (backend.answer (reading built)).run s' = (.error cause, s'')) :
    (t.applied c).runFrom backend s =
      ⟨.error (.execution (reading built).sql (reading built).parameters cause), s'',
        [⟨t.probe c, .ok answer⟩, ⟨reading built, .error cause⟩]⟩ := by
  rw [applied_eq hbuilt, Action.runFrom_bind_of_ok (runFrom_isPresent_of_ok h), hpositive]
  refine (congrArg _ (Action.runFrom_bind_of_error (Action.runFrom_call_of_error hrows) _)).trans ?_
  rfl

end VersionTable

end SchemaEvolution
