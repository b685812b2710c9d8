import Mathlib.Data.List.Forall2
import SchemaEvolution.Operation.Apply
import SchemaEvolution.Proofs.VersionTable.Statements

/-!
# The statements of operations

A client writes an operation as statements, all of them before it sends the first (`statements`).
Applying the operation is sending these in order (`apply_eq`); the only thing an operation adds to
that is what a client that is not strict makes of an object that exists.
-/

namespace SchemaEvolution

variable {σ : Type} {backend : Backend σ}

namespace Operation

/-- A statement and the parameters that go with it. -/
structure Statement where
  sql : String
  parameters : List Parameter := []
  deriving DecidableEq, Repr

namespace Statement

/-- The call that carries a statement out. -/
abbrev call (statement : Statement) : Call := .execute statement.sql statement.parameters

/-- The failure to carry a statement out. -/
def refusal (statement : Statement) (cause : BackendError) : Error :=
  .execution statement.sql statement.parameters cause

/-- The exchange is the statement, carried out. -/
def CarriedOut (statement : Statement) (x : Action.Exchange) : Prop :=
  ∃ rows : Nat, x = ⟨statement.call, .ok rows⟩

end Statement

/-- Statements that bind nothing. -/
def bare (sqls : List String) : List Statement := sqls.map fun sql => { sql }

/-- The statements that a client writes an operation as. -/
def statements (c : Client) : Operation → Except Error (List Statement)
  | .createTable table => do
    let sqls ← c.dialect.createTable ⟨c.tableName table.name, table.columns⟩
    .ok (bare sqls)
  | .dropTable name => .ok (bare (c.dialect.dropTable (c.tableName name)))
  | .renameTable oldName newName =>
    .ok (bare [c.dialect.renameTable (c.tableName oldName) newName])
  | .addColumn table column => .ok (bare [c.dialect.addColumn (c.tableName table) column])
  | .dropColumn table column => .ok (bare (c.dialect.dropColumn (c.tableName table) column))
  | .renameColumn table oldName newName =>
    .ok (bare [c.dialect.renameColumn (c.tableName table) oldName newName])
  | .modifyColumn table name column _ => do
    let sqls ← c.dialect.modifyColumn (c.tableName table) name column
    .ok (bare sqls)
  | .addPrimaryKey table name columns => do
    let sql ← c.dialect.addPrimaryKey (c.tableName table)
      (name.getD (TableName.primaryKey table)) columns
    .ok (bare [sql])
  | .dropPrimaryKey table name => do
    let sql ← c.dialect.dropPrimaryKey (c.tableName table)
      (name.getD (TableName.primaryKey table))
    .ok (bare [sql])
  | .addForeignKey key => do
    let sql ← c.dialect.addForeignKey { key with
      table := c.tableName key.table
      referencedTable := c.tableName key.referencedTable }
    .ok (bare [sql])
  | .dropForeignKey table name => do
    let sql ← c.dialect.dropForeignKey name (c.tableName table)
    .ok (bare [sql])
  | .addUniqueKey table name columns => do
    let sql ← c.dialect.addUniqueKey name (c.tableName table) columns
    .ok (bare [sql])
  | .dropUniqueKey table name => do
    let sql ← c.dialect.dropUniqueKey name (c.tableName table)
    .ok (bare [sql])
  | .addIndex table name columns =>
    .ok (bare [c.dialect.createIndex name (c.tableName table) columns])
  | .dropIndex table name => .ok (bare [c.dialect.dropIndex name (c.tableName table)])
  | .addTableComment table comment => do
    let sql ← c.dialect.addTableComment (c.tableName table) comment
    .ok (bare [sql])
  | .removeTableComment table => do
    let sql ← c.dialect.removeTableComment (c.tableName table)
    .ok (bare [sql])
  | .addColumnComment table column comment => do
    let sql ← c.dialect.addColumnComment (c.tableName table) column comment
    .ok (bare [sql])
  | .removeColumnComment table column => do
    let sql ← c.dialect.removeColumnComment (c.tableName table) column
    .ok (bare [sql])
  | .insert table columns values => do
    let values ← Client.rowValues columns (some values)
    .ok [⟨c.dialect.insert (c.tableName table) columns,
      Parameter.inputs (c.dialect.nameParameters 0 values)⟩]
  | .update table columns values filter =>
    if columns.isEmpty then .error (.invalidArgument (.updateWithoutColumns table))
    else do
      let values ← Client.rowValues columns (some values)
      let assigned := c.dialect.nameParameters 0 values
      let (sql, parameters) ← c.condition filter assigned.length
      .ok [⟨c.dialect.update (c.tableName table) columns ++ sql,
        Parameter.inputs (assigned ++ parameters)⟩]
  | .delete table filter => do
    let (sql, parameters) ← c.condition filter 0
    .ok [⟨c.dialect.delete (c.tableName table) ++ sql, Parameter.inputs parameters⟩]
  | .runSql forward _ => .ok (bare [forward])

/-- The operations that create an object. -/
def isCreation : Operation → Bool
  | .createTable _ | .addColumn _ _ | .addPrimaryKey _ _ _ | .addForeignKey _
  | .addUniqueKey _ _ _ | .addIndex _ _ _ => true
  | _ => false

/-- A client passes over a failure of an operation: it is not strict, and what the operation creates
exists. -/
def passesOver (c : Client) (op : Operation) (e : Error) : Bool :=
  op.isCreation && !c.config.strict && e.isAlreadyExists

/-- Sends statements in order up to the first that fails. -/
def sendEach : List Statement → Action Unit
  | [] => pure ()
  | statement :: rest => do
    let _ ← Client.execute statement.sql statement.parameters
    sendEach rest

/-- An action some failures of which are passed over. -/
def pardon (passed : Error → Bool) (action : Action Unit) : Action Unit :=
  ExceptT.mk do
    match ← action.run with
    | .ok () => pure (.ok ())
    | .error e => if passed e then pure (.ok ()) else pure (.error e)

/-! ### Sending -/

/-- Statements are carried out up to the first that is refused, which is reported. -/
theorem runFrom_sendEach (backend : Backend σ) (statements : List Statement) (s : σ) :
    (∃ t exchanges, (sendEach statements).runFrom backend s = ⟨.ok (), t, exchanges⟩ ∧
      List.Forall₂ Statement.CarriedOut statements exchanges) ∨
    ∃ sent refused unsent t carried cause, statements = sent ++ refused :: unsent ∧
      (sendEach statements).runFrom backend s =
        ⟨.error (refused.refusal cause), t, carried ++ [⟨refused.call, .error cause⟩]⟩ ∧
      List.Forall₂ Statement.CarriedOut sent carried := by
  induction statements generalizing s with
  | nil => exact .inl ⟨s, [], rfl, .nil⟩
  | cons first rest ih =>
    rw [sendEach]
    cases hanswer : (backend.answer first.call).run s with
    | mk answer t =>
      cases answer with
      | error cause =>
        right
        refine ⟨[], first, rest, t, [], cause, rfl, ?_, .nil⟩
        exact Action.runFrom_bind_of_error (Client.runFrom_execute_of_error hanswer) _
      | ok rows =>
        have hfirst : first.CarriedOut ⟨first.call, .ok rows⟩ := ⟨rows, rfl⟩
        rw [Action.runFrom_bind_of_ok (Client.runFrom_execute_of_ok hanswer)]
        rcases ih t with ⟨u, exchanges, hcourse, hcarried⟩ |
            ⟨sent, refused, unsent, u, carried, cause, rfl, hcourse, hcarried⟩
        · left
          exact ⟨u, _ :: exchanges, by rw [hcourse]; rfl, .cons hfirst hcarried⟩
        · right
          exact ⟨first :: sent, refused, unsent, u, _ :: carried, cause, rfl, by rw [hcourse]; rfl,
            .cons hfirst hcarried⟩

/-- One statement that is carried out. -/
theorem runFrom_sendEach_of_ok {sql : String} {affected : Nat} {s t : σ}
    (h : (backend.answer (.execute sql [])).run s = (.ok affected, t)) :
    (sendEach (bare [sql])).runFrom backend s =
      ⟨.ok (), t, [⟨.execute sql [], .ok affected⟩]⟩ := by
  rw [bare, List.map_singleton, sendEach,
    Action.runFrom_bind_of_ok (Client.runFrom_execute_of_ok h)]
  rfl

/-- One statement that is refused. -/
theorem runFrom_sendEach_of_error {sql : String} {cause : BackendError} {s t : σ}
    (h : (backend.answer (.execute sql [])).run s = (.error cause, t)) :
    (sendEach (bare [sql])).runFrom backend s =
      ⟨.error (.execution sql [] cause), t, [⟨.execute sql [], .error cause⟩]⟩ := by
  rw [bare, List.map_singleton, sendEach,
    Action.runFrom_bind_of_error (Client.runFrom_execute_of_error h)]

/-- What a failure that is passed over leaves is a success; the calls are the same. -/
theorem runFrom_pardon (passed : Error → Bool) (action : Action Unit) (s : σ) :
    (pardon passed action).runFrom backend s =
      ⟨match (action.runFrom backend s).result with
        | .ok () => .ok ()
        | .error e => if passed e then .ok () else .error e,
        (action.runFrom backend s).final, (action.runFrom backend s).exchanges⟩ := by
  change Program.runFrom backend.answer (action.run >>= _) s = _
  rw [Program.runFrom_bind]
  change _ = Course.mk _ (Program.runFrom backend.answer action.run s).final
    (Program.runFrom backend.answer action.run s).exchanges
  simp only [Action.runFrom]
  cases (Program.runFrom backend.answer action.run s).result with
  | ok n => simp
  | error e => by_cases he : passed e = true <;> simp [he]

/-- An action none of whose failures are passed over is itself. -/
theorem pardon_none (action : Action Unit) : pardon (fun _ => false) action = action := by
  change action.run >>= _ = action
  refine Eq.trans (congrArg _ (funext fun result => ?_)) (bind_pure action.run)
  cases result <;> rfl

/-- Adding up the rows that statements affect changes nothing about how they are sent. -/
theorem send_eq (sqls : List String) : Client.send sqls = sendEach (bare sqls) := by
  induction sqls with
  | nil => rfl
  | cons sql rest ih =>
    rw [Client.send, Client.executeAll, bind_assoc]
    refine congrArg _ (funext fun affected => ?_)
    rw [bind_assoc]
    exact (congrArg _ (funext fun _ => pure_bind _ _)).trans ih

/-- Creating is sending, with what exists passed over by a client that is not strict. -/
theorem create_eq (c : Client) (sqls : List String) :
    c.create sqls = pardon (fun e => !c.config.strict && e.isAlreadyExists)
      (sendEach (bare sqls)) := by
  rw [← send_eq, Client.send, pardon, Client.create, ExceptT.run_bind, bind_assoc]
  refine congrArg _ (congrArg _ (funext fun result => ?_))
  cases result <;> rfl

section Shapes

variable {α : Type} (written : Except Error α) (f : α → List Statement)

/-- The shape of an operation that creates: written, sent, and forgiven what exists. -/
private theorem creates (c : Client) (g : α → List String) (hf : ∀ a, f a = bare (g a)) :
    (Action.ofExcept written >>= fun a => c.create (g a)) =
      Action.ofExcept (written >>= fun a => .ok (f a)) >>= fun statements =>
        pardon (fun e => !c.config.strict && e.isAlreadyExists) (sendEach statements) := by
  cases written with
  | error e => rfl
  | ok a => exact (create_eq c (g a)).trans (by rw [← hf]; rfl)

/-- The shape of any other operation: written and sent. -/
private theorem sends (action : α → Action Unit) (h : ∀ a, action a = sendEach (f a)) :
    (Action.ofExcept written >>= action) =
      Action.ofExcept (written >>= fun a => .ok (f a)) >>= fun statements =>
        pardon (fun _ => false) (sendEach statements) := by
  cases written with
  | error e => rfl
  | ok a => exact (h a).trans (pardon_none _).symm

/-- What an action does with a result that does not matter is its last part's business. -/
private theorem forget_bind {β : Type} (action : Action α) (g : α → Action β) :
    forget (action >>= g) = action >>= fun a => forget (g a) :=
  bind_assoc ..

end Shapes

/-- Applying an operation is sending its statements, with what exists passed over by a client that
is not strict. -/
theorem apply_eq (c : Client) (op : Operation) :
    op.apply c = Action.ofExcept (op.statements c) >>= fun statements =>
      pardon (op.passesOver c) (sendEach statements) := by
  have sent (sqls : List String) :
      Client.send sqls = pardon (fun _ => false) (sendEach (bare sqls)) :=
    (send_eq sqls).trans (pardon_none _).symm
  cases op with
  | createTable table => exact creates _ _ c id fun _ => rfl
  | dropTable name => exact sent _
  | renameTable oldName newName => exact sent _
  | addColumn table column => exact create_eq c _
  | dropColumn table column => exact sent _
  | renameColumn table oldName newName => exact sent _
  | modifyColumn table name column previous => exact sends _ _ _ send_eq
  | addPrimaryKey table name columns => exact creates _ _ c (fun sql => [sql]) fun _ => rfl
  | dropPrimaryKey table name => exact sends _ _ _ fun sql => send_eq [sql]
  | addForeignKey key => exact creates _ _ c (fun sql => [sql]) fun _ => rfl
  | dropForeignKey table name => exact sends _ _ _ fun sql => send_eq [sql]
  | addUniqueKey table name columns => exact creates _ _ c (fun sql => [sql]) fun _ => rfl
  | dropUniqueKey table name => exact sends _ _ _ fun sql => send_eq [sql]
  | addIndex table name columns => exact create_eq c _
  | dropIndex table name => exact sent _
  | addTableComment table comment => exact sends _ _ _ fun sql => send_eq [sql]
  | removeTableComment table => exact sends _ _ _ fun sql => send_eq [sql]
  | addColumnComment table column comment => exact sends _ _ _ fun sql => send_eq [sql]
  | removeColumnComment table column => exact sends _ _ _ fun sql => send_eq [sql]
  | insert table columns values =>
    rw [apply, Client.insert, forget_bind]
    exact sends _ _ _ fun _ => rfl
  | update table columns values filter =>
    rw [apply, Client.update, statements]
    cases columns with
    | nil => rfl
    | cons first rest =>
      cases Client.rowValues (first :: rest) (some values) with
      | error e => rfl
      | ok row =>
        exact (forget_bind (Action.ofExcept (c.condition filter
          (c.dialect.nameParameters 0 row).length)) _).trans (sends _ _ _ fun _ => rfl)
  | delete table filter =>
    rw [apply, Client.delete, forget_bind]
    exact sends _ _ _ fun _ => rfl
  | runSql forward backward => exact (pardon_none (sendEach [⟨forward, []⟩])).symm

/-! ### Applying one operation -/

variable {c : Client} {op : Operation}

/-- An operation that cannot be written leaves the backend alone. -/
theorem runFrom_apply_of_unwritten {e : Error} (h : op.statements c = .error e) (s : σ) :
    (op.apply c).runFrom backend s = ⟨.error e, s, []⟩ := by
  rw [apply_eq, h]
  rfl

/-- An operation that can be written sends its statements. -/
theorem runFrom_apply_of_ok {statements : List Statement} (h : op.statements c = .ok statements)
    (s : σ) : (op.apply c).runFrom backend s =
      (pardon (op.passesOver c) (sendEach statements)).runFrom backend s := by
  rw [apply_eq, h]
  rfl

/-- Applying an operation that can be written: all its statements are carried out, or one of them is
refused, and then the client may pass over that. -/
theorem runFrom_apply_of_written {statements : List Statement}
    (h : op.statements c = .ok statements) (backend : Backend σ) (s : σ) :
    (∃ t exchanges, (op.apply c).runFrom backend s = ⟨.ok (), t, exchanges⟩ ∧
      List.Forall₂ Statement.CarriedOut statements exchanges) ∨
    ∃ sent refused unsent t carried cause, statements = sent ++ refused :: unsent ∧
      (op.apply c).runFrom backend s =
        ⟨if op.passesOver c (refused.refusal cause) then .ok () else .error (refused.refusal cause),
          t, carried ++ [⟨refused.call, .error cause⟩]⟩ ∧
      List.Forall₂ Statement.CarriedOut sent carried := by
  rw [runFrom_apply_of_ok h, runFrom_pardon]
  rcases runFrom_sendEach backend statements s with ⟨t, exchanges, hcourse, hcarried⟩ |
      ⟨sent, refused, unsent, t, carried, cause, hstatements, hcourse, hcarried⟩
  · exact .inl ⟨t, exchanges, by rw [hcourse], hcarried⟩
  · exact .inr ⟨sent, refused, unsent, t, carried, cause, hstatements, by rw [hcourse], hcarried⟩

/-- A strict client passes over nothing. -/
theorem passesOver_of_strict (h : c.config.strict = true) (e : Error) :
    op.passesOver c e = false := by
  simp [passesOver, h]

end Operation

end SchemaEvolution
