import SchemaEvolution.Proofs.Client.Binding
import SchemaEvolution.Proofs.Operation.Statements

/-!
# Stopping at the first failure

A strict client sends the statements of operations as a prefix of all there are: it goes through the
operations in order and ends with the first statement that is refused, or before the first operation
that cannot be written. What can keep a dialect from writing an operation is known beforehand.
-/

namespace SchemaEvolution

variable {σ : Type} {backend : Backend σ}

namespace Operation

variable {c : Client}

/-- The statements of all of some operations, in order. -/
def allStatements (c : Client) : List Operation → Except Error (List Statement)
  | [] => .ok []
  | op :: rest => do
    let first ← op.statements c
    let others ← allStatements c rest
    .ok (first ++ others)

/-! ### What cannot be written -/

/-- What SQLite has no statement for. The other dialects have one for every operation. -/
def lacking (c : Client) : Dialect.Supported → Operation → Option Request
  | .sqlite, .modifyColumn table name _ _ => some (.modifyColumn (c.tableName table) name)
  | .sqlite, .addPrimaryKey table _ _ => some (.addPrimaryKey (c.tableName table))
  | .sqlite, .dropPrimaryKey table _ => some (.dropPrimaryKey (c.tableName table))
  | .sqlite, .addForeignKey key => some (.addForeignKey key.name (c.tableName key.table))
  | .sqlite, .dropForeignKey table name => some (.dropForeignKey name (c.tableName table))
  | .sqlite, .addTableComment table _ => some (.commentTable (c.tableName table))
  | .sqlite, .removeTableComment table => some (.uncommentTable (c.tableName table))
  | .sqlite, .addColumnComment table column _ => some (.commentColumn (c.tableName table) column)
  | .sqlite, .removeColumnComment table column =>
    some (.uncommentColumn (c.tableName table) column)
  | _, _ => none

/-- Why a client cannot write an operation: its dialect has no statement for it, there are no
columns to speak of, or the values are not one for each column. -/
inductive Unwritable (k : Dialect.Supported) (c : Client) : Operation → Error → Prop
  | unsupported {op : Operation} {request : Request} : lacking c k op = some request →
    Unwritable k c op (.unsupported k.dialect.name request)
  | tableWithoutColumns {table : Table} : table.columns = [] →
    Unwritable k c (.createTable table)
      (.invalidArgument (.tableWithoutColumns (c.tableName table.name)))
  | updateWithoutColumns {table : String} {values : List Value} {filter : Option Filter} :
    Unwritable k c (.update table [] values filter) (.invalidArgument (.updateWithoutColumns table))
  | insertMismatch {table : String} {columns : List String} {values : List Value} :
    values.length ≠ columns.length →
    Unwritable k c (.insert table columns values)
      (.parameterMismatch columns.length values.length)
  | updateMismatch {table : String} {columns : List String} {values : List Value}
      {filter : Option Filter} : columns ≠ [] → values.length ≠ columns.length →
    Unwritable k c (.update table columns values filter)
      (.parameterMismatch columns.length values.length)

private theorem of_written {α β : Type} {written : Except Error α} {f : α → β} {e : Error}
    (h : (written >>= fun a => .ok (f a)) = Except.error e) : written = .error e := by
  cases written with
  | error e' => exact congrArg _ (Except.error.inj h)
  | ok a => cases h

private theorem rowValues_of_mismatch {columns : List String} {values : List Value}
    (h : values.length ≠ columns.length) :
    Client.rowValues columns (some values) =
      .error (.parameterMismatch columns.length values.length) :=
  if_neg h

private theorem rowValues_error {columns : List String} {values : List Value} {e : Error}
    (h : Client.rowValues columns (some values) = .error e) :
    values.length ≠ columns.length ∧ e = .parameterMismatch columns.length values.length := by
  by_cases hlength : values.length = columns.length
  · simp [Client.rowValues, hlength] at h
  · exact ⟨hlength, Except.error.inj (h.symm.trans (rowValues_of_mismatch hlength))⟩

private theorem unwritable_of_error (k : Dialect.Supported) (schema : Option String)
    (config : ClientConfig) {op : Operation} {e : Error}
    (h : op.statements ⟨k.dialect, schema, config⟩ = .error e) :
    Unwritable k ⟨k.dialect, schema, config⟩ op e := by
  cases op with
  | createTable table =>
    obtain ⟨name, columns⟩ := table
    have hrefused := of_written h
    cases columns with
    | nil => cases k <;> cases hrefused <;> exact .tableWithoutColumns rfl
    | cons first rest => cases k <;> cases hrefused
  | modifyColumn _ _ _ _ | addPrimaryKey _ _ _ | dropPrimaryKey _ _ | addForeignKey _
  | dropForeignKey _ _ | addTableComment _ _ | removeTableComment _ | addColumnComment _ _ _
  | removeColumnComment _ _ =>
    have hrefused := of_written h
    cases k <;> cases hrefused
    exact .unsupported rfl
  | addUniqueKey _ _ _ | dropUniqueKey _ _ =>
    have hrefused := of_written h
    cases k <;> cases hrefused
  | insert table columns values =>
    obtain ⟨hlength, rfl⟩ := rowValues_error (of_written h)
    exact .insertMismatch hlength
  | update table columns values filter =>
    cases columns with
    | nil =>
      cases h
      exact .updateWithoutColumns
    | cons first rest =>
      cases hrow : Client.rowValues (first :: rest) (some values) with
      | error e' =>
        obtain ⟨hlength, rfl⟩ := rowValues_error hrow
        rw [statements, hrow] at h
        cases h
        exact .updateMismatch (List.cons_ne_nil _ _) hlength
      | ok row =>
        rw [statements, hrow] at h
        change Client.condition ⟨k.dialect, schema, config⟩ filter _ >>= _ = _ at h
        rw [k.condition_eq] at h
        cases h
  | delete table filter =>
    rw [statements, k.condition_eq] at h
    cases h
  | dropTable _ | renameTable _ _ | addColumn _ _ | dropColumn _ _ | renameColumn _ _ _
  | addIndex _ _ _ | dropIndex _ _ | runSql _ _ => cases h

private theorem error_of_lacking (k : Dialect.Supported) (schema : Option String)
    (config : ClientConfig) {op : Operation} {request : Request}
    (h : lacking ⟨k.dialect, schema, config⟩ k op = some request) :
    op.statements ⟨k.dialect, schema, config⟩ = .error (.unsupported k.dialect.name request) := by
  cases k with
  | sqlite => cases op <;> cases h <;> rfl
  | postgres => cases op <;> cases h
  | sqlServer => cases op <;> cases h

/-- A dialect cannot write an operation exactly where there is a reason known beforehand, and
reports that reason. -/
theorem statements_eq_error_iff (k : Dialect.Supported) (hdialect : c.dialect = k.dialect)
    {op : Operation} {e : Error} : op.statements c = .error e ↔ Unwritable k c op e := by
  obtain ⟨dialect, schema, config⟩ := c
  change dialect = k.dialect at hdialect
  subst hdialect
  refine ⟨unwritable_of_error k schema config, fun h => ?_⟩
  cases h with
  | unsupported hlacking => exact error_of_lacking k schema config hlacking
  | @tableWithoutColumns table hcolumns =>
    obtain ⟨name, columns⟩ := table
    change columns = [] at hcolumns
    subst hcolumns
    cases k <;> rfl
  | updateWithoutColumns => rfl
  | insertMismatch hlength => rw [statements, rowValues_of_mismatch hlength]; rfl
  | updateMismatch hcolumns hlength =>
    rw [statements, if_neg (by simpa using hcolumns), rowValues_of_mismatch hlength]
    rfl

/-! ### Where a strict client stops -/

/-- The course of operations that stops at the first failure. -/
inductive Stops (c : Client) (ops : List Operation) :
    Course Call (fun call => Except BackendError call.Answer) σ (Except Error Unit) → Prop
  /-- All statements of all operations are carried out. -/
  | done {all : List Statement} {t : σ} {exchanges : List Action.Exchange} :
    allStatements c ops = .ok all → List.Forall₂ Statement.CarriedOut all exchanges →
    Stops c ops ⟨.ok (), t, exchanges⟩
  /-- The statements of the operations before one that cannot be written are. -/
  | unwritten {before after : List Operation} {op : Operation} {e : Error}
      {earlier : List Statement} {t : σ} {exchanges : List Action.Exchange} :
    ops = before ++ op :: after → allStatements c before = .ok earlier →
    op.statements c = .error e → List.Forall₂ Statement.CarriedOut earlier exchanges →
    Stops c ops ⟨.error e, t, exchanges⟩
  /-- So are the statements of an operation before one that is refused, which is the last. -/
  | refused {before after : List Operation} {op : Operation}
      {earlier sent unsent : List Statement} {last : Statement} {cause : BackendError} {t : σ}
      {exchanges : List Action.Exchange} :
    ops = before ++ op :: after → allStatements c before = .ok earlier →
    op.statements c = .ok (sent ++ last :: unsent) →
    List.Forall₂ Statement.CarriedOut (earlier ++ sent) exchanges →
    Stops c ops ⟨.error (.execution last.sql last.parameters cause), t,
      exchanges ++ [⟨last.call, .error cause⟩]⟩

/-- An operation that is carried out goes before the others. -/
private theorem Stops.after {op : Operation} {rest : List Operation} {first : List Statement}
    {xs : List Action.Exchange}
    {course : Course Call (fun call => Except BackendError call.Answer) σ (Except Error Unit)}
    (hwritten : op.statements c = .ok first) (hfirst : List.Forall₂ Statement.CarriedOut first xs)
    (hrest : Stops c rest course) : Stops c (op :: rest) (course.after xs) := by
  have hall {others : List Operation} {later : List Statement}
      (h : allStatements c others = .ok later) :
      allStatements c (op :: others) = .ok (first ++ later) := by
    rw [allStatements, hwritten, h]
    rfl
  cases hrest with
  | done hlater hcarried => exact .done (hall hlater) (List.rel_append hfirst hcarried)
  | unwritten hsplit hlater hop hcarried =>
    rw [hsplit, ← List.cons_append]
    exact .unwritten rfl (hall hlater) hop (List.rel_append hfirst hcarried)
  | refused hsplit hlater hop hcarried =>
    rw [hsplit, ← List.cons_append, Course.after_mk, ← List.append_assoc]
    refine .refused rfl (hall hlater) hop ?_
    rw [List.append_assoc]
    exact List.rel_append hfirst hcarried

private theorem stops_applyAll (hstrict : c.config.strict = true) (backend : Backend σ)
    (ops : List Operation) (s : σ) : Stops c ops ((applyAll c ops).runFrom backend s) := by
  induction ops generalizing s with
  | nil => exact .done rfl .nil
  | cons op rest ih =>
    rw [applyAll]
    cases hwritten : op.statements c with
    | error e =>
      rw [Action.runFrom_bind_of_error (runFrom_apply_of_unwritten hwritten s)]
      exact .unwritten (List.nil_append _).symm rfl hwritten .nil
    | ok first =>
      rcases runFrom_apply_of_written hwritten backend s with ⟨t, xs, hop, hfirst⟩ |
          ⟨sent, last, unsent, t, carried, cause, rfl, hop, hsent⟩
      · rw [Action.runFrom_bind_of_ok hop]
        exact (ih t).after hwritten hfirst
      · rw [passesOver_of_strict hstrict] at hop
        rw [Action.runFrom_bind_of_error hop]
        exact .refused (List.nil_append _).symm rfl hwritten hsent

/-- What is carried out is answered. -/
private theorem answered {all : List Statement} {exchanges : List Action.Exchange}
    (h : List.Forall₂ Statement.CarriedOut all exchanges) :
    ∀ x ∈ exchanges, ∃ answer, x.answer = .ok answer := by
  induction h with
  | nil => exact fun x hx => nomatch hx
  | cons hfirst _ ih =>
    obtain ⟨rows, rfl⟩ := hfirst
    exact List.forall_mem_cons.mpr ⟨⟨rows, rfl⟩, ih⟩

/-- One operation that cannot be written keeps the whole from being written. -/
private theorem allStatements_error {op : Operation} {e : Error} (hop : op.statements c = .error e)
    {before : List Operation} (after : List Operation) {earlier : List Statement}
    (hbefore : allStatements c before = .ok earlier) :
    allStatements c (before ++ op :: after) = .error e := by
  induction before generalizing earlier with
  | nil =>
    rw [List.nil_append, allStatements, hop]
    rfl
  | cons first rest ih =>
    rw [allStatements] at hbefore
    rw [List.cons_append, allStatements]
    cases hfirst : first.statements c with
    | error e' =>
      rw [hfirst] at hbefore
      cases hbefore
    | ok sqls =>
      rw [hfirst] at hbefore
      cases hrest : allStatements c rest with
      | error e' =>
        rw [hrest] at hbefore
        cases hbefore
      | ok others =>
        rw [ih hrest]
        rfl

/-- Operations stop with success exactly when all of them can be written and nothing is refused. -/
private theorem Stops.result_eq_ok_iff {ops : List Operation}
    {course : Course Call (fun call => Except BackendError call.Answer) σ (Except Error Unit)}
    (h : Stops c ops course) :
    course.result = .ok () ↔ (∃ all, allStatements c ops = .ok all) ∧
      ∀ x ∈ course.exchanges, ∃ answer, x.answer = .ok answer := by
  cases h with
  | done hall hcarried => exact iff_of_true rfl ⟨⟨_, hall⟩, answered hcarried⟩
  | @unwritten _ after _ _ _ _ _ hsplit hlater hop hcarried =>
    refine ⟨nofun, fun ⟨⟨all, hall⟩, _⟩ => ?_⟩
    rw [hsplit, allStatements_error hop after hlater] at hall
    cases hall
  | refused hsplit hlater hop hcarried =>
    refine ⟨nofun, fun ⟨_, hanswered⟩ => ?_⟩
    obtain ⟨answer, hanswer⟩ := hanswered ⟨_, .error _⟩
      (List.mem_append_right _ (List.mem_singleton_self _))
    cases hanswer

/-- Whatever the dialect, a strict client that applies operations sends all statements of those
before the first that fails, and then the statements of that one up to the refused one, or none when
it cannot be written; the refused statement is the last, and its failure the result, with its text,
its parameters and the cause that the backend gave. The result is a success exactly when all
operations can be written and nothing is refused. An operation that cannot be written leaves the
backend alone. In the dialects that there are, it is one without a statement, without columns, or
with values that are not one for each column. -/
theorem applyAll_stops_at_first_failure (hstrict : c.config.strict = true) (backend : Backend σ)
    (ops : List Operation) (s : σ) :
    Stops c ops ((applyAll c ops).runFrom backend s) ∧
    (((applyAll c ops).runFrom backend s).result = .ok () ↔
      (∃ all, allStatements c ops = .ok all) ∧
        ∀ x ∈ ((applyAll c ops).runFrom backend s).exchanges, ∃ answer, x.answer = .ok answer) ∧
    (∀ (op : Operation) (e : Error), op.statements c = .error e →
      (op.apply c).runFrom backend s = ⟨.error e, s, []⟩) ∧
    ∀ k : Dialect.Supported, c.dialect = k.dialect →
      ∀ (op : Operation) (e : Error), op.statements c = .error e ↔ Unwritable k c op e :=
  have hstops := stops_applyAll hstrict backend ops s
  ⟨hstops, hstops.result_eq_ok_iff, fun _ _ h => runFrom_apply_of_unwritten h s,
    fun k hdialect _ _ => statements_eq_error_iff k hdialect⟩

/-- A backend that carries statements out until it refuses the second of them. -/
private def refusingSecond : Backend Nat where
  answer
    | .execute _ _ => fun n => (if n = 1 then .error .closed else .ok 0, n + 1)
    | _ => fun n => (.error .closed, n + 1)

/-- A table with a comment takes two statements; what follows is not sent. -/
private def commented : List Operation :=
  [.createTable ⟨"people", [(Column.integer "age").withComment "in years"]⟩, .dropTable "persons"]

theorem applyAll_stops_at_comment :
    Stops ⟨Dialect.postgres, none, {}⟩ commented
      ((applyAll ⟨Dialect.postgres, none, {}⟩ commented).runFrom refusingSecond 0) ∧
    ((applyAll ⟨Dialect.postgres, none, {}⟩ commented).runFrom refusingSecond 0).result ≠ .ok () ∧
    ((applyAll ⟨Dialect.postgres, none, {}⟩ commented).runFrom refusingSecond 0).exchanges.length =
      2 :=
  ⟨(applyAll_stops_at_first_failure rfl refusingSecond commented 0).1, nofun, rfl⟩

end Operation

end SchemaEvolution
