import SchemaEvolution.Operation.Apply
import SchemaEvolution.Proofs.Postgres.Statements
import SchemaEvolution.Proofs.VersionTable.Statements

/-!
# The changes that operations make

A database that keeps a layout carries out the changes that statements denote, and refuses a
statement that denotes none or whose change is refused. A strict client of it that applies an
operation makes the changes of the operation, one after the other, and succeeds when all of them
are made (`succeeds_apply_iff`).
-/

namespace SchemaEvolution

variable {σ α β : Type}

/-! ### Actions that succeed -/

/-- An action succeeds and leads from one state to another. -/
structure Action.Succeeds (backend : Backend σ) (action : Action α) (s t : σ) : Prop where
  ok : ∃ a, (action.runFrom backend s).result = .ok a
  final : (action.runFrom backend s).final = t

namespace Action

variable {backend : Backend σ} {s t : σ}

theorem succeeds_iff_of_ok {action : Action α} {a : α} {u : σ}
    {exchanges : List Exchange}
    (h : action.runFrom backend s = ⟨.ok a, u, exchanges⟩) :
    action.Succeeds backend s t ↔ u = t := by
  constructor
  · rintro ⟨-, hfinal⟩
    rwa [h] at hfinal
  · intro hfinal
    constructor <;> rw [h]
    · exact ⟨a, rfl⟩
    · exact hfinal

theorem not_succeeds_of_error {action : Action α} {e : Error} {u : σ}
    {exchanges : List Exchange}
    (h : action.runFrom backend s = ⟨.error e, u, exchanges⟩) : ¬action.Succeeds backend s t := by
  rintro ⟨⟨a, hok⟩, -⟩
  rw [h] at hok
  cases hok

/-- What an action leads to when its result is no error. -/
theorem succeeds_of_isOk {action : Action α} (h : (action.runFrom backend s).result.isOk = true) :
    action.Succeeds backend s (action.runFrom backend s).final := by
  cases hresult : (action.runFrom backend s).result with
  | ok a => exact ⟨⟨a, hresult⟩, rfl⟩
  | error e =>
    rw [hresult] at h
    cases h

theorem succeeds_pure_iff (a : α) : (pure a : Action α).Succeeds backend s t ↔ s = t :=
  succeeds_iff_of_ok (runFrom_pure a s)

/-- A composed action succeeds when its parts do, if what follows does not depend on a result. -/
theorem succeeds_bind_iff {p : Action α} {f : α → Action β} {P : σ → Prop}
    (hf : ∀ a u, (f a).Succeeds backend u t ↔ P u) :
    Succeeds backend (p >>= f) s t ↔ ∃ u, p.Succeeds backend s u ∧ P u := by
  cases hcourse : p.runFrom backend s with
  | mk result u exchanges =>
    cases result with
    | error e =>
      have hwhole : ¬Succeeds backend (p >>= f) s t :=
        not_succeeds_of_error (runFrom_bind_of_error hcourse f)
      constructor
      · exact fun h => absurd h hwhole
      · rintro ⟨v, h, -⟩
        exact absurd h (not_succeeds_of_error hcourse)
    | ok a =>
      have hwhole : Succeeds backend (p >>= f) s t ↔ (f a).Succeeds backend u t := by
        constructor
        · rintro ⟨hok, hfinal⟩
          rw [runFrom_bind_of_ok hcourse] at hok hfinal
          exact ⟨hok, hfinal⟩
        · rintro ⟨hok, hfinal⟩
          constructor <;> rw [runFrom_bind_of_ok hcourse]
          · exact hok
          · exact hfinal
      rw [hwhole, hf]
      constructor
      · exact fun h => ⟨u, (succeeds_iff_of_ok hcourse).mpr rfl, h⟩
      · rintro ⟨v, h, hP⟩
        rwa [(succeeds_iff_of_ok hcourse).mp h]

/-- What follows a result that is known succeeds as it does with the result. -/
theorem succeeds_ofExcept_bind_iff {result : Except Error α} {f : α → Action β} :
    Succeeds backend (ofExcept result >>= f) s t ↔
      ∃ a, result = .ok a ∧ (f a).Succeeds backend s t := by
  cases result with
  | error e =>
    have hwhole : ¬Succeeds backend (ofExcept (.error e) >>= f) s t :=
      not_succeeds_of_error (runFrom_bind_of_error (runFrom_ofExcept _ s) f)
    constructor
    · exact fun h => absurd h hwhole
    · rintro ⟨a, h, -⟩
      cases h
  | ok a =>
    have hwhole : Succeeds backend (ofExcept (.ok a) >>= f) s t ↔ (f a).Succeeds backend s t :=
      Iff.rfl
    simp [hwhole]

end Action

/-! ### Databases that keep a layout -/

namespace Layout

/-- The layout after the change that a statement denotes, unless it denotes none or the change is
refused. -/
def carryOut (current : String) (layout : Layout) (sql : String) : Option Layout :=
  (changeOf sql).bind (layout.perform current)

/-- A database keeps a layout when it carries out the changes that statements denote. What it
refuses leaves the layout as it was. -/
structure KeptBy (current : String) (db : Backend Layout) : Prop where
  accepts : ∀ {sql : String} {layout changed : Layout}, carryOut current layout sql = some changed →
    ∃ affected : Nat, (db.answer (.execute sql [])).run layout = (.ok affected, changed)
  refuses : ∀ {sql : String} {layout : Layout}, carryOut current layout sql = none →
    ∃ cause, (db.answer (.execute sql [])).run layout = (.error cause, layout)

/-- A database that keeps a layout and does nothing else. -/
def database (current : String) : Backend Layout where
  answer
    | .execute sql [] => fun layout =>
      match carryOut current layout sql with
      | some changed => (.ok 0, changed)
      | none => (.error { message := "refused" }, layout)
    | _ => fun layout => (.error { message := "refused" }, layout)

theorem keptBy_database (current : String) : KeptBy current (database current) where
  accepts h := by
    refine ⟨0, ?_⟩
    change (match carryOut current _ _ with
      | some changed => _
      | none => _) = _
    rw [h]
  refuses h := by
    refine ⟨{ message := "refused" }, ?_⟩
    change (match carryOut current _ _ with
      | some changed => _
      | none => _) = _
    rw [h]

variable {current : String} {db : Backend Layout} (hdb : KeptBy current db) {s t : Layout}

include hdb

/-- A statement succeeds when its change is made. -/
theorem succeeds_execute_iff {sql : String} :
    (Client.execute sql []).Succeeds db s t ↔ carryOut current s sql = some t := by
  cases hchange : carryOut current s sql with
  | some changed =>
    obtain ⟨affected, hanswer⟩ := hdb.accepts hchange
    rw [Client.execute, Action.succeeds_iff_of_ok (Action.runFrom_call_of_ok hanswer),
      Option.some.injEq]
  | none =>
    obtain ⟨cause, hanswer⟩ := hdb.refuses hchange
    have hrefused : ¬(Client.execute sql []).Succeeds db s t :=
      Action.not_succeeds_of_error (Action.runFrom_call_of_error hanswer)
    exact ⟨fun h => absurd h hrefused, nofun⟩

/-- Statements succeed when the changes that they denote are made. -/
theorem succeeds_executeAll_iff {sqls : List String} {changes : List Change}
    (h : sqls.map changeOf = changes.map some) :
    (Client.executeAll sqls).Succeeds db s t ↔ performAll current s changes = some t := by
  induction sqls generalizing s changes with
  | nil =>
    cases changes with
    | nil => exact (Action.succeeds_pure_iff 0).trans (by simp [performAll])
    | cons change changes => cases h
  | cons sql sqls ih =>
    cases changes with
    | nil => cases h
    | cons change changes =>
      obtain ⟨hsql, hsqls⟩ := List.cons.inj h
      have hrest (affected : Nat) (u : Layout) :
          (do
            let others ← Client.executeAll sqls
            pure (affected + others)).Succeeds db u t ↔ performAll current u changes = some t := by
        refine (Action.succeeds_bind_iff fun others v => Action.succeeds_pure_iff _).trans ?_
        simp [ih hsqls]
      refine (Action.succeeds_bind_iff hrest).trans ?_
      simp [succeeds_execute_iff hdb, carryOut, hsql, performAll, Option.bind_eq_some_iff]

theorem succeeds_send_iff {sqls : List String} {changes : List Change}
    (h : sqls.map changeOf = changes.map some) :
    (Client.send sqls).Succeeds db s t ↔ performAll current s changes = some t := by
  refine (Action.succeeds_bind_iff fun affected u => Action.succeeds_pure_iff _).trans ?_
  simp [succeeds_executeAll_iff hdb h]

/-- To a strict client it is no success that something exists already. -/
theorem succeeds_create_iff {c : Client} (hstrict : c.config.strict = true) {sqls : List String}
    {changes : List Change} (h : sqls.map changeOf = changes.map some) :
    (c.create sqls).Succeeds db s t ↔ performAll current s changes = some t := by
  rw [← succeeds_executeAll_iff hdb h]
  constructor
  · rintro ⟨⟨a, hok⟩, hfinal⟩
    rw [Client.runFrom_create] at hok hfinal
    cases hresult : ((Client.executeAll sqls).runFrom db s).result with
    | ok affected => exact ⟨⟨affected, hresult⟩, hfinal⟩
    | error e => simp [hresult, hstrict] at hok
  · rintro ⟨⟨affected, hok⟩, hfinal⟩
    constructor <;> rw [Client.runFrom_create]
    · exact ⟨(), by rw [hok]⟩
    · exact hfinal

end Layout

/-! ### Operations -/

namespace Operation

open Layout

/-- The operation is on the layout and has no expression for a default. -/
def isLegible : Operation → Bool
  | .createTable table => table.columns.all (·.defaultIsValue)
  | .addColumn _ column => column.defaultIsValue
  | .modifyColumn _ _ column _ => column.defaultIsValue
  | .insert _ _ _ | .update _ _ _ _ | .delete _ _ | .runSql _ _ => false
  | _ => true

/-- The change of a table that a client names. -/
def changing (c : Client) (table : String) (change : TableChange) : Option (List Change) :=
  some [.changeTable (TableName.parts (c.tableName table)) change]

/-- The changes that a client makes when it applies an operation on the layout, unless there is no
statement for it. -/
def changes (c : Client) : Operation → Option (List Change)
  | .createTable table =>
    if table.columns.isEmpty then none else some (creation ⟨c.tableName table.name, table.columns⟩)
  | .dropTable name => some [.dropTable (TableName.parts (c.tableName name))]
  | .renameTable oldName newName =>
    some [.renameTable (TableName.parts (c.tableName oldName)) (TableName.bare newName)]
  | .addColumn table column =>
    changing c table (.addColumn (Layout.Column.ofDefinition column false))
  | .dropColumn table column => changing c table (.dropColumn column)
  | .renameColumn table oldName newName => changing c table (.renameColumn oldName newName)
  | .modifyColumn table name column _ => changing c table (modification name column)
  | .addPrimaryKey table name columns =>
    changing c table (.addConstraint (name.getD (TableName.primaryKey table))
      (primaryDefinition columns))
  | .dropPrimaryKey table name =>
    changing c table (.dropConstraint (name.getD (TableName.primaryKey table)))
  | .addForeignKey key =>
    changing c key.table (.addConstraint key.name
      (foreignDefinition { key with referencedTable := c.tableName key.referencedTable }))
  | .dropForeignKey table name => changing c table (.dropConstraint name)
  | .addUniqueKey table name columns =>
    changing c table (.addConstraint name (keyDefinition [.word "UNIQUE", .symbol '('] columns))
  | .dropUniqueKey table name => changing c table (.dropConstraint name)
  | .addIndex table name columns =>
    some [.createIndex name (TableName.parts (c.tableName table))
      (keyDefinition [.symbol '('] columns)]
  | .dropIndex table name => some [.dropIndex (indexParts (c.tableName table) name)]
  | .addTableComment table comment => changing c table (.comment (some comment))
  | .removeTableComment table => changing c table (.comment none)
  | .addColumnComment table column comment =>
    changing c table (.commentColumn column (some comment))
  | .removeColumnComment table column => changing c table (.commentColumn column none)
  | .insert _ _ _ | .update _ _ _ _ | .delete _ _ | .runSql _ _ => none

variable {current : String} {db : Backend Layout} {s t : Layout}

/-- One statement that a dialect has. -/
private theorem succeeds_ofExcept_iff {sql : Except Error String} {change : Change}
    {finish : List String → Action Unit}
    (hfinish : ∀ {sqls : List String} {changes : List Change},
      sqls.map changeOf = changes.map some →
        ((finish sqls).Succeeds db s t ↔ performAll current s changes = some t))
    (h : sql.map changeOf = .ok (some change)) :
    Action.Succeeds db (do
      let sql ← Action.ofExcept sql
      finish [sql]) s t ↔ performAll current s [change] = some t := by
  cases sql with
  | error e => cases h
  | ok sql =>
    have hchange : [sql].map changeOf = [change].map some :=
      congrArg (fun change => [change]) (Except.ok.inj h)
    exact hfinish hchange

/-- A strict client makes the changes of an operation, and succeeds when all of them are made. -/
theorem succeeds_apply_iff (hdb : KeptBy current db) {c : Client}
    (hdialect : c.dialect = Dialect.postgres) (hstrict : c.config.strict = true) {op : Operation}
    (hop : op.isLegible = true) :
    (op.apply c).Succeeds db s t ↔
      ∃ changes, op.changes c = some changes ∧ performAll current s changes = some t := by
  have hmade {changes : List Change} : performAll current s changes = some t ↔
      ∃ changes', some changes = some changes' ∧ performAll current s changes' = some t := by
    simp
  have hsend {sqls : List String} {changes : List Change}
      (h : sqls.map changeOf = changes.map some) := (succeeds_send_iff hdb h).trans hmade
  have hcreate {sqls : List String} {changes : List Change}
      (h : sqls.map changeOf = changes.map some) :=
    (succeeds_create_iff hdb hstrict h).trans hmade
  have hsendOne {sql : Except Error String} {change : Change}
      (h : sql.map changeOf = .ok (some change)) :=
    (succeeds_ofExcept_iff (succeeds_send_iff hdb) h).trans hmade
  have hcreateOne {sql : Except Error String} {change : Change}
      (h : sql.map changeOf = .ok (some change)) :=
    (succeeds_ofExcept_iff (succeeds_create_iff hdb hstrict) h).trans hmade
  obtain ⟨dialect, schema, config⟩ := c
  subst hdialect
  cases op with
  | createTable table =>
    refine Action.succeeds_ofExcept_bind_iff.trans ?_
    cases hempty : table.columns.isEmpty with
    | true =>
      have hrefused : Dialect.postgres.createTable
          ⟨Client.tableName ⟨Dialect.postgres, schema, config⟩ table.name, table.columns⟩ =
            .error (.invalidArgument (.tableWithoutColumns _)) := if_pos hempty
      rw [changes, if_pos hempty]
      simp [hrefused]
    | false =>
      have hvalue : ∀ column ∈ table.columns, ∀ value ∈ column.default, value.isValue = true :=
        fun column hcolumn =>
          SchemaEvolution.Column.isValue_of_mem (List.all_eq_true.mp hop column hcolumn)
      have hcreation := @changeOf_createTable
        ⟨Client.tableName ⟨Dialect.postgres, schema, config⟩ table.name, table.columns⟩ hempty
          hvalue
      rw [changes, if_neg (by rw [hempty]; exact Bool.false_ne_true)]
      cases hsqls : Dialect.postgres.createTable
          ⟨Client.tableName ⟨Dialect.postgres, schema, config⟩ table.name, table.columns⟩ with
      | error e =>
        rw [hsqls] at hcreation
        cases hcreation
      | ok sqls =>
        rw [hsqls] at hcreation
        have hmap := hcreate (Except.ok.inj hcreation)
        simpa using hmap
  | dropTable name => exact hsend (changeOf_dropTable _)
  | renameTable oldName newName =>
    exact hsend (congrArg (fun change => [change]) (changeOf_renameTable _ _))
  | addColumn table column =>
    have hvalue := SchemaEvolution.Column.isValue_of_mem hop
    exact hcreate (congrArg (fun change => [change]) (changeOf_addColumn _ hvalue))
  | dropColumn table column => exact hsend (changeOf_dropColumn _ _)
  | renameColumn table oldName newName =>
    exact hsend (congrArg (fun change => [change]) (changeOf_renameColumn _ _ _))
  | modifyColumn table name column previous =>
    have hvalue := SchemaEvolution.Column.isValue_of_mem hop
    exact hsend (congrArg (fun change => [change]) (changeOf_modifyColumn _ _ hvalue))
  | addPrimaryKey table name columns => exact hcreateOne (changeOf_addPrimaryKey _ _ _)
  | dropPrimaryKey table name => exact hsendOne (changeOf_dropConstraint _ _)
  | addForeignKey key => exact hcreateOne (changeOf_addForeignKey _)
  | dropForeignKey table name => exact hsendOne (changeOf_dropConstraint _ _)
  | addUniqueKey table name columns => exact hcreateOne (changeOf_addUniqueKey _ _ _)
  | dropUniqueKey table name => exact hsendOne (changeOf_dropConstraint _ _)
  | addIndex table name columns =>
    exact hcreate (congrArg (fun change => [change]) (changeOf_createIndex _ _ _))
  | dropIndex table name =>
    exact hsend (congrArg (fun change => [change]) (changeOf_dropIndex _ _))
  | addTableComment table comment => exact hsendOne (changeOf_addTableComment _ _)
  | removeTableComment table => exact hsendOne (changeOf_removeTableComment _)
  | addColumnComment table column comment => exact hsendOne (changeOf_addColumnComment _ _ _)
  | removeColumnComment table column => exact hsendOne (changeOf_removeColumnComment _ _)
  | insert table columns values => cases hop
  | update table columns values filter => cases hop
  | delete table filter => cases hop
  | runSql forward backward => cases hop

end Operation

end SchemaEvolution
