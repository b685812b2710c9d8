import SchemaEvolution.Proofs.Sqlite.Connections
import SchemaEvolution.Proofs.Sqlite.Contents

/-!
# What success of a creation means

A client that is not strict takes a creation as done if the database complains that something is
there already, and it tells this by two phrases in the complaint. On an engine that complains as
SQLite does, a creation that succeeds has left what it creates
(`Client.succeeded_creation_is_there`), provided that the statement contains neither phrase, that no
column is defined twice and that no view has the name of the table. Without the second proviso there
may be no table at all (`Client.succeeded_creation_without_table`).
-/

namespace SchemaEvolution

namespace Sqlite

variable {σ : Type} {e : Engine σ} {sql : String} {x : Creation}

/-! ### Engines that create -/

/-- A statement that a client writes for an operation, and what it creates. -/
def Creates (sql : String) (x : Creation) : Prop :=
  (∃ (c : Client) (op : Operation), c.dialect = Dialect.sqlite ∧ op.isLegible = true ∧
    op.statements c = .ok (Operation.bare [sql])) ∧ Creation.read sql = some x

/-- An engine creates what statements create, unless it complains of that and leaves everything as
it is. A transaction begins without a change and without one of the two phrases. -/
structure Engine.Keeps (e : Engine σ) (contents : σ → Contents) : Prop where
  creates : ∀ {sql : String} {x : Creation} {s s' : σ} {outcome : Outcome}, Creates sql x →
    e.run sql [] s = (.ok outcome, s') → (contents s).create x = some (contents s')
  refuses : ∀ {sql : String} {x : Creation} {s s' : σ} {cause : BackendError}, Creates sql x →
    e.run sql [] s = (.error cause, s') → contents s' = contents s ∧
      ∃ code message, cause = failure code message ∧ (contents s).Refuses sql x message
  begins : ∀ {s s' : σ} {answer : Except BackendError Outcome}, e.run "BEGIN" [] s = (answer, s') →
    contents s' = contents s ∧ ∀ cause, answer = .error cause →
      ∃ code message, cause = failure code message ∧ Silent message

/-- An engine that creates what statements create, and does nothing else. -/
def Contents.engine : Engine Contents where
  run sql _ d :=
    match Creation.read sql with
    | none => (.ok ⟨{}, 0⟩, d)
    | some x =>
      match d.create x with
      | some after => (.ok ⟨{}, 0⟩, after)
      | none => (.error (failure 1 (d.complaint x)), d)
  close d := (.ok (), d)

theorem Contents.keeps_engine : Contents.engine.Keeps id where
  creates {sql x d after outcome} hsql hrun := by
    cases hmade : d.create x with
    | none => simp [engine, hsql.2, hmade] at hrun
    | some made =>
      have hafter : made = after := by simpa [engine, hsql.2, hmade] using congrArg Prod.snd hrun
      rw [← hafter]
      exact hmade
  refuses {sql x d after cause} hsql hrun := by
    cases hmade : d.create x with
    | some made => simp [engine, hsql.2, hmade] at hrun
    | none =>
      simp only [engine, hsql.2, hmade, Prod.mk.injEq, Except.error.injEq] at hrun
      obtain ⟨rfl, rfl⟩ := hrun
      exact ⟨rfl, 1, _, rfl, refuses_complaint sql x⟩
  begins {d after answer} hrun := by
    have hbegin : Creation.read "BEGIN" = none := rfl
    simp only [engine, hbegin, Prod.mk.injEq] at hrun
    obtain ⟨rfl, rfl⟩ := hrun
    exact ⟨rfl, nofun⟩

namespace Engine.Keeps

variable {contents : σ → Contents} (he : e.Keeps contents) (hsql : Creates sql x)

include he hsql

/-- What a statement creates is there when the engine carried it out, or refused it because
something is there. -/
theorem holds_of_run {s : σ} (hquiet : Quiet sql) (hx : (contents s).Unmistakable x)
    (hdone : ∀ cause, (e.run sql [] s).1 = .error cause → cause.kind = .alreadyExists) :
    (contents (e.run sql [] s).2).Holds x := by
  cases hrun : e.run sql [] s with
  | mk answer s' =>
    cases answer with
    | ok outcome => exact Contents.holds_of_create (he.creates hsql hrun)
    | error cause =>
      obtain ⟨hafter, code, message, rfl, hrefuses⟩ := he.refuses hsql hrun
      have hkind := hdone _ (congrArg Prod.fst hrun)
      rw [hafter]
      exact hrefuses.holds hquiet hx (kind_failure_eq_alreadyExists_iff.mp hkind)

/-- The same on a connection, which may have to begin a transaction first. -/
theorem holds_of_runs {c c' : Connection σ} {answer : Except BackendError Outcome}
    (h : Connection.Runs e sql [] c answer c') (hquiet : Quiet sql)
    (hx : (contents c.state).Unmistakable x)
    (hdone : ∀ cause, answer = .error cause → cause.kind = .alreadyExists) :
    (contents c'.state).Holds x := by
  cases h with
  | closed => cases hdone _ rfl
  | alone noNeed => exact he.holds_of_run hsql hquiet hx hdone
  | notBegun isIdle hbegin =>
    -- No complaint about a transaction is taken for one about what exists.
    obtain ⟨code, message, rfl, hsilent⟩ := (he.begins hbegin).2 _ rfl
    exact absurd hsilent (kind_failure_eq_alreadyExists_iff.mp (hdone _ rfl))
  | begun isOpen isTransactional isIdle hbegin =>
    rw [← (he.begins hbegin).1] at hx
    exact he.holds_of_run hsql hquiet hx hdone

end Engine.Keeps

end Sqlite

/-! ### Operations and clients -/

namespace Operation

open Sqlite

variable {σ : Type} {e : Engine σ} {contents : σ → Contents} {c : Client} {op : Operation}
  {x : Creation} {s t : Connection σ}

/-- The texts that an operation is sent as, none if it cannot be written. -/
def texts (c : Client) (op : Operation) : List String :=
  ((op.statements c).toOption.getD []).map (·.sql)

/-- No statement of an operation contains one of the two phrases. -/
def IsQuiet (c : Client) (op : Operation) : Prop := ∀ sql ∈ op.texts c, Quiet sql

instance : Decidable (op.IsQuiet c) := inferInstanceAs (Decidable (∀ sql ∈ op.texts c, Quiet sql))

/-- What an operation creates is there when it has succeeded. -/
theorem holds_of_succeeds (op : Operation) (he : e.Keeps contents)
    (hdialect : c.dialect = Dialect.sqlite) (hop : op.isLegible = true)
    (hx : op.creation? c = some x) (hquiet : op.IsQuiet c)
    (hunmistakable : (contents s.state).Unmistakable x)
    (h : (op.apply c).Succeeds (Connection.backend e) s t) : (contents t.state).Holds x := by
  cases hstatements : op.statements c with
  | error cause =>
    exact absurd h (Action.not_succeeds_of_error (runFrom_apply_of_unwritten hstatements s))
  | ok statements =>
    obtain ⟨sql, rfl, hread⟩ := statements_of_creation hdialect hop hx hstatements
    have hsql : Creates sql x := ⟨⟨c, op, hdialect, hop, hstatements⟩, hread⟩
    have hstatement : Quiet sql := by
      apply hquiet
      rw [texts, hstatements]
      exact List.mem_singleton_self sql
    obtain ⟨⟨_, hok⟩, rfl⟩ := h
    rw [runFrom_apply_of_ok hstatements, runFrom_pardon] at hok ⊢
    cases hrun : s.run e sql [] with
    | mk answer s' =>
      have hruns : Connection.Runs e sql [] s answer s' := by
        simpa [hrun] using Connection.runs_run e sql [] s
      have hanswer : ((Connection.backend e).answer (.execute sql [])).run s =
          (answer.map (·.changes), s') := by
        change Connection.execute e sql [] s = _
        rw [Connection.execute, hrun]
      cases answer with
      | ok outcome =>
        rw [runFrom_sendEach_of_ok hanswer]
        exact he.holds_of_runs hsql hruns hstatement hunmistakable nofun
      | error cause =>
        rw [runFrom_sendEach_of_error hanswer] at hok ⊢
        refine he.holds_of_runs hsql hruns hstatement hunmistakable ?_
        rintro _ ⟨⟩
        cases hpassed : op.passesOver c (.execution sql [] cause) with
        | false => simp [hpassed] at hok
        | true => exact eq_of_beq (Bool.and_eq_true_iff.mp hpassed).2

end Operation

namespace Client

open Sqlite

variable {σ : Type} {e : Engine σ} {contents : σ → Contents} {c : Client} {s t : Connection σ}

/-- On an engine that complains as SQLite does, a creation that succeeds has left what it creates,
also if the client is not strict. The statement may contain neither phrase by which the client tells
that something exists, and defaults are values. A table has no column twice, and no view has its
name. -/
theorem succeeded_creation_is_there (he : e.Keeps contents)
    (hdialect : c.dialect = Dialect.sqlite) :
    (∀ name columns, (∀ column ∈ columns, column.defaultIsValue = true) →
      (Operation.createTable ⟨name, columns⟩).IsQuiet c →
      (columns.map fun column => fold column.name).Nodup →
      (∀ spot, (contents s.state).place (TableName.parts (c.tableName name)) = some spot →
        (contents s.state).views spot = false) →
      (c.addTable name columns).Succeeds (Connection.backend e) s t →
        (contents t.state).HasTable (TableName.parts (c.tableName name))) ∧
    (∀ table column, column.defaultIsValue = true →
      (Operation.addColumn table column).IsQuiet c →
      (c.addColumn table column).Succeeds (Connection.backend e) s t →
        (contents t.state).HasColumn (TableName.parts (c.tableName table)) column.name) ∧
    (∀ name table columns, (Operation.addIndex table name columns).IsQuiet c →
      (c.addIndex name table columns).Succeeds (Connection.backend e) s t →
        (contents t.state).HasIndex (TableName.split (c.tableName table)).1 name
          (TableName.bare (c.tableName table))) ∧
    (∀ name table columns, (Operation.addUniqueKey table name columns).IsQuiet c →
      (c.addUniqueKey name table columns).Succeeds (Connection.backend e) s t →
        (contents t.state).HasIndex (TableName.split (c.tableName table)).1 name
          (TableName.bare (c.tableName table))) := by
  refine ⟨fun name columns hvalues hquiet hdistinct hview => ?_,
    fun table column hvalue hquiet => ?_, fun name table columns hquiet => ?_,
    fun name table columns hquiet => ?_⟩
  · have hnames : ((columns.map (·.name)).map fold).Nodup := by rwa [List.map_map]
    exact Operation.holds_of_succeeds (.createTable ⟨name, columns⟩) he hdialect
      (List.all_eq_true.mpr hvalues) rfl hquiet ⟨hnames, hview⟩
  · exact Operation.holds_of_succeeds (.addColumn table column) he hdialect hvalue rfl hquiet
      trivial
  · exact Operation.holds_of_succeeds (.addIndex table name columns) he hdialect rfl rfl
      hquiet trivial
  · exact Operation.holds_of_succeeds (.addUniqueKey table name columns) he hdialect rfl rfl
      hquiet trivial

/-- A client that is not strict. -/
private def easyClient : Client := ⟨Dialect.sqlite, none, { strict := false }⟩

/-- A database with a table of guests and an index on their names. -/
private def guestList : Connection Contents where
  state :=
    { schemas := [fold "temp", fold "main"]
      tables spot := if spot = (fold "main", fold "guests") then some ["name"] else none
      views _ := false
      indexes spot := spot = (fold "main", fold "guest_names") }
  transactional := true

theorem succeeded_creation_is_there_guests :
    (∃ t, (easyClient.addTable "Guests" [Column.integer "name"]).Succeeds
      (Connection.backend Contents.engine) guestList t ∧
        t.state.HasTable (TableName.parts "Guests")) ∧
    (∃ t, (easyClient.addColumn "guests" (Column.integer "NAME")).Succeeds
      (Connection.backend Contents.engine) guestList t ∧
        t.state.HasColumn (TableName.parts "guests") "NAME") ∧
    (∃ t, (easyClient.addIndex "guest_names" "guests" ["name"]).Succeeds
      (Connection.backend Contents.engine) guestList t ∧
        t.state.HasIndex (TableName.split "guests").1 "guest_names" (TableName.bare "guests")) ∧
    ∃ t, (easyClient.addUniqueKey "guest_names" "guests" ["name"]).Succeeds
      (Connection.backend Contents.engine) guestList t ∧
        t.state.HasIndex (TableName.split "guests").1 "guest_names" (TableName.bare "guests") := by
  have hsucceeds (action : Action Unit) (h : (action.runFrom (Connection.backend Contents.engine)
      guestList).result.isOk = true) := Action.succeeds_of_isOk h
  have hthere {t : Connection Contents} := succeeded_creation_is_there (c := easyClient)
    (s := guestList) (t := t) Contents.keeps_engine rfl
  have htable := hsucceeds (easyClient.addTable "Guests" [Column.integer "name"])
    (by decide +kernel)
  have hcolumn := hsucceeds (easyClient.addColumn "guests" (Column.integer "NAME"))
    (by decide +kernel)
  have hindex := hsucceeds (easyClient.addIndex "guest_names" "guests" ["name"])
    (by decide +kernel)
  have hkey := hsucceeds (easyClient.addUniqueKey "guest_names" "guests" ["name"])
    (by decide +kernel)
  exact ⟨⟨_, htable, hthere.1 "Guests" _ (by decide) (by decide +kernel) (by decide +kernel)
      (fun _ _ => rfl) htable⟩,
    ⟨_, hcolumn, hthere.2.1 "guests" _ rfl (by decide +kernel) hcolumn⟩,
    ⟨_, hindex, hthere.2.2.1 "guest_names" "guests" _ (by decide +kernel) hindex⟩,
    ⟨_, hkey, hthere.2.2.2 "guest_names" "guests" _ (by decide +kernel) hkey⟩⟩

/-- A table with a column twice is not created, but the client takes it for one that exists. -/
theorem succeeded_creation_without_table :
    ∃ t, (easyClient.addTable "t" [Column.integer "a", Column.integer "a"]).Succeeds
      (Connection.backend storeEngine) { state := {} } t ∧ t.state.tables = [] := by
  refine ⟨_, Action.succeeds_of_isOk ?_, List.isEmpty_iff.mp ?_⟩
  · decide +kernel
  · decide +kernel

end Client

end SchemaEvolution
