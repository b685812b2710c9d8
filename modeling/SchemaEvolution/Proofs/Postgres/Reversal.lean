import SchemaEvolution.Proofs.Operation.Inversion
import SchemaEvolution.Proofs.Postgres.Changes

/-!
# Reversal restores the layout

An operation that can be undone makes a change, and its inverse makes a change that takes it back
(`exists_reverse`): the inverse finds the object under the name that it got, in the schema that the
client has put it in. So operations that succeed one after the other are undone by their inverses,
the last one first.
-/

namespace SchemaEvolution

open Layout

/-! ### Names -/

/-- The parts that a client puts in front of a bare name, by the schema that the name carries. -/
def Client.frontParts (c : Client) : Option String → List String
  | some schema => TableName.parts schema
  | none =>
    match c.schema with
    | some schema => if schema.isEmpty then [] else TableName.parts schema
    | none => []

/-- The name of a table is its bare name behind what the client puts in front of it. -/
theorem Client.parts_tableName (c : Client) (name : String) :
    TableName.parts (c.tableName name) =
      c.frontParts (TableName.split name).1 ++ [TableName.bare name] := by
  rw [tableName, TableName.isQualified_eq]
  cases hsplit : (TableName.split name).1 with
  | some schema => exact TableName.parts_of_split_some hsplit
  | none =>
    obtain ⟨hparts, hbare⟩ := TableName.parts_of_split_none hsplit
    cases hschema : c.schema with
    | none => simpa [frontParts, TableName.qualify, hschema] using hparts
    | some schema =>
      cases hempty : schema.isEmpty with
      | true => simpa [frontParts, TableName.qualify, hschema, hempty] using hparts
      | false =>
        simp [frontParts, TableName.qualify, hschema, hempty, TableName.parts_append_dot, hparts]

namespace Layout

variable {current : String} {address : Address}

/-- A name with another last part points into the same schema. -/
theorem resolve_append {front : List String} {name : String}
    (h : resolve current (front ++ [name]) = some address) (other : String) :
    address = (address.1, name) ∧ resolve current (front ++ [other]) = some (address.1, other) := by
  cases front with
  | nil =>
    cases h
    exact ⟨rfl, rfl⟩
  | cons schema front =>
    cases front with
    | nil =>
      cases h
      exact ⟨rfl, rfl⟩
    | cons next front =>
      cases front <;> cases h

/-- The name under which an index is dropped points into the schema of its table. -/
theorem resolve_indexParts {tableName : String}
    (h : resolve current (TableName.parts tableName) = some address) (name : String) :
    resolve current (indexParts tableName name) = some (address.1, name) := by
  rw [indexParts]
  cases hsplit : (TableName.split tableName).1 with
  | none =>
    rw [(TableName.parts_of_split_none hsplit).1] at h
    cases h
    rfl
  | some schema =>
    rw [TableName.parts_of_split_some hsplit] at h
    have hschema := TableName.intercalate_parts schema
    cases hparts : TableName.parts schema with
    | nil => exact absurd hparts (TableName.parts_ne_nil schema)
    | cons part parts =>
      rw [hparts] at h hschema
      cases parts with
      | nil =>
        cases h
        rw [← hschema]
        rfl
      | cons next parts => cases parts <;> cases h

/-- The table that a name stands for. -/
def table? (current : String) (layout : Layout) (name : List String) : Option Table :=
  (resolve current name).bind layout.tables

/-- Changes within a table that was not there before leave the rest as it was. -/
theorem performAll_setTable {layout changed : Layout} {name : List String}
    (haddress : resolve current name = some address) {changes : List Change}
    (hchanges : ∀ change ∈ changes, ∃ within, change = .changeTable name within) {table : Table}
    (h : performAll current (layout.setTable address (some table)) changes = some changed) :
    ∃ table', changed = layout.setTable address (some table') := by
  induction changes generalizing table with
  | nil => exact ⟨table, (Option.some.inj h).symm⟩
  | cons change changes ih =>
    obtain ⟨within, rfl⟩ := hchanges change List.mem_cons_self
    rw [performAll, List.foldlM_cons, Option.bind_eq_bind, Option.bind_eq_some_iff] at h
    obtain ⟨next, hnext, hrest⟩ := h
    simp only [perform, haddress, Option.bind_eq_bind, Option.bind_some, tables_setTable,
      Option.bind_eq_some_iff, setTable_setTable, Option.some.injEq] at hnext
    obtain ⟨table', -, rfl⟩ := hnext
    exact ih (fun change hchange => hchanges change (List.mem_cons_of_mem _ hchange)) hrest

/-- A table that was created is dropped with its comments. -/
theorem dropTable_creation {layout changed : Layout} {table : SchemaEvolution.Table}
    (h : performAll current layout (creation table) = some changed) :
    perform current changed (.dropTable (TableName.parts table.name)) = some layout := by
  rw [creation, performAll, List.foldlM_cons, Option.bind_eq_bind, Option.bind_eq_some_iff] at h
  obtain ⟨created, hcreated, hcomments⟩ := h
  simp only [perform, Option.bind_eq_bind, Option.bind_eq_some_iff] at hcreated
  obtain ⟨address, haddress, hcreated⟩ := hcreated
  cases hmissing : layout.tables address with
  | some other => simp [hmissing] at hcreated
  | none =>
    simp only [hmissing, Option.bind_eq_some_iff, Option.some.injEq] at hcreated
    obtain ⟨made, -, rfl⟩ := hcreated
    have hwithin : ∀ change ∈ comments table,
        ∃ within, change = .changeTable (TableName.parts table.name) within := by
      intro change hchange
      obtain ⟨column, -, hcomment⟩ := List.mem_filterMap.mp hchange
      obtain ⟨comment, -, rfl⟩ := Option.map_eq_some_iff.mp hcomment
      exact ⟨_, rfl⟩
    obtain ⟨final, rfl⟩ := performAll_setTable haddress hwithin hcomments
    exact perform_dropTable_back haddress hmissing

end Layout

/-! ### One operation -/

namespace Operation

/-- The operation can be undone from what it leaves: defaults are values, a table keeps its schema
when it is renamed, what a column was before is known, and what gets a comment has none. -/
def Undoable (c : Client) (current : String) (layout : Layout) : Operation → Prop
  | .createTable table => table.columns.all (·.defaultIsValue) = true
  | .renameTable oldName newName => (TableName.split oldName).1 = (TableName.split newName).1
  | .addColumn _ column => column.defaultIsValue = true
  | .modifyColumn table name column previous =>
    column.defaultIsValue = true ∧ ∃ original, previous = some original ∧
      original.defaultIsValue = true ∧ original.autoIncrement = false ∧
        ∀ present, layout.table? current (TableName.parts (c.tableName table)) = some present →
          ∀ before ∈ present.columns, before.name = name →
            before.type = (Layout.Column.ofDefinition original false).type ∧
              before.nullable = (Layout.Column.ofDefinition original false).nullable ∧
                before.default = (Layout.Column.ofDefinition original false).default
  | .addTableComment table _ =>
    ∀ present, layout.table? current (TableName.parts (c.tableName table)) = some present →
      present.comment = none
  | .addColumnComment table column _ =>
    ∀ present, layout.table? current (TableName.parts (c.tableName table)) = some present →
      ∀ before ∈ present.columns, before.name = column → before.comment = none
  | .renameColumn _ _ _ | .addPrimaryKey _ _ _ | .addForeignKey _ | .addUniqueKey _ _ _
  | .addIndex _ _ _ => True
  | _ => False

variable {c : Client} {current : String} {s t : Layout}

/-- An operation that can be undone can be read. -/
theorem Undoable.isLegible {op : Operation} (h : op.Undoable c current s) :
    op.isLegible = true := by
  cases op with
  | createTable table => exact h
  | addColumn table column => exact h
  | modifyColumn table name column previous => exact h.1
  | insert table columns values => exact h.elim
  | update table columns values filter => exact h.elim
  | delete table filter => exact h.elim
  | runSql forward backward => exact h.elim
  | _ => rfl

/-- A change within a table is taken back by an inverse that makes a change of the same table. -/
private theorem exists_changing_back {op back : Operation} {table : String}
    {change change' : TableChange} (hback : op.reverse = some back)
    (hlegible : back.isLegible = true) (hchanges : back.changes c = changing c table change')
    (hundo : ∀ before after, s.table? current (TableName.parts (c.tableName table)) = some before →
      before.perform change = some after → after.perform change' = some before)
    (h : ∃ changes, changing c table change = some changes ∧
      performAll current s changes = some t) :
    ∃ back, op.reverse = some back ∧ back.isLegible = true ∧
      ∃ changes, back.changes c = some changes ∧ performAll current t changes = some s := by
  obtain ⟨changes, hchange, hmade⟩ := h
  cases hchange
  refine ⟨back, hback, hlegible, _, hchanges, ?_⟩
  have hone : perform current s (.changeTable (TableName.parts (c.tableName table)) change) =
      some t := by
    simpa [performAll] using hmade
  have hrestored : perform current t
      (.changeTable (TableName.parts (c.tableName table)) change') = some s :=
    perform_changeTable_back (fun address before after haddress hbefore hafter =>
      hundo before after (by simp [table?, haddress, hbefore]) hafter) hone
  simpa [performAll] using hrestored

/-- What an operation changes is taken back by its inverse. -/
theorem exists_reverse {op : Operation} (hundo : op.Undoable c current s)
    (h : ∃ changes, op.changes c = some changes ∧ performAll current s changes = some t) :
    ∃ back, op.reverse = some back ∧ back.isLegible = true ∧
      ∃ changes, back.changes c = some changes ∧ performAll current t changes = some s := by
  cases op with
  | createTable table =>
    obtain ⟨changes, hchanges, hmade⟩ := h
    rw [Operation.changes] at hchanges
    split at hchanges
    · cases hchanges
    · cases hchanges
      have hdropped := dropTable_creation hmade
      exact ⟨_, rfl, rfl, _, rfl, by simpa [performAll] using hdropped⟩
  | renameTable oldName newName =>
    obtain ⟨changes, hchanges, hmade⟩ := h
    cases hchanges
    have hone : perform current s (.renameTable (TableName.parts (c.tableName oldName))
        (TableName.bare newName)) = some t := by
      simpa [performAll] using hmade
    cases haddress : resolve current (TableName.parts (c.tableName oldName)) with
    | none => simp [perform, haddress] at hone
    | some address =>
      have hold := haddress
      rw [c.parts_tableName oldName] at hold
      obtain ⟨hbare, hnew⟩ := resolve_append hold (TableName.bare newName)
      rw [hbare] at haddress
      have hsame : c.frontParts (TableName.split oldName).1 =
          c.frontParts (TableName.split newName).1 := congrArg _ hundo
      rw [hsame, ← c.parts_tableName newName] at hnew
      have hrestored := perform_renameTable_back haddress hnew hone
      exact ⟨_, rfl, rfl, _, rfl, by simpa [performAll] using hrestored⟩
  | addColumn table column =>
    exact exists_changing_back rfl rfl rfl (fun _ _ _ => Table.dropColumn_addColumn) h
  | renameColumn table oldName newName =>
    exact exists_changing_back rfl rfl rfl (fun _ _ _ => Table.renameColumn_renameColumn) h
  | modifyColumn table name column previous =>
    obtain ⟨-, original, rfl, hvalue, hplain, hbefore⟩ := hundo
    have htype : (Layout.Column.ofDefinition original false).type =
        Text.lexemes .quotes (Dialect.Postgres.typeName original) := by
      rw [Layout.Column.ofDefinition, Dialect.Postgres.columnType, hplain]
      rfl
    rw [htype] at hbefore
    exact exists_changing_back rfl hvalue rfl
      (fun present _ hpresent => Table.alterColumns_alterColumns (hbefore present hpresent)) h
  | addPrimaryKey table name columns =>
    exact exists_changing_back rfl rfl rfl (fun _ _ _ => Table.dropConstraint_addConstraint) h
  | addForeignKey key =>
    exact exists_changing_back rfl rfl rfl (fun _ _ _ => Table.dropConstraint_addConstraint) h
  | addUniqueKey table name columns =>
    exact exists_changing_back rfl rfl rfl (fun _ _ _ => Table.dropConstraint_addConstraint) h
  | addIndex table name columns =>
    obtain ⟨changes, hchanges, hmade⟩ := h
    cases hchanges
    have hone : perform current s (.createIndex name (TableName.parts (c.tableName table))
        (keyDefinition [.symbol '('] columns)) = some t := by
      simpa [performAll] using hmade
    have hrestored := perform_dropIndex_back
      (fun address haddress => resolve_indexParts haddress name) hone
    exact ⟨_, rfl, rfl, _, rfl, by simpa [performAll] using hrestored⟩
  | addTableComment table comment =>
    exact exists_changing_back rfl rfl rfl
      (fun before _ hbefore => Table.comment_comment (hundo before hbefore)) h
  | addColumnComment table column comment =>
    exact exists_changing_back rfl rfl rfl
      (fun before _ hbefore => Table.commentColumn_commentColumn (hundo before hbefore)) h
  | _ => exact hundo.elim

/-! ### A list of operations -/

/-- Each operation can be undone from the layout that the ones before it lead to. -/
def UndoableInTurn (c : Client) (current : String) (db : Backend Layout) :
    Layout → List Operation → Prop
  | _, [] => True
  | layout, op :: rest =>
    op.Undoable c current layout ∧
      UndoableInTurn c current db ((op.apply c).runFrom db layout).final rest

variable {db : Backend Layout}

theorem succeeds_applyAll_cons_iff {op : Operation} {rest : List Operation} :
    (applyAll c (op :: rest)).Succeeds db s t ↔
      ∃ u, (op.apply c).Succeeds db s u ∧ (applyAll c rest).Succeeds db u t :=
  Action.succeeds_bind_iff fun _ _ => Iff.rfl

theorem succeeds_applyAll_append_iff {first second : List Operation} :
    (applyAll c (first ++ second)).Succeeds db s t ↔
      ∃ u, (applyAll c first).Succeeds db s u ∧ (applyAll c second).Succeeds db u t := by
  induction first generalizing s with
  | nil =>
    have hempty (u : Layout) : (applyAll c []).Succeeds db s u ↔ s = u :=
      Action.succeeds_pure_iff ()
    simp [hempty]
  | cons op first ih =>
    rw [List.cons_append, succeeds_applyAll_cons_iff]
    simp only [ih, succeeds_applyAll_cons_iff]
    constructor
    · rintro ⟨u, hop, v, hfirst, hsecond⟩
      exact ⟨v, ⟨u, hop, hfirst⟩, hsecond⟩
    · rintro ⟨v, ⟨u, hop, hfirst⟩, hsecond⟩
      exact ⟨u, hop, v, hfirst, hsecond⟩

/-- Operations on a PostgreSQL database that a strict client applies with success have inverses, and
applying these, the last one first, succeeds and restores the layout. -/
theorem reverseAll_restores (hdb : KeptBy current db) (hdialect : c.dialect = Dialect.postgres)
    (hstrict : c.config.strict = true) {ops : List Operation} {before after : Layout}
    (hundo : UndoableInTurn c current db before ops)
    (hok : (applyAll c ops).Succeeds db before after) :
    ∃ undo, reverseAll ops = some undo ∧ (applyAll c undo).Succeeds db after before := by
  induction ops generalizing before with
  | nil =>
    have hsame : before = after := (Action.succeeds_pure_iff ()).mp hok
    exact ⟨[], rfl, (Action.succeeds_pure_iff ()).mpr hsame.symm⟩
  | cons op rest ih =>
    obtain ⟨between, hop, hrest⟩ := succeeds_applyAll_cons_iff.mp hok
    obtain ⟨hfirst, hturn⟩ := hundo
    rw [hop.final] at hturn
    obtain ⟨undo, hreverse, hundone⟩ := ih hturn hrest
    have hmade := (succeeds_apply_iff hdb hdialect hstrict hfirst.isLegible).mp hop
    obtain ⟨back, hback, hlegible, hrestored⟩ := exists_reverse hfirst hmade
    have hbackOk := (succeeds_apply_iff hdb hdialect hstrict hlegible).mpr hrestored
    have hlast : (applyAll c [back]).Succeeds db between before :=
      succeeds_applyAll_cons_iff.mpr ⟨before, hbackOk, (Action.succeeds_pure_iff ()).mpr rfl⟩
    exact ⟨undo ++ [back], reverseAll_cons_eq_some_iff.mpr ⟨_, _, hback, hreverse, rfl⟩,
      succeeds_applyAll_append_iff.mpr ⟨between, hundone, hlast⟩⟩

/-- The layout of one table with a column of integers. -/
private def people : Layout where
  tables address :=
    if address = ("app", "people") then
      some ⟨[Layout.Column.ofDefinition (Column.integer "age") false], fun _ => none, none⟩
    else none
  indexes _ := none

/-- A column that is altered, in a table that is renamed and gets an index. -/
private def alterations : List Operation :=
  [.modifyColumn "people" "age" (Column.ofType "age" .bigInt).notNull (some (Column.integer "age")),
    .renameTable "people" "persons", .addIndex "persons" "persons_age" ["age"]]

theorem reverseAll_restores_people :
    ∃ undo, reverseAll alterations = some undo ∧
      (applyAll ⟨Dialect.postgres, some "app", {}⟩ undo).Succeeds (database "public")
        ((applyAll ⟨Dialect.postgres, some "app", {}⟩ alterations).runFrom (database "public")
          people).final people := by
  apply reverseAll_restores (keptBy_database "public") rfl rfl
  · refine ⟨⟨rfl, _, rfl, rfl, rfl, ?_⟩, rfl, True.intro, True.intro⟩
    intro present hpresent column hcolumn _
    rw [← Option.some.inj hpresent] at hcolumn
    rw [List.mem_singleton.mp hcolumn]
    exact ⟨rfl, rfl, rfl⟩
  · exact Action.succeeds_of_isOk (by decide +kernel)

end Operation

end SchemaEvolution
