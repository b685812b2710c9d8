import SchemaEvolution.Proofs.Dialect.Objects

/-!
# What is added is what is dropped

On SQLite and on SQL Server an operation that adds an object, if the dialect has a statement for it,
has an inverse that the dialect has statements for as well. The names in these are read as those of
the object that was added, whatever the names are (`reverse_drops_addition`).
-/

namespace SchemaEvolution.Operation

open Dialect (Supported)

/-! ### Objects of operations -/

/-- The object that an operation adds in SQLite or in SQL Server. SQLite has its unique keys as
indexes, and its indexes in the schemas of their tables. -/
def addition? (k : Supported) (c : Client) : Operation → Option Object
  | .createTable table => some (.table (TableName.parts (c.tableName table.name)))
  | .addColumn table column => some (.column (TableName.parts (c.tableName table)) column.name)
  | .addPrimaryKey table name _ =>
    some (.constraint (TableName.parts (c.tableName table))
      (name.getD (TableName.primaryKey table)))
  | .addForeignKey key => some (.constraint (TableName.parts (c.tableName key.table)) key.name)
  | .addUniqueKey table name _ =>
    match k with
    | .sqlite => some (.index (Layout.indexParts (c.tableName table) name))
    | _ => some (.constraint (TableName.parts (c.tableName table)) name)
  | .addIndex table name _ =>
    match k with
    | .sqlite => some (.index (Layout.indexParts (c.tableName table) name))
    | _ => some (.index [name])
  | .addTableComment table _ => some (Mention.commentOn (c.tableName table) none)
  | .addColumnComment table column _ => some (Mention.commentOn (c.tableName table) (some column))
  | _ => none

/-- The table that is named where an index is created, and where it is dropped. In SQLite the first
has no schema, and the second is left out. -/
def indexed (k : Supported) (c : Client) : Operation → Option (List String) × Option (List String)
  | .addUniqueKey table _ _ =>
    match k with
    | .sqlite => (some [TableName.bare (c.tableName table)], none)
    | _ => (none, none)
  | .addIndex table _ _ =>
    match k with
    | .sqlite => (some [TableName.bare (c.tableName table)], none)
    | _ => (some (TableName.parts (c.tableName table)), some (TableName.parts (c.tableName table)))
  | _ => (none, none)

/-- Statements that add an object and statements that drop it name the same one. The first are the
addition and comments on the columns of a new table; the others are the removal, in front of which
the default of a column may be dropped, which is that of the same column. -/
structure Agree (k : Supported) (c : Client) (op : Operation) (object : Object) (add : String)
    (comments : List String) (clear : Option String) (drop : String) : Prop where
  adds : Mention.read k add = some (.adds object (op.indexed k c).1)
  drops : Mention.read k drop = some (.drops object (op.indexed k c).2)
  comments : ∀ sql ∈ comments, ∃ table column, op = .createTable table ∧ column ∈ table.columns ∧
    Mention.read k sql =
      some (.adds (Mention.commentOn (c.tableName table.name) (some column.name)) none)
  clears : ∀ sql ∈ clear, ∃ table column, object = .column table column ∧
    Mention.read k sql = some (.clearsDefault table column)

variable {k : Supported} {c : Client} {op inverse : Operation} {object : Object}
  {statements : List Statement}

/-- What creates nothing is not forgiven anything: its statements are sent. -/
theorem apply_of_not_isCreation (hcreation : op.isCreation = false)
    (hstatements : op.statements c = .ok statements) : op.apply c = sendEach statements := by
  have hnothing : op.passesOver c = fun _ => false := by
    funext e
    rw [passesOver, hcreation, Bool.false_and, Bool.false_and]
  rw [apply_eq, hstatements, hnothing]
  exact pardon_none _

/-- What has to be shown of an operation that adds an object. -/
private def Reversed (k : Supported) (c : Client) (op : Operation) (object : Object)
    (statements : List Statement) : Prop :=
  ∃ inverse add comments clear drop, op.reverse = some inverse ∧
    statements = bare (add :: comments) ∧
    inverse.statements c = .ok (bare (clear.toList ++ [drop])) ∧
    inverse.apply c = sendEach (bare (clear.toList ++ [drop])) ∧
    op.Agree k c object add comments clear drop

/-- One statement that adds, and one that drops. -/
private theorem reversed_of_one {add drop : String} (hreverse : op.reverse = some inverse)
    (hback : inverse.statements c = .ok (bare [drop])) (hcreation : inverse.isCreation = false)
    (hadds : Mention.read k add = some (.adds object (op.indexed k c).1))
    (hdrops : Mention.read k drop = some (.drops object (op.indexed k c).2)) :
    Reversed k c op object (bare [add]) :=
  ⟨inverse, add, [], none, drop, hreverse, rfl, hback, apply_of_not_isCreation hcreation hback,
    hadds, hdrops, nofun, nofun⟩

/-- The comments that come with a table are on its columns. SQLite has none. -/
private theorem read_commentTexts (hk : k = .sqlite ∨ k = .sqlServer) {table : Table} {sql : String}
    (hsql : sql ∈ Table.commentTexts k table) : ∃ column ∈ table.columns,
      Mention.read k sql =
        some (.adds (Mention.commentOn table.name (some column.name)) none) := by
  obtain ⟨column, hcolumn, hcomment⟩ := List.mem_filterMap.mp hsql
  obtain ⟨comment, -, hwritten⟩ := Option.bind_eq_some_iff.mp hcomment
  rcases hk with rfl | rfl
  · cases hwritten
  · cases hwritten
    exact ⟨column, hcolumn, Mention.read_addComment table.name comment (some column.name)⟩

private theorem reversed_createTable (hk : k = .sqlite ∨ k = .sqlServer)
    (hdialect : c.dialect = k.dialect) {table : Table}
    (hstatements : (Operation.createTable table).statements c = .ok statements) :
    Reversed k c (.createTable table) (.table (TableName.parts (c.tableName table.name)))
      statements := by
  rw [Operation.statements, hdialect] at hstatements
  by_cases hempty : table.columns = []
  · have hrefused : k.dialect.createTable ⟨c.tableName table.name, table.columns⟩ =
        .error (.invalidArgument (.tableWithoutColumns (c.tableName table.name))) := by
      rw [hempty]
      cases k <;> rfl
    rw [hrefused] at hstatements
    cases hstatements
  · have hwritten := @Table.createTable_eq k ⟨c.tableName table.name, table.columns⟩ hempty
    rw [hwritten] at hstatements
    cases hstatements
    obtain ⟨drop, hdrops, hread⟩ :=
      List.map_eq_singleton_iff.mp (Mention.read_dropTable k (c.tableName table.name))
    have hback : (Operation.dropTable table.name).statements c = .ok (bare [drop]) := by
      rw [Operation.statements, hdialect, hdrops]
    refine ⟨_, _, _, none, drop, rfl, rfl, hback, apply_of_not_isCreation rfl hback,
      Mention.read_creationText k _, hread, ?_, fun _ hclear => ?_⟩
    · intro sql hsql
      obtain ⟨column, hcolumn, hcomment⟩ := read_commentTexts hk hsql
      exact ⟨table, column, rfl, hcolumn, hcomment⟩
    · cases hclear

private theorem reversed_sqlite (hdialect : c.dialect = Dialect.sqlite)
    (hobject : op.addition? .sqlite c = some object)
    (hstatements : op.statements c = .ok statements) :
    Reversed .sqlite c op object statements := by
  obtain ⟨dialect, schema, config⟩ := c
  subst hdialect
  cases op with
  | createTable table =>
    cases hobject
    exact reversed_createTable (.inl rfl) rfl hstatements
  | addColumn table column =>
    cases hobject
    cases hstatements
    exact reversed_of_one rfl rfl rfl (Mention.read_addColumn .sqlite _ column)
      (Mention.read_dropColumn .sqlite _ column.name)
  | addUniqueKey table name columns =>
    cases hobject
    cases hstatements
    exact reversed_of_one rfl rfl rfl
      (Mention.read_indexStatement _ name (Text.Reads.of_lexemes rfl rfl) (fun _ => rfl) columns)
      (Mention.read_dropIndexStatement _ name)
  | addIndex table name columns =>
    cases hobject
    cases hstatements
    exact reversed_of_one rfl rfl rfl
      (Mention.read_indexStatement _ name (Text.Reads.of_lexemes rfl rfl) (fun _ => rfl) columns)
      (Mention.read_dropIndexStatement _ name)
  | addPrimaryKey _ _ _ => cases hstatements
  | addForeignKey _ => cases hstatements
  | addTableComment _ _ => cases hstatements
  | addColumnComment _ _ _ => cases hstatements
  | _ => cases hobject

private theorem reversed_sqlServer (hdialect : c.dialect = Dialect.sqlServer)
    (hobject : op.addition? .sqlServer c = some object)
    (hstatements : op.statements c = .ok statements) :
    Reversed .sqlServer c op object statements := by
  obtain ⟨dialect, schema, config⟩ := c
  subst hdialect
  cases op with
  | createTable table =>
    cases hobject
    exact reversed_createTable (.inr rfl) rfl hstatements
  | addColumn table column =>
    cases hobject
    cases hstatements
    refine ⟨_, _, [], some _, _, rfl, rfl, rfl, apply_of_not_isCreation rfl rfl,
      Mention.read_addColumn .sqlServer _ column, Mention.read_dropColumn .sqlServer _ column.name,
      nofun, ?_⟩
    rintro sql ⟨⟩
    exact ⟨_, _, rfl, Mention.read_dropDefault _ column.name⟩
  | addPrimaryKey table name columns =>
    cases hobject
    cases hstatements
    exact reversed_of_one rfl rfl rfl (Except.ok.inj (Mention.read_addPrimaryKey _ _ columns))
      (Except.ok.inj (Mention.read_dropConstraint _ _))
  | addForeignKey key =>
    cases hobject
    cases hstatements
    exact reversed_of_one rfl rfl rfl (Except.ok.inj (Mention.read_addForeignKey _))
      (Except.ok.inj (Mention.read_dropConstraint _ _))
  | addUniqueKey table name columns =>
    cases hobject
    cases hstatements
    exact reversed_of_one rfl rfl rfl (Except.ok.inj (Mention.read_addUniqueKey _ name columns))
      (Except.ok.inj (Mention.read_dropConstraint _ name))
  | addIndex table name columns =>
    cases hobject
    cases hstatements
    exact reversed_of_one rfl rfl rfl (Mention.read_createIndex _ name columns)
      (Mention.read_dropIndex _ name)
  | addTableComment table comment =>
    cases hobject
    cases hstatements
    exact reversed_of_one rfl rfl rfl (Mention.read_addComment _ comment none)
      (Mention.read_dropComment _ none)
  | addColumnComment table column comment =>
    cases hobject
    cases hstatements
    exact reversed_of_one rfl rfl rfl (Mention.read_addComment _ comment (some column))
      (Mention.read_dropComment _ (some column))
  | _ => cases hobject

/-- What is added is what is dropped. On SQLite and on SQL Server, an operation that adds an object
and that can be written has an inverse that can be written. The one statement of it, or the last one
of two, drops the object that the first statement of the operation adds, under the same name and in
the same schema. Where there are two, the first drops the default of the same column. -/
theorem reverse_drops_addition (hk : k = .sqlite ∨ k = .sqlServer)
    (hdialect : c.dialect = k.dialect) (hobject : op.addition? k c = some object)
    (hstatements : op.statements c = .ok statements) :
    ∃ inverse add comments clear drop, op.reverse = some inverse ∧
      statements = bare (add :: comments) ∧
      inverse.statements c = .ok (bare (clear.toList ++ [drop])) ∧
      inverse.apply c = sendEach (bare (clear.toList ++ [drop])) ∧
      op.Agree k c object add comments clear drop := by
  rcases hk with rfl | rfl
  · exact reversed_sqlite hdialect hobject hstatements
  · exact reversed_sqlServer hdialect hobject hstatements

/-- A column of SQL Server with an expression that closes what it did not open, and dots, quotes and
brackets in the names. -/
theorem reverse_drops_addition_of_column :
    ∃ add clear drop,
      (Operation.addColumn "my.t]" ((Column.integer "a\x27b").withDefault
          (.expression "\x27)"))).statements ⟨.sqlServer, some "ignored", {}⟩ = .ok (bare [add]) ∧
      (Operation.dropColumn "my.t]" "a\x27b").statements ⟨.sqlServer, some "ignored", {}⟩ =
        .ok (bare [clear, drop]) ∧
      Mention.read .sqlServer add = some (.adds (.column ["my", "t]"] "a\x27b") none) ∧
      Mention.read .sqlServer clear = some (.clearsDefault ["my", "t]"] "a\x27b") ∧
      Mention.read .sqlServer drop = some (.drops (.column ["my", "t]"] "a\x27b") none) := by
  obtain ⟨inverse, add, comments, clear, drop, hreverse, hforward, hback, -, hagree⟩ :=
    @reverse_drops_addition .sqlServer ⟨.sqlServer, some "ignored", {}⟩
      (.addColumn "my.t]" ((Column.integer "a\x27b").withDefault (.expression "\x27)"))) _ _
      (.inr rfl) rfl rfl rfl
  cases hreverse
  have hnone : comments = [] := List.map_eq_nil_iff.mp (List.cons.inj hforward).2.symm
  subst hnone
  cases clear with
  | none => cases hback
  | some clear =>
    obtain ⟨table, column, hcolumn, hclear⟩ := hagree.clears clear rfl
    cases hcolumn
    exact ⟨add, clear, drop, congrArg Except.ok hforward, hback, hagree.adds, hclear, hagree.drops⟩

end SchemaEvolution.Operation
