import SchemaEvolution.Proofs.Postgres.Columns
import SchemaEvolution.Proofs.Table.Creation

/-!
# Reading the statements of the dialect

Each statement on tables, columns, constraints, indexes and comments that the PostgreSQL dialect
writes denotes the change of the object that it is written for.
-/

namespace SchemaEvolution.Layout

open Text (Lexeme Reads ReadsBehind)

/-! ### Pieces -/

theorem changeOf_eq {isOpen : Bool} {sql : String} {read : List Lexeme}
    (h : Reads .quotes isOpen sql read) : changeOf sql = readStatement read := by
  rw [changeOf, h.lexemes_eq]

theorem readName_lexemes (name : String) {rest : List Lexeme}
    (hrest : rest.head? ≠ some (.symbol '.')) :
    readName (TableName.lexemes name ++ rest) = (TableName.parts name, rest) :=
  readName_dotted (TableName.parts_ne_nil name) hrest

private theorem table (name : String) :
    Reads .quotes true (Dialect.postgres.quoteTable name) (TableName.lexemes name) :=
  Reads.table name

private theorem identifier (name : String) :
    Reads .quotes true (Dialect.postgres.quoteIdentifier name) [.identifier name] :=
  Reads.identifier name

/-- A statement about a table. -/
theorem readStatement_table (verb name : String) {rest : List Lexeme}
    (hrest : rest.head? ≠ some (.symbol '.')) :
    readStatement (.word verb :: .word "TABLE" :: (TableName.lexemes name ++ rest)) =
      readTableStatement verb (TableName.parts name) rest := by
  simp [readStatement, readName_lexemes name hrest]

/-- An alteration of a table is what stands behind the name of the table. -/
private theorem changeOf_alter {isOpen : Bool} {sql tableName : String} {rest : List Lexeme}
    (h : Reads .quotes isOpen sql
      ([.word "ALTER", .word "TABLE"] ++ TableName.lexemes tableName ++ rest))
    (hrest : rest.head? ≠ some (.symbol '.')) :
    changeOf sql = readAltered (TableName.parts tableName) rest := by
  rw [changeOf_eq h, List.append_assoc]
  exact readStatement_table "ALTER" tableName hrest

private theorem readAltered_of_ne {tableName : List String} {rest : List Lexeme}
    (h : rest.head? ≠ some (.word "RENAME")) :
    readAltered tableName rest = (readTableChange rest).map (.changeTable tableName) := by
  unfold readAltered
  split
  · exact absurd rfl h
  · rfl

private theorem altering (tableName : String) :
    Reads .quotes true ("ALTER TABLE " ++ Dialect.postgres.quoteTable tableName)
      ([.word "ALTER", .word "TABLE"] ++ TableName.lexemes tableName) :=
  (Reads.of_scan rfl).append (table tableName) rfl

variable (tableName name newName : String)

/-! ### Tables -/

theorem changeOf_dropTable :
    (Dialect.postgres.dropTable tableName).map changeOf =
      [some (.dropTable (TableName.parts tableName))] := by
  have hdrop : Reads .quotes false "DROP TABLE " [.word "DROP", .word "TABLE"] := Reads.of_scan rfl
  have hread := hdrop.append (table tableName) rfl
  have hchange : changeOf ("DROP TABLE " ++ Dialect.postgres.quoteTable tableName) =
      some (.dropTable (TableName.parts tableName)) := by
    rw [changeOf_eq hread, ← List.append_nil (TableName.lexemes tableName)]
    exact readStatement_table "DROP" tableName nofun
  exact congrArg (fun change => [change]) hchange

theorem changeOf_renameTable : changeOf (Dialect.postgres.renameTable tableName newName) =
    some (.renameTable (TableName.parts tableName) (TableName.bare newName)) := by
  have hrename : Reads .quotes false " RENAME TO " [.word "RENAME", .word "TO"] := Reads.of_scan rfl
  have hread := ((altering tableName).append hrename rfl).append
    (identifier (TableName.bare newName)) rfl
  rw [List.append_assoc] at hread
  exact changeOf_alter hread nofun

/-! ### Columns -/

theorem changeOf_dropColumn :
    (Dialect.postgres.dropColumn tableName name).map changeOf =
      [some (.changeTable (TableName.parts tableName) (.dropColumn name))] := by
  have hdrop : Reads .quotes false " DROP COLUMN " [.word "DROP", .word "COLUMN"] :=
    Reads.of_scan rfl
  have hread := ((altering tableName).append hdrop rfl).append (identifier name) rfl
  rw [List.append_assoc] at hread
  exact congrArg (fun change => [change]) (changeOf_alter hread nofun)

theorem changeOf_renameColumn : changeOf (Dialect.postgres.renameColumn tableName name newName) =
    some (.changeTable (TableName.parts tableName) (.renameColumn name newName)) := by
  have hrename : Reads .quotes false " RENAME COLUMN " [.word "RENAME", .word "COLUMN"] :=
    Reads.of_scan rfl
  have hto : Reads .quotes false " TO " [.word "TO"] := Reads.of_scan rfl
  have hread := ((((altering tableName).append hrename rfl).append (identifier name) rfl).append hto
    rfl).append (identifier newName) rfl
  rw [List.append_assoc, List.append_assoc, List.append_assoc] at hread
  exact changeOf_alter hread nofun

theorem changeOf_addColumn {column : SchemaEvolution.Column}
    (hvalue : ∀ value ∈ column.default, value.isValue = true) :
    changeOf (Dialect.postgres.addColumn tableName column) =
      some (.changeTable (TableName.parts tableName)
        (.addColumn (Column.ofDefinition column false))) := by
  have hadd : Reads .quotes false " ADD COLUMN " [.word "ADD", .word "COLUMN"] := Reads.of_scan rfl
  have hread := ((altering tableName).append hadd rfl).append (Column.reads_definition false hvalue)
    rfl
  rw [List.append_assoc] at hread
  have hcolumn := (Column.legible_ofDefinition false hvalue).readColumn_eq
  have hadded : readTableChange
      ([.word "ADD", .word "COLUMN"] ++ (Column.ofDefinition column false).lexemes) =
        some (.addColumn (Column.ofDefinition column false)) := by
    rw [List.cons_append, List.cons_append, List.nil_append, readTableChange, hcolumn]
    rfl
  have hchange := changeOf_alter hread nofun
  rw [readAltered_of_ne (by simp), hadded] at hchange
  exact hchange

/-- The change that gives columns the type, the nullability and the default of a definition. -/
def modification (name : String) (definition : SchemaEvolution.Column) : TableChange :=
  .alterColumns
    [(name, .type (Text.lexemes .quotes (Dialect.Postgres.typeName definition))),
      (name, .nullable definition.nullable),
      (name, .default (definition.default.map fun value =>
        Text.lexemes .quotes (Dialect.Postgres.renderDefault value)))]

/-- What stands behind the column in one part of an alteration, and what it gives the column. -/
private structure Gives (text : String) (read : List Lexeme) (trait : Trait) : Prop where
  reads : ReadsBehind .quotes text read
  trait : readTrait read = some trait
  whole : isWhole ',' 0 read = true

private theorem gives_written {words text : String} {wordsRead : List Lexeme} {trait : Trait}
    (hwords : Reads .quotes false words wordsRead) (hlead : Text.leads words.toList = true)
    (hwritten : Written .quotes text)
    (htrait : readTrait (wordsRead ++ Text.lexemes .quotes text) = some trait)
    (hwhole : isWhole ',' 0 wordsRead = true) :
    Gives (words ++ text) (wordsRead ++ Text.lexemes .quotes text) trait :=
  ⟨ReadsBehind.append hwords hlead hwritten.reads, htrait,
    isWhole_append hwhole hwritten.bare.whole⟩

private theorem gives_type (definition : SchemaEvolution.Column) :
    Gives (" TYPE " ++ Dialect.Postgres.typeName definition)
      ([.word "TYPE"] ++ Text.lexemes .quotes (Dialect.Postgres.typeName definition))
      (.type (Text.lexemes .quotes (Dialect.Postgres.typeName definition))) :=
  gives_written (Reads.of_scan rfl) rfl (written_typeName .postgres definition) rfl rfl

private theorem gives_nullable (isNullable : Bool) :
    ∃ read, Gives (if isNullable then " DROP NOT NULL" else " SET NOT NULL") read
      (.nullable isNullable) := by
  cases isNullable with
  | true => exact ⟨_, ReadsBehind.of_lexemes rfl rfl rfl, rfl, rfl⟩
  | false => exact ⟨_, ReadsBehind.of_lexemes rfl rfl rfl, rfl, rfl⟩

private theorem gives_default {default : Option DefaultValue}
    (hvalue : ∀ value ∈ default, value.isValue = true) :
    ∃ read, Gives
      (match default with
        | some value => " SET DEFAULT " ++ Dialect.Postgres.renderDefault value
        | none => " DROP DEFAULT") read
      (.default (default.map fun value =>
        Text.lexemes .quotes (Dialect.Postgres.renderDefault value))) := by
  cases default with
  | some value =>
    have hwritten := written_default .postgres (hvalue value rfl)
    exact ⟨_, gives_written (Reads.of_scan rfl) rfl hwritten rfl rfl⟩
  | none => exact ⟨_, ReadsBehind.of_lexemes rfl rfl rfl, rfl, rfl⟩

/-- Parts of an alteration that concern one column. -/
private theorem changeOf_alterColumns {parts : List (String × List Lexeme × Trait)}
    (hne : parts ≠ []) (hparts : ∀ p ∈ parts, Gives p.1 p.2.1 p.2.2) :
    changeOf ("ALTER TABLE " ++ Dialect.postgres.quoteTable tableName ++ " " ++
        commaList (parts.map fun p =>
          "ALTER COLUMN " ++ Dialect.postgres.quoteIdentifier name ++ p.1)) =
      some (.changeTable (TableName.parts tableName)
        (.alterColumns (parts.map fun p => (name, p.2.2)))) := by
  have hblank : Reads .quotes false " " [] := Reads.of_scan rfl
  have halter : Reads .quotes false "ALTER COLUMN " [.word "ALTER", .word "COLUMN"] :=
    Reads.of_scan rfl
  have hcolumn : Reads .quotes true ("ALTER COLUMN " ++ Dialect.postgres.quoteIdentifier name)
      [.word "ALTER", .word "COLUMN", .identifier name] := halter.append (identifier name) rfl
  have hitems := Reads.commaList parts fun p hp => (hparts p hp).reads hcolumn
  have hread := ((altering tableName).append hblank rfl).append hitems rfl
  rw [List.append_nil] at hread
  obtain ⟨tail, htail⟩ : ∃ tail, [Lexeme.symbol ','].intercalate (parts.map fun p =>
      [.word "ALTER", .word "COLUMN", .identifier name] ++ p.2.1) = .word "ALTER" :: tail := by
    cases parts with
    | nil => exact absurd rfl hne
    | cons p parts => cases parts <;> exact ⟨_, rfl⟩
  have hsplit : itemsOf 0 (.word "ALTER" :: tail) = parts.map fun p =>
      [.word "ALTER", .word "COLUMN", .identifier name] ++ p.2.1 := by
    rw [← htail]
    apply itemsOf_intercalate
    · simpa using hne
    · intro item hitem
      obtain ⟨p, hp, rfl⟩ := List.mem_map.mp hitem
      exact (hparts p hp).whole
  have halterations : (itemsOf 0 (.word "ALTER" :: tail)).mapM readAlteration =
      some (parts.map fun p => (name, p.2.2)) := by
    rw [hsplit]
    apply mapM_map_eq_some
    intro p hp
    simp [readAlteration, (hparts p hp).trait]
  rw [htail] at hread
  rw [changeOf_alter hread nofun, readAltered_of_ne (by simp)]
  simp [readTableChange, halterations]

theorem changeOf_modifyColumn {definition : SchemaEvolution.Column}
    (hvalue : ∀ value ∈ definition.default, value.isValue = true) :
    changeOf (Dialect.Postgres.modifyColumn tableName name definition) =
      some (.changeTable (TableName.parts tableName) (modification name definition)) := by
  obtain ⟨nullableRead, hnullable⟩ := gives_nullable definition.nullable
  obtain ⟨defaultRead, hdefault⟩ := gives_default hvalue
  have hchange := @changeOf_alterColumns tableName name
    [⟨_, _, _⟩, ⟨_, nullableRead, _⟩, ⟨_, defaultRead, _⟩] (List.cons_ne_nil _ _)
    (by simpa using ⟨gives_type definition, hnullable, hdefault⟩)
  rw [List.map_cons, ← String.append_assoc] at hchange
  exact hchange

/-! ### Constraints -/

/-- What a foreign key is. -/
def foreignDefinition (key : ForeignKey) : List Lexeme :=
  [.word "FOREIGN", .word "KEY", .symbol '('] ++ [.identifier key.column] ++
    [.symbol ')', .word "REFERENCES"] ++ TableName.lexemes key.referencedTable ++ [.symbol '('] ++
      [.identifier key.referencedColumn] ++ [.symbol ')', .word "ON", .word "DELETE"] ++
        Text.lexemes .quotes key.onDelete.keywords

private theorem constraining : Reads .quotes true ("ALTER TABLE " ++
    Dialect.postgres.quoteTable tableName ++ " ADD CONSTRAINT " ++
      Dialect.postgres.quoteIdentifier name)
    ([.word "ALTER", .word "TABLE"] ++ TableName.lexemes tableName ++
      [.word "ADD", .word "CONSTRAINT"] ++ [.identifier name]) :=
  ((altering tableName).append (Reads.of_scan rfl) rfl).append (identifier name) rfl

private theorem changeOf_constrain {isOpen : Bool} {sql tableName name : String}
    {definition : List Lexeme}
    (h : Reads .quotes isOpen sql ([.word "ALTER", .word "TABLE"] ++ TableName.lexemes tableName ++
      [.word "ADD", .word "CONSTRAINT"] ++ [.identifier name] ++ definition)) :
    changeOf sql =
      some (.changeTable (TableName.parts tableName) (.addConstraint name definition)) := by
  rw [List.append_assoc, List.append_assoc] at h
  rw [changeOf_alter h nofun, readAltered_of_ne (by simp)]
  rfl

theorem changeOf_addPrimaryKey (columns : List String) :
    (Dialect.postgres.addPrimaryKey tableName name columns).map changeOf =
      .ok (some (.changeTable (TableName.parts tableName) (.addConstraint name
        (primaryDefinition columns)))) := by
  have hwords : Reads .quotes false " PRIMARY KEY ("
      [.word "PRIMARY", .word "KEY", .symbol '('] := Reads.of_scan rfl
  have hread := reads_columns (constraining tableName name) hwords rfl columns
  exact congrArg Except.ok (changeOf_constrain hread)

theorem changeOf_addUniqueKey (columns : List String) :
    (Dialect.postgres.addUniqueKey name tableName columns).map changeOf =
      .ok (some (.changeTable (TableName.parts tableName) (.addConstraint name
        (keyDefinition [.word "UNIQUE", .symbol '('] columns)))) := by
  have hwords : Reads .quotes false " UNIQUE (" [.word "UNIQUE", .symbol '('] := Reads.of_scan rfl
  have hread := reads_columns (constraining tableName name) hwords rfl columns
  exact congrArg Except.ok (changeOf_constrain hread)

theorem changeOf_addForeignKey (key : ForeignKey) :
    (Dialect.postgres.addForeignKey key).map changeOf =
      .ok (some (.changeTable (TableName.parts key.table)
        (.addConstraint key.name (foreignDefinition key)))) := by
  have hwords : Reads .quotes false " FOREIGN KEY ("
      [.word "FOREIGN", .word "KEY", .symbol '('] := Reads.of_scan rfl
  have hreferences : Reads .quotes false ") REFERENCES " [.symbol ')', .word "REFERENCES"] :=
    Reads.of_scan rfl
  have hopening : Reads .quotes false " (" [.symbol '('] := Reads.of_scan rfl
  have hdelete : Reads .quotes false ") ON DELETE "
      [.symbol ')', .word "ON", .word "DELETE"] := Reads.of_scan rfl
  have haction : Reads .quotes true key.onDelete.keywords
      (Text.lexemes .quotes key.onDelete.keywords) := by
    cases key.onDelete <;> exact Reads.of_lexemes rfl rfl
  have hread := ((((((((constraining key.table key.name).append hwords rfl).append
    (identifier key.column) rfl).append hreferences rfl).append (table key.referencedTable)
      rfl).append hopening rfl).append (identifier key.referencedColumn) rfl).append hdelete
        rfl).append haction rfl
  have hchange := @changeOf_constrain _ _ key.table key.name (foreignDefinition key)
    (by simpa only [foreignDefinition, List.append_assoc] using hread)
  exact congrArg Except.ok hchange

theorem changeOf_dropConstraint :
    (Dialect.postgres.dropConstraint tableName name).map changeOf =
      .ok (some (.changeTable (TableName.parts tableName) (.dropConstraint name))) := by
  have hdrop : Reads .quotes false " DROP CONSTRAINT " [.word "DROP", .word "CONSTRAINT"] :=
    Reads.of_scan rfl
  have hread := ((altering tableName).append hdrop rfl).append (identifier name) rfl
  rw [List.append_assoc] at hread
  exact congrArg Except.ok (changeOf_alter hread nofun)

/-! ### Indexes -/

theorem changeOf_createIndex (columns : List String) :
    changeOf (Dialect.postgres.createIndex name tableName columns) =
      some (.createIndex name (TableName.parts tableName)
        (keyDefinition [.symbol '('] columns)) := by
  have hcreate : Reads .quotes false "CREATE INDEX " [.word "CREATE", .word "INDEX"] :=
    Reads.of_scan rfl
  have hon : Reads .quotes false " ON " [.word "ON"] := Reads.of_scan rfl
  have hopening : Reads .quotes false " (" [.symbol '('] := Reads.of_scan rfl
  have hread := reads_columns (((hcreate.append (identifier name) rfl).append hon rfl).append
    (table tableName) rfl) hopening rfl columns
  refine (changeOf_eq hread).trans ?_
  rw [List.append_assoc]
  have hname : readName (TableName.lexemes tableName ++ keyDefinition [.symbol '('] columns) =
      (TableName.parts tableName, keyDefinition [.symbol '('] columns) :=
    readName_lexemes tableName nofun
  have hindex : readStatement (.word "CREATE" :: .word "INDEX" :: .identifier name :: .word "ON" ::
      (TableName.lexemes tableName ++ keyDefinition [.symbol '('] columns)) =
        some (.createIndex name (TableName.parts tableName)
          (keyDefinition [.symbol '('] columns)) := by
    simp [readStatement, hname]
  exact hindex

/-- The name under which the index of a table is dropped. -/
def indexParts (tableName name : String) : List String :=
  match (TableName.split tableName).1 with
  | some schema => [schema, name]
  | none => [name]

theorem changeOf_dropIndex : changeOf (Dialect.postgres.dropIndex name tableName) =
    some (.dropIndex (indexParts tableName name)) := by
  have hdrop : Reads .quotes false "DROP INDEX " [.word "DROP", .word "INDEX"] := Reads.of_scan rfl
  have hstatement (parts : List String) (hne : parts ≠ []) :
      readStatement (.word "DROP" :: .word "INDEX" :: dotted parts) = some (.dropIndex parts) := by
    have hname : readName (dotted parts) = (parts, []) := by
      rw [← List.append_nil (dotted parts)]
      exact readName_dotted hne nofun
    simp [readStatement, hname]
  have hsplit : Dialect.postgres.dropIndex name tableName =
      dropIndexStatement Dialect.postgres.quoteIdentifier name tableName := rfl
  rw [hsplit, dropIndexStatement, indexParts]
  cases (TableName.split tableName).1 with
  | some schema =>
    have hread := ((hdrop.append (identifier schema) rfl).append Reads.dot rfl).append
      (identifier name) rfl
    exact (changeOf_eq hread).trans (hstatement [schema, name] (List.cons_ne_nil _ _))
  | none =>
    have hread := hdrop.append (identifier name) rfl
    exact (changeOf_eq hread).trans (hstatement [name] (List.cons_ne_nil _ _))

/-! ### Comments -/

/-- What a comment is set to, or that there is none. -/
private structure Sets (text : String) (read : List Lexeme) (comment : Option String) : Prop where
  reads : ReadsBehind .quotes text read
  comment : readComment read = some comment
  head : read.head? = some (.word "IS")

private theorem sets_literal (comment : String) :
    Sets (" IS " ++ Dialect.postgres.quoteLiteral comment) ([.word "IS"] ++ [.literal comment])
      (some comment) where
  reads := ReadsBehind.append (Reads.of_scan rfl) rfl (Reads.literal comment)
  comment := rfl
  head := rfl

private theorem sets_null : Sets " IS NULL" [.word "IS", .word "NULL"] none where
  reads := ReadsBehind.of_lexemes rfl rfl rfl
  comment := rfl
  head := rfl

private theorem changeOf_comment {text : String} {read : List Lexeme} {comment : Option String}
    (h : Sets text read comment) :
    changeOf ("COMMENT ON TABLE " ++ Dialect.postgres.quoteTable tableName ++ text) =
      some (.changeTable (TableName.parts tableName) (.comment comment)) := by
  have hon : Reads .quotes false "COMMENT ON TABLE " [.word "COMMENT", .word "ON", .word "TABLE"] :=
    Reads.of_scan rfl
  have hdot : read.head? ≠ some (.symbol '.') := by
    rw [h.head]
    nofun
  rw [changeOf_eq (h.reads (hon.append (table tableName) rfl)), List.append_assoc]
  simp [readStatement, readName_lexemes tableName hdot, h.comment]

private theorem changeOf_commentColumn {text : String} {read : List Lexeme}
    {comment : Option String} (h : Sets text read comment) :
    changeOf ("COMMENT ON COLUMN " ++ Dialect.postgres.quoteTable tableName ++ "." ++
        Dialect.postgres.quoteIdentifier name ++ text) =
      some (.changeTable (TableName.parts tableName) (.commentColumn name comment)) := by
  have hon : Reads .quotes false "COMMENT ON COLUMN "
      [.word "COMMENT", .word "ON", .word "COLUMN"] := Reads.of_scan rfl
  have hread := h.reads (((hon.append (table tableName) rfl).append Reads.dot rfl).append
    (identifier name) rfl)
  have hlexemes : [.word "COMMENT", .word "ON", .word "COLUMN"] ++ TableName.lexemes tableName ++
      [.symbol '.'] ++ [.identifier name] ++ read =
        .word "COMMENT" :: .word "ON" :: .word "COLUMN" ::
          (dotted (TableName.parts tableName ++ [name]) ++ read) := by
    rw [dotted_append_singleton (TableName.parts_ne_nil tableName) name, List.append_assoc,
      List.append_assoc, List.append_assoc, List.append_assoc]
    rfl
  have hname : readName (dotted (TableName.parts tableName ++ [name]) ++ read) =
      (TableName.parts tableName ++ [name], read) := by
    apply readName_dotted (List.append_ne_nil_of_right_ne_nil _ (List.cons_ne_nil _ _))
    rw [h.head]
    nofun
  rw [changeOf_eq hread, hlexemes]
  simp [readStatement, hname, h.comment]

theorem changeOf_addTableComment (comment : String) :
    (Dialect.postgres.addTableComment tableName comment).map changeOf =
      .ok (some (.changeTable (TableName.parts tableName) (.comment (some comment)))) := by
  have hchange := changeOf_comment tableName (sets_literal comment)
  rw [← String.append_assoc] at hchange
  exact congrArg Except.ok hchange

theorem changeOf_removeTableComment :
    (Dialect.postgres.removeTableComment tableName).map changeOf =
      .ok (some (.changeTable (TableName.parts tableName) (.comment none))) :=
  congrArg Except.ok (changeOf_comment tableName sets_null)

theorem changeOf_addColumnComment (comment : String) :
    (Dialect.postgres.addColumnComment tableName name comment).map changeOf =
      .ok (some (.changeTable (TableName.parts tableName)
        (.commentColumn name (some comment)))) := by
  have hchange := changeOf_commentColumn tableName name (sets_literal comment)
  rw [← String.append_assoc] at hchange
  exact congrArg Except.ok hchange

theorem changeOf_removeColumnComment :
    (Dialect.postgres.removeColumnComment tableName name).map changeOf =
      .ok (some (.changeTable (TableName.parts tableName) (.commentColumn name none))) :=
  congrArg Except.ok (changeOf_commentColumn tableName name sets_null)

/-! ### Tables with their columns -/

/-- The changes that set the comments of a table's columns. -/
def comments (table : SchemaEvolution.Table) : List Change :=
  table.columns.filterMap fun column =>
    column.comment.map fun comment =>
      .changeTable (TableName.parts table.name) (.commentColumn column.name (some comment))

/-- The changes that create a table: the table, and then the comments of its columns. -/
def creation (table : SchemaEvolution.Table) : List Change :=
  .createTable (TableName.parts table.name)
      (table.columns.map fun column =>
        Column.ofDefinition column (table.keyColumns.length == 1 && column.primaryKey))
      (if 1 < table.keyColumns.length then
        [(TableName.primaryKey table.name, primaryDefinition (table.keyColumns.map (·.name)))]
      else []) ::
    comments table

section Creation

variable {table : SchemaEvolution.Table}

/-- The items of the statement that creates a table are read as what the table is made of. -/
private theorem mapM_readItem_items
    (hvalues : ∀ column ∈ table.columns, column.defaultIsValue = true) :
    (table.items .postgres).mapM readItem =
      some ((table.columns.map fun column =>
          Item.column (Column.ofDefinition column (table.isOnlyKey column))) ++
        if 1 < table.keyColumns.length then
          [.constraint (TableName.primaryKey table.name)
            (primaryDefinition (table.keyColumns.map (·.name)))]
        else []) := by
  have hcolumns : (table.columns.map (table.definitionLexemes .postgres)).mapM readItem =
      some (table.columns.map fun column =>
        Item.column (Column.ofDefinition column (table.isOnlyKey column))) := by
    apply mapM_map_eq_some
    intro column hcolumn
    have hread := (table.defines_definitionLexemes .postgres (hvalues column hcolumn)).reads
    rw [← Column.ofDefinition_eq] at hread
    exact congrArg (Option.map Item.column) hread
  rw [SchemaEvolution.Table.items, SchemaEvolution.Table.keyLexemes, ← TableName.primaryKey_eq,
    List.mapM_append, hcolumns]
  split <;> rfl

private theorem changeOf_creationText (hne : table.columns ≠ [])
    (hvalues : ∀ column ∈ table.columns, column.defaultIsValue = true) :
    changeOf (table.creationText .postgres) =
      some (.createTable (TableName.parts table.name)
        (table.columns.map fun column => Column.ofDefinition column (table.isOnlyKey column))
        (if 1 < table.keyColumns.length then
          [(TableName.primaryKey table.name,
            primaryDefinition (table.keyColumns.map (·.name)))]
        else [])) := by
  have hlexemes := SchemaEvolution.Table.lexemes_creationText .postgres hvalues
  have hitems := SchemaEvolution.Table.itemsOf_items .postgres hne hvalues
  rw [changeOf]
  refine (congrArg readStatement hlexemes).trans ((readStatement_table "CREATE" table.name
    (by simp)).trans ?_)
  simp only [readTableStatement, ↓reduceIte, readTable, List.getLast?_append,
    List.getLast?_singleton, Option.some_or, ne_eq, List.cons_ne_self, not_false_eq_true,
    List.dropLast_append_of_ne_nil, List.dropLast_singleton, List.append_nil, hitems,
    mapM_readItem_items hvalues, Option.bind_eq_bind, Option.bind_some, List.filterMap_append,
    List.filterMap_map, Option.some.injEq, Change.createTable.injEq, true_and]
  split <;> simp [Function.comp_def, Item.column?, Item.constraint?]

private theorem changeOf_comments :
    (table.commentTexts .postgres).map changeOf = (comments table).map some := by
  rw [SchemaEvolution.Table.commentTexts, comments, List.map_filterMap, List.map_filterMap]
  congr
  funext column
  cases column.comment with
  | none => rfl
  | some comment =>
    have hcomment := changeOf_addColumnComment table.name column.name comment
    exact congrArg Except.toOption hcomment

/-- The statements that create a table denote the changes that create it. -/
theorem changeOf_createTable (hne : table.columns.isEmpty = false)
    (hvalue : ∀ column ∈ table.columns, ∀ value ∈ column.default, value.isValue = true) :
    (Dialect.postgres.createTable table).map (List.map changeOf) =
      .ok ((creation table).map some) := by
  have hcolumns : table.columns ≠ [] := by simpa using hne
  have hvalues : ∀ column ∈ table.columns, column.defaultIsValue = true := by
    intro column hcolumn
    simpa [SchemaEvolution.Column.defaultIsValue, Option.all_eq_true] using hvalue column hcolumn
  have hsqls : _ :: _ = (creation table).map some :=
    congr (congrArg _ (changeOf_creationText hcolumns hvalues)) changeOf_comments
  have hcreates := SchemaEvolution.Table.createTable_eq .postgres hcolumns
  exact (congrArg (Except.map (List.map changeOf)) hcreates).trans (congrArg Except.ok hsqls)

end Creation

end SchemaEvolution.Layout
