import SchemaEvolution.Proofs.Sqlite.Creations
import SchemaEvolution.Proofs.SqlServer.Batch

/-!
# Objects that statements name

What the statements of SQLite and of SQL Server name, and whether they add it or drop it. Of a
statement that adds something only the beginning is looked at, up to the name; so it can be read
whatever follows, expressions as defaults included.
-/

namespace SchemaEvolution

open Dialect (Supported)
open Text (Delimiters Lexeme Reads)

/-! ### Beginnings -/

namespace Text

/-- However it goes on, the text begins with some lexemes. -/
def Begins (d : Delimiters) (text : String) (read : List Lexeme) : Prop :=
  ∃ before after, text = before ++ after ∧ Reads d false before read

namespace Begins

variable {d : Delimiters} {before text : String} {beforeRead read : List Lexeme}

theorem of_reads (h : Reads d false text read) : Begins d text read :=
  ⟨text, "", String.append_empty.symm, h⟩

/-- What follows does not matter. -/
theorem append (h : Begins d text read) (rest : String) : Begins d (text ++ rest) read := by
  obtain ⟨first, second, rfl, hfirst⟩ := h
  exact ⟨first, second ++ rest, String.append_assoc, hfirst⟩

theorem prepend (h : Begins d text read) (hbefore : Reads d false before beforeRead) :
    Begins d (before ++ text) (beforeRead ++ read) := by
  obtain ⟨first, second, rfl, hfirst⟩ := h
  exact ⟨before ++ first, second, String.append_assoc.symm, hbefore.append hfirst rfl⟩

theorem lexemes_eq (h : Begins d text read) : ∃ rest, lexemes d text = read ++ rest := by
  obtain ⟨first, second, rfl, hfirst⟩ := h
  refine ⟨lexemes d second, ?_⟩
  rw [lexemes, String.toList_append]
  exact hfirst second.toList fun h => absurd h Bool.false_ne_true

end Begins

end Text

/-! ### Reading -/

/-- An object of a database. Tables and indexes have the parts of their names; a comment is an
extended property of a table in a schema, or of a column of it. -/
inductive Object where
  | table (name : List String)
  | column (table : List String) (name : String)
  | constraint (table : List String) (name : String)
  | index (name : List String)
  | comment (schema table : String) (column : Option String)
  deriving DecidableEq, Repr

/-- What a statement does to the object that it names. Where an index is created or dropped, its
table may be named as well. -/
inductive Mention where
  | adds (object : Object) (on : Option (List String))
  | drops (object : Object) (on : Option (List String))
  | clearsDefault (table : List String) (column : String)
  deriving DecidableEq, Repr

namespace Mention

/-- The table that is created, from its name on. -/
def readCreated (rest : List Lexeme) : Option Mention :=
  match Layout.readName rest with
  | (name, .symbol '(' :: _) => some (.adds (.table name) none)
  | _ => none

/-- What is added to a table or dropped from it. -/
def readAltered (table : List String) : List Lexeme → Option Mention
  | .word "ADD" :: .word "CONSTRAINT" :: .identifier name :: _ =>
    some (.adds (.constraint table name) none)
  | .word "ADD" :: .word "COLUMN" :: .identifier name :: _ =>
    some (.adds (.column table name) none)
  | .word "ADD" :: .identifier name :: _ => some (.adds (.column table name) none)
  | [.word "DROP", .word "CONSTRAINT", .identifier name] =>
    some (.drops (.constraint table name) none)
  | [.word "DROP", .word "COLUMN", .identifier name] => some (.drops (.column table name) none)
  | _ => none

/-- The index that is created, from its name on. -/
def readCreatedIndex (rest : List Lexeme) : Option Mention :=
  match Layout.readName rest with
  | (name, .word "ON" :: more) => some (.adds (.index name) (some (Layout.readName more).1))
  | _ => none

/-- The index that is dropped, from its name on. -/
def readDroppedIndex (rest : List Lexeme) : Option Mention :=
  match Layout.readName rest with
  | (name, []) => some (.drops (.index name) none)
  | (name, .word "ON" :: more) =>
    if (Layout.readName more).2 = [] then
      some (.drops (.index name) (some (Layout.readName more).1))
    else none
  | _ => none

/-- An argument that is a text. -/
def readArgument : List Lexeme → Option (String × String)
  | [.word name, .operator "=", .word "N", .literal text] => some (name, text)
  | _ => none

/-- The comment that arguments address. -/
def commentOf (arguments : List (String × String)) : Option Object :=
  if arguments.lookup "@name" = some "MS_Description" ∧
      arguments.lookup "@level0type" = some "SCHEMA" ∧
      arguments.lookup "@level1type" = some "TABLE" then do
    let schema ← arguments.lookup "@level0name"
    let table ← arguments.lookup "@level1name"
    match arguments.lookup "@level2type" with
    | none => some (.comment schema table none)
    | some level =>
      if level = "COLUMN" then
        (arguments.lookup "@level2name").map fun column => .comment schema table (some column)
      else none
  else none

/-- The comment that the arguments of a stored procedure address. -/
def readComment (rest : List Lexeme) : Option Object :=
  ((Layout.itemsOf 0 rest).mapM readArgument).bind commentOf

/-- The column whose default a batch drops: the constraint is dropped from the table in which the
column is looked up. -/
def readBatch (read : List Lexeme) : Option Mention :=
  match Text.nationalTexts read with
  | [statement, address, column] =>
    if read = Dialect.SqlServer.batchLexemes statement address column then
      match Text.lexemes .brackets statement with
      | .word "ALTER" :: .word "TABLE" :: rest =>
        if (Layout.readName rest).2 = [.word "DROP", .word "CONSTRAINT"] ∧
            Layout.readName (Text.lexemes .brackets address) = ((Layout.readName rest).1, []) then
          some (.clearsDefault (Layout.readName rest).1 column)
        else none
      | _ => none
    else none
  | _ => none

/-- What the lexemes of a statement name. -/
def ofLexemes : List Lexeme → Option Mention
  | .word "CREATE" :: .word "TABLE" :: rest => readCreated rest
  | .word "DROP" :: .word "TABLE" :: rest =>
    if (Layout.readName rest).2 = [] then some (.drops (.table (Layout.readName rest).1) none)
    else none
  | .word "ALTER" :: .word "TABLE" :: rest =>
    readAltered (Layout.readName rest).1 (Layout.readName rest).2
  | .word "CREATE" :: .word "INDEX" :: rest => readCreatedIndex rest
  | .word "CREATE" :: .word "UNIQUE" :: .word "INDEX" :: rest => readCreatedIndex rest
  | .word "DROP" :: .word "INDEX" :: rest => readDroppedIndex rest
  | .word "EXEC" :: .word "sp_addextendedproperty" :: rest =>
    (readComment rest).map fun comment => .adds comment none
  | .word "EXEC" :: .word "sp_dropextendedproperty" :: rest =>
    (readComment rest).map fun comment => .drops comment none
  | read => readBatch read

/-- What a statement names. -/
def read (k : Supported) (sql : String) : Option Mention :=
  ofLexemes (Text.lexemes k.delimiters sql)

/-! ### Tables -/

variable (k : Supported) (table name : String)

/-- A name with nothing behind it. -/
private theorem readName_alone :
    Layout.readName (TableName.lexemes table) = (TableName.parts table, []) := by
  have hname := @Layout.readName_lexemes table [] nofun
  rwa [List.append_nil] at hname

theorem read_creationText (table : Table) : read k (Table.creationText k table) =
    some (.adds (.table (TableName.parts table.name)) none) := by
  have hcreate : Reads k.delimiters false "CREATE TABLE " [.word "CREATE", .word "TABLE"] :=
    Reads.of_scan (by cases k <;> rfl)
  have hopening : Reads k.delimiters false " (\n  " [.symbol '('] :=
    Reads.of_scan (by cases k <;> rfl)
  have hname := (hcreate.append (Reads.table table.name) rfl).append hopening rfl
  obtain ⟨rest, hread⟩ := (((Text.Begins.of_reads hname).append _).append _).lexemes_eq
  rw [← k.quoteTable_eq] at hread
  rw [read, Table.creationText, hread]
  have hparts := @Layout.readName_lexemes table.name (.symbol '(' :: rest) nofun
  simp [ofLexemes, readCreated, hparts]

theorem read_dropTable : (k.dialect.dropTable table).map (read k) =
    [some (.drops (.table (TableName.parts table)) none)] := by
  have hdrop : Reads k.delimiters false "DROP TABLE " [.word "DROP", .word "TABLE"] :=
    Reads.of_scan (by cases k <;> rfl)
  have hlexemes := (hdrop.append (Reads.table table) rfl).lexemes_eq
  have hread : read k ("DROP TABLE " ++ quoteParts k.delimiters.quote table) =
      some (.drops (.table (TableName.parts table)) none) := by
    rw [read, hlexemes]
    simp [ofLexemes, readName_alone]
  rw [← k.quoteTable_eq] at hread
  cases k <;> exact congrArg (fun mention => [mention]) hread

/-! ### Columns -/

/-- What is done to a table stands behind its name. -/
theorem ofLexemes_alter {change : List Lexeme} (h : change.head? ≠ some (.symbol '.')) :
    ofLexemes (alterLexemes table change) = readAltered (TableName.parts table) change := by
  simp [alterLexemes, ofLexemes, Layout.readName_lexemes table h]

/-- The definition of a column begins with its name. -/
theorem begins_defineColumn (d : Delimiters) (columnType inlinePrimaryKey : Column → String)
    (renderDefault : DefaultValue → String) (column : Column) (asKey : Bool) :
    Text.Begins d (defineColumn d.quote columnType inlinePrimaryKey renderDefault column asKey)
      [.identifier column.name] := by
  have hblank : Reads d false " " [] := Reads.of_scan (by cases d <;> rfl)
  have hname : Text.Begins d (d.quote column.name ++ " ") [.identifier column.name] :=
    Text.Begins.of_reads ((Reads.identifier column.name).append hblank rfl)
  exact ((((hname.append _).append _).append _).append _).append _

variable {k table} in
/-- A statement that alters a table is read as soon as its beginning can be read. -/
private theorem read_of_begins {sql : String} {change : List Lexeme} {mention : Mention}
    (h : Text.Begins k.delimiters sql (alterLexemes table change))
    (hread : ∀ rest, ofLexemes (alterLexemes table (change ++ rest)) = some mention) :
    read k sql = some mention := by
  obtain ⟨rest, hlexemes⟩ := h.lexemes_eq
  rw [read, hlexemes, alterLexemes_append]
  exact hread rest

theorem read_addColumn (column : Column) : read k (k.dialect.addColumn table column) =
    some (.adds (.column (TableName.parts table) column.name) none) := by
  have hbegins {text words : String} {wordsRead : List Lexeme}
      (hwords : Reads k.delimiters false words wordsRead) (hlead : Text.leads words.toList = true)
      (htext : Text.Begins k.delimiters text [.identifier column.name]) :
      Text.Begins k.delimiters
        ("ALTER TABLE " ++ quoteParts k.delimiters.quote table ++ words ++ text)
        (alterLexemes table (wordsRead ++ [.identifier column.name])) := by
    rw [← alterLexemes_append]
    exact htext.prepend (Reads.altering table hwords hlead)
  cases k with
  | sqlServer =>
    have hadd : Reads .brackets false " ADD " [.word "ADD"] := Reads.of_scan rfl
    exact read_of_begins (hbegins hadd rfl (begins_defineColumn .brackets _ _ _ column false))
      fun _ => ofLexemes_alter table nofun
  | _ =>
    have hadd : Reads .quotes false " ADD COLUMN " [.word "ADD", .word "COLUMN"] :=
      Reads.of_scan rfl
    exact read_of_begins (hbegins hadd rfl (begins_defineColumn .quotes _ _ _ column false))
      fun _ => ofLexemes_alter table nofun

/-- What is said behind the name of a table, up to the name at the end. -/
private theorem read_alter {words : String} {wordsRead : List Lexeme}
    (hwords : Reads k.delimiters false words wordsRead) (hlead : Text.leads words.toList = true)
    (hdot : (wordsRead ++ [Lexeme.identifier name]).head? ≠ some (.symbol '.')) :
    read k ("ALTER TABLE " ++ quoteParts k.delimiters.quote table ++ words ++
        k.delimiters.quote name) =
      readAltered (TableName.parts table) (wordsRead ++ [.identifier name]) := by
  have hread := (Reads.altering table hwords hlead).append (Reads.identifier name) rfl
  rw [alterLexemes_append] at hread
  rw [read, hread.lexemes_eq]
  exact ofLexemes_alter table hdot

theorem read_dropColumn : read k ("ALTER TABLE " ++ quoteParts k.delimiters.quote table ++
    " DROP COLUMN " ++ k.delimiters.quote name) =
      some (.drops (.column (TableName.parts table) name) none) := by
  have hdrop : Reads k.delimiters false " DROP COLUMN " [.word "DROP", .word "COLUMN"] :=
    Reads.of_scan (by cases k <;> rfl)
  exact read_alter k table name hdrop rfl nofun

/-- The batch is about the default of the column. -/
theorem read_dropDefault : read .sqlServer (Dialect.SqlServer.dropDefault table name) =
    some (.clearsDefault (TableName.parts table) name) := by
  have hstatement := (Dialect.SqlServer.reads_dropping table).lexemes_eq
  have haddress : Text.lexemes .brackets (Dialect.SqlServer.quoteTable table) =
      TableName.lexemes table := (Reads.table table).lexemes_eq
  have hparts := @Layout.readName_lexemes table [.word "DROP", .word "CONSTRAINT"] nofun
  have hbatch : readBatch (Dialect.SqlServer.batchLexemes (Dialect.SqlServer.dropping table)
      (Dialect.SqlServer.quoteTable table) name) =
        some (.clearsDefault (TableName.parts table) name) := by
    have htexts : Text.nationalTexts (Dialect.SqlServer.batchLexemes
        (Dialect.SqlServer.dropping table) (Dialect.SqlServer.quoteTable table) name) =
          [Dialect.SqlServer.dropping table, Dialect.SqlServer.quoteTable table, name] := rfl
    simp only [readBatch, htexts, hstatement, haddress, alterLexemes, hparts, readName_alone,
      if_true, and_self]
  exact (congrArg ofLexemes (Dialect.SqlServer.lexemes_dropDefault table name)).trans hbatch

/-! ### Constraints -/

/-- A statement that adds a constraint, whatever it is, begins with its name. -/
private theorem begins_addConstraint {words : String} {wordsRead : List Lexeme}
    (hwords : Reads k.delimiters false words wordsRead) (hlead : Text.leads words.toList = true) :
    Text.Begins k.delimiters ("ALTER TABLE " ++ quoteParts k.delimiters.quote table ++
        " ADD CONSTRAINT " ++ k.delimiters.quote name ++ words)
      (alterLexemes table
        (.word "ADD" :: .word "CONSTRAINT" :: .identifier name :: wordsRead)) := by
  have hadd : Reads k.delimiters false " ADD CONSTRAINT " [.word "ADD", .word "CONSTRAINT"] :=
    Reads.of_scan (by cases k <;> rfl)
  have hread := ((Reads.altering table hadd rfl).append (Reads.identifier name) rfl).append
    hwords hlead
  simp only [alterLexemes_append] at hread
  exact Text.Begins.of_reads hread

variable {k table name} in
private theorem read_addConstraint {sql : String} {wordsRead : List Lexeme}
    (h : Text.Begins k.delimiters sql (alterLexemes table
      (.word "ADD" :: .word "CONSTRAINT" :: .identifier name :: wordsRead))) :
    read k sql = some (.adds (.constraint (TableName.parts table) name) none) :=
  read_of_begins h fun _ => ofLexemes_alter table nofun

theorem read_addPrimaryKey (columns : List String) :
    (Dialect.sqlServer.addPrimaryKey table name columns).map (read .sqlServer) =
      .ok (some (.adds (.constraint (TableName.parts table) name) none)) := by
  have hwords : Reads .brackets false " PRIMARY KEY ("
      [.word "PRIMARY", .word "KEY", .symbol '('] := Reads.of_scan rfl
  have hbegins := begins_addConstraint .sqlServer table name hwords rfl
  exact congrArg Except.ok (read_addConstraint ((hbegins.append _).append _))

theorem read_addUniqueKey (columns : List String) :
    (Dialect.sqlServer.addUniqueKey name table columns).map (read .sqlServer) =
      .ok (some (.adds (.constraint (TableName.parts table) name) none)) := by
  have hwords : Reads .brackets false " UNIQUE (" [.word "UNIQUE", .symbol '('] :=
    Reads.of_scan rfl
  have hbegins := begins_addConstraint .sqlServer table name hwords rfl
  exact congrArg Except.ok (read_addConstraint ((hbegins.append _).append _))

theorem read_addForeignKey (key : ForeignKey) :
    (Dialect.sqlServer.addForeignKey key).map (read .sqlServer) =
      .ok (some (.adds (.constraint (TableName.parts key.table) key.name) none)) := by
  have hwords : Reads .brackets false " FOREIGN KEY ("
      [.word "FOREIGN", .word "KEY", .symbol '('] := Reads.of_scan rfl
  have hbegins := begins_addConstraint .sqlServer key.table key.name hwords rfl
  exact congrArg Except.ok (read_addConstraint
    ((((((((hbegins.append _).append _).append _).append _).append _).append _).append _)))

theorem read_dropConstraint :
    (Dialect.sqlServer.dropConstraint table name).map (read .sqlServer) =
      .ok (some (.drops (.constraint (TableName.parts table) name) none)) := by
  have hdrop : Reads .brackets false " DROP CONSTRAINT " [.word "DROP", .word "CONSTRAINT"] :=
    Reads.of_scan rfl
  exact congrArg Except.ok (read_alter .sqlServer table name hdrop rfl nofun)

/-! ### Indexes -/

/-- On SQLite an index stands in the schema of its table, and names the bare table. -/
theorem read_indexStatement {create : String} {createRead : List Lexeme}
    (hcreate : Reads .quotes true create createRead)
    (hindex : ∀ rest, ofLexemes (createRead ++ rest) = readCreatedIndex rest)
    (columns : List String) :
    read .sqlite (Dialect.Sqlite.indexStatement create name table columns) =
      some (.adds (.index (Layout.indexParts table name)) (some [TableName.bare table])) := by
  have hparts : Layout.indexParts table name = (TableName.split table).1.toList ++ [name] := by
    rw [Layout.indexParts]
    cases (TableName.split table).1 <;> rfl
  have hname := @Layout.readName_dotted (Layout.indexParts table name) (by simp [hparts])
    (.word "ON" :: .identifier (TableName.bare table) ::
      Layout.keyDefinition [.symbol '('] columns) (by simp)
  have hlexemes := Creation.lexemes_indexStatement hcreate name table columns
  rw [← hparts] at hlexemes
  refine (congrArg ofLexemes hlexemes).trans ?_
  rw [hindex, readCreatedIndex, hname]
  rfl

theorem read_dropIndexStatement :
    read .sqlite (dropIndexStatement Dialect.Sqlite.quoteIdentifier name table) =
      some (.drops (.index (Layout.indexParts table name)) none) := by
  have hdrop : Reads .quotes false "DROP INDEX " [.word "DROP", .word "INDEX"] := Reads.of_scan rfl
  have hstatement (parts : List String) (hne : parts ≠ []) :
      ofLexemes (.word "DROP" :: .word "INDEX" :: Layout.dotted parts) =
        some (.drops (.index parts) none) := by
    have hname := @Layout.readName_dotted parts hne [] nofun
    rw [List.append_nil] at hname
    simp [ofLexemes, readDroppedIndex, hname]
  rw [dropIndexStatement, Layout.indexParts]
  cases (TableName.split table).1 with
  | some schema =>
    have hread := ((hdrop.append (Reads.identifier schema) rfl).append Reads.dot rfl).append
      (Reads.identifier name) rfl
    exact (congrArg ofLexemes hread.lexemes_eq).trans
      (hstatement [schema, name] (List.cons_ne_nil _ _))
  | none =>
    have hread := hdrop.append (Reads.identifier name) rfl
    exact (congrArg ofLexemes hread.lexemes_eq).trans (hstatement [name] (List.cons_ne_nil _ _))

/-- On SQL Server an index is one of its table. -/
theorem read_createIndex (columns : List String) :
    read .sqlServer (Dialect.sqlServer.createIndex name table columns) =
      some (.adds (.index [name]) (some (TableName.parts table))) := by
  have hcreate : Reads .brackets false "CREATE INDEX " [.word "CREATE", .word "INDEX"] :=
    Reads.of_scan rfl
  have hon : Reads .brackets false " ON " [.word "ON"] := Reads.of_scan rfl
  have hopening : Reads .brackets false " (" [.symbol '('] := Reads.of_scan rfl
  have hread := Layout.reads_columns (((hcreate.append (Reads.identifier name) rfl).append hon
    rfl).append (Reads.table table) rfl) hopening rfl columns
  have hparts := @Layout.readName_lexemes table (Layout.keyDefinition [.symbol '('] columns) nofun
  refine (congrArg ofLexemes hread.lexemes_eq).trans ?_
  simp [ofLexemes, readCreatedIndex, Layout.readName, hparts]

theorem read_dropIndex : read .sqlServer (Dialect.sqlServer.dropIndex name table) =
    some (.drops (.index [name]) (some (TableName.parts table))) := by
  have hdrop : Reads .brackets false "DROP INDEX " [.word "DROP", .word "INDEX"] :=
    Reads.of_scan rfl
  have hon : Reads .brackets false " ON " [.word "ON"] := Reads.of_scan rfl
  have hread := ((hdrop.append (Reads.identifier name) rfl).append hon rfl).append
    (Reads.table table) rfl
  refine (congrArg ofLexemes hread.lexemes_eq).trans ?_
  simp [ofLexemes, readDroppedIndex, Layout.readName, readName_alone]

/-! ### Comments -/

open Dialect.SqlServer in
/-- Arguments between commas are read one by one. -/
private theorem readComment_argumentsLexemes {arguments : List (String × String)}
    (hne : arguments ≠ []) : readComment (argumentsLexemes arguments) = commentOf arguments := by
  have hitems : Layout.itemsOf 0 (argumentsLexemes arguments) = arguments.map argumentLexemes := by
    apply Layout.itemsOf_intercalate (by simpa using hne)
    intro item hitem
    obtain ⟨argument, -, rfl⟩ := List.mem_map.mp hitem
    simp [argumentLexemes, Layout.isWhole, Layout.openBehind]
  have harguments : (arguments.map argumentLexemes).mapM readArgument = some arguments := by
    have hread := @mapM_map_eq_some _ _ _ readArgument argumentLexemes id arguments fun _ _ => rfl
    rwa [List.map_id] at hread
  rw [readComment, hitems, harguments]
  rfl

/-- The comment on a table, or on a column of it. -/
def commentOn (column : Option String) : Object :=
  .comment ((TableName.split table).1.getD "dbo") (TableName.bare table) column

theorem read_addComment (comment : String) (column : Option String) :
    read .sqlServer (Dialect.SqlServer.addComment comment
        (Dialect.SqlServer.levels table column)) =
      some (.adds (commentOn table column) none) := by
  have hcomment := @readComment_argumentsLexemes (("@name", "MS_Description") ::
    ("@value", comment) :: Dialect.SqlServer.levelArguments table column) (List.cons_ne_nil _ _)
  refine (congrArg ofLexemes (Dialect.SqlServer.lexemes_addComment comment table column)).trans ?_
  rw [ofLexemes, hcomment]
  cases column <;> rfl

theorem read_dropComment (column : Option String) :
    read .sqlServer (Dialect.SqlServer.dropComment (Dialect.SqlServer.levels table column)) =
      some (.drops (commentOn table column) none) := by
  have hcomment := @readComment_argumentsLexemes (("@name", "MS_Description") ::
    Dialect.SqlServer.levelArguments table column) (List.cons_ne_nil _ _)
  refine (congrArg ofLexemes (Dialect.SqlServer.lexemes_dropComment table column)).trans ?_
  rw [ofLexemes, hcomment]
  cases column <;> rfl

end Mention

end SchemaEvolution
