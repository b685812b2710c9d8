import SchemaEvolution.Proofs.Table.Definition

/-!
# Batches that drop the default of a column

Before SQL Server drops or changes a column, a batch drops its default. The server puts the
statement for that together, so the name of the table is quoted twice: as an identifier of the
statement, and with it as a literal of the batch. Whatever the names are, the batch is read as one
template with three literals, and what these say is read as the table and the column again
(`batch_names_table_and_column`).
-/

namespace SchemaEvolution

open Text (Delimiters Lexeme Reads)

/-! ### Literals in a batch -/

namespace Text

/-- The text of a literal. -/
def Lexeme.literal? : Lexeme → Option String
  | literal s => some s
  | _ => none

/-- The texts of the literals of national characters. -/
def nationalTexts : List Lexeme → List String
  | .word "N" :: .literal s :: rest => s :: nationalTexts rest
  | _ :: rest => nationalTexts rest
  | [] => []

end Text

/-! ### Alterations -/

/-- A statement that alters a table, and how. -/
def alterLexemes (table : String) (change : List Lexeme) : List Lexeme :=
  .word "ALTER" :: .word "TABLE" :: (TableName.lexemes table ++ change)

theorem alterLexemes_append (table : String) (change more : List Lexeme) :
    alterLexemes table change ++ more = alterLexemes table (change ++ more) := by
  simp [alterLexemes]

/-- What is done to a table stands behind its name. -/
theorem Text.Reads.altering {d : Delimiters} {isOpen : Bool} {words : String}
    {wordsRead : List Lexeme} (table : String) (hwords : Reads d isOpen words wordsRead)
    (hlead : Text.leads words.toList = true) :
    Reads d isOpen ("ALTER TABLE " ++ quoteParts d.quote table ++ words)
      (alterLexemes table wordsRead) := by
  have halter : Reads d false "ALTER TABLE " [.word "ALTER", .word "TABLE"] :=
    Reads.of_scan (by cases d <;> rfl)
  have hread := (halter.append (Reads.table table) rfl).append hwords hlead
  rw [List.append_assoc] at hread
  exact hread

namespace Dialect.SqlServer

/-! ### The template -/

/-- A name behind what qualifies it. -/
def fieldLexemes (view field : String) : List Lexeme := [.word view, .symbol '.', .word field]

/-- A literal of national characters. -/
def nationalLexemes (text : String) : List Lexeme := [.word "N", .literal text]

/-- The batch that drops a default: the statement that it completes, the table to look for, and the
name of the column. -/
def batchLexemes (statement address column : String) : List Lexeme :=
  [.word "DECLARE", .word "@sql", .word "NVARCHAR", .symbol '(', .word "MAX", .symbol ')',
    .symbol ';', .word "SELECT", .word "@sql", .operator "="] ++ nationalLexemes statement ++
  ([.symbol '+', .word "QUOTENAME", .symbol '('] ++ fieldLexemes "dc" "name" ++
    [.symbol ')', .word "FROM"] ++ fieldLexemes "sys" "default_constraints" ++ [.word "dc"]) ++
  (.word "JOIN" :: fieldLexemes "sys" "columns" ++ [.word "c"] ++
    .word "ON" :: fieldLexemes "c" "object_id" ++
    .operator "=" :: fieldLexemes "dc" "parent_object_id") ++
  (.word "AND" :: fieldLexemes "c" "column_id" ++
    .operator "=" :: fieldLexemes "dc" "parent_column_id" ++
    .word "WHERE" :: fieldLexemes "dc" "parent_object_id" ++
    [.operator "=", .word "OBJECT_ID", .symbol '(']) ++ nationalLexemes address ++
  ([.symbol ')', .word "AND"] ++ fieldLexemes "c" "name" ++ [.operator "="]) ++
  (nationalLexemes column ++ [.symbol ';', .word "IF", .word "@sql", .word "IS", .word "NOT",
    .word "NULL", .word "EXEC", .word "sp_executesql", .word "@sql"])

/-- The statement that the server completes with the name of a constraint. -/
def dropping (table : String) : String := "ALTER TABLE " ++ quoteTable table ++ " DROP CONSTRAINT "

/-- Whether nulls are taken, always in words. -/
def nullLexemes (column : Column) : List Lexeme :=
  if column.nullable then [.word "NULL"] else [.word "NOT", .word "NULL"]

private theorem reads_literal (text : String) :
    Reads .brackets true (quoteLiteral text) (nationalLexemes text) := Reads.nationalLiteral text

theorem lexemes_dropDefault (table column : String) :
    Text.lexemes .brackets (dropDefault table column) =
      batchLexemes (dropping table) (quoteTable table) column := by
  have hdeclare : Reads .brackets false "DECLARE @sql NVARCHAR(MAX); SELECT @sql = "
      [.word "DECLARE", .word "@sql", .word "NVARCHAR", .symbol '(', .word "MAX", .symbol ')',
        .symbol ';', .word "SELECT", .word "@sql", .operator "="] := Reads.of_scan rfl
  have hfrom : Reads .brackets false " + QUOTENAME(dc.name) FROM sys.default_constraints dc "
      ([.symbol '+', .word "QUOTENAME", .symbol '('] ++ fieldLexemes "dc" "name" ++
        [.symbol ')', .word "FROM"] ++ fieldLexemes "sys" "default_constraints" ++ [.word "dc"]) :=
    Reads.of_scan (by decide +kernel)
  have hjoin : Reads .brackets false "JOIN sys.columns c ON c.object_id = dc.parent_object_id "
      (.word "JOIN" :: fieldLexemes "sys" "columns" ++ [.word "c"] ++
        .word "ON" :: fieldLexemes "c" "object_id" ++
        .operator "=" :: fieldLexemes "dc" "parent_object_id") :=
    Reads.of_scan (by decide +kernel)
  have hwhere : Reads .brackets false
      "AND c.column_id = dc.parent_column_id WHERE dc.parent_object_id = OBJECT_ID("
      (.word "AND" :: fieldLexemes "c" "column_id" ++
        .operator "=" :: fieldLexemes "dc" "parent_column_id" ++
        .word "WHERE" :: fieldLexemes "dc" "parent_object_id" ++
        [.operator "=", .word "OBJECT_ID", .symbol '(']) :=
    Reads.of_scan (by decide +kernel)
  have hname : Reads .brackets false ") AND c.name = "
      ([.symbol ')', .word "AND"] ++ fieldLexemes "c" "name" ++ [.operator "="]) :=
    Reads.of_scan (by decide +kernel)
  have hexec : Reads .brackets true "; IF @sql IS NOT NULL EXEC sp_executesql @sql"
      [.symbol ';', .word "IF", .word "@sql", .word "IS", .word "NOT", .word "NULL", .word "EXEC",
        .word "sp_executesql", .word "@sql"] :=
    Reads.of_lexemes (by decide +kernel) (by decide +kernel)
  have hcolumn : Reads .brackets true
      (quoteLiteral column ++ "; IF @sql IS NOT NULL EXEC sp_executesql @sql")
      (nationalLexemes column ++ [.symbol ';', .word "IF", .word "@sql", .word "IS", .word "NOT",
        .word "NULL", .word "EXEC", .word "sp_executesql", .word "@sql"]) :=
    Reads.nationalLiteral_append column rfl (by decide) hexec
  have hselect := ((((hdeclare.append (reads_literal (dropping table)) rfl).append hfrom
    rfl).append hjoin rfl).append hwhere rfl).append (reads_literal (quoteTable table)) rfl
  have hread := (hselect.append hname rfl).append hcolumn rfl
  exact (congrArg (Text.lexemes .brackets) String.append_assoc).trans hread.lexemes_eq

/-! ### What follows the batch -/

theorem reads_dropping (table : String) :
    Reads .brackets false (dropping table)
      (alterLexemes table [.word "DROP", .word "CONSTRAINT"]) :=
  Reads.altering table (Reads.of_scan rfl) rfl

/-- The column is changed in the table. -/
theorem lexemes_alterColumn (table column : String) (definition : Column) :
    Text.lexemes .brackets ("ALTER TABLE " ++ quoteTable table ++ " ALTER COLUMN " ++
        quoteIdentifier column ++ " " ++ typeName definition ++
        (if definition.nullable then " NULL" else " NOT NULL")) =
      alterLexemes table (.word "ALTER" :: .word "COLUMN" :: .identifier column ::
        (Text.lexemes .brackets (typeName definition) ++ nullLexemes definition)) := by
  have halter : Reads .brackets false " ALTER COLUMN " [.word "ALTER", .word "COLUMN"] :=
    Reads.of_scan rfl
  have hblank : Reads .brackets false " " [] := Reads.of_scan rfl
  have hnull : Text.ReadsBehind .brackets (if definition.nullable then " NULL" else " NOT NULL")
      (nullLexemes definition) := by
    rw [nullLexemes]
    cases definition.nullable <;> exact Text.ReadsBehind.of_lexemes rfl rfl rfl
  have hcolumn := (Reads.altering table halter rfl).append (Reads.identifier column) rfl
  have hread := hnull ((hcolumn.append hblank rfl).append
    (Layout.written_typeName .sqlServer definition).reads rfl)
  simp only [alterLexemes_append] at hread
  exact hread.lexemes_eq.trans (by simp [Supported.delimiters, Supported.dialect, sqlServer])

/-- The column is dropped from the table. -/
theorem lexemes_dropColumn (table column : String) :
    Text.lexemes .brackets ("ALTER TABLE " ++ quoteTable table ++ " DROP COLUMN " ++
        quoteIdentifier column) =
      alterLexemes table [.word "DROP", .word "COLUMN", .identifier column] := by
  have hdrop : Reads .brackets false " DROP COLUMN " [.word "DROP", .word "COLUMN"] :=
    Reads.of_scan rfl
  have hread := (Reads.altering table hdrop rfl).append (Reads.identifier column) rfl
  rw [alterLexemes_append] at hread
  exact hread.lexemes_eq

/-- In front of a new default the table is named, and behind it the column. -/
theorem reads_addDefault (table column : String) :
    Reads .brackets false ("ALTER TABLE " ++ quoteTable table ++ " ADD DEFAULT ")
        (alterLexemes table [.word "ADD", .word "DEFAULT"]) ∧
      Text.ReadsBehind .brackets (" FOR " ++ quoteIdentifier column)
        [.word "FOR", .identifier column] := by
  have hfor : Reads .brackets false " FOR " [.word "FOR"] := Reads.of_scan rfl
  exact ⟨Reads.altering table (Reads.of_scan rfl) rfl,
    Text.ReadsBehind.append hfor rfl (Reads.identifier column)⟩

/-- The statements that set the default of a column anew, if it has one. -/
def addDefault (table column : String) : Option DefaultValue → List String
  | some value =>
    ["ALTER TABLE " ++ quoteTable table ++ " ADD DEFAULT " ++ value.literal ++ " FOR " ++
      quoteIdentifier column]
  | none => []

/-- Changing a column is dropping its default, changing the column, and setting the default. -/
theorem modifyColumn_eq (table column : String) (definition : Column) :
    sqlServer.modifyColumn table column definition =
      .ok (dropDefault table column ::
        ("ALTER TABLE " ++ quoteTable table ++ " ALTER COLUMN " ++ quoteIdentifier column ++ " " ++
          typeName definition ++ (if definition.nullable then " NULL" else " NOT NULL")) ::
        addDefault table column definition.default) := by
  change Except.ok (modifyColumn table column definition) = _
  rw [modifyColumn]
  cases definition.default <;> rfl

/-- Whatever the names of a table and a column are: the batch with which dropping the column and
changing it start is read as one template with three literals, all of national characters. The first
says to drop a constraint of the table, whichever is looked up, the second is the table, and the
third the column. The statements that follow are about the same table and the same column. That is
said of the new default as a whole if it can be read by itself, as values can
(`Layout.reads_default`); an expression may be anything, and what stands around it is as said. -/
theorem batch_names_table_and_column (table column : String) :
    (Text.lexemes .brackets (dropDefault table column) =
        batchLexemes (dropping table) (quoteTable table) column ∧
      Text.nationalTexts (Text.lexemes .brackets (dropDefault table column)) =
        [dropping table, quoteTable table, column] ∧
      (Text.lexemes .brackets (dropDefault table column)).filterMap Lexeme.literal? =
        [dropping table, quoteTable table, column]) ∧
    (Text.lexemes .brackets (dropping table) =
        alterLexemes table [.word "DROP", .word "CONSTRAINT"] ∧
      ∀ name, Text.lexemes .brackets (dropping table ++ quoteIdentifier name) =
        alterLexemes table [.word "DROP", .word "CONSTRAINT", .identifier name]) ∧
    Text.lexemes .brackets (quoteTable table) = TableName.lexemes table ∧
    (∃ drop, sqlServer.dropColumn table column = [dropDefault table column, drop] ∧
      Text.lexemes .brackets drop =
        alterLexemes table [.word "DROP", .word "COLUMN", .identifier column]) ∧
    ∀ definition : Column, ∃ change defaults,
      sqlServer.modifyColumn table column definition =
        .ok (dropDefault table column :: change :: defaults) ∧
      Text.lexemes .brackets change =
        alterLexemes table (.word "ALTER" :: .word "COLUMN" :: .identifier column ::
          (Text.lexemes .brackets (typeName definition) ++ nullLexemes definition)) ∧
      (definition.default = none → defaults = []) ∧
      ∀ value, definition.default = some value → ∃ head tail,
        defaults = [head ++ value.literal ++ tail] ∧
        Text.lexemes .brackets head = alterLexemes table [.word "ADD", .word "DEFAULT"] ∧
        Text.lexemes .brackets tail = [.word "FOR", .identifier column] ∧
        (∀ read, Reads .brackets true value.literal read →
          Text.lexemes .brackets (head ++ value.literal ++ tail) =
            alterLexemes table (.word "ADD" :: .word "DEFAULT" :: (read ++
              [.word "FOR", .identifier column]))) := by
  have hbatch := lexemes_dropDefault table column
  have hdropping := reads_dropping table
  refine ⟨⟨hbatch, ?_, ?_⟩, ⟨hdropping.lexemes_eq, fun name => ?_⟩,
    (Reads.table table).lexemes_eq, ⟨_, rfl, lexemes_dropColumn table column⟩, fun definition => ?_⟩
  · rw [hbatch]
    rfl
  · rw [hbatch]
    rfl
  · have hread := hdropping.append (Reads.identifier name) rfl
    rw [alterLexemes_append] at hread
    exact hread.lexemes_eq
  · refine ⟨_, _, modifyColumn_eq table column definition,
      lexemes_alterColumn table column definition, ?_, ?_⟩
    · intro hnone
      rw [hnone]
      rfl
    · intro value hvalue
      obtain ⟨hhead, htail⟩ := reads_addDefault table column
      refine ⟨_, " FOR " ++ quoteIdentifier column, ?_, hhead.lexemes_eq, ?_, ?_⟩
      · rw [hvalue, ← String.append_assoc]
        rfl
      · exact (htail Reads.empty).lexemes_eq
      · intro read hread
        have hwhole := htail (hhead.append hread rfl)
        simp only [alterLexemes_append] at hwhole
        exact hwhole.lexemes_eq

/-- Quotes and a bracket in the names, and a quote in the new default. -/
theorem batch_names_table_and_column_with_quotes :
    Text.nationalTexts (Text.lexemes .brackets (dropDefault "s\x27].t" "c\x27]")) =
        ["ALTER TABLE [s\x27]]].[t] DROP CONSTRAINT ", "[s\x27]]].[t]", "c\x27]"] ∧
      Text.lexemes .brackets "[s\x27]]].[t]" =
        [.identifier "s\x27]", .symbol '.', .identifier "t"] ∧
      ∃ change add, sqlServer.modifyColumn "s\x27].t" "c\x27]"
          ((Column.integer "c").withDefault (.string "it\x27s")) =
            .ok [dropDefault "s\x27].t" "c\x27]", change, add] ∧
        Text.lexemes .brackets add =
          [.word "ALTER", .word "TABLE", .identifier "s\x27]", .symbol '.', .identifier "t",
            .word "ADD", .word "DEFAULT", .literal "it\x27s", .word "FOR",
            .identifier "c\x27]"] := by
  obtain ⟨⟨-, htexts, -⟩, -, haddress, -, hmodify⟩ :=
    batch_names_table_and_column "s\x27].t" "c\x27]"
  obtain ⟨change, defaults, hstatements, -, -, hdefault⟩ :=
    hmodify ((Column.integer "c").withDefault (.string "it\x27s"))
  obtain ⟨head, tail, rfl, -, -, hadd⟩ := hdefault _ rfl
  exact ⟨htexts, haddress, change, _, hstatements,
    hadd _ (Layout.reads_default .sqlServer rfl).1⟩

end Dialect.SqlServer

end SchemaEvolution
