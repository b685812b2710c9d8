import SchemaEvolution.Proofs.Postgres.Statements
import SchemaEvolution.Proofs.Select.Phrase
import SchemaEvolution.Proofs.Table.Creation
import SchemaEvolution.Proofs.VersionTable.Plain

/-!
# Where the version table is

Statements name a table by parts with dots between them: what stands in front of the last two is the
catalog. A query for the existence of a table compares texts instead, with the schema on one side
and the bare name on the other. Both mean the same table as long as the name has no catalog in it
(`place?_parts_iff`).
-/

namespace SchemaEvolution

open Dialect (Supported)
open Text (Lexeme Reads)

/-- Where a table is: in a schema of a catalog. -/
structure TablePlace where
  catalog : List String
  schema : String
  table : String
  deriving DecidableEq, Repr

/-- Where a session is: in a schema of a catalog. -/
structure Home where
  catalog : List String
  schema : String
  deriving DecidableEq, Repr

/-! ### Parts of names -/

namespace TableName

/-- A part of a name is its own only part. -/
theorem parts_of_mem {name part : String} (h : part ∈ parts name) : parts part = [part] := by
  obtain ⟨text, htext, rfl⟩ := List.mem_map.mp h
  have hnone : Text.splitLast '.' text = none := by
    rw [← Option.not_isSome_iff_eq_none, Text.isSome_splitLast, List.contains_iff_mem]
    exact Text.not_mem_of_mem_splitEvery htext
  rw [parts, String.toList_ofList, Text.splitEvery_of_splitLast_none hnone]
  rfl

end TableName

namespace Home

variable (home : Home)

/-- The place that the parts of a name denote. The last part is the table, the one before it the
schema, and what stands in front of them is the catalog. What is not said is as in the session. -/
def place? (parts : List String) : Option TablePlace :=
  match parts.reverse with
  | [] => none
  | [table] => some ⟨home.catalog, home.schema, table⟩
  | table :: schema :: catalog =>
    some ⟨if catalog = [] then home.catalog else catalog.reverse, schema, table⟩

/-- The place that a name denotes by its schema and the bare name. -/
def asked (name : String) : TablePlace :=
  ⟨home.catalog, (TableName.split name).1.getD home.schema, TableName.bare name⟩

/-- Every name denotes a place. -/
theorem exists_place?_parts (name : String) :
    ∃ place, home.place? (TableName.parts name) = some place := by
  have hne : (TableName.parts name).reverse ≠ [] :=
    List.reverse_ne_nil_iff.mpr (TableName.parts_ne_nil name)
  rw [place?]
  split
  · next hnil => exact absurd hnil hne
  · exact ⟨_, rfl⟩
  · exact ⟨_, rfl⟩

private theorem place?_append (catalog : List String) (schema table : String) :
    home.place? (catalog ++ [schema, table]) =
      some ⟨if catalog = [] then home.catalog else catalog, schema, table⟩ := by
  simp [place?]

/-- Both denote the same place as long as the name has no catalog in it. -/
theorem place?_parts_iff (name : String) :
    home.place? (TableName.parts name) = some (home.asked name) ↔
      (TableName.parts name).length ≤ 2 := by
  cases hschema : (TableName.split name).1 with
  | none =>
    rw [(TableName.parts_of_split_none hschema).1, asked, hschema]
    simp [place?]
  | some schema =>
    rw [TableName.parts_of_split_some hschema, asked, hschema, Option.getD_some]
    obtain hnil | ⟨catalog, last, hparts⟩ := List.eq_nil_or_concat (TableName.parts schema)
    · exact absurd hnil (TableName.parts_ne_nil schema)
    · rw [List.concat_eq_append] at hparts
      have hlast : last ∈ TableName.parts schema := by simp [hparts]
      rw [hparts, List.append_assoc, List.singleton_append, place?_append]
      by_cases hcatalog : catalog = []
      · have hsame : last = schema := by
          rw [← TableName.intercalate_parts schema, hparts, hcatalog]
          simp
        simp [hcatalog, hsame]
      · -- The last part of a schema that has several is not the schema.
        have hne : last ≠ schema := by
          rintro rfl
          rw [TableName.parts_of_mem hlast] at hparts
          exact hcatalog (List.append_left_eq_self.mp hparts.symm)
        have hlength : 0 < catalog.length := List.length_pos_iff.mpr hcatalog
        simp only [List.length_append, List.length_cons, List.length_nil, Option.some.injEq,
          TablePlace.mk.injEq, hne, false_and, and_false, false_iff]
        omega

end Home

/-! ### Reading statements -/

namespace Dialect.Supported

/-- What a query for the existence of a table opens with. -/
def probeOpening : Supported → List Lexeme
  | sqlServer => [.word "SELECT", .word "COUNT", .symbol '(', .symbol '*', .symbol ')',
      .word "FROM", .word "INFORMATION_SCHEMA", .symbol '.', .word "TABLES", .word "WHERE",
      .word "TABLE_SCHEMA", .operator "="]
  | _ => [.word "SELECT", .word "COUNT", .symbol '(', .symbol '*', .symbol ')', .word "FROM",
      .word "information_schema", .symbol '.', .word "tables", .word "WHERE",
      .word "table_schema", .operator "="]

/-- The call of a function that gives the schema of the session. -/
def currentSchema : Supported → List Lexeme
  | sqlServer => [.word "SCHEMA_NAME", .symbol '(', .symbol ')']
  | _ => [.word "current_schema", .symbol '(', .symbol ')']

/-- What stands between the schema and the bare name. -/
def probeMiddle : Supported → List Lexeme
  | sqlServer => [.word "AND", .word "TABLE_NAME", .operator "="]
  | _ => [.word "AND", .word "table_name", .operator "="]

/-- A literal. SQL Server marks its characters as national. -/
def literalLexemes : Supported → String → List Lexeme
  | sqlServer, text => [.word "N", .literal text]
  | _, text => [.literal text]

end Dialect.Supported

/-- A literal, of national characters or not. -/
def readText : List Lexeme → Option (String × List Lexeme)
  | .word "N" :: .literal text :: rest => some (text, rest)
  | .literal text :: rest => some (text, rest)
  | _ => none

/-- The schema that is given as a text or as that of the session. -/
def readSchema (k : Supported) (home : Home) (lexemes : List Lexeme) :
    Option (String × List Lexeme) :=
  if k.currentSchema <+: lexemes then some (home.schema, lexemes.drop k.currentSchema.length)
  else readText lexemes

/-- The place at which a query counts the tables, by comparison with its literals. -/
def readProbe (k : Supported) (home : Home) (lexemes : List Lexeme) : Option TablePlace :=
  if k.probeOpening <+: lexemes then
    match readSchema k home (lexemes.drop k.probeOpening.length) with
    | some (schema, rest) =>
      if k.probeMiddle <+: rest then
        match readText (rest.drop k.probeMiddle.length) with
        | some (table, []) => some ⟨home.catalog, schema, table⟩
        | _ => none
      else none
    | none => none
  else none

/-- The place at which a statement creates a table. -/
def readCreation (home : Home) : List Lexeme → Option TablePlace
  | .word "CREATE" :: .word "TABLE" :: rest => home.place? (Layout.readName rest).1
  | _ => none

/-- The place of the table whose rows a statement reads, adds or removes. -/
def readRows (home : Home) : List Lexeme → Option TablePlace
  | .word "SELECT" :: rest =>
    home.place? (Layout.readName (rest.dropWhile (· ≠ .word "FROM")).tail).1
  | .word "INSERT" :: .word "INTO" :: rest => home.place? (Layout.readName rest).1
  | .word "DELETE" :: .word "FROM" :: rest => home.place? (Layout.readName rest).1
  | _ => none

section Reading

variable (k : Supported) (home : Home)

private theorem reads_literal (text : String) :
    Reads k.delimiters true (k.dialect.quoteLiteral text) (k.literalLexemes text) := by
  cases k with
  | sqlServer => exact Reads.nationalLiteral text
  | _ => exact Reads.literal text

private theorem readText_literalLexemes (text : String) (rest : List Lexeme) :
    readText (k.literalLexemes text ++ rest) = some (text, rest) := by
  cases k <;> rfl

private theorem readSchema_literalLexemes (schema : String) (rest : List Lexeme) :
    readSchema k home (k.literalLexemes schema ++ rest) = some (schema, rest) := by
  have hnot : ¬ k.currentSchema <+: k.literalLexemes schema ++ rest := by
    cases k <;> simp [Supported.currentSchema, Supported.literalLexemes, List.cons_prefix_cons]
  rw [readSchema, if_neg hnot, readText_literalLexemes]

private theorem readSchema_currentSchema (rest : List Lexeme) :
    readSchema k home (k.currentSchema ++ rest) = some (home.schema, rest) := by
  rw [readSchema, if_pos (List.prefix_append _ _), List.drop_left]

/-- The schema that a query asks for, as lexemes. -/
def schemaLexemes (k : Supported) : Option String → List Lexeme
  | some schema => k.literalLexemes schema
  | none => k.currentSchema

private theorem lexemes_tableExists (hk : k ≠ .sqlite) (name : String) :
    Text.lexemes k.delimiters (k.dialect.tableExists name) =
      k.probeOpening ++ (schemaLexemes k (TableName.split name).1 ++
        (k.probeMiddle ++ (k.literalLexemes (TableName.bare name) ++ []))) := by
  obtain ⟨opening, current, middle, htext, hopening, hcurrent, hmiddle, hlead⟩ :
      ∃ opening current middle, k.dialect.tableExists name = opening ++
          (match (TableName.split name).1 with
            | some schema => k.dialect.quoteLiteral schema
            | none => current) ++ middle ++ k.dialect.quoteLiteral (TableName.bare name) ∧
        Reads k.delimiters false opening k.probeOpening ∧
        Reads k.delimiters true current k.currentSchema ∧
        Reads k.delimiters false middle k.probeMiddle ∧ Text.leads middle.toList = true := by
    cases k with
    | sqlite => exact absurd rfl hk
    | postgres =>
      exact ⟨"SELECT COUNT(*) FROM information_schema.tables WHERE table_schema = ",
        "current_schema()", " AND table_name = ", rfl, Reads.of_scan (by decide +kernel),
        Reads.of_lexemes rfl rfl, Reads.of_scan rfl, rfl⟩
    | sqlServer =>
      exact ⟨"SELECT COUNT(*) FROM INFORMATION_SCHEMA.TABLES WHERE TABLE_SCHEMA = ",
        "SCHEMA_NAME()", " AND TABLE_NAME = ", rfl, Reads.of_scan (by decide +kernel),
        Reads.of_lexemes rfl rfl, Reads.of_scan rfl, rfl⟩
  have hschema : Reads k.delimiters true
      (match (TableName.split name).1 with
        | some schema => k.dialect.quoteLiteral schema
        | none => current) (schemaLexemes k (TableName.split name).1) := by
    cases (TableName.split name).1 with
    | some schema => exact reads_literal k schema
    | none => exact hcurrent
  have hread := ((hopening.append hschema rfl).append hmiddle hlead).append
    (reads_literal k (TableName.bare name)) rfl
  rw [htext, hread.lexemes_eq]
  simp

/-- A query for the existence of a table asks for the place that its name denotes by the schema and
the bare name. -/
theorem readProbe_tableExists (hk : k ≠ .sqlite) (name : String) :
    readProbe k home (Text.lexemes k.delimiters (k.dialect.tableExists name)) =
      some (home.asked name) := by
  have hschema (schema : Option String) (rest : List Lexeme) :
      readSchema k home (schemaLexemes k schema ++ rest) =
        some (schema.getD home.schema, rest) := by
    cases schema with
    | some schema => exact readSchema_literalLexemes k home schema rest
    | none => exact readSchema_currentSchema k home rest
  rw [lexemes_tableExists k hk, readProbe, if_pos (List.prefix_append _ _), List.drop_left, hschema]
  dsimp only
  rw [if_pos (List.prefix_append _ _), List.drop_left, readText_literalLexemes]
  rfl

end Reading

/-! ### The statements on the version table -/

namespace VersionTable

variable {k : Supported} (home : Home) {t : VersionTable} {c : Client}

/-- The query for the existence of the table. -/
theorem readProbe_probe (hk : k ≠ .sqlite) (hdialect : c.dialect = k.dialect) :
    readProbe k home (Text.lexemes k.delimiters (t.probe c).sql) =
      some (home.asked (t.address c)) := by
  change readProbe k home (Text.lexemes k.delimiters (c.dialect.tableExists (t.address c))) = _
  rw [hdialect]
  exact readProbe_tableExists k home hk (t.address c)

/-- The statement that creates the table. -/
theorem createTable_shape (hdialect : c.dialect = k.dialect) :
    c.dialect.createTable (t.shape c) = .ok [Table.creationText k (t.shape c)] := by
  rw [hdialect, Table.createTable_eq k (List.cons_ne_nil _ _)]
  rfl

/-- The columns of the table hold no expressions. -/
private theorem defaultIsValue_of_mem_columns {column : Column} (h : column ∈ columns) :
    column.defaultIsValue = true := by
  rcases List.mem_cons.mp h with rfl | h
  · rfl
  · rw [List.mem_singleton.mp h]
    rfl

theorem readCreation_creationText : readCreation home
    (Text.lexemes k.delimiters (Table.creationText k (t.shape c))) =
      home.place? (TableName.parts (t.address c)) := by
  have hparenthesis (after : List Lexeme) :
      (Lexeme.symbol '(' :: after).head? ≠ some (.symbol '.') := nofun
  rw [Table.lexemes_creationText k fun _ => defaultIsValue_of_mem_columns, readCreation,
    Layout.readName_lexemes _ (hparenthesis _)]
  rfl

/-- The names of the columns are no expressions. -/
private theorem plainReference_of_mem {column : String} (h : column ∈ ["version", "group"]) :
    PlainReference column := by
  have hnames : ["version", "group"].all fun column =>
      column.toList.all fun c => c ≠ '(' ∧ c ≠ ' ' := by decide
  intro c hc
  simpa using List.all_eq_true.mp (List.all_eq_true.mp hnames column h) c hc

private theorem plain_rowFilter (t : VersionTable) (v : Int64) : (t.rowFilter v).Plain :=
  fun _ => plainReference_of_mem

/-- The select that reads the versions. -/
theorem readRows_selection (hdialect : c.dialect = k.dialect) {built : BuiltSelect}
    (h : (t.selection c).build c.dialect = .ok built) :
    readRows home (Text.lexemes k.delimiters built.sql) =
      home.place? (TableName.parts (t.address c)) := by
  have hplain : (t.selection c).Plain := by
    refine ⟨?_, ?_, nofun⟩
    · rintro f hf column hcolumn
      cases hf
      exact plainReference_of_mem (List.mem_cons_of_mem _ hcolumn)
    · intro column hcolumn
      exact plainReference_of_mem (List.mem_of_mem_take (i := 1) hcolumn)
  have hphrase : (t.selection c).phrase k = .word "SELECT" :: .identifier "version" ::
      .word "FROM" :: (TableName.lexemes (t.address c) ++ .word "WHERE" ::
        (t.groupFilter.phrase k.dialect.placeholder 0 ++
          (Select.sortLexemes [] ++ Select.pagingLexemes k false none none))) := by
    have htables : Select.tableLexemes [t.address c] = TableName.lexemes (t.address c) :=
      List.append_nil _
    rw [← htables]
    rfl
  rw [hdialect, k.build_eq rfl] at h
  cases h
  rw [(k.reads_select hplain).lexemes_eq, hphrase, readRows,
    List.dropWhile_cons_of_pos (by simp), List.dropWhile_cons_of_neg (by simp), List.tail_cons,
    Layout.readName_lexemes _ (by simp)]

/-- The insert that records a version. -/
theorem readRows_recording (hdialect : c.dialect = k.dialect) (v : Int64) :
    readRows home (Text.lexemes k.delimiters (t.recording c v).sql) =
      home.place? (TableName.parts (t.address c)) := by
  have hinsert : Reads k.delimiters false "INSERT INTO " [.word "INSERT", .word "INTO"] :=
    Reads.of_scan (by cases k <;> rfl)
  have hopening : Reads k.delimiters false " (" [.symbol '('] :=
    Reads.of_scan (by cases k <;> rfl)
  have hread := (hinsert.append (Reads.table (t.address c)) rfl).append hopening rfl
  rw [← k.quoteTable_eq] at hread
  obtain ⟨values, hsql⟩ : ∃ values, (t.recording c v).sql =
      "INSERT INTO " ++ k.dialect.quoteTable (t.address c) ++ " (" ++ values := by
    change ∃ values, c.dialect.insert (t.address c) ["version", "group"] = _
    rw [hdialect, k.plain.insert]
    exact ⟨commaList (["version", "group"].map k.dialect.quoteIdentifier) ++ (") VALUES (" ++
      (commaList ((List.range 2).map k.dialect.placeholder) ++ ")")), by
        simp [insertStatement, String.append_assoc]⟩
  have hlexemes : Text.lexemes k.delimiters (t.recording c v).sql = .word "INSERT" ::
      .word "INTO" :: (TableName.lexemes (t.address c) ++
        .symbol '(' :: Text.lexemes k.delimiters values) := by
    rw [hsql, Text.lexemes, String.toList_append,
      hread values.toList fun h => absurd h Bool.false_ne_true]
    simp [Text.lexemes]
  rw [hlexemes, readRows, Layout.readName_lexemes _ (by simp)]

/-- The delete that forgets a version. -/
theorem readRows_of_forgets (hdialect : c.dialect = k.dialect) {v : Int64} {call : Call}
    (h : t.Forgets c v call) : readRows home (Text.lexemes k.delimiters call.sql) =
      home.place? (TableName.parts (t.address c)) := by
  obtain ⟨condition, hcondition, rfl⟩ := h
  rw [hdialect, k.whereClause_eq] at hcondition
  cases hcondition
  have hdelete : Reads k.delimiters false "DELETE FROM " [.word "DELETE", .word "FROM"] :=
    Reads.of_scan (by cases k <;> rfl)
  have hblank : Reads k.delimiters false " " [] := Reads.of_scan (by cases k <;> rfl)
  have hread := ((hdelete.append (Reads.table (t.address c)) rfl).append hblank rfl).append
    (k.reads_conditionText (plain_rowFilter t v) 0) rfl
  rw [← k.quoteTable_eq, String.append_assoc] at hread
  have hlexemes : Text.lexemes k.delimiters (k.dialect.delete (t.address c) ++
      (" " ++ k.conditionText (t.rowFilter v) 0)) = .word "DELETE" :: .word "FROM" ::
        (TableName.lexemes (t.address c) ++
          .word "WHERE" :: (t.rowFilter v).phrase k.dialect.placeholder 0) := by
    rw [k.plain.delete, hread.lexemes_eq]
    simp
  change readRows home (Text.lexemes k.delimiters (c.dialect.delete (t.address c) ++ _)) = _
  rw [hdialect, hlexemes, readRows, Layout.readName_lexemes _ (by simp)]

end VersionTable

end SchemaEvolution
