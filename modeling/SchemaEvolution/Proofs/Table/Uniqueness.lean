import Mathlib.Data.List.Nodup
import SchemaEvolution.Proofs.Filter.Evaluation
import SchemaEvolution.Proofs.Table.Creation

/-!
# Unique columns

What the definitions of a table make unique. A column that is declared unique and is no part of the
primary key has this word in its definition, and a column that is the primary key is unique as
that. One of several key columns has neither. Whether it is declared unique makes no difference to
any statement (`createTable_forgetUnique`), so only the key is left, which admits rows that agree on
the column (`separates_iff_isUnique`).
-/

namespace SchemaEvolution

open Dialect (Supported)
open Text (Lexeme Reads)

/-! ### Keys and the rows that they admit -/

/-- No two of the rows agree on all columns of any key. -/
def Admits (keys : List (List String)) (rows : List Row) : Prop :=
  ∀ key ∈ keys, rows.Pairwise fun r r' => ∃ column ∈ key, r column ≠ r' column

/-- No two of the rows that the keys admit agree on the column. -/
def Separates (keys : List (List String)) (column : String) : Prop :=
  ∀ rows, Admits keys rows → rows.Pairwise fun r r' => r column ≠ r' column

/-- Keys separate a column exactly if there is one of it alone. -/
theorem separates_iff {keys : List (List String)} {column : String} :
    Separates keys column ↔ ∃ key ∈ keys, ∀ other ∈ key, other = column := by
  constructor
  · intro h
    by_contra hnone
    simp only [not_exists, not_and, not_forall] at hnone
    -- Two rows that agree on this column and on no other.
    have hrows : Admits keys
        [fun _ => .null, fun other => if other = column then .null else .int 0] := by
      intro key hkey
      obtain ⟨other, hother, hne⟩ := hnone key hkey
      simpa using ⟨other, hother, hne⟩
    simpa using h _ hrows
  · rintro ⟨key, hkey, halone⟩ rows hrows
    refine (hrows key hkey).imp ?_
    rintro r r' ⟨other, hother, hne⟩
    rwa [halone other hother] at hne

/-! ### Reading keys -/

namespace Layout

/-- The name that a lexeme is, if it is one. -/
def identifier? : Lexeme → Option String
  | .identifier name => some name
  | _ => none

/-- The columns that a constraint makes unique together, if it does. -/
def readKey : List Lexeme → Option (List String)
  | .word "PRIMARY" :: .word "KEY" :: columns => some (columns.filterMap identifier?)
  | .word "UNIQUE" :: columns => some (columns.filterMap identifier?)
  | _ => none

/-- The columns that an item makes unique together, if it does. A column that is declared unique or
the primary key is so alone. -/
def Item.key? : Item → Option (List String)
  | column c =>
    if .word "PRIMARY" ∈ c.declared ∨ .word "UNIQUE" ∈ c.declared then some [c.name] else none
  | constraint _ definition => readKey definition

/-- The columns that some lexemes of a table make unique together, if they do. -/
def keyOf (item : List Lexeme) : Option (List String) := (readItem item).bind Item.key?

private theorem filterMap_columnsLexemes (columns : List String) :
    (columnsLexemes columns).filterMap identifier? = columns := by
  induction columns with
  | nil => rfl
  | cons column columns ih =>
    cases columns with
    | nil => rfl
    | cons next columns =>
      change (.identifier column :: .symbol ',' :: columnsLexemes (next :: columns)).filterMap
        identifier? = column :: next :: columns
      have hname : identifier? (.identifier column) = some column := rfl
      have hcomma : identifier? (.symbol ',') = none := rfl
      rw [List.filterMap_cons_some hname, List.filterMap_cons_none hcomma, ih]

/-- A primary key makes its columns unique together. -/
theorem readKey_primaryDefinition (columns : List String) :
    readKey (primaryDefinition columns) = some columns := by
  change some ((.symbol '(' :: (columnsLexemes columns ++ [.symbol ')'])).filterMap identifier?) = _
  rw [List.filterMap_cons_none rfl, List.filterMap_append, filterMap_columnsLexemes]
  exact congrArg some (List.append_nil columns)

variable (k : Supported) {column : SchemaEvolution.Column} {asKey : Bool}

private theorem mem_declared {word : String} (hword : word = "PRIMARY" ∨ word = "UNIQUE") :
    .word word ∈ (Column.defined k column asKey).declared ↔
      asKey = true ∧ word = "PRIMARY" ∨
        (column.unique && !column.primaryKey) = true ∧ word = "UNIQUE" := by
  have hbehind : Lexeme.word word ∉ Column.behindKey k column := by
    unfold Column.behindKey
    rcases hword with rfl | rfl <;> split <;> simp
  have hkey : word ≠ "KEY" := by
    rcases hword with rfl | rfl <;> simp
  rw [Column.defined, declaredWith]
  cases asKey <;> cases column.unique && !column.primaryKey <;> simp [hbehind, hkey]

/-- A definition makes its column unique if it is written for the primary key, or for a column that
is declared unique and is no part of the key. -/
theorem keyOf_defined (hvalue : column.defaultIsValue = true) :
    keyOf (Column.defined k column asKey).lexemes =
      if asKey || (column.unique && !column.primaryKey) then some [column.name] else none := by
  have hread := (Column.legible_defined k asKey (column.isValue_of_mem hvalue)).readColumn_eq
  have hitem : readItem (Column.defined k column asKey).lexemes =
      some (.column (Column.defined k column asKey)) := by
    rw [readItem, hread]
    · rfl
    · exact nofun
  have hdeclared : .word "PRIMARY" ∈ (Column.defined k column asKey).declared ∨
      .word "UNIQUE" ∈ (Column.defined k column asKey).declared ↔
        (asKey || (column.unique && !column.primaryKey)) = true := by
    rw [mem_declared k (.inl rfl), mem_declared k (.inr rfl)]
    simp
  rw [keyOf, hitem, Option.bind_some, Item.key?, if_congr hdeclared rfl rfl]
  rfl

end Layout

/-! ### Definitions -/

/-- The column as if it was not declared unique. -/
def Column.withoutUnique (column : Column) : Column := { column with unique := false }

/-- The column as if it was not declared unique, if it is a key column. -/
def Column.forgetUnique (column : Column) : Column :=
  if column.primaryKey then column.withoutUnique else column

namespace Column

variable (column : Column)

@[simp] theorem name_forgetUnique : column.forgetUnique.name = column.name := by
  unfold forgetUnique
  split <;> rfl

@[simp] theorem primaryKey_forgetUnique : column.forgetUnique.primaryKey = column.primaryKey := by
  unfold forgetUnique
  split <;> rfl

@[simp] theorem comment_forgetUnique : column.forgetUnique.comment = column.comment := by
  unfold forgetUnique
  split <;> rfl

end Column

/-- What the definition of a unique column ends with. Of a key column it is nothing. -/
def Column.uniqueText (column : Column) : String := if column.primaryKey then "" else " UNIQUE"

section Definitions

variable {column : Column}

private theorem defineColumn_eq {quoteIdentifier : String → String}
    {columnType inlinePrimaryKey : Column → String} {renderDefault : DefaultValue → String}
    {asKey : Bool} (htype : columnType column.withoutUnique = columnType column)
    (hkey : inlinePrimaryKey column.withoutUnique = inlinePrimaryKey column)
    (h : column.unique = true) :
    defineColumn quoteIdentifier columnType inlinePrimaryKey renderDefault column asKey =
      defineColumn quoteIdentifier columnType inlinePrimaryKey renderDefault column.withoutUnique
        asKey ++ column.uniqueText := by
  have hunique : (if column.unique && !column.primaryKey then " UNIQUE" else "") =
      column.uniqueText := by
    rw [h, Bool.true_and, Column.uniqueText]
    cases column.primaryKey <;> rfl
  rw [defineColumn, defineColumn, htype, hkey, hunique]
  exact congrArg (· ++ column.uniqueText) String.append_empty.symm

namespace Dialect.Supported

variable (k : Supported)

/-- A definition ends with what makes the column unique, and this is all that it says about it. -/
theorem columnDefinition_eq (asKey : Bool) (h : column.unique = true) :
    k.dialect.columnDefinition column asKey =
      k.dialect.columnDefinition column.withoutUnique asKey ++ column.uniqueText := by
  have hdefine (column : Column) : k.dialect.columnDefinition column asKey =
      defineColumn k.dialect.quoteIdentifier k.dialect.columnType k.dialect.inlinePrimaryKey
        k.dialect.renderDefault column asKey := by
    cases k <;> rfl
  have htype : k.dialect.columnType column.withoutUnique = k.dialect.columnType column := by
    cases k <;> rfl
  have hkey : k.dialect.inlinePrimaryKey column.withoutUnique =
      k.dialect.inlinePrimaryKey column := by
    cases k <;> rfl
  rw [hdefine, hdefine, defineColumn_eq htype hkey h]

/-- It says the same about a key column that is declared unique and about one that is not. -/
theorem columnDefinition_forgetUnique (asKey : Bool) :
    k.dialect.columnDefinition column.forgetUnique asKey =
      k.dialect.columnDefinition column asKey := by
  rw [Column.forgetUnique]
  split
  · next hkey =>
    cases hunique : column.unique with
    | true =>
      rw [k.columnDefinition_eq asKey hunique, Column.uniqueText, if_pos hkey, String.append_empty]
    | false => rw [Column.withoutUnique, ← hunique]
  · rfl

/-- What stands between a table and a column that is added to it. -/
def addition : Supported → String
  | sqlServer => " ADD "
  | _ => " ADD COLUMN "

theorem addColumn_eq (table : String) (column : Column) : k.dialect.addColumn table column =
    "ALTER TABLE " ++ k.dialect.quoteTable table ++ k.addition ++
      k.dialect.columnDefinition column false := by
  cases k <;> rfl

/-- The statement that adds a column, as lexemes. -/
theorem lexemes_addColumn (table : String) (hvalue : column.defaultIsValue = true) :
    Text.lexemes k.delimiters (k.dialect.addColumn table column) =
      .word "ALTER" :: .word "TABLE" :: (TableName.lexemes table ++
        Text.lexemes k.delimiters k.addition ++
          (Layout.Column.defined k column false).lexemes) := by
  have hwords : Reads k.delimiters false "ALTER TABLE " [.word "ALTER", .word "TABLE"] :=
    Reads.of_scan (by cases k <;> rfl)
  have haddition : Reads k.delimiters false k.addition (Text.lexemes k.delimiters k.addition) :=
    Reads.of_scan (by cases k <;> rfl)
  have hread := ((hwords.append (Reads.table table) rfl).append haddition
    (by cases k <;> rfl)).append
      (Layout.Column.reads_defined k false (column.isValue_of_mem hvalue)) rfl
  rw [← k.quoteTable_eq, ← k.addColumn_eq] at hread
  exact hread.lexemes_eq.trans (by simp)

end Dialect.Supported

end Definitions

/-! ### Tables -/

namespace Table

variable (k : Supported) (table : Table)

/-- The definitions of the columns, and the constraint that several key columns are. -/
def definitions : List String :=
  (table.columns.map fun column => k.dialect.columnDefinition column (table.isOnlyKey column)) ++
    if 1 < table.keyColumns.length then
      ["CONSTRAINT " ++ k.dialect.quoteIdentifier (TableName.primaryKey table.name) ++
        " PRIMARY KEY (" ++ commaList (table.keyColumns.map fun column =>
          k.dialect.quoteIdentifier column.name) ++ ")"]
    else []

/-- The table, none of whose key columns is declared unique. -/
def forgetUnique : Table := { table with columns := table.columns.map Column.forgetUnique }

variable {table}

private theorem creationText_eq (hne : table.columns ≠ []) :
    creationText k table = "CREATE TABLE " ++ k.dialect.quoteTable table.name ++ " (\n  " ++
      ",\n  ".intercalate (table.definitions k) ++ "\n)" := by
  have hempty : ¬table.columns.isEmpty = true := by simpa using hne
  have hcreate : k.dialect.createTable table = .ok
      (("CREATE TABLE " ++ k.dialect.quoteTable table.name ++ " (\n  " ++
        ",\n  ".intercalate (table.definitions k) ++ "\n)") :: commentTexts k table) := by
    cases k <;> exact if_neg hempty
  rw [createTable_eq k hne] at hcreate
  exact (List.cons.inj (Except.ok.inj hcreate)).1

private theorem keyColumns_forgetUnique :
    table.forgetUnique.keyColumns = table.keyColumns.map Column.forgetUnique := by
  have hkey : (fun column : Column => column.primaryKey) ∘ Column.forgetUnique =
      fun column => column.primaryKey := funext Column.primaryKey_forgetUnique
  rw [keyColumns, forgetUnique, List.filter_map, hkey]
  rfl

private theorem definitions_forgetUnique :
    table.forgetUnique.definitions k = table.definitions k := by
  have honly (column : Column) :
      table.forgetUnique.isOnlyKey column.forgetUnique = table.isOnlyKey column := by
    rw [isOnlyKey, keyColumns_forgetUnique, List.length_map, Column.primaryKey_forgetUnique]
    rfl
  have hcolumns : (table.forgetUnique.columns.map fun column =>
        k.dialect.columnDefinition column (table.forgetUnique.isOnlyKey column)) =
      table.columns.map fun column =>
        k.dialect.columnDefinition column (table.isOnlyKey column) := by
    rw [forgetUnique, List.map_map]
    refine List.map_congr_left fun column _ => ?_
    rw [Function.comp_apply, k.columnDefinition_forgetUnique, ← honly column]
    rfl
  rw [definitions, hcolumns, keyColumns_forgetUnique, List.length_map, List.map_map]
  simp only [Function.comp_def, Column.name_forgetUnique]
  rfl

private theorem commentTexts_forgetUnique :
    commentTexts k table.forgetUnique = commentTexts k table := by
  rw [commentTexts, forgetUnique, List.filterMap_map]
  simp only [Function.comp_def, Column.name_forgetUnique, Column.comment_forgetUnique]
  rfl

/-- Whether key columns are declared unique makes no difference to any statement. -/
theorem createTable_forgetUnique :
    k.dialect.createTable table.forgetUnique = k.dialect.createTable table := by
  by_cases hne : table.columns = []
  · have hforget : table.forgetUnique = table := by
      rw [forgetUnique, hne, List.map_nil, ← hne]
    rw [hforget]
  · have hforget : table.forgetUnique.columns ≠ [] := by simpa [forgetUnique] using hne
    rw [createTable_eq k hforget, createTable_eq k hne, creationText_eq k hforget,
      creationText_eq k hne, definitions_forgetUnique, commentTexts_forgetUnique]
    rfl

/-! ### The keys of a table -/

/-- The column is unique by itself: it is the key, or it is declared unique and is no key column. -/
def isUnique (table : Table) (column : Column) : Bool :=
  table.isOnlyKey column || (column.unique && !column.primaryKey)

variable {column : Column}

theorem isUnique_iff (hunique : column.unique = true) : table.isUnique column = true ↔
    column.primaryKey = false ∨ table.keyColumns.length = 1 := by
  rw [isUnique, isOnlyKey, hunique]
  cases column.primaryKey <;> simp

private theorem keyOf_definitionLexemes (hvalue : column.defaultIsValue = true) :
    Layout.keyOf (table.definitionLexemes k column) =
      if table.isUnique column then some [column.name] else none :=
  Layout.keyOf_defined k hvalue

private theorem keyOf_keyLexemes :
    Layout.keyOf table.keyLexemes = some (table.keyColumns.map (·.name)) :=
  Layout.readKey_primaryDefinition _

/-- The keys of a table are its unique columns, and the key if it has several columns. -/
theorem mem_keys_iff (hvalues : ∀ column ∈ table.columns, column.defaultIsValue = true)
    {key : List String} : key ∈ (table.items k).filterMap Layout.keyOf ↔
      (∃ column ∈ table.columns, table.isUnique column = true ∧ key = [column.name]) ∨
        (1 < table.keyColumns.length ∧ key = table.keyColumns.map (·.name)) := by
  rw [items, List.filterMap_append, List.mem_append]
  refine or_congr ?_ ?_
  · rw [List.mem_filterMap]
    constructor
    · rintro ⟨item, hitem, hkey⟩
      obtain ⟨column, hcolumn, rfl⟩ := List.mem_map.mp hitem
      rw [keyOf_definitionLexemes k (hvalues column hcolumn), Option.ite_none_right_eq_some] at hkey
      exact ⟨column, hcolumn, hkey.1, (Option.some.inj hkey.2).symm⟩
    · rintro ⟨column, hcolumn, hunique, rfl⟩
      refine ⟨_, List.mem_map_of_mem hcolumn, ?_⟩
      rw [keyOf_definitionLexemes k (hvalues column hcolumn), if_pos hunique]
  · split
    · next hseveral =>
      rw [List.filterMap_cons_some keyOf_keyLexemes, List.filterMap_nil, List.mem_singleton]
      exact (and_iff_right hseveral).symm
    · next hsingle => simp [hsingle]

/-- In a table whose columns have names of their own, the keys separate exactly the columns that are
unique by themselves. -/
theorem separates_iff_isUnique (hvalues : ∀ column ∈ table.columns, column.defaultIsValue = true)
    (hnames : (table.columns.map (·.name)).Nodup) (hcolumn : column ∈ table.columns) :
    Separates ((table.items k).filterMap Layout.keyOf) column.name ↔
      table.isUnique column = true := by
  rw [separates_iff]
  constructor
  · rintro ⟨key, hkey, halone⟩
    rcases (mem_keys_iff k hvalues).mp hkey with ⟨other, hother, hunique, rfl⟩ | ⟨hseveral, rfl⟩
    · have hname : other.name = column.name := halone _ (List.mem_singleton_self _)
      rwa [← List.inj_on_of_nodup_map hnames hother hcolumn hname]
    · have hkeys : (table.keyColumns.map (·.name)).Nodup :=
        (List.filter_sublist.map _).nodup hnames
      rw [List.eq_replicate_of_mem halone, List.nodup_replicate, List.length_map] at hkeys
      exact absurd hseveral (Nat.not_lt.mpr hkeys)
  · intro hunique
    exact ⟨_, (mem_keys_iff k hvalues).mpr (.inl ⟨column, hcolumn, hunique, rfl⟩),
      fun _ => List.mem_singleton.mp⟩

private theorem getElem?_map_append {α : Type} {f : Column → α} {columns : List Column}
    (rest : List α) {i : Nat} (h : columns[i]? = some column) :
    (columns.map f ++ rest)[i]? = some (f column) := by
  obtain ⟨hlt, rfl⟩ := List.getElem?_eq_some_iff.mp h
  rw [List.getElem?_append_left (by rwa [List.length_map]), List.getElem?_map, h, Option.map_some]

/-- A column that is declared unique is so by itself in the table that is created, unless it is one
of several key columns. Its definition ends with the word, unless it is a key column: of these the
statements say the same whether or not they are declared unique. A column that is added is unique
unless it is a key column. -/
theorem unique_is_enforced_unless_among_keys (k : Supported) (table : Table) {i : Nat}
    {column : Column} (hcolumn : table.columns[i]? = some column) (hunique : column.unique = true) :
    k.dialect.createTable table.forgetUnique = k.dialect.createTable table ∧
    (∃ create comments, k.dialect.createTable table = .ok (create :: comments) ∧
      create = "CREATE TABLE " ++ k.dialect.quoteTable table.name ++ " (\n  " ++
        ",\n  ".intercalate (table.definitions k) ++ "\n)" ∧
      (table.definitions k)[i]? = some
        (k.dialect.columnDefinition column.withoutUnique (table.isOnlyKey column) ++
          column.uniqueText) ∧
      ((∀ column ∈ table.columns, column.defaultIsValue = true) →
        ∃ body, Text.lexemes k.delimiters create =
            .word "CREATE" :: .word "TABLE" :: (TableName.lexemes table.name ++
              .symbol '(' :: (body ++ [.symbol ')'])) ∧
          Layout.isWhole ')' 0 body = true ∧
          (Layout.itemsOf 0 body)[i]? = some (table.definitionLexemes k column) ∧
          (Layout.keyOf (table.definitionLexemes k column) = some [column.name] ↔
            column.primaryKey = false ∨ table.keyColumns.length = 1) ∧
          ((table.columns.map (·.name)).Nodup →
            (Separates ((Layout.itemsOf 0 body).filterMap Layout.keyOf) column.name ↔
              column.primaryKey = false ∨ table.keyColumns.length = 1)))) ∧
    ∀ name, k.dialect.addColumn name column =
        k.dialect.addColumn name column.withoutUnique ++ column.uniqueText ∧
      (column.defaultIsValue = true →
        ∃ definition, Text.lexemes k.delimiters (k.dialect.addColumn name column) =
            .word "ALTER" :: .word "TABLE" :: (TableName.lexemes name ++
              Text.lexemes k.delimiters k.addition ++ definition) ∧
          (Layout.keyOf definition = some [column.name] ↔ column.primaryKey = false)) := by
  have hmem : column ∈ table.columns := List.mem_of_getElem? hcolumn
  have hne : table.columns ≠ [] := List.ne_nil_of_mem hmem
  refine ⟨createTable_forgetUnique k,
    ⟨_, _, createTable_eq k hne, creationText_eq k hne, ?_, ?_⟩, ?_⟩
  · rw [definitions, getElem?_map_append _ hcolumn, k.columnDefinition_eq _ hunique]
  · intro hvalues
    refine ⟨_, lexemes_creationText k hvalues, isWhole_items k hvalues, ?_, ?_, ?_⟩
    · rw [itemsOf_items k hne hvalues]
      exact getElem?_map_append _ hcolumn
    · rw [keyOf_definitionLexemes k (hvalues column hmem), ← isUnique_iff hunique]
      simp
    · intro hnames
      rw [itemsOf_items k hne hvalues, separates_iff_isUnique k hvalues hnames hmem,
        isUnique_iff hunique]
  · intro name
    constructor
    · rw [k.addColumn_eq, k.addColumn_eq, k.columnDefinition_eq false hunique,
        ← String.append_assoc]
    · intro hvalue
      refine ⟨_, k.lexemes_addColumn name hvalue, ?_⟩
      rw [Layout.keyOf_defined k hvalue, hunique]
      simp

/-- A name is unique beside a key of one column. -/
theorem unique_is_enforced_beside_key :
    ∃ create body,
      Dialect.postgres.createTable ⟨"users", [(Column.integer "id").asPrimaryKey,
        (Column.ofType "email" .text).asUnique]⟩ = .ok [create] ∧
      Text.lexemes .quotes create = [.word "CREATE", .word "TABLE", .identifier "users",
        .symbol '('] ++ body ++ [.symbol ')'] ∧
      Separates ((Layout.itemsOf 0 body).filterMap Layout.keyOf) "email" := by
  obtain ⟨-, ⟨create, comments, hcreates, -, -, hread⟩, -⟩ :=
    unique_is_enforced_unless_among_keys .postgres ⟨"users", [(Column.integer "id").asPrimaryKey,
      (Column.ofType "email" .text).asUnique]⟩ (i := 1) rfl rfl
  obtain ⟨body, hlexemes, -, -, -, hseparates⟩ := hread (by decide)
  obtain rfl : comments = [] := (List.cons.inj (Except.ok.inj hcreates)).2.symm
  exact ⟨create, body, hcreates, hlexemes, (hseparates (by decide)).mpr (.inl rfl)⟩

/-- A table of pairs. The first column is declared unique. -/
def pairs : Table :=
  ⟨"pairs", [(Column.integer "a").asPrimaryKey.asUnique, (Column.integer "b").asPrimaryKey]⟩

/-- The first column of a pair is declared unique, and is not, neither in the table that is created
nor when it is added. -/
theorem unique_is_lost_among_keys :
    (∃ create body, Dialect.sqlite.createTable pairs = .ok [create] ∧
      Text.lexemes .quotes create = [.word "CREATE", .word "TABLE", .identifier "pairs",
        .symbol '('] ++ body ++ [.symbol ')'] ∧
      ¬ Separates ((Layout.itemsOf 0 body).filterMap Layout.keyOf) "a") ∧
    ∃ definition,
      Text.lexemes .quotes (Dialect.sqlite.addColumn "pairs"
        (Column.integer "a").asPrimaryKey.asUnique) = [.word "ALTER", .word "TABLE",
          .identifier "pairs", .word "ADD", .word "COLUMN"] ++ definition ∧
      Layout.keyOf definition = none := by
  have hvalues : ∀ column ∈ pairs.columns, column.defaultIsValue = true := by decide
  have hne : pairs.columns ≠ [] := List.cons_ne_nil _ _
  have hitems := itemsOf_items .sqlite hne hvalues
  have hkeys : ¬ Separates ((pairs.items .sqlite).filterMap Layout.keyOf) "a" := by
    intro hseparates
    have hunique : pairs.isUnique (Column.integer "a").asPrimaryKey.asUnique = true :=
      (separates_iff_isUnique .sqlite hvalues (by decide) List.mem_cons_self).mp hseparates
    exact absurd hunique (by decide)
  rw [← hitems] at hkeys
  constructor
  · exact ⟨_, _, createTable_eq .sqlite hne, lexemes_creationText .sqlite hvalues, hkeys⟩
  · refine ⟨_, Supported.sqlite.lexemes_addColumn "pairs" rfl, ?_⟩
    rw [Layout.keyOf_defined .sqlite rfl]
    rfl

end Table

end SchemaEvolution
