import SchemaEvolution.Sqlite.Table

/-!
# Tables that are always there

Some tables exist without having been created, unless a table of the same name has been. They show
settings and what else the store knows of itself. They cannot be changed, and all that counts of
their rows is how many there are.
-/

namespace SchemaEvolution.Sqlite

/-- What tables that are always there can tell of: the tables that have been created, the settings
that have been looked at, and whether the temporary schema has been used. -/
structure Known where
  tables : List StoredTable
  settings : List String := []
  hasTemporary : Bool := false

/-- A table that is always there: what it is called, and how many rows it has, or why they cannot be
read. One that is not usable cannot even be looked at. -/
structure Provided where
  name : String
  count : Except String Nat
  isUsable : Bool := true

namespace Provided

/-- The settings that are shown as a table of one row. -/
def settings : List String :=
  ["analysis_limit", "application_id", "auto_vacuum", "automatic_index", "busy_timeout",
   "cache_size", "cache_spill", "cell_size_check", "checkpoint_fullfsync", "count_changes",
   "data_version", "default_cache_size", "defer_foreign_keys", "empty_result_callbacks",
   "encoding", "foreign_keys", "freelist_count", "full_column_names", "fullfsync",
   "hard_heap_limit", "ignore_check_constraints", "integrity_check", "journal_mode",
   "journal_size_limit", "legacy_alter_table", "locking_mode", "max_page_count", "page_count",
   "page_size", "query_only", "quick_check", "read_uncommitted", "recursive_triggers",
   "reverse_unordered_selects", "schema_version", "secure_delete", "short_column_names",
   "soft_heap_limit", "synchronous", "temp_store", "threads", "trusted_schema", "user_version",
   "writable_schema"]

/-- The tables about one table or index, which have no rows while it is not named. -/
def details : List String :=
  ["foreign_key_check", "foreign_key_list", "index_info", "index_list", "index_xinfo", "optimize",
   "table_info", "table_xinfo"]

/-- How many pages the tables of the main schema fill, if each key and each table fills one. -/
def pageCount (tables : List StoredTable) : Nat :=
  let main := tables.filter fun t => !t.temporary
  if main.isEmpty then 0
  else main.foldl (fun n t => n + t.separateKeys.length + 1) 1

/-- How many rows a table of what the store knows has. Each setting that has been looked at is a
module from then on. -/
def settingCount? (known : Known) (name : String) : Option Nat :=
  if settings.contains name then some 1
  else if details.contains name then some 0
  else
    match name with
    | "collation_list" => some 3
    | "compile_options" => some 52
    | "database_list" => some (if known.hasTemporary then 2 else 1)
    | "function_list" => some 142
    | "module_list" => some (12 + (known.settings.filter (· ≠ name)).length)
    | "pragma_list" => some 66
    | "table_list" => some (known.tables.length + 2)
    | _ => none

/-- The start of the names of tables of what the store knows. -/
def settingStart : String := "pragma_"

/-- What the name of a table says that it shows. -/
def setting? (name : String) : Option String :=
  let folded := fold name
  if settingStart.toList.isPrefixOf folded then
    some (String.ofList (folded.drop settingStart.length))
  else none

/-- The table of a name that is always there. -/
def find? (known : Known) (name : String) : Option Provided :=
  let folded := String.ofList (fold name)
  match setting? name with
  | some setting => (settingCount? known setting).map fun n => { name, count := .ok n }
  | none =>
  if ["json_each", "json_tree"].contains folded then some { name := folded, count := .ok 0 }
  else
    match folded with
    | "dbstat" => some { name := folded, count := .ok (pageCount known.tables) }
    | "fts3tokenize" => some { name := folded, count := .error "SQL logic error" }
    | "fts4aux" =>
      some { name := folded, count := .error "invalid arguments to fts4aux constructor"
             isUsable := false }
    | _ => none

/-- The settings that look at every schema. -/
def checks : List String := ["integrity_check", "quick_check"]

/-- A table of as many rows without columns. -/
def table (p : Provided) : Except String StoredTable :=
  p.count.map fun n =>
    { name := p.name, temporary := (setting? p.name).any checks.contains, columns := []
      rows := (List.range n).map fun i => ⟨Int.ofNat i + 1, []⟩ }

end Provided

end SchemaEvolution.Sqlite
