import Mathlib.Logic.Function.Basic
import SchemaEvolution.Proofs.Text.Lexeme

/-!
# Layouts

The layout of a PostgreSQL database: its tables with their columns, constraints and comments, and
its indexes, each under a schema and a name. A statement changes the one object that it names.
What creates an object that exists, and what drops or changes one that is missing, is refused and
leaves the layout as it is. Here most changes are shown to have a change that takes them back.
-/

namespace SchemaEvolution

open Text (Lexeme)

namespace Layout

/-- Where an object stands: its schema and its name. -/
abbrev Address : Type := String × String

/-- A column: its type and its default as they are written, what else is declared with it, and its
comment. -/
structure Column where
  name : String
  type : List Lexeme
  nullable : Bool
  default : Option (List Lexeme)
  declared : List Lexeme
  comment : Option String
  deriving DecidableEq, Repr

/-- A table: its columns in order, its constraints by their names, and its comment. -/
@[ext] structure Table where
  columns : List Column
  constraints : String → Option (List Lexeme)
  comment : Option String

/-- An index: the table that it is for, and its columns as they are written. -/
structure Index where
  table : Address
  columns : List Lexeme
  deriving DecidableEq, Repr

/-- What one part of an alteration gives a column. -/
inductive Trait where
  | type (written : List Lexeme)
  | nullable (isNullable : Bool)
  | default (written : Option (List Lexeme))
  deriving DecidableEq, Repr

/-- A change within one table. -/
inductive TableChange where
  | addColumn (column : Column)
  | dropColumn (name : String)
  | renameColumn (name newName : String)
  | alterColumns (traits : List (String × Trait))
  | addConstraint (name : String) (definition : List Lexeme)
  | dropConstraint (name : String)
  | comment (text : Option String)
  | commentColumn (name : String) (text : Option String)
  deriving DecidableEq, Repr

end Layout

/-- The layout of a database. -/
@[ext] structure Layout where
  tables : Layout.Address → Option Layout.Table
  indexes : Layout.Address → Option Layout.Index

/-- A change of a layout. Tables and indexes are named by the parts of their names. -/
inductive Layout.Change where
  | createTable (name : List String) (columns : List Layout.Column)
      (constraints : List (String × List Lexeme))
  | dropTable (name : List String)
  | renameTable (name : List String) (newName : String)
  | changeTable (name : List String) (change : Layout.TableChange)
  | createIndex (name : String) (table : List String) (columns : List Lexeme)
  | dropIndex (name : List String)
  deriving DecidableEq, Repr

namespace Layout

/-! ### Changes within a table -/

namespace Column

/-- The column with another trait. -/
def withTrait (column : Column) : Trait → Column
  | .type written => { column with type := written }
  | .nullable isNullable => { column with nullable := isNullable }
  | .default written => { column with default := written }

end Column

namespace Table

/-- Whether the table has a column of some name. -/
def has (table : Table) (name : String) : Bool := table.columns.any (·.name = name)

/-- The table with its columns of some name replaced. -/
def mapColumn (table : Table) (name : String) (f : Column → Column) : Table :=
  { table with columns := table.columns.map fun c => if c.name = name then f c else c }

/-- A table with some columns and constraints, whose names have to differ. -/
def create (columns : List Column) (constraints : List (String × List Lexeme)) : Option Table :=
  if (columns.map (·.name)).Nodup ∧ (constraints.map (·.1)).Nodup then
    some ⟨columns, fun name => constraints.lookup name, none⟩
  else none

/-- The table after a change, unless the change is refused. -/
def perform (table : Table) : TableChange → Option Table
  | .addColumn column =>
    if table.has column.name then none
    else some { table with columns := table.columns ++ [column] }
  | .dropColumn name =>
    if table.has name then
      some { table with columns := table.columns.filter (·.name ≠ name) }
    else none
  | .renameColumn name newName =>
    if table.has name && !table.has newName then
      some (table.mapColumn name fun c => { c with name := newName })
    else none
  | .alterColumns traits =>
    traits.foldlM
      (fun table (name, trait) =>
        if table.has name then some (table.mapColumn name (·.withTrait trait)) else none) table
  | .addConstraint name definition =>
    match table.constraints name with
    | some _ => none
    | none =>
      some { table with constraints := Function.update table.constraints name (some definition) }
  | .dropConstraint name =>
    match table.constraints name with
    | some _ => some { table with constraints := Function.update table.constraints name none }
    | none => none
  | .comment text => some { table with comment := text }
  | .commentColumn name text =>
    if table.has name then some (table.mapColumn name fun c => { c with comment := text })
    else none

variable {table changed : Table} {name : String}

/-- Replacing columns twice. -/
theorem mapColumn_mapColumn {f : Column → Column} (hf : ∀ c, (f c).name = c.name)
    (g : Column → Column) :
    (table.mapColumn name f).mapColumn name g = table.mapColumn name (fun c => g (f c)) := by
  simp only [mapColumn, List.map_map, mk.injEq, and_true]
  apply List.map_congr_left
  intro c _
  by_cases hname : c.name = name <;> simp [hname, hf]

/-- Columns that are replaced by themselves. -/
theorem mapColumn_eq_self {f : Column → Column}
    (h : ∀ c ∈ table.columns, c.name = name → f c = c) : table.mapColumn name f = table := by
  have hcolumns : (table.columns.map fun c => if c.name = name then f c else c) =
      table.columns.map id := by
    apply List.map_congr_left
    intro c hc
    by_cases hname : c.name = name
    · simp [hname, h c hc hname]
    · simp [hname]
  rw [mapColumn, hcolumns, List.map_id]

theorem has_mapColumn {f : Column → Column} (hf : ∀ c, (f c).name = c.name) (other : String) :
    (table.mapColumn name f).has other = table.has other := by
  rw [has, has, mapColumn, List.any_map]
  congr
  funext c
  by_cases hname : c.name = name <;> simp [hname, hf]

theorem has_iff : table.has name = true ↔ ∃ c ∈ table.columns, c.name = name := by
  simp [has]

/-- A column that was added is dropped. -/
theorem dropColumn_addColumn {column : Column}
    (h : table.perform (.addColumn column) = some changed) :
    changed.perform (.dropColumn column.name) = some table := by
  rw [perform] at h
  split at h
  · cases h
  · next hmissing =>
    cases h
    have hothers : ∀ c ∈ table.columns, c.name ≠ column.name := by
      intro c hc hname
      exact hmissing (has_iff.mpr ⟨c, hc, hname⟩)
    have hkept : (table.columns ++ [column]).filter (·.name ≠ column.name) = table.columns := by
      simpa [List.filter_append, List.filter_eq_self] using hothers
    rw [perform, hkept, if_pos (has_iff.mpr ⟨column, by simp, rfl⟩)]

/-- A column that was renamed is renamed back. -/
theorem renameColumn_renameColumn {newName : String}
    (h : table.perform (.renameColumn name newName) = some changed) :
    changed.perform (.renameColumn newName name) = some table := by
  rw [perform] at h
  split at h
  · next hpresent =>
    cases h
    obtain ⟨hold, hnew⟩ := Bool.and_eq_true_iff.mp hpresent
    have hdiffer : ∀ c ∈ table.columns, c.name ≠ newName := by
      intro c hc hname
      have hhas : table.has newName = true := has_iff.mpr ⟨c, hc, hname⟩
      simp [hhas] at hnew
    have hne : newName ≠ name := by
      rintro rfl
      simp [hold] at hnew
    have hpresent :
        (table.mapColumn name fun c => { c with name := newName }).has newName = true := by
      obtain ⟨c, hc, hname⟩ := has_iff.mp hold
      exact has_iff.mpr ⟨{ c with name := newName },
        List.mem_map.mpr ⟨c, hc, by rw [if_pos hname]⟩, rfl⟩
    have hfree : (table.mapColumn name fun c => { c with name := newName }).has name = false := by
      rw [has, List.any_eq_false]
      intro c hc
      obtain ⟨before, hbefore, rfl⟩ := List.mem_map.mp hc
      by_cases hname : before.name = name <;> simp [hname, hne]
    have hback : (table.mapColumn name fun c => { c with name := newName }).mapColumn newName
        (fun c => { c with name := name }) = table := by
      have hcolumns : (table.columns.map fun c =>
          if c.name = name then { c with name := newName } else c).map
            (fun c => if c.name = newName then { c with name := name } else c) =
              table.columns.map id := by
        rw [List.map_map]
        apply List.map_congr_left
        intro c hc
        by_cases hname : c.name = name
        · subst hname
          simp
        · simp [hname, hdiffer c hc]
      rw [mapColumn, mapColumn, hcolumns, List.map_id]
    rw [perform, hpresent, hfree, Bool.not_false, Bool.and_self, if_pos rfl, hback]
  · cases h

/-- A constraint that was added is dropped. -/
theorem dropConstraint_addConstraint {definition : List Lexeme}
    (h : table.perform (.addConstraint name definition) = some changed) :
    changed.perform (.dropConstraint name) = some table := by
  rw [perform] at h
  split at h
  · cases h
  · next hmissing =>
    cases h
    simp [perform, Function.update_idem, ← hmissing]

/-- A comment on a table that had none is taken away. -/
theorem comment_comment {text : Option String} (hnone : table.comment = none)
    (h : table.perform (.comment text) = some changed) :
    changed.perform (.comment none) = some table := by
  cases h
  simp [perform, ← hnone]

/-- A comment on columns that had none is taken away. -/
theorem commentColumn_commentColumn {text : Option String}
    (hnone : ∀ c ∈ table.columns, c.name = name → c.comment = none)
    (h : table.perform (.commentColumn name text) = some changed) :
    changed.perform (.commentColumn name none) = some table := by
  rw [perform] at h
  split at h
  · next hpresent =>
    cases h
    rw [perform, has_mapColumn, if_pos hpresent, mapColumn_mapColumn, mapColumn_eq_self]
    · intro c hc hname
      rw [← hnone c hc hname]
    · exact fun _ => rfl
    · exact fun _ => rfl
  · cases h

/-- What an alteration of type, nullability and default makes of columns. -/
theorem perform_alterColumns (type : List Lexeme) (isNullable : Bool)
    (default : Option (List Lexeme)) :
    table.perform (.alterColumns [(name, .type type), (name, .nullable isNullable),
        (name, .default default)]) =
      if table.has name then
        some (table.mapColumn name fun c =>
          { c with type := type, nullable := isNullable, default := default })
      else none := by
  by_cases hpresent : table.has name = true
  · simp [perform, hpresent, has_mapColumn, mapColumn_mapColumn, Column.withTrait]
  · simp [perform, hpresent]

/-- Columns that were altered are given what they had before. -/
theorem alterColumns_alterColumns {type type' : List Lexeme} {isNullable isNullable' : Bool}
    {default default' : Option (List Lexeme)}
    (hbefore : ∀ c ∈ table.columns, c.name = name →
      c.type = type ∧ c.nullable = isNullable ∧ c.default = default)
    (h : table.perform (.alterColumns [(name, .type type'), (name, .nullable isNullable'),
      (name, .default default')]) = some changed) :
    changed.perform (.alterColumns [(name, .type type), (name, .nullable isNullable),
      (name, .default default)]) = some table := by
  rw [perform_alterColumns] at h ⊢
  split at h
  · next hpresent =>
    cases h
    rw [has_mapColumn, if_pos hpresent, mapColumn_mapColumn, mapColumn_eq_self]
    · intro c hc hname
      obtain ⟨rfl, rfl, rfl⟩ := hbefore c hc hname
      rfl
    · exact fun _ => rfl
    · exact fun _ => rfl
  · cases h

end Table

/-! ### Changes of a layout -/

/-- Where a name points: a bare name into the current schema. A name of more parts is of another
database and points nowhere. -/
def resolve (current : String) : List String → Option Address
  | [name] => some (current, name)
  | [schema, name] => some (schema, name)
  | _ => none

/-- The layout with another table at an address, or none. -/
def setTable (layout : Layout) (address : Address) (table : Option Table) : Layout :=
  { layout with tables := Function.update layout.tables address table }

/-- The layout with another index at an address, or none. -/
def setIndex (layout : Layout) (address : Address) (index : Option Index) : Layout :=
  { layout with indexes := Function.update layout.indexes address index }

/-- The layout after a change, unless the change is refused. An index stands in the schema of its
table, and a table keeps its schema when it is renamed. -/
def perform (current : String) (layout : Layout) : Change → Option Layout
  | .createTable name columns constraints => do
    let address ← resolve current name
    match layout.tables address with
    | some _ => none
    | none =>
      let table ← Table.create columns constraints
      some (layout.setTable address (some table))
  | .dropTable name => do
    let address ← resolve current name
    let _ ← layout.tables address
    some (layout.setTable address none)
  | .renameTable name newName => do
    let address ← resolve current name
    let table ← layout.tables address
    match layout.tables (address.1, newName) with
    | some _ => none
    | none => some ((layout.setTable address none).setTable (address.1, newName) (some table))
  | .changeTable name change => do
    let address ← resolve current name
    let table ← layout.tables address
    let changed ← table.perform change
    some (layout.setTable address (some changed))
  | .createIndex name table columns => do
    let address ← resolve current table
    let _ ← layout.tables address
    match layout.indexes (address.1, name) with
    | some _ => none
    | none => some (layout.setIndex (address.1, name) (some ⟨address, columns⟩))
  | .dropIndex name => do
    let address ← resolve current name
    let _ ← layout.indexes address
    some (layout.setIndex address none)

/-- The layout after some changes, unless one of them is refused. -/
def performAll (current : String) : Layout → List Change → Option Layout :=
  List.foldlM (perform current)

variable {current : String} {layout changed : Layout} {address : Address} {name : List String}

@[simp] theorem tables_setTable (layout : Layout) (address : Address) (table : Option Table) :
    (layout.setTable address table).tables address = table := by
  simp [setTable]

@[simp] theorem setTable_setTable (layout : Layout) (address : Address)
    (table table' : Option Table) :
    (layout.setTable address table).setTable address table' = layout.setTable address table' := by
  simp [setTable]

theorem setTable_comm {address' : Address} (h : address ≠ address') (layout : Layout)
    (table table' : Option Table) :
    (layout.setTable address table).setTable address' table' =
      (layout.setTable address' table').setTable address table := by
  simp [setTable, Function.update_comm h]

theorem setTable_eq_self {table : Option Table} (h : layout.tables address = table) :
    layout.setTable address table = layout := by
  simp [setTable, ← h]

/-- A change within a table is taken back when the table takes it back. -/
theorem perform_changeTable_back {change back : TableChange}
    (hback : ∀ address table changed, resolve current name = some address →
      layout.tables address = some table → table.perform change = some changed →
        changed.perform back = some table)
    (h : perform current layout (.changeTable name change) = some changed) :
    perform current changed (.changeTable name back) = some layout := by
  simp only [perform, Option.bind_eq_bind, Option.bind_eq_some_iff, Option.some.injEq] at h
  obtain ⟨address, haddress, table, htable, table', htable', rfl⟩ := h
  have hrestored := hback address table table' haddress htable htable'
  simp [perform, haddress, hrestored, setTable_eq_self htable]

/-- A table that was not there before is dropped, whatever it has become. -/
theorem perform_dropTable_back {table : Table} (haddress : resolve current name = some address)
    (hmissing : layout.tables address = none) :
    perform current (layout.setTable address (some table)) (.dropTable name) = some layout := by
  simp [perform, haddress, setTable_eq_self hmissing]

/-- A table is renamed back under the name that it was given. -/
theorem perform_renameTable_back {schema oldName newName : String} {renamed : List String}
    (hold : resolve current name = some (schema, oldName))
    (hnew : resolve current renamed = some (schema, newName))
    (h : perform current layout (.renameTable name newName) = some changed) :
    perform current changed (.renameTable renamed oldName) = some layout := by
  cases htable : layout.tables (schema, oldName) with
  | none => simp [perform, hold, htable] at h
  | some table =>
    cases htaken : layout.tables (schema, newName) with
    | some other => simp [perform, hold, htable, htaken] at h
    | none =>
      have hne : (schema, oldName) ≠ (schema, newName) := by
        intro heq
        rw [heq, htaken] at htable
        cases htable
      simp only [perform, hold, htable, htaken, Option.bind_eq_bind, Option.bind_some,
        Option.some.injEq] at h
      subst h
      have hfree : ((layout.setTable (schema, oldName) none).setTable (schema, newName)
          (some table)).tables (schema, oldName) = none := by
        simp [setTable, Function.update_of_ne hne]
      have hback : ((layout.setTable (schema, oldName) none).setTable (schema, newName)
          none).setTable (schema, oldName) (some table) = layout := by
        rw [setTable_comm hne, setTable_setTable, setTable_eq_self htaken, setTable_eq_self htable]
      simp [perform, hnew, hfree, hback]

/-- An index is dropped where its table's schema has put it. -/
theorem perform_dropIndex_back {index : String} {columns : List Lexeme} {dropped : List String}
    (hdropped : ∀ address, resolve current name = some address →
      resolve current dropped = some (address.1, index))
    (h : perform current layout (.createIndex index name columns) = some changed) :
    perform current changed (.dropIndex dropped) = some layout := by
  cases haddress : resolve current name with
  | none => simp [perform, haddress] at h
  | some address =>
    cases htable : layout.tables address with
    | none => simp [perform, haddress, htable] at h
    | some table =>
      cases hindex : layout.indexes (address.1, index) with
      | some other => simp [perform, haddress, htable, hindex] at h
      | none =>
        simp only [perform, haddress, htable, hindex, Option.bind_eq_bind, Option.bind_some,
          Option.some.injEq] at h
        subst h
        simp [perform, hdropped address haddress, setIndex, ← hindex]

end Layout

end SchemaEvolution
