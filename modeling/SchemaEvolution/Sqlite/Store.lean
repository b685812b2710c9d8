import SchemaEvolution.ResultSet
import SchemaEvolution.Sqlite.Provided
import SchemaEvolution.Sqlite.Statement

/-!
# The built-in store

Tables with rows, and what a connection has done to them. A transaction keeps what there was when it
began, tables included, and a rollback goes back to that. Temporary tables have a schema of their
own, and each schema has a catalog: a table of its tables that cannot be changed.
-/

namespace SchemaEvolution.Sqlite

/-- Tables, and what they were when the open transaction began. `changes` is how many rows the last
insert or delete changed, `totalChanges` how many all of them did, `lastRow` the number of the last
row inserted, and `drawn` how many random words have been drawn; `settings` have been looked at, and
`hasTemporary` is whether the temporary schema has been used; `readOnly` concerns the main schema;
`damage` is what every use of a table fails with. -/
structure Store where
  tables : List StoredTable := []
  saved : Option (List StoredTable) := none
  changes : Nat := 0
  totalChanges : Nat := 0
  lastRow : Int := 0
  drawn : Nat := 0
  settings : List String := []
  hasTemporary : Bool := false
  readOnly : Bool := false
  damage : Option BackendError := none
  deriving Repr

/-- What a statement gives. -/
structure Outcome where
  result : ResultSet
  changes : Nat
  deriving DecidableEq, Repr

namespace Store

/-- Where a name is looked up: whether among the temporary tables, in order. -/
def places (schema : Option Name) : List Bool :=
  match schema with
  | none => [true, false]
  | some name =>
    if fold name.text == "main".toList then [false]
    else if fold name.text == "temp".toList then [true]
    else []

/-- The rows of the catalog that tables make from a page on: for each table its own and one for each
key that is kept apart, and each of them has a page. -/
def catalogRows : Nat → List StoredTable → List (List Value)
  | _, [] => []
  | page, t :: rest =>
    let own := [.text "table", .text t.name, .text t.name, .ofInt page, .text t.source]
    let keys := t.separateKeys.mapIdx fun i ordinal =>
      [.text "index", .text ("sqlite_autoindex_" ++ t.name ++ "_" ++ toString (ordinal + 1)),
        .text t.name, .ofInt (page + 1 + i), .null]
    own :: keys ++ catalogRows (page + 1 + keys.length) rest

/-- The catalog of a schema. -/
def catalog (s : Store) (temporary : Bool) : StoredTable :=
  let column (name type : String) : StoredColumn := { name, type, affinity := .ofType type }
  let rows := catalogRows 2 (s.tables.filter fun t => t.temporary == temporary)
  { name := if temporary then "sqlite_temp_master" else "sqlite_master"
    temporary
    columns := [column "type" "TEXT", column "name" "TEXT", column "tbl_name" "TEXT",
      column "rootpage" "INT", column "sql" "TEXT"]
    rows := rows.mapIdx fun i values => ⟨i + 1, values⟩ }

/-- Whether a table is a catalog. -/
def isCatalog (t : StoredTable) : Bool :=
  t.name == "sqlite_master" || t.name == "sqlite_temp_master"

/-- The names of the catalog of a schema; the temporary one has the plain names too where the schema
is given. -/
def catalogNames (temporary qualified : Bool) : List String :=
  let plain := ["sqlite_master", "sqlite_schema"]
  if temporary then
    ["sqlite_temp_master", "sqlite_temp_schema"] ++ if qualified then plain else []
  else plain

/-- A table of a schema. -/
def findIn (s : Store) (name : String) (qualified temporary : Bool) : Option StoredTable :=
  match s.tables.find? fun t => t.temporary == temporary && fold t.name == fold name with
  | some t => some t
  | none =>
    if (catalogNames temporary qualified).any fun other => other.toList == fold name then
      some (s.catalog temporary)
    else none

/-- A table as a statement finds it: one of a schema, or one that is always there. -/
inductive Found where
  | stored (t : StoredTable)
  | provided (p : Provided)

/-- The table that a statement names. -/
def find? (s : Store) (table : TableRef) : Option Found :=
  let name := table.name.text
  match (places table.schema).findSome? (s.findIn name table.schema.isSome) with
  | some t => some (.stored t)
  | none =>
    let known : Known := ⟨s.tables, s.settings, s.hasTemporary⟩
    (Provided.find? known name).map .provided

/-- The store when a statement has named a table, which may be that of a setting. -/
def noting (s : Store) (table : TableRef) : Store :=
  match s.find? table with
  | some (.provided p) =>
    { s with settings := (Provided.setting? p.name).elim s.settings fun n => s.settings.insert n }
  | _ => s

/-- The store when a table of a schema has been used. -/
def used (s : Store) (temporary : Bool) : Store :=
  { s with hasTemporary := s.hasTemporary || temporary }

/-- The failure of a statement on a table that does not exist. -/
def missing (table : TableRef) : BackendError :=
  failure 1 ("no such table: " ++ table.qualified)

/-- Refuses to use what is damaged. -/
def usable (s : Store) : Except BackendError Unit :=
  match s.damage with
  | some cause => .error cause
  | none => .ok ()

/-- Refuses to change what may only be read. -/
def writable (s : Store) (t : StoredTable) : Except BackendError Unit :=
  if s.readOnly && !t.temporary then .error readOnlyFailure else .ok ()

/-- The table that a statement names, or the failure to find it. -/
def require (s : Store) (table : TableRef) : Except BackendError Found := do
  s.usable
  match s.find? table with
  | some (.provided p) =>
    match p.isUsable, p.count with
    | false, .error message => .error (failure 1 message)
    | _, _ => .ok (.provided p)
  | some found => .ok found
  | none => .error (missing table)

/-- The table that a statement reads. -/
def requireRows (s : Store) (table : TableRef) : Except BackendError StoredTable := do
  match ← s.require table with
  | .stored t => .ok t
  | .provided p => p.table.mapError (failure 1)

/-- The failure to change a table. -/
def unmodifiable (name : String) : BackendError :=
  failure 1 ("table " ++ name ++ " may not be modified")

/-- The table that a statement changes the rows of. -/
def requireWritable (s : Store) (table : TableRef) : Except BackendError StoredTable := do
  match ← s.require table with
  | .stored t => if isCatalog t then .error (unmodifiable t.name) else .ok t
  | .provided p => .error (unmodifiable p.name)

/-- Puts a table in the place of the one with its name. -/
def replace (s : Store) (t : StoredTable) : Store :=
  { s with
    tables := s.tables.map fun other =>
      if other.name = t.name && other.temporary == t.temporary then t else other }

/-- The store without a table. -/
def remove (s : Store) (t : StoredTable) : Store :=
  { s with
    tables := s.tables.filter fun other =>
      !(other.name == t.name && other.temporary == t.temporary) }

/-- What an expression sees of the connection, and of the values bound to placeholders. -/
def surroundings (s : Store) (bound : List Value) : Surroundings :=
  { bound, changes := s.changes, totalChanges := s.totalChanges, lastRow := s.lastRow }

/-- The store with what it was when the open transaction began, which is over. -/
def undone (s : Store) : Store := { s with tables := s.saved.getD s.tables, saved := none }

/-! ## Numbers given before -/

/-- The name of the table of the greatest numbers given in other tables. -/
def sequenceName : String := "sqlite_sequence"

/-- The table of the greatest numbers given in the tables of a schema. -/
def newSequence (temporary : Bool) : StoredTable :=
  { name := sequenceName, temporary
    columns := [{ name := "name" }, { name := "seq" }]
    source := "CREATE TABLE sqlite_sequence(name,seq)" }

/-- Whether a row is about the greatest number given in a table. -/
def isAbout (t : StoredTable) (row : StoredRow) : Bool := row.values.head? == some (.text t.name)

/-- The row about the greatest number given in a table, and what it says. -/
def given? (s : Store) (t : StoredTable) : Option (StoredRow × Int) := do
  let sequence ← s.findIn sequenceName true t.temporary
  let row ← sequence.rows.find? (isAbout t)
  some (row, (row.values[1]?.getD Value.null).asInteger)

/-- The greatest number given in a table, as far as it is kept. -/
def greatestGiven (s : Store) (t : StoredTable) : Int := ((s.given? t).map (·.2)).getD 0

/-- Keeps the greatest number given in a table, if it is not kept. -/
def keepGiven (s : Store) (t : StoredTable) (number : Int) : Store :=
  match s.findIn sequenceName true t.temporary with
  | some sequence =>
    let values : List Value := [.text t.name, .ofInt number]
    match s.given? t with
    | some (known, greatest) =>
      if number ≤ greatest then s
      else
        s.replace { sequence with
          rows := sequence.rows.map fun row =>
            if row.number = known.number then { row with values } else row }
    | none =>
      let next := (sequence.rows.getLast?.map fun row => row.number + 1).getD 1
      s.replace (sequence.addRow ⟨next, values⟩)
  | none => s

/-- Forgets the greatest number given in a table, if the table goes by it. -/
def forgetGiven (s : Store) (t : StoredTable) : Store :=
  match s.findIn sequenceName true t.temporary with
  | some sequence => if t.numbered then s.replace (sequence.dropRows (isAbout t)) else s
  | none => s

end Store

end SchemaEvolution.Sqlite
