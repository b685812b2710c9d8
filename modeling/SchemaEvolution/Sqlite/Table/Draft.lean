import SchemaEvolution.Sqlite.Table
import SchemaEvolution.Text.Quoted

/-!
# Declaring tables

A table comes about clause by clause; the first clause that cannot stand is complained about. What
concerns the table as a whole is judged when it is complete.
-/

namespace SchemaEvolution.Sqlite

/-- A table as far as it has been declared, the name for its next constraints, and whether it has a
primary key. -/
structure Draft where
  table : StoredTable
  called : Option String := none
  hasPrimary : Bool := false

namespace Draft

/-- The most columns of a table. -/
def mostColumns : Nat := 2000

/-- The type of a column without words at its end that belong to what follows it. -/
def typeOf (type : String) : String :=
  let isBlank (c : Char) : Bool := c = ' ' || (9 ≤ c.toNat && c.toNat ≤ 13)
  let without (word : String) (text : List Char) : Option (List Char) :=
    let start := text.take (text.length - word.length)
    if (String.ofList (text.drop start.length)).toUpper == word then
      some (start.reverse.dropWhile isBlank).reverse
    else none
  match (if 16 ≤ type.utf8ByteSize then without "ALWAYS" type.toList else none) with
  | some text => String.ofList ((without "GENERATED" text).getD text)
  | none => type

/-- Changes the column declared last. -/
def onLast (d : Draft) (f : StoredColumn → StoredColumn) : Draft :=
  let columns := match d.table.columns.getLast? with
    | some column => d.table.columns.dropLast ++ [f column]
    | none => []
  { d with table := { d.table with columns } }

/-- The column declared last. -/
def last (d : Draft) : StoredColumn := d.table.columns.getLast?.getD { name := "" }

/-- The position of the column declared last. -/
def lastPosition (d : Draft) : Nat := d.table.columns.length - 1

/-- Adds a column. -/
def addColumn (d : Draft) (name : Name) (type : String) : Except String Draft :=
  if mostColumns ≤ d.table.columns.length then .error ("too many columns on " ++ d.table.name)
  else if (d.table.position? name.text).isSome then
    .error ("duplicate column name: " ++ name.text)
  else
    let type := typeOf type
    let column : StoredColumn := { name := name.text, type, affinity := .ofType type }
    .ok { d with table := { d.table with columns := d.table.columns ++ [column] }, called := none }

/-! ## Keys -/

/-- Keys with the first that replaces rows behind the next ones that do not. -/
def settled : List UniqueKey → List UniqueKey
  | [] => []
  | key :: rest =>
    if key.resolution = some .replace then
      let (before, after) := rest.span (·.resolution ≠ some .replace)
      before ++ key :: after
    else key :: settled rest

/-- Adds a key in front of the others. One that compares the same as another is no second key, but
may make that one primary. -/
def addKey (d : Draft) (key : UniqueKey) : Except String Draft :=
  let withKeys (keys : List UniqueKey) : Draft := { d with table := { d.table with keys } }
  match d.table.keys.find? fun other => other.columns == key.columns with
  | some other =>
    if other.resolution ≠ key.resolution && other.resolution.isSome && key.resolution.isSome then
      .error "conflicting ON CONFLICT clauses specified"
    else
      let merged := { other with
        primary := other.primary || key.primary
        resolution := other.resolution.or key.resolution }
      .ok (withKeys (settled (d.table.keys.map fun other =>
        if other.columns == key.columns then merged else other)))
  | none =>
    let keys := d.table.keys
    .ok (withKeys (settled ({ key with ordinal := keys.length } :: keys)))

/-- The expression that is compared, and the collation that is written around it. -/
def uncollated : Expression → Expression × Option String
  | .collate e name => ((uncollated e).1, some name)
  | e => (e, none)

/-- The name that an item of a key is, if it is one. -/
def itemName? (item : KeyItem) : Option Name :=
  match (uncollated item.subject).1 with
  | .name n => some n
  | .text text => some ⟨text, text⟩
  | _ => none

/-- A column of a key. -/
def keyColumn (d : Draft) (item : KeyItem) : Except String KeyColumn := do
  let scope := d.table.scope .key
  let refusal := "expressions prohibited in PRIMARY KEY and UNIQUE constraints"
  let position ← match itemName? item with
    | some n =>
      match d.table.position? n.text with
      | some i => .ok i
      | none => do
        let _ ← scope.nameTerm n
        .error refusal
    | none => do
      let _ ← scope.term false item.subject
      .error refusal
  match (uncollated item.subject).2 with
  | none => .ok ⟨position, (d.table.column position).collation⟩
  | some name =>
    match Collation.ofName? name with
    | some collation => .ok ⟨position, collation⟩
    | none => .error (noCollation ++ name)

/-- Refuses a key that says where null comes. -/
def checkNulls (items : List KeyItem) : Except String Unit :=
  match items.findSome? (·.nulls) with
  | some words => .error ("unsupported use of NULLS " ++ words)
  | none => .ok ()

/-- Adds a key on items. -/
def addKeyOf (d : Draft) (primary : Bool) (items : List KeyItem)
    (resolution : Option Resolution) : Except String Draft := do
  checkNulls items
  let columns ← items.mapM d.keyColumn
  d.addKey { primary, columns, resolution }

/-- Makes columns part of the primary key, which computed ones cannot be. -/
def markPrimary (d : Draft) (positions : List Nat) : Except String Draft :=
  let columns := d.table.columns.mapIdx fun i column =>
    if positions.contains i then { column with primary := true } else column
  if columns.any fun column => column.primary && column.generation.isSome then
    .error "generated columns cannot be part of the PRIMARY KEY"
  else .ok { d with table := { d.table with columns } }

/-- Adds the primary key: a single integer column is the number of the row, unless it is said to go
down where it is declared. -/
def addPrimary (d : Draft) (items : List KeyItem) (descending : Bool)
    (resolution : Option Resolution) (numbered : Bool) : Except String Draft := do
  if d.hasPrimary then
    throw ("table \"" ++ d.table.name ++ "\" has more than one primary key")
  let positions := items.filterMap fun item =>
    (itemName? item).bind fun n => d.table.position? n.text
  let marked := { d with hasPrimary := true }.markPrimary positions
  let rowKey := match items, positions with
    | [_], [i] =>
      if (d.table.column i).type.toUpper == "INTEGER" && !descending then some i else none
    | _, _ => none
  if rowKey.isSome then
    checkNulls items
    let d ← marked
    .ok { d with table := { d.table with rowKey, rowResolution := resolution, numbered } }
  else if numbered then .error "AUTOINCREMENT is only allowed on an INTEGER PRIMARY KEY"
  else (← marked).addKeyOf true items resolution

/-- The column declared last as an item of a key. -/
def lastItem (d : Draft) : KeyItem := ⟨.name ⟨d.last.name, d.last.name⟩, false, none⟩

/-! ## Other clauses -/

/-- A name without the quotes that it starts with, up to the closing one. -/
def unquoted (text : String) : String :=
  match text.toList with
  | opening :: body =>
    if ['\x27', '"', '\x60', '['].contains opening then
      let closing := if opening = '[' then ']' else opening
      ((Text.scanQuoted closing body).map fun p => String.ofList p.1).getD text
    else text
  | [] => text

/-- Gives the column declared last a collation, which its key has too. -/
def collate (d : Draft) (name : String) : Except String Draft :=
  match Collation.ofName? name with
  | none => .error (noCollation ++ name)
  | some collation =>
    let d := d.onLast fun column => { column with collation }
    let keys := d.table.keys.map fun key =>
      if key.columns.map (·.position) = [d.lastPosition] then
        { key with columns := [⟨d.lastPosition, collation⟩] }
      else key
    .ok { d with table := { d.table with keys } }

/-- Lets the column declared last be computed. -/
def generate (d : Draft) (e : Expression) (storage : Option String) : Except String Draft :=
  let refusal := "error in generated column \"" ++ d.last.name ++ "\""
  if d.last.default.isSome || d.last.generation.isSome then .error refusal
  else
    match storage.map String.toUpper with
    | none | some "VIRTUAL" | some "STORED" =>
      let stored := storage.map String.toUpper == some "STORED"
      let d := d.onLast fun column => { column with generation := some ⟨e, stored⟩ }
      d.markPrimary []
    | some _ => .error refusal

/-- Gives the column declared last a default, which uses no columns. -/
def supply (d : Draft) (e : Expression) : Except String Draft :=
  if !e.isConstant .functions then
    .error ("default value of column [" ++ d.last.name ++ "] is not constant")
  else if d.last.generation.isSome then .error "cannot use DEFAULT on a generated column"
  else .ok (d.onLast fun column => { column with default := some e })

/-- Adds a foreign key. -/
def refer (d : Draft) (columns : Option (List String)) (reference : Reference) :
    Except String Draft := do
  let count := reference.columns.map List.length
  let positions ← match columns with
    | none =>
      if count.any (· ≠ 1) then
        throw ("foreign key on " ++ d.last.name ++
          " should reference only one column of table " ++ reference.target.written)
      pure [d.lastPosition]
    | some columns => do
      if count.any (· ≠ columns.length) then
        throw ("number of columns in foreign key does not match the number of columns " ++
          "in the referenced table")
      columns.mapM fun column =>
        match d.table.position? column with
        | some i => .ok i
        | none => .error ("unknown column \"" ++ column ++ "\" in foreign key definition")
  let foreignKeys := ⟨positions, reference⟩ :: d.table.foreignKeys
  .ok { d with table := { d.table with foreignKeys } }

/-- Adds what a clause declares. -/
def add (d : Draft) : Clause → Except String Draft
  | .column name type => d.addColumn name type
  | .called name => .ok { d with called := some name }
  | .comma => .ok { d with called := none }
  | .notNull resolution =>
    .ok (d.onLast fun column => { column with notNull := some (resolution.getD .abort) })
  | .primaryKey descending resolution numbered =>
    d.addPrimary [d.lastItem] descending resolution numbered
  | .unique resolution => d.addKeyOf false [d.lastItem] resolution
  | .check e text =>
    let name := d.called.getD (unquoted text)
    .ok { d with table := { d.table with checks := d.table.checks ++ [⟨name, e⟩] } }
  | .default e => d.supply e
  | .collate name => d.collate name
  | .references reference => d.refer none reference
  | .generated e storage => d.generate e storage
  | .primaryKeyOf items resolution numbered => d.addPrimary items false resolution numbered
  | .uniqueOf items resolution => d.addKeyOf false items resolution
  | .foreignKey columns reference => d.refer (some columns) reference
  | .remark => .ok d

end Draft

/-! ## Whole tables -/

namespace StoredTable

/-- The types of the columns of a table that takes no value of another type. -/
def types : List String := ["INT", "INTEGER", "REAL", "TEXT", "BLOB", "ANY"]

/-- Makes a table take no value of another type than its columns say. -/
def asTyped (t : StoredTable) : Except String StoredTable := do
  if let some column := t.columns.find? fun column => !types.contains column.type.toUpper then
    let place := t.name ++ "." ++ column.name
    throw (if column.type.isEmpty then "missing datatype for " ++ place
      else "unknown datatype for " ++ place ++ ": \"" ++ column.type ++ "\"")
  let columns := t.columns.mapIdx fun i column =>
    { column with
      affinity := if column.type.toUpper == "ANY" then .blob else column.affinity
      notNull := if column.primary && t.rowKey ≠ some i then column.notNull.or (some .abort)
        else column.notNull }
  .ok { t with typed := true, columns }

/-- Lets the primary key take the place of row numbers. -/
def withoutRowNumbers (t : StoredTable) : Except String StoredTable :=
  if t.numbered then .error "AUTOINCREMENT not allowed on WITHOUT ROWID tables"
  else if !t.columns.any (·.primary) then .error ("PRIMARY KEY missing on table " ++ t.name)
  else
    let columns := t.columns.map fun column =>
      { column with
        notNull := if column.primary then column.notNull.or (some .abort) else column.notNull }
    let t := { t with columns, hasRowNumbers := false }
    match t.rowKey with
    | none => .ok t
    | some i =>
      let columns := [⟨i, (t.column i).collation⟩]
      let draft : Draft := { table := { t with rowKey := none, rowResolution := none } }
      (draft.addKey { primary := true, columns, resolution := t.rowResolution }).map (·.table)

/-- The terms of the computed columns with their positions. -/
def generated (t : StoredTable) : Except String (List (Nat × Term)) :=
  let indexed := t.columns.mapIdx fun i column => column.generation.map fun g => (i, g)
  (indexed.filterMap id).mapM fun (i, g) => do .ok (i, ← (t.scope .generated).term false g.e)

/-- The terms of the checks. -/
def checkTerms (t : StoredTable) : Except String (List (String × Term)) :=
  t.checks.mapM fun check => do .ok (check.name, ← (t.scope .check).term false check.e)

/-- The columns that are met again on the way from one through those that it is computed from. -/
def loops (references : List (Nat × List Nat)) : Nat → List Nat → Nat → List Nat
  | 0, _, i => [i]
  | fuel + 1, busy, i =>
    if busy.contains i then [i]
    else
      match references.lookup i with
      | some columns => columns.flatMap (loops references fuel (i :: busy))
      | none => []

/-- Refuses computed columns that are not stored and depend on each other. -/
def checkLoops (t : StoredTable) (generated : List (Nat × Term)) : Except String Unit :=
  let unstored := generated.filter fun (i, _) => (t.column i).generation.any (!·.stored)
  let references := unstored.map fun (i, term) => (i, term.columns)
  let fuel := unstored.length + 1
  match (unstored.flatMap fun (i, _) => loops references fuel [] i).getLast? with
  | some i => .error ("generated column loop on \"" ++ (t.column i).name ++ "\"")
  | none => .ok ()

/-- Judges a table that is complete. -/
def judged (t : StoredTable) (options : List TableOption) : Except String StoredTable := do
  let t ← if options.contains .strict then t.asTyped else .ok t
  let t ← if options.contains .withoutRowNumbers then t.withoutRowNumbers else .ok t
  let _ ← t.checkTerms
  let generated ← t.generated
  if generated.length = t.columns.length then
    throw "must have at least one non-generated column"
  t.checkLoops generated
  .ok t

/-- The table that a declaration makes. -/
def ofDeclaration (name : String) (temporary : Bool) (d : Declaration) (source : String) :
    Except String StoredTable := do
  let empty : StoredTable := { name, temporary, columns := [], source }
  let draft ← d.clauses.foldlM Draft.add { table := empty }
  match d.flaw with
  | some flaw => .error flaw.message
  | none => draft.table.judged d.options

end StoredTable

end SchemaEvolution.Sqlite
