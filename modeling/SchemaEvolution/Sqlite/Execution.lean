import SchemaEvolution.Sqlite.References
import SchemaEvolution.Sqlite.Statement.Reader
import SchemaEvolution.Sqlite.Store

/-!
# Carrying statements out

A statement is prepared first: the tables, columns and functions that it names are looked up, and
nothing happens if one is missing. Only then it is carried out. A change that fails then has changed
nothing, except that the last change was one of no rows.
-/

namespace SchemaEvolution.Sqlite

namespace Store

/-- What becomes of a store. -/
abbrev Change (α : Type) : Type := Except BackendError α × Store

/-- A failure before anything happens. -/
def failed {α : Type} (s : Store) (cause : BackendError) : Change α := (.error cause, s)

/-- A failure in the middle of a change. -/
def interrupted {α : Type} (s : Store) (cause : BackendError) : Change α :=
  (.error cause, { s with changes := 0 })

/-! ## Queries -/

/-- The term of an expression that sees a row, unless something is wrong with it. -/
def term (scope : Scope) (e : Expression) : Except BackendError Term :=
  let checked := do
    let t ← scope.term false e
    match TermFlaw.decisive t.flaws with
    | some message => .error message
    | none => .ok t
  checked.mapError complaint

/-- A table without rows to see. -/
def nowhere : StoredTable :=
  { name := "", temporary := false, columns := [], hasRowNumbers := false }

/-- Whether a row is as a condition asks. -/
def meets (condition : Option Term) (s : Surroundings) (row : StoredRow) : Evaluation Bool :=
  match condition with
  | none => return true
  | some t => do
    return (← t.holds? { s with row := row.values, rowNumber := row.number }) = some true

/-- The rows that are as a condition asks. -/
def chosen (condition : Option Term) (s : Surroundings) :
    List StoredRow → Evaluation (List StoredRow)
  | [] => return []
  | row :: rest => do
    let more ← chosen condition s rest
    return if ← meets condition s row then row :: more else more

/-- A result without rows has no columns either. -/
def rowsUnder (columns : List String) (rows : List (List Value)) : ResultSet :=
  if rows.isEmpty then {} else ⟨columns, rows⟩

/-- The name of a column of a result: that of a column of the table, or how it is written. -/
def label (t : StoredTable) (column : ResultColumn) : String :=
  match column.e with
  | .name n => ((t.position? n.text).map fun i => (t.column i).name).getD column.written
  | _ => column.written

/-- The values of some terms for a row. -/
def valuesFor (terms : List Term) (s : Surroundings) (row : StoredRow) :
    Evaluation (List Value) := do
  let values ← Term.evaluateList { s with row := row.values, rowNumber := row.number } terms
  return values.map (·.value)

/-- Runs an evaluation, which may draw random words. -/
def evaluating {α : Type} (s : Store) (e : Evaluation α) : Change α :=
  match e s.drawn with
  | .ok (answer, drawn) => (.ok answer, { s with drawn })
  | .error cause => (.error cause, s)

/-- The most columns of a result. -/
def mostColumns : Nat := 2000

/-- The evaluation of a query, once its table is known. -/
def queryOf (t : StoredTable) (s : Surroundings) (columns : List ResultColumn)
    (condition : Option Expression) : Except BackendError (Evaluation ResultSet) := do
  let scope := t.scope .statement
  let condition ← condition.mapM (term scope)
  let labels := columns.map (label t)
  match columns with
  | [⟨.call function .star [], _⟩] =>
    if fold function.text == "count".toList then
      return do
        let rows ← chosen condition s t.rows
        return ⟨labels, [[.int (Int64.ofNat rows.length)]]⟩
  | _ => pure ()
  if mostColumns < columns.length then throw (failure 1 "too many columns in result set")
  let terms ← columns.mapM fun column => term scope column.e
  return do
    let rows ← chosen condition s t.rows
    return rowsUnder labels (← rows.mapM (valuesFor terms s))

/-- Answers a query. -/
def select (s : Store) (bound : List Value) (columns : List ResultColumn)
    (table : Option TableRef) (condition : Option Expression) : Change ResultSet :=
  let prepared := do
    let t ← match table with
      | some table => s.requireRows table
      | none => .ok { nowhere with rows := [⟨0, []⟩] }
    .ok (t.temporary, ← queryOf t (s.surroundings bound) columns condition)
  match prepared with
  | .ok (temporary, e) => (s.used temporary).evaluating e
  | .error cause => s.failed cause

/-- Answers whether there is a row. -/
def hasRow (s : Store) (bound : List Value) (table : TableRef) (condition : Option Expression)
    (written : String) : Change ResultSet :=
  let prepared := do
    let t ← s.requireRows table
    let condition ← condition.mapM (term (t.scope .statement))
    .ok (t.temporary, chosen condition (s.surroundings bound) t.rows)
  match prepared with
  | .ok (temporary, e) =>
    let (answer, s) := (s.used temporary).evaluating e
    (answer.map fun rows => ⟨[written], [[.ofBool (!rows.isEmpty)]]⟩, s)
  | .error cause => s.failed cause

/-! ## Tables -/

/-- Whether a table that is to be created is a temporary one, and whether it is there already. -/
def newPlace (s : Store) (temporary ifMissing : Bool) (table : TableRef) :
    Except BackendError (Bool × Bool) := do
  s.usable
  let temporary ← match table.schema, places table.schema with
    | some schema, [] => .error (failure 1 ("unknown database " ++ schema.written))
    | some _, inTemporary :: _ =>
      if temporary && !inTemporary then
        .error (failure 1 "temporary table name must be unqualified")
      else .ok inTemporary
    | none, _ => .ok temporary
  let name := table.name.text
  if "sqlite_".toList.isPrefixOf (fold name) then
    throw (failure 1 ("object name reserved for internal use: " ++ name))
  let isThere := (s.findIn name true temporary).isSome
  if isThere && !ifMissing then
    throw (failure 1 ("table " ++ table.name.written ++ " already exists"))
  return (temporary, isThere)

/-- The store with a new table, and with the table of the greatest numbers given if it needs one. -/
def withTable (s : Store) (t : StoredTable) : Store :=
  let sequence :=
    if t.numbered && (s.findIn sequenceName true t.temporary).isNone then
      [newSequence t.temporary]
    else []
  { s with tables := s.tables ++ t :: sequence }

/-- Creates a table, unless it is there already. -/
def createTable (s : Store) (temporary ifMissing : Bool) (table : TableRef) (d : Declaration)
    (source : String) : Change ResultSet :=
  match s.newPlace temporary ifMissing table with
  | .error cause => s.failed cause
  | .ok (temporary, isThere) =>
    let s := s.used temporary
    let after : Except BackendError Store := do
      if isThere then
        match d.flaw with
        | some flaw => .error (failure 1 flaw.message)
        | none => .ok s
      else
        let t ← (StoredTable.ofDeclaration table.name.text temporary d source).mapError complaint
        s.writable t
        .ok (s.withTable t)
    match after with
    | .ok after => (.ok {}, after)
    | .error cause => s.failed cause

/-- The store without some rows of a table and those that go with them, and how many of its own are
gone. -/
def withoutRows (s : Store) (t : StoredTable) (gone : List Int) : Except BackendError Store := do
  if (Tables.referrers s.tables t).isEmpty then
    let left := s.replace (t.dropRows fun row => gone.contains row.number)
    return { left with changes := gone.length, totalChanges := s.totalChanges + gone.length }
  let (tables, count, others) ← Tables.deleteAll s.tables t gone
  Tables.checkReferences (fun _ _ _ => false) s.tables tables
  return { s with
    tables, changes := count, totalChanges := s.totalChanges + count + others }

/-- The table that a statement drops, if it is there. -/
def dropped? (s : Store) (ifPresent : Bool) (table : TableRef) :
    Except BackendError (Option StoredTable) := do
  if ifPresent && (s.find? table).isNone then return none
  match ← s.require table with
  | .provided p => throw (failure 1 ("table " ++ p.name ++ " may not be dropped"))
  | .stored t =>
    if "sqlite_".toList.isPrefixOf (fold t.name) then
      throw (failure 1 ("table " ++ t.name ++ " may not be dropped"))
    s.writable t
    Tables.checkFollowers s.tables t
    return some t

/-- Drops a table. Where foreign keys lead to it its rows are deleted first, which counts as a
change. -/
def dropTable (s : Store) (ifPresent : Bool) (table : TableRef) : Change ResultSet :=
  match s.dropped? ifPresent table with
  | .error cause => s.failed cause
  | .ok none => (.ok {}, s)
  | .ok (some t) =>
    match s.withoutRows t (t.rows.map (·.number)) with
    | .error cause => s.interrupted cause
    | .ok emptied =>
      let left := (emptied.remove t).forgetGiven t
      if (Tables.referrers s.tables t).isEmpty then
        (.ok {}, { left with changes := s.changes, totalChanges := s.totalChanges })
      else (.ok {}, left)

/-! ## Rows -/

/-- An insert that has been prepared: the table, how each row is made, what is said about conflicts,
and what is given back of each row. -/
structure Insertion where
  table : StoredTable
  recipes : List Recipe
  said : Option Resolution
  labels : List String
  returning : List Term

/-- Whether rows may be replaced. -/
def Insertion.mayReplace (i : Insertion) : Bool := i.recipes.any (i.table.mayReplace i.said)

/-- Whether foreign keys are looked at when all rows are there, not before each is added. -/
def Insertion.isJudgedLate (i : Insertion) : Bool := 1 < i.recipes.length || i.mayReplace

/-- How far an insert has got; `followers` is how many rows have gone or changed with others that
made way for new ones. -/
structure Progress where
  tables : Tables
  used : Int
  lastRow : Int
  count : Nat := 0
  followers : Nat := 0
  returned : List (List Value) := []

/-- Prepares an insert. -/
def prepareInsert (s : Store) (table : TableRef) (additions : Additions)
    (said : Option Resolution) (returning : List ResultColumn) :
    Except BackendError Insertion := do
  let t ← s.requireWritable table
  let recipes ← additions.rows.mapM fun row =>
    (t.recipe table.qualified additions.columns row).mapError complaint
  Tables.checkAddition s.tables t (recipes.any (t.mayReplace said))
  let terms ← returning.mapM fun column => term (t.scope .statement) column.e
  return ⟨t, recipes, said, returning.map (label t), terms⟩

/-- Adds the row of one recipe. -/
def addOne (i : Insertion) (s : Surroundings) (p : Progress) (recipe : Recipe) :
    Judgement Progress := do
  let s := { s with lastRow := p.lastRow }
  let t := p.tables.current i.table
  let c ← t.candidate recipe s p.used
  let p := { p with used := if t.numbered then max p.used c.row.number else p.used }
  let judged ← ExceptT.lift (t.judge recipe i.said s c).run
  match judged with
  | .error .ignored => return p
  | .error refusal => throw refusal
  | .ok (kept, row) =>
    let replaced := t.rows.filter fun other => kept.rows.all (·.number ≠ other.number)
    let following := Tables.followAll (p.tables.put kept) kept replaced
    let (tables, followers) ← ExceptT.lift (liftM following : Evaluation (Tables × Nat))
    let tables := tables.put ((tables.current kept).addRow row)
    let values ← (valuesFor i.returning s row : Evaluation (List Value))
    return { p with
      tables
      lastRow := if t.hasRowNumbers then row.number else p.lastRow
      count := p.count + 1
      followers := p.followers + followers
      returned := if i.returning.isEmpty then [] else p.returned ++ [values] }

/-- The store after an insert that has got to its end. -/
def settle (s : Store) (i : Insertion) (p : Progress) : Except BackendError Store := do
  let after := { s with tables := p.tables }
  let after := if i.table.numbered then after.keepGiven i.table p.used else after
  let isExcused (child : StoredTable) (key : ForeignKey) (row : StoredRow) : Bool :=
    i.mayReplace && Tables.isExcused s.tables i.table child key && !i.table.rows.contains row
  Tables.checkReferences isExcused s.tables after.tables
  return { after with
    changes := p.count, totalChanges := s.totalChanges + p.count + p.followers
    lastRow := p.lastRow }

/-- Inserts rows, and gives what is asked back of them. -/
def insert (s : Store) (bound : List Value) (table : TableRef) (additions : Additions)
    (said : Option Resolution) (returning : List ResultColumn) : Change ResultSet :=
  match s.prepareInsert table additions said returning with
  | .error cause => s.failed cause
  | .ok i =>
    let start : Progress :=
      { tables := s.tables, lastRow := s.lastRow
        used := if i.table.numbered then s.greatestGiven i.table else 0 }
    match s.writable i.table with
    | .error cause => s.interrupted cause
    | .ok _ =>
      match (i.recipes.foldlM (addOne i (s.surroundings bound)) start).run s.drawn with
      | .error cause => s.interrupted cause
      | .ok (.error (.failed cause undoes), drawn) =>
        let s := { s with drawn }
        if undoes then s.undone.interrupted cause else s.interrupted cause
      | .ok (.error .ignored, drawn) => (.ok {}, { s with drawn, changes := 0 })
      | .ok (.ok p, drawn) =>
        match s.settle i p with
        | .error cause =>
          let lastRow := if i.isJudgedLate then p.lastRow else s.lastRow
          { s with drawn, lastRow }.interrupted cause
        | .ok after => (.ok (rowsUnder i.labels p.returned), { after with drawn })

/-- Deletes rows. -/
def delete (s : Store) (bound : List Value) (table : TableRef) (condition : Option Expression) :
    Change ResultSet :=
  let prepared := do
    let t ← s.requireWritable table
    let condition ← condition.mapM (term (t.scope .statement))
    Tables.checkRemoval s.tables t
    .ok (t, chosen condition (s.surroundings bound) t.rows)
  match prepared with
  | .error cause => s.failed cause
  | .ok (t, rows) =>
    match s.writable t, rows s.drawn with
    | .error cause, _ | _, .error cause => s.interrupted cause
    | .ok _, .ok (gone, drawn) =>
      match s.withoutRows t (gone.map (·.number)) with
      | .error cause => s.interrupted cause
      | .ok after => (.ok {}, { after with drawn })

/-! ## Statements -/

/-- Begins, commits or rolls back a transaction. -/
def transact (s : Store) : Statement → Except BackendError Store
  | .begin =>
    if s.saved.isSome then .error (failure 1 "cannot start a transaction within a transaction")
    else .ok { s with saved := some s.tables }
  | .commit =>
    if s.saved.isSome then .ok { s with saved := none }
    else .error (failure 1 "cannot commit - no transaction is active")
  | _ =>
    if s.saved.isSome then .ok s.undone
    else .error (failure 1 "cannot rollback - no transaction is active")

/-- Carries a statement out. -/
def carryOut (s : Store) (bound : List Value) : Statement → Change ResultSet
  | .select columns table condition =>
    (table.elim s s.noting).select bound columns table condition
  | .hasRow table condition written => (s.noting table).hasRow bound table condition written
  | .createTable temporary ifMissing table declaration source =>
    s.createTable temporary ifMissing table declaration source
  | .dropTable ifPresent table => (s.noting table).dropTable ifPresent table
  | .insert table additions said returning =>
    (s.noting table).insert bound table additions said returning
  | .delete table condition => (s.noting table).delete bound table condition
  | statement =>
    match s.transact statement with
    | .ok after => (.ok {}, after)
    | .error cause => s.failed cause

/-- The rows of one result after those of another. -/
def joined (first second : ResultSet) : ResultSet :=
  if first.rows.isEmpty then second else { first with rows := first.rows ++ second.rows }

/-- Carries statements out one after the other, up to the first that fails. -/
def runAll (bound : List Value) :
    Nat → List Lexeme → Outcome → Store → Except BackendError Outcome × Store
  | 0, _, outcome, s => (.ok outcome, s)
  | fuel + 1, lexemes, outcome, s =>
    match Statement.next lexemes with
    | .error flaw => (.error (failure 1 flaw.message), s)
    | .ok none => (.ok outcome, s)
    | .ok (some (statement, rest)) =>
      match s.carryOut bound statement with
      | (.ok more, s) =>
        runAll bound fuel rest ⟨joined outcome.result more, outcome.changes + s.changes⟩ s
      | (.error cause, s) => (.error cause, s)

/-- Runs the statements of a text. A text without one changes no rows. -/
def run (sql : String) (bound : List Value) (s : Store) : Except BackendError Outcome × Store :=
  let lexemes := Lexeme.ofStatements sql
  runAll bound (lexemes.length + 1) lexemes ⟨{}, 0⟩ s

/-- What is left when the connection closes: an open transaction and temporary tables are
discarded. -/
def close (s : Store) : Store :=
  { s.undone with tables := s.undone.tables.filter fun t => !t.temporary }

end Store

end SchemaEvolution.Sqlite
