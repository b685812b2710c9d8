import SchemaEvolution.Sqlite.Table.Recipe

/-!
# Adding rows

A new row is computed, converted as the columns ask, and held against the constraints one after the
other: null where it may not be, the checks, the number of the row, and the keys. Each constraint
says what becomes of a row that breaks it, unless the statement says so for all of them.
-/

namespace SchemaEvolution.Sqlite

/-- A row that is to be added, and whether its number has been given. -/
structure Candidate where
  row : StoredRow
  isNumbered : Bool
  deriving DecidableEq, Repr

/-- Why a row is not added: it is left out, or the statement fails, perhaps with its whole
transaction. -/
inductive Refusal where
  | ignored
  | failed (cause : BackendError) (undoes : Bool)
  deriving DecidableEq, Repr

/-- A judgement of a row. -/
abbrev Judgement (α : Type) : Type := ExceptT Refusal Evaluation α

/-- A judgement that is known without computing anything. -/
def liftExcept {α : Type} (judgement : Except Refusal α) : Judgement α :=
  ExceptT.mk (return judgement)

/-- What a resolution makes of a broken constraint. -/
def Resolution.refuse {α : Type} (r : Resolution) (cause : BackendError) : Judgement α :=
  throw (match r with
    | .ignore => .ignored
    | .rollback => .failed cause true
    | .abort | .fail | .replace => .failed cause false)

namespace StoredTable

/-! ## Numbers of rows -/

/-- The integer that a value gives as the number of a row. -/
def rowNumber? (v : Value) : Option Int :=
  match Affinity.numeric.store v with
  | .int n => some n.toInt
  | _ => none

/-- The greatest number that a row may have. -/
def lastNumber : Int := 9223372036854775807

/-- The number that is tried first when there is none after the last row. -/
def middleNumber : Int := 4611686018427387904

/-- A number for a new row: the one after the last, or any free one if there is none after it.
Where no number is given twice there may be none left, which ends the transaction. -/
def freeNumber (t : StoredTable) (used : Int) : Except Refusal Int :=
  let last := t.rows.getLast?.map (·.number)
  let next := (last.map (· + 1)).getD 1
  if t.numbered then
    if lastNumber ≤ used || lastNumber < next then
      .error (.failed (failure 13 "database or disk is full") true)
    else .ok (max next (used + 1))
  else if lastNumber < next then
    let isFree (n : Nat) : Bool := !t.rows.any fun row => row.number == middleNumber - n
    .ok (middleNumber - (((List.range (t.rows.length + 1)).find? isFree).getD 0 : Nat))
  else .ok next

/-- The number of a new row, and whether it has been given. -/
def numberFor (t : StoredTable) (used : Int) (given : Value) :
    Except Refusal (Int × Bool) :=
  if given.isNull then (t.freeNumber used).map (·, false)
  else
    match rowNumber? given with
    | some n => .ok (n, true)
    | none => .error (.failed (failure 20 "datatype mismatch") false)

/-! ## Computing a row -/

/-- The values of a row as its columns store them. -/
def converted (t : StoredTable) (values : List Value) : List Value :=
  List.zipWith (fun column v => column.affinity.store v) t.columns values

/-- The row with the values of computed columns, each computed when those that it uses are
available. -/
def computing (t : StoredTable) (s : Surroundings) (number : Int) :
    Nat → List (Nat × Term) → List Value → Evaluation (List Value)
  | 0, _, values => return values
  | fuel + 1, waiting, values => do
    let isWaiting (i : Nat) : Bool := waiting.any fun (j, _) => i == j
    match waiting.find? fun (_, term) => !term.columns.any isWaiting with
    | none => return values
    | some (i, term) =>
      let v := (← term.evaluate { s with row := values, rowNumber := number } .value).value
      computing t s number fuel (waiting.filter fun (j, _) => i != j)
        (values.set i ((t.column i).affinity.store v))

/-- The word for the class of a value. -/
def className : Value → String
  | .null => "NULL"
  | .bool _ | .int _ => "INT"
  | .float _ => "REAL"
  | .text _ => "TEXT"
  | .blob _ => "BLOB"

/-- Whether a value may be stored under a type. -/
def suits (type : String) (v : Value) : Bool :=
  match type.toUpper, v with
  | _, .null => true
  | "INT", .int _ | "INTEGER", .int _ | "REAL", .float _ | "TEXT", .text _ => true
  | "BLOB", .blob _ | "ANY", _ => true
  | _, _ => false

/-- Whether the type of a column is looked at before a row is stored: of the computed ones only
where they are stored too, and only if there are keys or checks to look at. -/
def isTypeLookedAt (t : StoredTable) (column : StoredColumn) : Bool :=
  match column.generation with
  | none => true
  | some g => g.stored && !(t.keys.isEmpty && t.checks.isEmpty)

/-- Refuses values that do not suit the types of their columns. -/
def checkTypes (t : StoredTable) (isLookedAt : StoredColumn → Bool) (values : List Value) :
    Except BackendError Unit :=
  let misfit := (t.columns.zip values).find? fun (column, v) =>
    isLookedAt column && !suits column.type v
  match misfit with
  | some (column, v) =>
    if t.typed then
      .error (failure 3091 ("cannot store " ++ className v ++ " value in " ++
        column.type.toUpper ++ " column " ++ t.name ++ "." ++ column.name))
    else .ok ()
  | none => .ok ()

/-- The values of a row with those of its computed columns. -/
def completed (t : StoredTable) (recipe : Recipe) (s : Surroundings) (row : StoredRow) :
    Evaluation StoredRow := do
  let values := t.converted row.values
  if recipe.generated.isEmpty then return { row with values }
  t.checkTypes (·.generation.isNone) values
  let values ←
    computing t s row.number (recipe.generated.length + 1) recipe.generated values
  return { row with values }

/-- The row that a recipe makes, where `used` is the greatest number given before. -/
def candidate (t : StoredTable) (recipe : Recipe) (s : Surroundings) (used : Int) :
    Judgement Candidate := do
  let value (term : Option Term) : Evaluation Value := do
    return ((← Term.evaluateOption s term).getD Datum.null).value
  let values ← (recipe.supplied.mapM value : Evaluation (List Value))
  let given ← (value recipe.number : Evaluation Value)
  let (number, isNumbered) ← liftExcept (t.numberFor used given)
  let values := match t.rowKey with
    | some i => values.set i (.ofInt number)
    | none => values
  let row ← (t.completed recipe s ⟨number, values⟩ : Evaluation StoredRow)
  return ⟨row, isNumbered⟩

/-! ## Null where it may not be -/

/-- What is done about null in a column. Replacing it takes a default. -/
def nullResolution (column : StoredColumn) (said : Option Resolution) : Option Resolution :=
  column.notNull.map fun own =>
    let r := said.getD own
    if r = .replace && column.default.isNone then .abort else r

/-- The failure of a null. -/
def nullFailure (t : StoredTable) (column : StoredColumn) : BackendError :=
  failure 1299 ("NOT NULL constraint failed: " ++ t.name ++ "." ++ column.name)

/-- The columns other than the number of the row, with their positions. -/
def plainColumns (t : StoredTable) : List (Nat × StoredColumn) :=
  (t.columns.mapIdx fun i column => (i, column)).filter fun (i, _) => t.rowKey ≠ some i

/-- The row with defaults in place of nulls that are to be replaced; other nulls where none may be
are refused. -/
def withoutNulls (t : StoredTable) (recipe : Recipe) (said : Option Resolution)
    (s : Surroundings) (row : StoredRow) : Judgement StoredRow := do
  let isNull (row : StoredRow) (i : Nat) : Bool := (row.values[i]?.getD .null).isNull
  let replaced (column : StoredColumn) : Bool := nullResolution column said = some .replace
  let first (row : StoredRow) (p : Nat × StoredColumn) : Judgement StoredRow := do
    let (i, column) := p
    match nullResolution column said with
    | some r =>
      if !isNull row i || column.generation.isSome then return row
      if r ≠ .replace then r.refuse (t.nullFailure column)
      let v ← (Term.evaluateOption s (recipe.replacements.lookup i) : Evaluation (Option Datum))
      return { row with values := row.values.set i ((v.getD Datum.null).value) }
    | none => return row
  let changed ← t.plainColumns.foldlM first row
  let row ← if changed = row then pure row
    else (t.completed recipe s changed : Evaluation StoredRow)
  t.plainColumns.forM fun (i, column) => do
    match nullResolution column said with
    | some r =>
      if isNull row i && (column.generation.isSome || replaced column) then
        (if r = .replace then Resolution.abort else r).refuse (t.nullFailure column)
    | none => pure ()
  return row

/-! ## Checks -/

/-- Refuses a row for which a check is false. -/
def checkAll (recipe : Recipe) (said : Option Resolution) (s : Surroundings) (row : StoredRow) :
    Judgement Unit :=
  recipe.checks.forM fun (name, term) => do
    let s := { s with row := row.values, rowNumber := row.number }
    let answer ← (term.holds? s : Evaluation (Option Bool))
    if answer = some false then
      (said.getD .abort).refuse (failure 275 ("CHECK constraint failed: " ++ name))

/-! ## Keys -/

/-- The failure of a row that has the key of another one. -/
def conflict (t : StoredTable) (code : Nat) (columns : List String) : BackendError :=
  failure code ("UNIQUE constraint failed: " ++
    ", ".intercalate (columns.map fun column => t.name ++ "." ++ column))

/-- Whether two rows have the same key. -/
def sameKeys (key : UniqueKey) (a b : StoredRow) : Bool :=
  key.columns.all fun column =>
    column.collation.sameKey (a.values[column.position]?.getD .null)
      (b.values[column.position]?.getD .null)

/-- The table without the rows that are in the way of a new one, or what is said of that. -/
def without (t : StoredTable) (isInTheWay : StoredRow → Bool) (r : Resolution)
    (cause : BackendError) : Judgement StoredTable :=
  if !t.rows.any isInTheWay then pure t
  else if r = .replace then pure (t.dropRows isInTheWay)
  else r.refuse cause

/-- The table without a row of the number of a new one. -/
def withoutNumber (t : StoredTable) (said : Option Resolution) (row : StoredRow) :
    Judgement StoredTable :=
  let cause := match t.rowKey with
    | some i => t.conflict 1555 (t.names [i])
    | none => t.conflict 2579 ["rowid"]
  t.without (fun other => other.number == row.number)
    (said.getD (t.rowResolution.getD .abort)) cause

/-- The table without rows of the keys of a new one. -/
def withoutKeys (t : StoredTable) (said : Option Resolution) (row : StoredRow) :
    Judgement StoredTable :=
  t.keys.foldlM (fun t key =>
    t.without (sameKeys key row) (said.getD (key.resolution.getD .abort))
      (t.conflict (if key.primary then 1555 else 2067)
        (t.names (key.columns.map (·.position))))) t

/-- Whether a new row may replace others; one whose number is not given is like no other in it. -/
def mayReplace (t : StoredTable) (said : Option Resolution) (recipe : Recipe) : Bool :=
  let keys := t.keys.map (·.resolution)
  let resolutions := if recipe.number.isSome then t.rowResolution :: keys else keys
  resolutions.any fun own => said.or own == some .replace

/-- Whether rows of the same number are only replaced when nothing else speaks against the new
one. -/
def isNumberLast (t : StoredTable) (said : Option Resolution) : Bool :=
  said.isNone && t.rowResolution == some .replace && !t.keys.isEmpty

/-- The table without the rows that a candidate replaces, and the candidate as it may be added. -/
def judge (t : StoredTable) (recipe : Recipe) (said : Option Resolution) (s : Surroundings)
    (c : Candidate) : Judgement (StoredTable × StoredRow) := do
  let row ← t.withoutNulls recipe said s c.row
  let checkTypes : Judgement Unit :=
    ExceptT.lift (liftM (t.checkTypes t.isTypeLookedAt row.values) : Evaluation Unit)
  if !recipe.checks.isEmpty then
    checkTypes
    checkAll recipe said s row
  let checksNumber := t.hasRowNumbers && c.isNumbered
  let isLast := t.isNumberLast said
  let t ← if checksNumber && !isLast then t.withoutNumber said row else pure t
  checkTypes
  let t ← t.withoutKeys said row
  let t ← if checksNumber && isLast then t.withoutNumber said row else pure t
  return (t, row)

end StoredTable

end SchemaEvolution.Sqlite
