import SchemaEvolution.Sqlite.References.Target

/-!
# References between tables

A change may leave no more rows than before without the row that they refer to, and a row that goes
may take others with it.
-/

namespace SchemaEvolution.Sqlite

namespace ForeignKey

/-- Whether a row refers to another one, given the columns that it refers to. -/
def matches? (key : ForeignKey) (parent : StoredTable) (positions : List Nat)
    (child row : StoredRow) : Bool :=
  (key.columns.zip positions).all fun (i, j) =>
    let column := parent.column j
    column.collation.sameKey (column.affinity.store (child.values[i]?.getD .null))
      (row.values[j]?.getD .null)

/-- Whether a row refers to itself, where its values are compared as they are. -/
def matchesItself (key : ForeignKey) (positions : List Nat) (row : StoredRow) : Bool :=
  (key.columns.zip positions).all fun (i, j) =>
    Collation.binary.sameKey (row.values[i]?.getD .null) (row.values[j]?.getD .null)

/-- Whether a row has a null in the key, so that it refers to nothing. -/
def isIdle (key : ForeignKey) (child : StoredRow) : Bool :=
  key.columns.any fun i => (child.values[i]?.getD .null).isNull

end ForeignKey

namespace Tables

/-- Whether a foreign key is not looked at for the new rows of a table where rows may be replaced:
the last by which something becomes of the rows that refer to a replaced one, if it is a key of the
table itself and sets them to null. -/
def isExcused (ts : Tables) (t child : StoredTable) (key : ForeignKey) : Bool :=
  let acting := (referrers ts t).filter fun (_, key) => key.reference.onDelete ≠ .unchecked
  acting.getLast?.any fun (other, last) =>
    isSame child t && isSame other t && key == last && last.reference.onDelete = .setNull

/-- How many rows lack the row that they refer to, but for those that are excused. -/
def orphanCount (isExcused : StoredTable → ForeignKey → StoredRow → Bool) (ts : Tables) : Nat :=
  let counts := ts.flatMap fun child => child.foreignKeys.map fun key =>
    match ts.named? child.temporary key.reference.target.text with
    | none => 0
    | some parent =>
      match parent.referredColumns? key.reference key.columns.length with
      | none => 0
      | some positions =>
        let refers (row other : StoredRow) : Bool :=
          if isSame child parent && row.number == other.number && positions ≠ parent.rowKey.toList
          then key.matchesItself positions row
          else key.matches? parent positions row other
        (child.rows.filter fun row =>
          !key.isIdle row && !isExcused child key row && !parent.rows.any (refers row)).length
  counts.foldl (· + ·) 0

/-- The failure of a change that breaks a foreign key. -/
def broken : BackendError := failure 787 "FOREIGN KEY constraint failed"

/-- Refuses a change that leaves more rows without the row that they refer to. -/
def checkReferences (isExcused : StoredTable → ForeignKey → StoredRow → Bool)
    (before after : Tables) : Except BackendError Unit :=
  if before.orphanCount isExcused < after.orphanCount isExcused then .error broken else .ok ()

/-- A row with other values in the columns of a foreign key, unless one of them is null where it may
not be, or is no number where it is that of the row. -/
def withKeyValues (child : StoredTable) (key : ForeignKey) (values : List Value) (row : StoredRow) :
    Except BackendError StoredRow := do
  let pairs := key.columns.zip values
  for (i, v) in pairs do
    if v.isNull && (child.column i).notNull.isSome then
      throw (child.nullFailure (child.column i))
    if child.rowKey = some i && (StoredTable.rowNumber? v).isNone then
      throw (failure 20 "datatype mismatch")
  let number := child.rowKey.bind fun i => (pairs.lookup i).bind StoredTable.rowNumber?
  .ok { row with
    number := number.getD row.number
    values := pairs.foldl (fun values (i, v) =>
      values.set i ((child.column i).affinity.store v)) row.values }

/-- The constant values of the defaults of some columns. -/
def defaults (child : StoredTable) (columns : List Nat) : List Value :=
  columns.map fun i =>
    match StoredTable.defaultTerm (child.column i) with
    | .ok term =>
      match term.evaluate {} .value 0 with
      | .ok (datum, _) => datum.value
      | .error _ => .null
    | .error _ => .null

mutual

/-- The tables without some rows of one of them, given by their numbers, and without the rows that
go with them; and how many of them are gone, and how many others have gone or changed. -/
def deleteRows : Nat → Tables → StoredTable → List Int →
    Except BackendError (Tables × Nat × Nat)
  | 0, ts, _, _ => .ok (ts, 0, 0)
  | _, ts, _, [] => .ok (ts, 0, 0)
  | fuel + 1, ts, which, number :: rest => do
    match (ts.named? which.temporary which.name) >>= fun t =>
        (t.rows.find? fun row => row.number == number).map fun row => (t, row) with
    | none => deleteRows fuel ts which rest
    | some (t, row) =>
      let ts := ts.put (t.dropRows fun other => other.number == number)
      let (ts, followers) ← follow fuel ts t row (referrers ts t)
      let (ts, count, others) ← deleteRows fuel ts which rest
      .ok (ts, count + 1, others + followers)

/-- What becomes of the rows that refer to one that is gone. -/
def follow : Nat → Tables → StoredTable → StoredRow → List (StoredTable × ForeignKey) →
    Except BackendError (Tables × Nat)
  | 0, ts, _, _, _ => .ok (ts, 0)
  | _, ts, _, _, [] => .ok (ts, 0)
  | fuel + 1, ts, parent, row, (child, key) :: rest => do
    let positions := (parent.referredColumns? key.reference key.columns.length).getD []
    let child := ts.current child
    let (referring, others) := child.rows.partition fun other =>
      !key.isIdle other && key.matches? parent positions other row
    let supply (values : List Value) : Except BackendError (Tables × Nat) := do
      let changed ← referring.mapM (withKeyValues child key values)
      let child := changed.foldl StoredTable.addRow { child with rows := others }
      .ok (ts.put child, changed.length)
    let (ts, changed) ←
      if referring.isEmpty || positions.isEmpty then .ok (ts, 0)
      else
        match key.reference.onDelete with
        | .unchecked => .ok (ts, 0)
        | .refused => .error (failure 1811 "FOREIGN KEY constraint failed")
        | .cascade => do
          let (ts, count, others) ← deleteRows fuel ts child (referring.map (·.number))
          .ok (ts, count + others)
        | .setNull => supply (key.columns.map fun _ => .null)
        | .setDefault => supply (defaults child key.columns)
    let (ts, more) ← follow fuel ts parent row rest
    .ok (ts, changed + more)

end

/-- A bound on the steps in which rows follow others that are gone. -/
def fuel (ts : Tables) : Nat :=
  let rows := ts.foldl (fun n t => n + t.rows.length * (t.foreignKeys.length + 2)) 2
  rows * (ts.length + 1)

/-- The tables without some rows of one of them and what goes with them, as `deleteRows` gives
them. -/
def deleteAll (ts : Tables) (t : StoredTable) (gone : List Int) :
    Except BackendError (Tables × Nat × Nat) :=
  deleteRows ts.fuel ts t gone

/-- What becomes of the rows that refer to some that are gone. -/
def followAll (ts : Tables) (t : StoredTable) (gone : List StoredRow) :
    Except BackendError (Tables × Nat) :=
  gone.foldlM (fun (ts, count) row => do
    let (ts, more) ← follow ts.fuel ts t row (referrers ts t)
    .ok (ts, count + more)) (ts, 0)

end Tables

end SchemaEvolution.Sqlite
