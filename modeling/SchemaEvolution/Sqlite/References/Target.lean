import SchemaEvolution.Sqlite.Provided
import SchemaEvolution.Sqlite.Table.Insertion

/-!
# Where foreign keys lead

A foreign key refers to the rows of a table by columns that are unique there. A statement that has
to look at a key which leads nowhere is refused before anything happens, also if it is only a key of
a table whose rows would go or change with others.
-/

namespace SchemaEvolution.Sqlite

/-- The tables of a store. -/
abbrev Tables : Type := List StoredTable

namespace Tables

/-- The table of a name in a schema. -/
def named? (ts : Tables) (temporary : Bool) (name : String) : Option StoredTable :=
  ts.find? fun t => t.temporary == temporary && fold t.name == fold name

/-- Whether two tables are the same one. -/
def isSame (t u : StoredTable) : Bool := t.name == u.name && t.temporary == u.temporary

/-- A table as it is now. -/
def current (ts : Tables) (t : StoredTable) : StoredTable :=
  (ts.named? t.temporary t.name).getD t

/-- Puts a table in the place of the one with its name. -/
def put (ts : Tables) (t : StoredTable) : Tables :=
  ts.map fun other => if isSame other t then t else other

end Tables

namespace StoredTable

/-- The columns of a table that a reference leads to, in the order of the foreign key's own, if they
are unique together. -/
def referredColumns? (t : StoredTable) (r : Reference) (count : Nat) : Option (List Nat) :=
  let fits (key : UniqueKey) (positions : List Nat) : Bool :=
    key.columns.length == count && key.columns.all fun c =>
      c.collation == (t.column c.position).collation && positions.contains c.position
  match r.columns with
  | none =>
    match t.rowKey, t.primaryKey? with
    | some i, _ => if count = 1 then some [i] else none
    | none, some key =>
      if key.columns.length = count then some (key.columns.map (·.position)) else none
    | none, none => none
  | some names => do
    let positions ← names.mapM t.position?
    if positions == t.rowKey.toList || t.keys.any fun key => fits key positions then
      some positions
    else none

end StoredTable

namespace ForeignKey

/-- Whether a foreign key of a table leads to another one. -/
def leadsTo (key : ForeignKey) (child parent : StoredTable) : Bool :=
  child.temporary == parent.temporary && fold key.reference.target.text == fold parent.name

/-- The complaint about a foreign key that leads to columns that are not unique. -/
def mismatch (key : ForeignKey) (child : StoredTable) : String :=
  "foreign key mismatch - \"" ++ child.name ++ "\" referencing \"" ++
    key.reference.target.text ++ "\""

end ForeignKey

namespace Tables

/-- The foreign keys that lead to a table, with the tables that have them, the last one declared
first. -/
def referrers (ts : Tables) (parent : StoredTable) : List (StoredTable × ForeignKey) :=
  ts.reverse.flatMap fun child =>
    (child.foreignKeys.filter fun key => key.leadsTo child parent).map fun key => (child, key)

/-- The foreign keys that lead to a table without finding its columns. -/
def astray (ts : Tables) (t : StoredTable) : List (StoredTable × ForeignKey) :=
  (referrers ts t).filter fun (_, key) =>
    (t.referredColumns? key.reference key.columns.length).isNone

/-- What is wrong with where a foreign key of a table leads. -/
def targetFlaw? (ts : Tables) (child : StoredTable) (key : ForeignKey) : Option String :=
  let target := key.reference.target.text
  let isProvided :=
    ["sqlite_master", "sqlite_schema"].contains (String.ofList (fold target)) ||
      (Provided.find? { tables := ts } target).isSome
  match ts.named? child.temporary target with
  | some parent =>
    match parent.referredColumns? key.reference key.columns.length with
    | some _ => none
    | none => some (key.mismatch child)
  | none =>
    if isProvided then some (key.mismatch child)
    else
      let schema := if child.temporary then "temp" else "main"
      some ("no such table: " ++ schema ++ "." ++ target)

/-- What is wrong with adding rows to a table, where rows may make way for them or not. -/
def additionFlaw? (ts : Tables) (t : StoredTable) (mayReplace : Bool) : Option String :=
  let leading := (astray ts t).head?.map fun (child, key) => key.mismatch child
  (t.foreignKeys.findSome? (targetFlaw? ts t)).or (if mayReplace then leading else none)

/-- What is wrong with taking rows from a table. Keys by which something becomes of other rows are
complained about first. -/
def removalFlaw? (ts : Tables) (t : StoredTable) : Option String :=
  let leading := (astray ts t).map fun (child, key) => (key.reference.onDelete, key.mismatch child)
  let acting := leading.filter fun (onDelete, _) => onDelete ≠ .unchecked
  (acting.getLast?.map (·.2)).or
    ((t.foreignKeys.findSome? (targetFlaw? ts t)).or (leading.head?.map (·.2)))

/-- What is wrong with changing the columns of a foreign key of a table. -/
def changeFlaw? (ts : Tables) (t : StoredTable) (key : ForeignKey) : Option String :=
  let own := t.foreignKeys.filter fun other =>
    other.leadsTo t t || other.columns.any key.columns.contains
  let leading := (astray ts t).getLast?.map fun (child, key) => key.mismatch child
  (own.findSome? (targetFlaw? ts t)).or leading

/-- Refuses what has a flaw. -/
def refuseFlaw (flaw : Option String) : Except String Unit := flaw.elim (.ok ()) .error

/-- Refuses to take rows from a table if there is a flaw in what becomes of the rows of others,
given the keys that have been looked at already. -/
def checkFollowing : Nat → Tables → List (String × ForeignKey) → StoredTable →
    Except String (List (String × ForeignKey))
  | 0, _, seen, _ => .ok seen
  | fuel + 1, ts, seen, t =>
    (referrers ts t).foldlM (fun seen (child, key) => do
      let isLost := (t.referredColumns? key.reference key.columns.length).isNone
      if isLost || seen.contains (child.name, key) then return seen
      let seen := (child.name, key) :: seen
      match key.reference.onDelete with
      | .unchecked | .refused => return seen
      | .cascade =>
        refuseFlaw (removalFlaw? ts child)
        checkFollowing fuel ts seen child
      | .setNull | .setDefault =>
        refuseFlaw (changeFlaw? ts child key)
        return seen) seen

/-- Refuses to let rows follow those of a table that go if a key that is looked at for it leads
nowhere. -/
def checkFollowers (ts : Tables) (t : StoredTable) : Except BackendError Unit := do
  let fuel := ts.foldl (fun n t => n + t.foreignKeys.length) 1
  let _ ← (checkFollowing fuel ts [] t).mapError (failure 1)

/-- Refuses to add rows to a table if a key that is looked at for it leads nowhere. -/
def checkAddition (ts : Tables) (t : StoredTable) (mayReplace : Bool) :
    Except BackendError Unit := do
  (refuseFlaw (additionFlaw? ts t mayReplace)).mapError (failure 1)
  if mayReplace then checkFollowers ts t

/-- Refuses to take rows from a table if a key that is looked at for it leads nowhere. -/
def checkRemoval (ts : Tables) (t : StoredTable) : Except BackendError Unit := do
  (refuseFlaw (removalFlaw? ts t)).mapError (failure 1)
  checkFollowers ts t

end Tables

end SchemaEvolution.Sqlite
