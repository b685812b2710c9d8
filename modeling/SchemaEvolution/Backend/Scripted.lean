import SchemaEvolution.Session
import SchemaEvolution.Text.Separated

/-!
# Scripted backends

A backend that answers from a script and logs every call. It can refuse calls by what their text
contains, give prepared rows, and keep the rows of one version table.
-/

namespace SchemaEvolution.Scripted

/-- Refuses the calls whose text contains `contains`, as often as `times` says. -/
structure Refusal where
  contains : String
  kind : BackendError.Kind := .other
  message : String := "boom"
  times : Option Nat := none
  deriving DecidableEq, Repr

/-- Gives rows to the queries whose text contains `contains`. -/
structure Prepared where
  contains : String
  result : ResultSet
  deriving DecidableEq, Repr

/-- A version table: it is addressed by the statements whose text contains `marker`. -/
structure Ledger where
  marker : String
  created : Bool
  rows : List (Value × Value)
  deriving DecidableEq, Repr

/-- The state of a scripted backend; the log holds the latest call first. -/
structure Script where
  refusals : List Refusal := []
  prepared : List Prepared := []
  ledger : Option Ledger := none
  affected : Nat := 0
  returned : Value := .int 7
  closed : Bool := false
  log : List Call := []
  deriving DecidableEq

/-- Whether a text contains another. -/
def contains (text part : String) : Bool := Text.occurs part.toList text.toList

/-- Whether a text starts with another. -/
def startsWith (text start : String) : Bool := start.toList.isPrefixOf text.toList

/-- The first refusal that applies to a text, and the refusals after it has been used. -/
def findRefusal (sql : String) : List Refusal → Option (Refusal × List Refusal)
  | [] => none
  | r :: rest =>
    if r.times ≠ some 0 && contains sql r.contains then
      some (r, { r with times := r.times.map (· - 1) } :: rest)
    else (findRefusal sql rest).map fun (found, rest) => (found, r :: rest)

/-- The value of a parameter by its position; a missing one is null. -/
def valueAt (parameters : List Parameter) (index : Nat) : Value :=
  (parameters[index]? >>= Parameter.value?).getD .null

namespace Ledger

/-- The failure of a statement on a table that does not exist. -/
def missing (l : Ledger) : BackendError := { message := "no such table: " ++ l.marker }

/-- Carries a statement out on the version table, if it is one of those that the table knows. -/
def execute (l : Ledger) (sql : String) (parameters : List Parameter) :
    Option (Except BackendError Nat × Ledger) :=
  let row := (valueAt parameters 0, valueAt parameters 1)
  if startsWith sql "CREATE TABLE " then some (.ok 0, { l with created := true })
  else if startsWith sql "INSERT INTO " then
    if l.created then some (.ok 1, { l with rows := l.rows ++ [row] })
    else some (.error l.missing, l)
  else if startsWith sql "DELETE FROM " then
    if l.created then
      let isRow (other : Value × Value) := other.1.same row.1 && other.2.same row.2
      some (.ok (l.rows.filter isRow).length,
        { l with rows := l.rows.filter fun other => !isRow other })
    else some (.error l.missing, l)
  else none

/-- Answers a query from the version table: whether it exists, or the versions of a group. -/
def query (l : Ledger) (sql : String) (parameters : List Parameter) :
    Except BackendError ResultSet :=
  if startsWith sql "SELECT COUNT(*) FROM " then
    .ok ⟨["count"], [[.int (if l.created then 1 else 0)]]⟩
  else if l.created then
    .ok ⟨["version"],
      (l.rows.filter fun row => row.2.same (valueAt parameters 0)).map fun row => [row.1]⟩
  else .error l.missing

end Ledger

namespace Script

/-- Logs a call, and refuses it if the connection is closed or a refusal applies. -/
def receive (s : Script) (call : Call) : Option BackendError × Script :=
  let s := { s with log := call :: s.log }
  if s.closed && call ≠ .close then (some .closed, s)
  else
    match findRefusal call.sql s.refusals with
    | some (r, refusals) => (some { kind := r.kind, message := r.message }, { s with refusals })
    | none => (none, s)

/-- Carries a statement out. -/
def execute (s : Script) (sql : String) (parameters : List Parameter) :
    Except BackendError Nat × Script :=
  match s.ledger with
  | some l =>
    if contains sql l.marker then
      match l.execute sql parameters with
      | some (answer, l) => (answer, { s with ledger := some l })
      | none => (.ok s.affected, s)
    else (.ok s.affected, s)
  | none => (.ok s.affected, s)

/-- Answers a query. -/
def query (s : Script) (sql : String) (parameters : List Parameter) :
    Except BackendError ResultSet :=
  match s.prepared.find? fun p => contains sql p.contains with
  | some p => .ok p.result
  | none =>
    match s.ledger with
    | some l => if contains sql l.marker then l.query sql parameters else .ok {}
    | none => .ok {}

/-- Answers a call that has been admitted. -/
def respond (s : Script) : (call : Call) → Except BackendError call.Answer × Script
  | .execute sql parameters => s.execute sql parameters
  | .insertReturning _ _ => (.ok s.returned, s)
  | .query sql parameters => (s.query sql parameters, s)
  | .scalar sql parameters => ((s.query sql parameters).map (·.scalar), s)
  | .commit => (.ok (), s)
  | .rollback => (.ok (), s)
  | .close => (.ok (), { s with closed := true })

end Script

/-- The backend that follows a script. -/
def backend : Backend Script where
  answer call := fun s =>
    match s.receive call with
    | (some e, s) => (.error e, s)
    | (none, s) => s.respond call

end SchemaEvolution.Scripted
