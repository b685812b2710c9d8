import SchemaEvolution.Session
import SchemaEvolution.Sqlite.Execution
import SchemaEvolution.Text.Printed

/-!
# SQLite connections

A connection runs statements on an engine. A transactional one begins a transaction before the first
statement and keeps it open until it is committed or rolled back; another one never begins any.
Closing discards what is not committed, and a closed connection runs nothing.
-/

namespace SchemaEvolution.Sqlite

/-- What runs the statements of a connection, a text and the values bound to it, and ends with it. -/
structure Engine (σ : Type) where
  run : String → List Value → σ → Except BackendError Outcome × σ
  close : σ → Except BackendError Unit × σ

/-- The built-in store as an engine. It closes without fail. -/
def storeEngine : Engine Store := ⟨Store.run, fun s => (.ok (), s.close)⟩

/-- A connection to an engine. -/
structure Connection (σ : Type) where
  state : σ
  isOpen : Bool := true
  transactional : Bool := false
  inTransaction : Bool := false

namespace Connection

variable {σ : Type}

/-- What a connection shows of itself. -/
def printed (c : Connection σ) : String :=
  Text.printedRecord "SqliteDatabase" [("open", Text.printedBool c.isOpen),
    ("transactional", Text.printedBool c.transactional),
    ("in_transaction", Text.printedBool c.inTransaction)] false

/-- Runs a statement with bound values, if the connection is open. -/
def runPlain (e : Engine σ) (sql : String) (values : List Value) (c : Connection σ) :
    Except BackendError Outcome × Connection σ :=
  if c.isOpen then
    let (answer, state) := e.run sql values c.state
    (answer, { c with state })
  else (.error .closed, c)

/-- Begins a transaction if the connection is transactional and has none open. -/
def beginIfNeeded (e : Engine σ) (c : Connection σ) : Except BackendError Unit × Connection σ :=
  if c.transactional && !c.inTransaction then
    match runPlain e "BEGIN" [] c with
    | (.ok _, c) => (.ok (), { c with inTransaction := true })
    | (.error cause, c) => (.error cause, c)
  else (.ok (), c)

/-- Runs a statement, in a transaction if the connection is transactional. -/
def run (e : Engine σ) (sql : String) (parameters : List Parameter) (c : Connection σ) :
    Except BackendError Outcome × Connection σ :=
  match beginIfNeeded e c with
  | (.ok _, c) => runPlain e sql (parameters.filterMap Parameter.value?) c
  | (.error cause, c) => (.error cause, c)

/-- Carries a statement out and gives how many rows it changed. -/
def execute (e : Engine σ) (sql : String) (parameters : List Parameter) (c : Connection σ) :
    Except BackendError Nat × Connection σ :=
  let (answer, c) := run e sql parameters c
  (answer.map (·.changes), c)

/-- Runs a query. -/
def query (e : Engine σ) (sql : String) (parameters : List Parameter) (c : Connection σ) :
    Except BackendError ResultSet × Connection σ :=
  let (answer, c) := run e sql parameters c
  (answer.map (·.result), c)

/-- The name of the first output slot. -/
def slotName? (parameters : List Parameter) : Option String :=
  parameters.findSome? fun
    | .output p => some p.name
    | .input _ => none

/-- Carries an insert out and gives the value for its output slot, without which it does not run. -/
def insertReturning (e : Engine σ) (sql : String) (parameters : List Parameter) (c : Connection σ) :
    Except BackendError Value × Connection σ :=
  match slotName? parameters with
  | none => (.error { message := "statement has no output parameter" }, c)
  | some slot =>
    let (answer, c) := query e sql parameters c
    let value := answer.bind fun rows =>
      match rows.cell? 0 0 with
      | some v => .ok v
      | none => .error { message := "no value returned for " ++ slot }
    (value, c)

/-- Ends the open transaction, if there is one, with the given words. -/
def finish (e : Engine σ) (sql : String) (c : Connection σ) :
    Except BackendError Unit × Connection σ :=
  if c.inTransaction then
    match runPlain e sql [] c with
    | (.ok _, c) => (.ok (), { c with inTransaction := false })
    | (.error cause, c) => (.error cause, c)
  else (.ok (), c)

/-- Commits the open transaction, if there is one. -/
def commit (e : Engine σ) : Connection σ → Except BackendError Unit × Connection σ :=
  finish e "COMMIT"

/-- Rolls the open transaction back, if there is one. -/
def rollback (e : Engine σ) : Connection σ → Except BackendError Unit × Connection σ :=
  finish e "ROLLBACK"

/-- Closes the connection; once closed it stays so. It is closed also where the engine fails. -/
def close (e : Engine σ) (c : Connection σ) : Except BackendError Unit × Connection σ :=
  if c.isOpen then
    let (answer, state) := e.close c.state
    (answer, { c with state, isOpen := false, inTransaction := false })
  else (.ok (), c)

/-- A connection answers the calls of a session. -/
def backend (e : Engine σ) : Backend (Connection σ) where
  answer
    | .execute sql parameters => execute e sql parameters
    | .insertReturning sql parameters => insertReturning e sql parameters
    | .query sql parameters => query e sql parameters
    | .scalar sql parameters => fun c =>
      let (answer, c) := query e sql parameters c
      (answer.map (·.scalar), c)
    | .commit => commit e
    | .rollback => rollback e
    | .close => close e

end Connection

end SchemaEvolution.Sqlite
