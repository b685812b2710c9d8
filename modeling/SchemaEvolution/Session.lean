import SchemaEvolution.Error
import SchemaEvolution.Program
import SchemaEvolution.ResultSet

/-!
# Sessions

A session is a program whose requests are calls on a database connection. A backend answers them
from its state, and may fail any of them.
-/

namespace SchemaEvolution

/-- A call on a connection. -/
inductive Call where
  /-- Carries a statement out. -/
  | execute (sql : String) (parameters : List Parameter)
  /-- Carries an insert out that fills its output slot. -/
  | insertReturning (sql : String) (parameters : List Parameter)
  /-- Asks for rows. -/
  | query (sql : String) (parameters : List Parameter)
  /-- Asks for the first cell of the first row. -/
  | scalar (sql : String) (parameters : List Parameter)
  | commit
  | rollback
  | close
  deriving DecidableEq, Repr

namespace Call

/-- What a call gives when it succeeds: a number of rows, a value, rows, or nothing. -/
abbrev Answer : Call → Type
  | .execute _ _ => Nat
  | .insertReturning _ _ => Value
  | .query _ _ => ResultSet
  | .scalar _ _ => Value
  | .commit => Unit
  | .rollback => Unit
  | .close => Unit

/-- The text of a call. -/
def sql : Call → String
  | .execute sql _ => sql
  | .insertReturning sql _ => sql
  | .query sql _ => sql
  | .scalar sql _ => sql
  | .commit => "COMMIT"
  | .rollback => "ROLLBACK"
  | .close => "CLOSE"

/-- The parameters of a call. -/
def parameters : Call → List Parameter
  | .execute _ parameters => parameters
  | .insertReturning _ parameters => parameters
  | .query _ parameters => parameters
  | .scalar _ parameters => parameters
  | _ => []

end Call

/-- A computation on a connection. -/
abbrev Session : Type → Type := Program Call fun call => Except BackendError call.Answer

/-- A computation on a connection that may fail. -/
abbrev Action : Type → Type := ExceptT Error Session

namespace Action

/-- A result that is known without asking the connection. -/
def ofExcept {α : Type} (result : Except Error α) : Action α := ExceptT.mk (pure result)

/-- One call; a refusal is reported with the text and the parameters of the call. -/
def call (c : Call) : Action c.Answer :=
  ExceptT.mk do
    match ← Program.perform c with
    | .ok answer => pure (.ok answer)
    | .error cause => pure (.error (.execution c.sql c.parameters cause))

end Action

/-- What answers the calls of a session from a state of its own. -/
structure Backend (σ : Type) where
  answer : (call : Call) → StateM σ (Except BackendError call.Answer)

/-- Runs a session against a backend. -/
def Session.on {α σ : Type} (session : Session α) (backend : Backend σ) : StateM σ α :=
  session.run backend.answer

end SchemaEvolution
