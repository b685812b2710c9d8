import SchemaEvolution.Sqlite.Function.Connection
import SchemaEvolution.Sqlite.Function.Document
import SchemaEvolution.Sqlite.Function.Moment
import SchemaEvolution.Sqlite.Function.Number

/-!
# The functions there are

Functions by their names and how many arguments they take. Some are not computed from the values of
their arguments alone, and those that summarize rows or stand in a window of rows are only known by
name.
-/

namespace SchemaEvolution.Sqlite

/-- What a name with a number of arguments calls. -/
inductive Callee where
  /-- A function of the values of its arguments. -/
  | function (f : Function)
  /-- The first argument that is not null. -/
  | firstOf
  /-- The second argument if the first is true, or else the third. -/
  | choice
  /-- The first argument. -/
  | first
  /-- A summary of rows. -/
  | summary
  /-- What a table may not call. -/
  | forbidden

namespace Callee

/-- The functions of values. -/
def functions : List Function := 
  Function.texts ++ Function.formats ++ Function.numbers ++ Function.moments ++
    Function.documents ++ Function.connections

/-- The functions that are computed in a way of their own. -/
def special : List (String × (Nat → Bool) × Callee) :=
  [("coalesce", Function.atLeast 2, .firstOf), ("ifnull", Function.exactly 2, .firstOf),
   ("iif", Function.exactly 3, .choice), ("likely", Function.exactly 1, .first),
   ("unlikely", Function.exactly 1, .first), ("likelihood", Function.exactly 2, .first),
   ("load_extension", Function.within 1 2, .forbidden),
   ("fts3_tokenizer", Function.within 1 2, .forbidden)]

/-- The summaries of rows. -/
def summaries : List (String × (Nat → Bool)) :=
  [("avg", Function.exactly 1), ("count", Function.within 0 1),
   ("group_concat", Function.within 1 2), ("max", Function.exactly 1),
   ("min", Function.exactly 1), ("string_agg", Function.exactly 2), ("sum", Function.exactly 1),
   ("total", Function.exactly 1), ("json_group_array", Function.exactly 1),
   ("json_group_object", Function.exactly 2), ("jsonb_group_array", Function.exactly 1),
   ("jsonb_group_object", Function.exactly 2), ("row_number", Function.exactly 0),
   ("rank", Function.exactly 0), ("dense_rank", Function.exactly 0),
   ("percent_rank", Function.exactly 0), ("cume_dist", Function.exactly 0),
   ("ntile", Function.exactly 1), ("lead", Function.within 1 3), ("lag", Function.within 1 3),
   ("first_value", Function.exactly 1), ("last_value", Function.exactly 1),
   ("nth_value", Function.exactly 2)]

/-- Every name with what it calls for which numbers of arguments. -/
def entries : List (String × (Nat → Bool) × Callee) :=
  functions.map (fun f => (f.name, f.accepts, .function f)) ++ special ++
    summaries.map fun (name, accepts) => (name, accepts, .summary)

/-- The entries of a name, in any case. -/
def entriesOf (name : String) : List (String × (Nat → Bool) × Callee) :=
  let name := name.toLower
  entries.filter fun entry => entry.1.toLower == name

/-- What a name calls with a number of arguments. -/
def find? (name : String) (count : Nat) : Option Callee :=
  ((entriesOf name).find? fun entry => entry.2.1 count).map (·.2.2)

/-- Whether a name calls something with some number of arguments. -/
def isKnown (name : String) : Bool := !(entriesOf name).isEmpty

end Callee

end SchemaEvolution.Sqlite
