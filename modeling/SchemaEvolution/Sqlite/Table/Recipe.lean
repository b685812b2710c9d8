import SchemaEvolution.Sqlite.Statement
import SchemaEvolution.Sqlite.Table.Draft

/-!
# How a row is made

What an insert gives and what a table declares come together in a recipe: for every column the term
that its value is computed from. A recipe is complete before any row is made of it.
-/

namespace SchemaEvolution.Sqlite

/-- How a new row is made. `supplied` has a term for each column that is not computed from others;
`replacements` are the values that stand in for null where it may not be. -/
structure Recipe where
  supplied : List (Option Term)
  number : Option Term
  generated : List (Nat × Term)
  replacements : List (Nat × Term)
  checks : List (String × Term)

namespace StoredTable

/-- The term of the default of a column. -/
def defaultTerm (column : StoredColumn) : Except String Term :=
  match column.default with
  | some e => ({ setting := .default } : Scope).term false e
  | none => .ok (.constant .null)

/-- Refuses columns that cannot be given. -/
def checkGiven (t : StoredTable) (called : String) (columns : List String) :
    Except String Unit :=
  columns.forM fun name =>
    match t.position? name with
    | some i =>
      if (t.column i).generation.isSome then
        .error ("cannot INSERT into generated column \"" ++ (t.column i).name ++ "\"")
      else .ok ()
    | none =>
      if t.namesRow name then .ok ()
      else .error ("table " ++ called ++ " has no column named " ++ name)

/-- The columns that values are given for, which are all but the computed ones unless they are
named. -/
def givenColumns (t : StoredTable) (called : String) (columns : Option (List String))
    (count : Nat) : Except String (List String) := do
  match columns with
  | some columns =>
    t.checkGiven called columns
    if columns.length ≠ count then
      throw (toString count ++ " values for " ++ toString columns.length ++ " columns")
    .ok columns
  | none =>
    let columns := (t.columns.filter (·.generation.isNone)).map (·.name)
    if columns.length ≠ count then
      throw ("table " ++ called ++ " has " ++ toString columns.length ++ " columns but " ++
        toString count ++ " values were supplied")
    .ok columns

/-- The computed columns that never become available, given which each one uses. -/
def stuck : Nat → List (Nat × List Nat) → List Nat
  | 0, waiting => waiting.map (·.1)
  | fuel + 1, waiting =>
    let isWaiting (i : Nat) : Bool := waiting.any fun (j, _) => i == j
    let later := waiting.filter fun (_, columns) => columns.any isWaiting
    if later.length = waiting.length then waiting.map (·.1) else stuck fuel later

/-- Refuses computed columns that depend on each other. -/
def checkOrder (t : StoredTable) (generated : List (Nat × Term)) : Except String Unit :=
  let waiting := generated.map fun (i, term) => (i, term.columns)
  match (stuck (waiting.length + 1) waiting).getLast? with
  | some i => .error ("generated column loop on \"" ++ (t.column i).name ++ "\"")
  | none => .ok ()

/-- What the parts of a recipe have against being carried out. -/
def flaws (recipe : Recipe) : List TermFlaw :=
  let terms := recipe.supplied.filterMap id ++ recipe.number.toList ++
    recipe.generated.map (·.2) ++ recipe.replacements.map (·.2) ++ recipe.checks.map (·.2)
  terms.flatMap Term.flaws

/-- The recipe for a row of some values under some columns. -/
def recipe (t : StoredTable) (called : String) (columns : Option (List String))
    (row : List Expression) : Except String Recipe := do
  let names ← t.givenColumns called columns row.length
  let terms ← row.mapM (({ setting := .statement } : Scope).term false)
  let given := names.zip terms
  let supplied ← (t.columns.mapIdx fun i column => (i, column)).mapM fun (i, column) =>
    if column.generation.isSome || t.rowKey = some i then .ok none
    else
      match given.find? fun (name, _) => fold name == fold column.name with
      | some (_, term) => .ok (some term)
      | none => some <$> defaultTerm column
  let number := (given.reverse.find? fun (name, _) => t.namesRow name).map (·.2)
  let generated ← t.generated
  let replaced := (t.columns.mapIdx fun i column => (i, column)).filter fun (_, column) =>
    column.notNull.isSome && column.default.isSome
  let replacements ← replaced.mapM fun (i, column) => do .ok (i, ← defaultTerm column)
  let recipe : Recipe := ⟨supplied, number, generated, replacements, ← t.checkTerms⟩
  match TermFlaw.decisive (flaws recipe) with
  | some message => .error message
  | none =>
    t.checkOrder generated
    .ok recipe

end StoredTable

end SchemaEvolution.Sqlite
