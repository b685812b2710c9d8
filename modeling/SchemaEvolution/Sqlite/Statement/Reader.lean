import SchemaEvolution.Sqlite.Declaration.Reader
import SchemaEvolution.Sqlite.Statement

/-!
# Reading statements

A text holds statements with semicolons after them. Each is read when the one before it has been
carried out. What is no statement is a syntax error near the token at which reading stops.
-/

namespace SchemaEvolution.Sqlite

namespace Reader

/-- Takes a table name with an optional schema. -/
def table : Reader TableRef := do
  let first ← name
  if ← symbol? "." then return ⟨some first, ← name⟩ else pure ⟨none, first⟩

/-- Takes the text of a name. -/
def nameText : Reader String := do return (← name).text

/-- Takes a column of a result. -/
def resultColumn : Reader ResultColumn := do
  let start ← source
  let e ← expression
  let text := Lexeme.between start (← source)
  pure ⟨e, String.ofList (text.reverse.dropWhile Token.isBlank).reverse⟩

/-- Takes a condition, if there is one. -/
def condition : Reader (Option Expression) := do
  if ← keyword? "WHERE" then some <$> expression else pure none

/-- Takes the columns that a change gives back. -/
def returning : Reader (List ResultColumn) := do
  if ← keyword? "RETURNING" then commaSeparated resultColumn else pure []

/-- Takes the rest of the creation of a table. -/
def createTable (temporary : Bool) : Reader Statement := do
  keyword "TABLE"
  let ifMissing ← keyword? "IF"
  if ifMissing then keywords ["NOT", "EXISTS"]
  let start ← source
  let first ← name
  let (table, start) ←
    if ← symbol? "." then
      let start ← source
      pure ((⟨some first, ← name⟩ : TableRef), start)
    else pure (⟨none, first⟩, start)
  let (declaration, beyond) ← declaration
  let text := Lexeme.between start beyond
  pure (.createTable temporary ifMissing table declaration ("CREATE TABLE " ++ String.ofList text))

/-- Takes what an insert adds. -/
def additions : Reader Additions := do
  if ← keyword? "DEFAULT" then
    keyword "VALUES"
    pure ⟨some [], [[]]⟩
  else
    let columns ←
      if (← peek) == some (.symbol "(") then some <$> parenthesized nameText else pure none
    keyword "VALUES"
    return ⟨columns, ← commaSeparated (parenthesized expression)⟩

/-- Takes an insert. -/
def insert : Reader Statement := do
  let resolution ← if ← keyword? "OR" then some <$> resolution else pure none
  keyword "INTO"
  let table ← table
  let additions ← additions
  return .insert table additions resolution (← returning)

/-- Takes the question whether there is a row. -/
def hasRow : Reader Statement := do
  let start ← source
  keywords ["CASE", "WHEN", "EXISTS"]
  symbol "("
  keyword "SELECT"
  let _ ← expression
  keyword "FROM"
  let table ← table
  let condition ← condition
  symbol ")"
  keyword "THEN"
  token (.number "1")
  keyword "ELSE"
  token (.number "0")
  keyword "END"
  let text := Lexeme.between start (← source)
  pure (.hasRow table condition (String.ofList text))

/-- Takes a query of the values of some expressions. -/
def query : Reader Statement := do
  let columns ← commaSeparated resultColumn
  if ← keyword? "FROM" then
    let table ← table
    return .select columns (some table) (← condition)
  else pure (.select columns none none)

/-- What one reader takes, or the other one if it does not take it. -/
def either {α : Type} (first second : Reader α) : Reader α := fun r =>
  match first r with
  | .ok answer => .ok answer
  | .error _ => second r

/-- Takes a statement and its end. -/
def statement : Reader Statement := do
  if ← keyword? "CREATE" then createTable (← takeIf fun token =>
    token.isKeyword "TEMP" || token.isKeyword "TEMPORARY")
  else
    let statement ←
      if ← keyword? "DROP" then
        keyword "TABLE"
        let ifPresent ← keyword? "IF"
        if ifPresent then keyword "EXISTS"
        pure (.dropTable ifPresent (← table))
      else if ← keyword? "INSERT" then insert
      else if ← keyword? "DELETE" then
        keyword "FROM"
        let table ← table
        pure (.delete table (← condition))
      else if ← keyword? "SELECT" then either hasRow query
      else if ← keyword? "BEGIN" then pure .begin
      else if ← keyword? "COMMIT" then pure .commit
      else if ← keyword? "ROLLBACK" then pure .rollback
      else refuse
    endOfStatement
    pure statement

end Reader

namespace Statement

/-- The first statement of some tokens, if there is one, and what is left after it. -/
def next (lexemes : List Lexeme) : Except Flaw (Option (Statement × List Lexeme)) :=
  match lexemes.dropWhile fun lexeme => lexeme.token == .symbol ";" with
  | [] => .ok none
  | lexemes => do
    let (statement, rest) ← Reader.statement ⟨lexemes, none⟩
    .ok (some (statement, rest.lexemes))

end Statement

end SchemaEvolution.Sqlite
