import SchemaEvolution.Sqlite.Declaration
import SchemaEvolution.Sqlite.Expression.Reader

/-!
# Reading declarations

Clauses are read one after the other as long as the token after each may follow it. A token that may
not is complained about before anything that the clause in front of it says.
-/

namespace SchemaEvolution.Sqlite

namespace Reader

/-! ## Parts of clauses -/

/-- Takes a way to resolve conflicts. -/
def resolution : Reader Resolution := do
  if ← keyword? "ROLLBACK" then pure .rollback
  else if ← keyword? "ABORT" then pure .abort
  else if ← keyword? "FAIL" then pure .fail
  else if ← keyword? "IGNORE" then pure .ignore
  else
    keyword "REPLACE"
    pure .replace

/-- Takes what is to be done on a conflict, if it is said. -/
def onConflict : Reader (Option Resolution) := do
  if ← keyword? "ON" then
    keyword "CONFLICT"
    some <$> resolution
  else pure none

/-- Takes a direction, and says whether it is down. -/
def isDescending : Reader Bool := do
  if ← keyword? "DESC" then pure true
  else
    let _ ← keyword? "ASC"
    pure false

/-- Takes an item of a key. -/
def keyItem : Reader KeyItem := do
  let subject ← expression
  let descending ← isDescending
  let nulls ←
    if ← keyword? "NULLS" then
      if ← keyword? "FIRST" then pure (some "FIRST")
      else
        keyword "LAST"
        pure (some "LAST")
    else pure none
  pure ⟨subject, descending, nulls⟩

/-- Takes the items of a key and its closing parenthesis, and says whether its numbers are never
given twice. -/
def keyItems : Reader (List KeyItem × Bool) := do
  symbol "("
  let items ← commaSeparated keyItem
  let numbered ← keyword? "AUTOINCREMENT"
  symbol ")"
  pure (items, numbered)

/-- Takes the name of a column in a foreign key, which nothing may follow. -/
def referenceColumn : Reader String := do
  let column ← name
  let collated ← keyword? "COLLATE"
  if collated then let _ ← plainName
  let directed ← isNextOf ["ASC", "DESC"]
  let _ ← isDescending
  if collated || directed then complain (.afterColumn column.written)
  pure column.text

/-- Takes what a foreign key does when a row goes or changes. -/
def consequence : Reader Consequence := do
  if ← keyword? "SET" then
    if ← keyword? "NULL" then pure .setNull
    else
      keyword "DEFAULT"
      pure .setDefault
  else if ← keyword? "CASCADE" then pure .cascade
  else if ← keyword? "RESTRICT" then pure .refused
  else
    keywords ["NO", "ACTION"]
    pure .unchecked

/-- Takes what a foreign key says about changes, of which the last about rows that go counts. -/
def consequences (onDelete : Consequence) : Nat → Reader Consequence
  | 0 => pure onDelete
  | fuel + 1 => do
    if ← keyword? "MATCH" then
      let _ ← name
      consequences onDelete fuel
    else if ← keyword? "ON" then
      if ← keyword? "DELETE" then consequences (← consequence) fuel
      else
        if ← isNextOf ["INSERT", "UPDATE"] then advance else refuse
        let _ ← consequence
        consequences onDelete fuel
    else pure onDelete

/-- Takes what a foreign key refers to. -/
def reference : Reader Reference := do
  let target ← name
  let columns ←
    if (← peek) == some (.symbol "(") then some <$> parenthesized referenceColumn else pure none
  return ⟨target, columns, ← consequences .unchecked (← count)⟩

/-- Takes when a deferred constraint is looked at, if it is said. -/
def deferral : Reader Unit := do
  if ← keyword? "INITIALLY" then
    if ← isNextOf ["DEFERRED", "IMMEDIATE"] then advance else refuse

/-- Takes an expression in parentheses, and gives its text without the blanks around it. -/
def closedExpression : Reader (Expression × String) := do
  let start ← source
  symbol "("
  let e ← expression
  let rest ← source
  symbol ")"
  let isBlank (c : Char) : Bool := c = ' ' || (9 ≤ c.toNat && c.toNat ≤ 13)
  let text := (Lexeme.between (start.drop 1) rest).dropWhile isBlank
  pure (e, String.ofList (text.reverse.dropWhile isBlank).reverse)

/-- Takes a check. -/
def check : Reader Clause := do
  let (e, text) ← closedExpression
  pure (.check e text)

/-- Takes a literal. -/
def literal : Reader Expression := do
  match ← peek with
  | some (.number written) => number written
  | some (.literal _ text) =>
    advance
    pure (.text text)
  | some (.bytes written) =>
    advance
    pure (.bytes written)
  | some (.word text) =>
    match present? text with
    | some p =>
      advance
      pure (.present p)
    | none =>
      keyword "NULL"
      pure .null
  | _ => refuse

/-- The truth value or the text that a name stands for where there are no names. -/
def standing (n : Name) : Expression :=
  if n.written.toUpper == "TRUE" then .truth true
  else if n.written.toUpper == "FALSE" then .truth false
  else .text n.text

/-- Takes what stands after the word for a default: an expression in parentheses, a literal that may
have a sign, or a name that stands for itself. -/
def default : Reader Expression := do
  match ← peek with
  | some (.symbol "(") => return (← closedExpression).1
  | some (.symbol "+") =>
    advance
    literal
  | some (.symbol "-") =>
    advance
    return .unary .minus (← literal)
  | some (.name written text) =>
    advance
    pure (standing ⟨text, written⟩)
  | some (.word text) =>
    if isPlain text && (present? text).isNone then
      advance
      pure (standing ⟨text, text⟩)
    else literal
  | _ => literal

/-- Takes how a column is computed, and the word for whether it is stored, if there is one. -/
def generated : Reader Clause := do
  let (e, _) ← closedExpression
  match ← peek with
  | some (.name written _) =>
    advance
    pure (.generated e (some written))
  | some (.word text) =>
    if isPlain text then
      advance
      pure (.generated e (some text))
    else pure (.generated e none)
  | _ => pure (.generated e none)

/-! ## Clauses -/

/-- The words that start a clause about a column. -/
def columnWords : List String :=
  ["CONSTRAINT", "NOT", "NULL", "DEFAULT", "PRIMARY", "UNIQUE", "CHECK", "REFERENCES", "DEFERRABLE",
   "COLLATE", "GENERATED", "AS"]

/-- The words that start a constraint of the table. -/
def tableWords : List String := ["CONSTRAINT", "PRIMARY", "UNIQUE", "CHECK", "FOREIGN"]

/-- Takes a clause about a column. -/
def columnClause : Reader Clause := do
  if ← keyword? "CONSTRAINT" then return .called (← name).text
  else if ← keyword? "NOT" then
    if ← keyword? "NULL" then return .notNull (← onConflict)
    else
      keyword "DEFERRABLE"
      deferral
      pure .remark
  else if ← keyword? "NULL" then
    let _ ← onConflict
    pure .remark
  else if ← keyword? "DEFAULT" then return .default (← default)
  else if ← keyword? "PRIMARY" then
    keyword "KEY"
    let descending ← isDescending
    let resolution ← onConflict
    return .primaryKey descending resolution (← keyword? "AUTOINCREMENT")
  else if ← keyword? "UNIQUE" then return .unique (← onConflict)
  else if ← keyword? "CHECK" then check
  else if ← keyword? "REFERENCES" then return .references (← reference)
  else if ← keyword? "DEFERRABLE" then
    deferral
    pure .remark
  else if ← keyword? "COLLATE" then return .collate (← plainName).text
  else if ← keyword? "GENERATED" then
    keywords ["ALWAYS", "AS"]
    generated
  else
    keyword "AS"
    generated

/-- Takes a constraint of the table. -/
def tableClause : Reader Clause := do
  if ← keyword? "CONSTRAINT" then return .called (← name).text
  else if ← keyword? "PRIMARY" then
    keyword "KEY"
    let (items, numbered) ← keyItems
    return .primaryKeyOf items (← onConflict) numbered
  else if ← keyword? "UNIQUE" then
    symbol "("
    let items ← commaSeparated keyItem
    symbol ")"
    return .uniqueOf items (← onConflict)
  else if ← keyword? "CHECK" then
    let clause ← check
    let _ ← onConflict
    pure clause
  else
    keywords ["FOREIGN", "KEY"]
    let columns ← parenthesized referenceColumn
    keyword "REFERENCES"
    let reference ← reference
    if ← keyword? "NOT" then
      keyword "DEFERRABLE"
      deferral
    else if ← keyword? "DEFERRABLE" then deferral
    pure (.foreignKey columns reference)

/-- Takes a column and its type. -/
def column : Reader Clause := do
  let n ← name
  return .column n (← typeName)

/-- Where the next clause of a declaration stands: at its start, after a clause about a column,
after a constraint of the table, or after the comma behind one. -/
inductive Standing where
  | start
  | afterColumn
  | afterConstraint
  | afterComma
  deriving DecidableEq, Repr

/-- Whether a token may be next. -/
def Standing.expects (s : Standing) (token : Option Token) : Bool :=
  let isWord (words : List String) : Bool := token.any fun token => words.any token.isKeyword
  let isSymbol (symbols : List String) : Bool := symbols.any fun s => token == some (.symbol s)
  match s with
  | .start => true
  | .afterColumn => isSymbol [",", ")"] || isWord columnWords
  | .afterConstraint => isSymbol [",", ")"] || isWord tableWords
  | .afterComma => isWord tableWords

/-- Takes the next clause, or the closing parenthesis. -/
def next (s : Standing) : Reader (Option (Clause × Standing)) := do
  match s with
  | .start => return some (← column, .afterColumn)
  | .afterColumn =>
    if ← symbol? ")" then pure none
    else if ← symbol? "," then
      if ← isNextOf tableWords then return some (← tableClause, .afterConstraint)
      else return some (← column, .afterColumn)
    else return some (← columnClause, .afterColumn)
  | .afterConstraint =>
    if ← symbol? ")" then pure none
    else if ← symbol? "," then pure (some (.comma, .afterComma))
    else return some (← tableClause, .afterConstraint)
  | .afterComma => return some (← tableClause, .afterConstraint)

/-- Takes clauses up to the closing parenthesis, and gives those that count with where the text goes
wrong, or what is left of it: what follows the parenthesis, as text and as tokens. -/
def body : Nat → Standing → Remaining → List Clause × Except Flaw (List Char × Remaining)
  | 0, _, r => ([], .error (flawAt r.lexemes))
  | fuel + 1, s, r =>
    match next s r with
    | .error flaw => ([], .error flaw)
    | .ok (none, rest) =>
      let after := r.lexemes.head?.map fun closing => closing.source.drop 1
      ([], .ok (after.getD [], rest))
    | .ok (some (clause, s), rest) =>
      if s.expects (rest.lexemes.head?.map (·.token)) then
        let (more, ending) := body fuel s rest
        (clause :: more, ending)
      else ([], .error (flawAt rest.lexemes))

/-! ## Options -/

/-- Takes what is said of a whole table, if it is known. -/
def tableOption : Reader (Option TableOption) := do
  let isWithout ← keyword? "WITHOUT"
  let word ← name
  let known := match isWithout, word.written.toUpper with
    | true, "ROWID" => some TableOption.withoutRowNumbers
    | false, "STRICT" => some TableOption.strict
    | _, _ => none
  if known.isNone then complain (.unknownOption word.written)
  pure known

/-- Takes what is said of a whole table, item by item, where the first item may be missing. -/
def tableOptions : Reader (List TableOption) := do
  match ← peek with
  | none | some (.symbol ";") => pure []
  | _ =>
    let _ ← symbol? ","
    return (← commaSeparated tableOption).filterMap id

/-- Takes a declaration from the opening parenthesis on, and gives with it the text that follows.
What stands between the closing parenthesis and the end of the statement is part of the declaration
only if it says something. -/
def declaration : Reader (Declaration × List Char) := do
  symbol "("
  let r ← get
  let (clauses, ending) := body (r.lexemes.length + 1) .start r
  let spoiled (flaw : Flaw) : Reader (Declaration × List Char) := do
    set ({ lexemes := [] } : Remaining)
    pure (⟨clauses, [], some flaw⟩, [])
  match ending with
  | .error flaw => spoiled flaw
  | .ok (after, rest) =>
    let closing : Reader (List TableOption × List Char) := do
      let saysMore := (← peek).any (· ≠ .symbol ";")
      let options ← tableOptions
      let beyond ← source
      endOfStatement
      pure (options, if saysMore then beyond else after)
    match closing rest with
    | .error flaw => spoiled flaw
    | .ok ((options, beyond), rest) =>
      set rest
      pure (⟨clauses, options, none⟩, beyond)

end Reader

end SchemaEvolution.Sqlite
