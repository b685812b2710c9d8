import SchemaEvolution.Sqlite.Token

/-!
# Reading tokens

A reader takes tokens off the front of a list, or fails at the first one that it cannot take. What
is wrong with a token that has been taken only comes out at the next one that is taken: a token that
cannot follow is complained about first.
-/

namespace SchemaEvolution.Sqlite

/-- Where the text of a statement goes wrong. -/
inductive Flaw where
  | near (written : String)
  | unrecognized (written : String)
  | unknownOption (written : String)
  | afterColumn (written : String)
  | other (words : String)
  | incomplete
  deriving DecidableEq, Repr

/-- A flaw in words. -/
def Flaw.message : Flaw → String
  | .near written => "near \"" ++ written ++ "\": syntax error"
  | .unrecognized written => "unrecognized token: \"" ++ written ++ "\""
  | .unknownOption written => "unknown table option: " ++ written
  | .afterColumn written => "syntax error after column name \"" ++ written ++ "\""
  | .other words => words
  | .incomplete => "incomplete input"

/-- The tokens that are left, and what is wrong with the last one taken. -/
structure Remaining where
  lexemes : List Lexeme
  pending : Option Flaw := none
  deriving DecidableEq, Repr

/-- What takes tokens off the front of a list. -/
abbrev Reader (α : Type) : Type := StateT Remaining (Except Flaw) α

/-- A name and how it is written. -/
structure Name where
  text : String
  written : String
  deriving DecidableEq, Repr

namespace Reader

/-- The flaw of a text that cannot go on with some tokens. -/
def flawAt : List Lexeme → Flaw
  | [] => .incomplete
  | ⟨.unrecognized written, _⟩ :: _ => .unrecognized written
  | lexeme :: _ => .near lexeme.token.written

/-- Fails at the next token. -/
def refuse {α : Type} : Reader α := fun r => .error (flawAt r.lexemes)

/-- The next token, which is left where it is. -/
def peek : Reader (Option Token) := fun r => .ok (r.lexemes.head?.map (·.token), r)

/-- The token after the next one. -/
def peekSecond : Reader (Option Token) := fun r => .ok (r.lexemes[1]?.map (·.token), r)

/-- How many tokens are left. -/
def count : Reader Nat := fun r => .ok (r.lexemes.length, r)

/-- The text of the statement from the next token on. -/
def source : Reader (List Char) := fun r =>
  .ok ((r.lexemes.head?.map (·.source)).getD [], r)

/-- Takes the next token. -/
def advance : Reader Unit := fun r =>
  match r.pending, r.lexemes with
  | some flaw, _ => .error flaw
  | none, ⟨.unrecognized written, _⟩ :: _ => .error (.unrecognized written)
  | none, lexemes => .ok ((), ⟨lexemes.tail, none⟩)

/-- Says what is wrong with the last token taken. -/
def complain (flaw : Flaw) : Reader Unit := fun r => .ok ((), { r with pending := some flaw })

/-- Takes the next token if it is the one described, and says whether it was. -/
def takeIf (p : Token → Bool) : Reader Bool := do
  match ← peek with
  | some token =>
    if p token then
      advance
      pure true
    else pure false
  | none => pure false

/-- Takes a keyword if it is next. -/
def keyword? (keyword : String) : Reader Bool := takeIf fun token => token.isKeyword keyword

/-- Takes a symbol if it is next. -/
def symbol? (text : String) : Reader Bool := takeIf fun token => token == .symbol text

/-- Takes a keyword. -/
def keyword (text : String) : Reader Unit := do
  if ← keyword? text then pure () else refuse

/-- Takes a certain token. -/
def token (t : Token) : Reader Unit := do
  if ← takeIf (· == t) then pure () else refuse

/-- Takes a symbol. -/
def symbol (text : String) : Reader Unit := token (.symbol text)

/-- Takes the end of a statement: a semicolon, or the end of the text. -/
def endOfStatement : Reader Unit := do
  if ← symbol? ";" then pure ()
  else fun r =>
    match r.lexemes, r.pending with
    | [], none => .ok ((), r)
    | [], some flaw => .error flaw
    | lexemes, _ => .error (flawAt lexemes)

/-- Takes keywords in a row. -/
def keywords (texts : List String) : Reader Unit := texts.forM keyword

/-- Whether the next token is a keyword. -/
def isNext (keyword : String) : Reader Bool := do
  return ((← peek).map fun token => token.isKeyword keyword).getD false

/-- Whether the next token is one of some keywords. -/
def isNextOf (keywords : List String) : Reader Bool := do
  return ((← peek).map fun token => keywords.any token.isKeyword).getD false

/-- The words that are no names unless they stand between quotes. -/
def reserved : List String :=
  ["ADD", "ALL", "ALTER", "AND", "AS", "AUTOINCREMENT", "BETWEEN", "CASE", "CHECK", "COLLATE",
   "COMMIT", "CONSTRAINT", "CREATE", "DEFAULT", "DEFERRABLE", "DELETE", "DISTINCT", "DROP", "ELSE",
   "ESCAPE", "EXCEPT", "EXISTS", "FOREIGN", "FROM", "GROUP", "HAVING", "IN", "INDEX", "INSERT",
   "INTERSECT", "INTO", "IS", "ISNULL", "JOIN", "LIMIT", "NOT", "NOTHING", "NOTNULL", "NULL", "ON",
   "OR", "ORDER", "PRIMARY", "REFERENCES", "RETURNING", "SELECT", "SET", "TABLE", "THEN", "TO",
   "TRANSACTION", "UNION", "UNIQUE", "UPDATE", "USING", "VALUES", "WHEN", "WHERE"]

/-- The words for the kinds of joins, which are names except where only a plain word may stand. -/
def joinWords : List String := ["CROSS", "FULL", "INNER", "LEFT", "NATURAL", "OUTER", "RIGHT"]

/-- Whether a word is a name without quotes. -/
def isFree (word : String) : Bool := !reserved.contains word.toUpper

/-- Whether a word is a plain one. -/
def isPlain (word : String) : Bool := isFree word && !joinWords.contains word.toUpper

/-- Takes a name, given which words are names and whether a literal is one. -/
def nameOf (isWord : String → Bool) (literals : Bool) : Reader Name := do
  match ← peek with
  | some (.name written text) =>
    advance
    pure ⟨text, written⟩
  | some (.literal written text) =>
    if literals then
      advance
      pure ⟨text, written⟩
    else refuse
  | some (.word text) =>
    if isWord text then
      advance
      pure ⟨text, text⟩
    else refuse
  | _ => refuse

/-- Takes a name. -/
def name : Reader Name := nameOf isFree true

/-- Takes a plain name or a literal. -/
def plainName : Reader Name := nameOf isPlain true

/-- At most so many items between commas. -/
def itemsUpTo {α : Type} (item : Reader α) : Nat → Reader (List α)
  | 0 => refuse
  | count + 1 => do
    let first ← item
    if ← symbol? "," then pure (first :: (← itemsUpTo item count)) else pure [first]

/-- One or more items between commas, of which there are no more than tokens. -/
def commaSeparated {α : Type} (item : Reader α) : Reader (List α) := do
  itemsUpTo item ((← count) + 1)

/-- Items between commas and parentheses. -/
def parenthesized {α : Type} (item : Reader α) : Reader (List α) := do
  symbol "("
  let items ← commaSeparated item
  symbol ")"
  pure items

end Reader

end SchemaEvolution.Sqlite
