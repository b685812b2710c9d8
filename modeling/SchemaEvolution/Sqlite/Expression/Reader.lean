import SchemaEvolution.Number.Integer
import SchemaEvolution.Sqlite.Expression

/-!
# Reading expressions

Operators bind by their strengths: an operand is extended by the operators after it for as long as
they are strong enough. A negated operator (`NOT LIKE`) is as strong as its negation.
-/

namespace SchemaEvolution.Sqlite

namespace Reader

/-! ## Numbers and types -/

/-- A number without the marks between its digits, and what it is complained about as if a mark
stands elsewhere: as much of it as has been read, over its own start. -/
def withoutMarks (isDigit : Char → Bool) (all : List Char) :
    List Char → List Char → Option Char → Option (List Char) → List Char × Option (List Char)
  | [], taken, _, complaint => (taken.reverse, complaint)
  | c :: rest, taken, before, complaint =>
    if c = '_' then
      let isGood := (before.any isDigit) && (rest.head?.any isDigit)
      let complaint :=
        if isGood then complaint else some (taken.reverse ++ all.drop taken.length)
      withoutMarks isDigit all rest taken (some c) complaint
    else withoutMarks isDigit all rest (c :: taken) (some c) complaint

/-- Takes a number, which may have marks between its digits. -/
def number (written : String) : Reader Expression := do
  advance
  let text := written.toList
  let isDigit := if (Expression.hexDigits? written).isSome then Token.isHexDigit else Char.isDigit
  let (digits, complaint) := withoutMarks isDigit text text [] none none
  if let some words := complaint then complain (.unrecognized (String.ofList words))
  pure (.number (String.ofList digits))

/-- Takes a signed number of a type. -/
def typeNumber : Reader Unit := do
  let _ ← if ← symbol? "-" then pure true else symbol? "+"
  match ← peek with
  | some (.number written) => if written.toList.contains '_' then refuse else advance
  | _ => refuse

/-- Takes the words of a type, of which there may be none, and gives the text after the last. -/
def typeWords (after : Option (List Char)) : Nat → Reader (Option (List Char))
  | 0 => pure after
  | fuel + 1 => do
    let rest ← source
    let next (written : String) : Reader (Option (List Char)) := do
      advance
      typeWords (some (rest.drop written.length)) fuel
    match ← peek with
    | some (.word text) => if isPlain text then next text else pure after
    | some (.name written _) | some (.literal written _) => next written
    | _ => pure after

/-- The text of a type, which is only its first word if that stands between quotes. -/
def typeText (first : Option Token) (span : List Char) : String :=
  match first with
  | some (.name _ text) | some (.literal _ text) => text
  | _ => String.ofList span

/-- Takes a type, which may be left out. -/
def typeName : Reader String := do
  let first ← peek
  let start ← source
  match ← typeWords none (← count) with
  | none => pure ""
  | some rest =>
    if ← symbol? "(" then
      typeNumber
      if ← symbol? "," then typeNumber
      let rest ← source
      symbol ")"
      pure (typeText first (Lexeme.between start (rest.drop 1)))
    else pure (typeText first (Lexeme.between start rest))

/-! ## Operators -/

/-- What may follow an operand. -/
inductive Follower where
  | binary (op : BinaryOperator)
  | compare (relation : Relation)
  | is
  | like (function : String)
  | between
  | member
  | isNull
  | notNull
  | not
  | collate
  deriving DecidableEq, Repr

/-- The strength of a negation. -/
def notStrength : Nat := 3

/-- The strength of an equality. -/
def equalStrength : Nat := 4

/-- The strength of a sign. -/
def signStrength : Nat := 12

/-- What a symbol between operands is, and its strength. -/
def symbolFollower : String → Option (Nat × Follower)
  | "=" | "==" => some (equalStrength, .compare .equal)
  | "<>" | "!=" => some (equalStrength, .compare .notEqual)
  | "<" => some (5, .compare .less)
  | "<=" => some (5, .compare .lessOrEqual)
  | ">" => some (5, .compare .greater)
  | ">=" => some (5, .compare .greaterOrEqual)
  | "&" => some (7, .binary .bitAnd)
  | "|" => some (7, .binary .bitOr)
  | "<<" => some (7, .binary .shiftLeft)
  | ">>" => some (7, .binary .shiftRight)
  | "+" => some (8, .binary .add)
  | "-" => some (8, .binary .subtract)
  | "*" => some (9, .binary .multiply)
  | "/" => some (9, .binary .divide)
  | "%" => some (9, .binary .remainder)
  | "||" => some (10, .binary .concatenate)
  | "->" => some (10, .binary .member)
  | "->>" => some (10, .binary .memberText)
  | _ => none

/-- What a word between operands is, and its strength. -/
def wordFollower (text : String) : Option (Nat × Follower) :=
  match text.toUpper with
  | "OR" => some (1, .binary .or)
  | "AND" => some (2, .binary .and)
  | "NOT" => some (notStrength, .not)
  | "IS" => some (equalStrength, .is)
  | "LIKE" | "GLOB" | "REGEXP" | "MATCH" => some (equalStrength, .like text)
  | "BETWEEN" => some (equalStrength, .between)
  | "IN" => some (equalStrength, .member)
  | "ISNULL" => some (equalStrength, .isNull)
  | "NOTNULL" => some (equalStrength, .notNull)
  | "COLLATE" => some (11, .collate)
  | _ => none

/-- What a token between operands is, and its strength. -/
def follower : Token → Option (Nat × Follower)
  | .symbol text => symbolFollower text
  | .word text => wordFollower text
  | _ => none

/-- How far an operand is extended: by operators of some strength, perhaps up to a conjunction. -/
structure Reach where
  least : Nat
  beforeAnd : Bool := false

/-- Whether an operator extends an operand. -/
def Reach.includes (r : Reach) (strength : Nat) (f : Follower) : Bool :=
  r.least ≤ strength && !(r.beforeAnd && f == .binary .and)

/-- Takes the tokens of a query up to the parenthesis that closes it, and that one too. -/
def skipQuery (depth : Nat) : Nat → Reader Unit
  | 0 => refuse
  | fuel + 1 => do
    match ← peek with
    | none => refuse
    | some (.symbol ";") => refuse
    | some (.symbol ")") =>
      advance
      match depth with
      | 0 => pure ()
      | depth + 1 => skipQuery depth fuel
    | some token =>
      advance
      skipQuery (if token == .symbol "(" then depth + 1 else depth) fuel

/-- Whether a query is next. -/
def isQueryNext : Reader Bool := isNextOf ["SELECT", "VALUES", "WITH"]

/-- Takes a query between parentheses of which the first has been taken. -/
def closedQuery : Reader Expression := do
  if ← isQueryNext then
    skipQuery 0 (← count)
    pure .query
  else refuse

/-- The present time that a word stands for. -/
def present? (word : String) : Option Present :=
  match word.toUpper with
  | "CURRENT_DATE" => some .date
  | "CURRENT_TIME" => some .time
  | "CURRENT_TIMESTAMP" => some .timestamp
  | _ => none

/-- Takes the names after points that follow a name, of which there may be `n`. -/
def dots : Nat → Reader (List Name)
  | 0 => pure []
  | n + 1 => do
    if ← symbol? "." then
      let part ← name
      return part :: (← dots n)
    else pure []

/-- The expression of a name with the names after it. -/
def named (first : Expression) (n : Name) : Reader Expression := do
  match ← dots 2 with
  | [] => pure first
  | more => pure (.dotted (n :: more))

/-- Takes what may not be done in a trigger but here. -/
def raising : Reader Expression := do
  symbol "("
  if ← keyword? "IGNORE" then symbol ")"
  else
    if ← isNextOf ["ROLLBACK", "ABORT", "FAIL"] then advance else refuse
    symbol ","
    let _ ← name
    symbol ")"
  pure .raise

/-- The greatest number of a placeholder. -/
def lastPlaceholder : Nat := 32766

/-- What is wrong with a placeholder. -/
def placeholderFlaw? (written : String) : Option Flaw :=
  match written.toList with
  | '#' :: c :: _ => if c.isDigit then some (.near written) else none
  | '?' :: c :: rest =>
    let n := Number.digitsValue (c :: rest)
    if n = 0 || lastPlaceholder < n then
      some (.other ("variable number must be between ?1 and ?" ++ toString lastPlaceholder))
    else none
  | _ => none

/-- The most arguments that a function takes. -/
def mostArguments : Nat := 127

/-- How deep an expression may be. -/
def greatestHeight : Nat := 1000

mutual

/-- Takes an expression as far as it reaches. -/
def reaching : Nat → Reach → Reader Expression
  | 0, _ => refuse
  | fuel + 1, reach => do extend fuel reach (← operand fuel)

/-- Extends an expression as far as it reaches. -/
def extend : Nat → Reach → Expression → Reader Expression
  | 0, _, _ => refuse
  | fuel + 1, reach, left => do
    match (← peek) >>= follower with
    | none => pure left
    | some (strength, f) =>
      if reach.includes strength f then
        advance
        extend fuel reach (← follow fuel strength left f)
      else pure left

/-- Takes what follows an operator that has been taken. -/
def follow : Nat → Nat → Expression → Follower → Reader Expression
  | 0, _, _, _ => refuse
  | fuel + 1, strength, left, f => do
    match f with
    | .binary .and => return Expression.both left (← reaching fuel ⟨strength + 1, false⟩)
    | .binary op => return .binary op left (← reaching fuel ⟨strength + 1, false⟩)
    | .compare relation => return .compare relation left (← reaching fuel ⟨strength + 1, false⟩)
    | .is =>
      let negated ← keyword? "NOT"
      let distinct ← if ← keyword? "DISTINCT" then
          keyword "FROM"
          pure true
        else pure false
      let relation := if negated != distinct then Relation.isNot else .is
      return .compare relation left (← reaching fuel ⟨strength + 1, false⟩)
    | .isNull => pure (.isNull left)
    | .notNull => pure (.notNull left)
    | .collate => return .collate left (← plainName).text
    | .not =>
      if ← keyword? "NULL" then pure (.notNull left)
      else
        match (← peek) >>= follower with
        | some (strength, .like function) =>
          advance
          return .unary .not (← follow fuel strength left (.like function))
        | some (strength, .between) =>
          advance
          return .unary .not (← follow fuel strength left .between)
        | some (_, .member) =>
          advance
          match ← members fuel left with
          | .truth b => pure (.truth (!b))
          | e => pure (.unary .not e)
        | _ => refuse
    | .like function =>
      let pattern ← reaching fuel ⟨strength + 1, false⟩
      let function : Name := ⟨function, function⟩
      if ← keyword? "ESCAPE" then
        return .call function .plain [pattern, left, ← reaching fuel ⟨strength + 1, false⟩]
      else pure (.call function .plain [pattern, left])
    | .between =>
      let low ← reaching fuel ⟨0, true⟩
      keyword "AND"
      return .between left low (← reaching fuel ⟨strength + 1, false⟩)
    | .member => members fuel left

/-- Takes what an expression is said to be one of. -/
def members : Nat → Expression → Reader Expression
  | 0, _ => refuse
  | fuel + 1, left => do
    if ← symbol? "(" then
      if ← isQueryNext then closedQuery
      else if ← symbol? ")" then pure (.truth false)
      else
        let items ← list fuel
        symbol ")"
        pure (.oneOf left items)
    else
      let _ ← name
      let _ ← dots 1
      if ← symbol? "(" then skipQuery 0 fuel
      pure .query

/-- Takes one or more expressions between commas. -/
def list : Nat → Reader (List Expression)
  | 0 => refuse
  | fuel + 1 => do
    let first ← reaching fuel ⟨0, false⟩
    if ← symbol? "," then return first :: (← list fuel) else pure [first]

/-- Takes the branches of a choice. -/
def branches : Nat → Reader (List (Expression × Expression))
  | 0 => refuse
  | fuel + 1 => do
    keyword "WHEN"
    let condition ← reaching fuel ⟨0, false⟩
    keyword "THEN"
    let result ← reaching fuel ⟨0, false⟩
    if ← isNext "WHEN" then return (condition, result) :: (← branches fuel)
    else pure [(condition, result)]

/-- Takes what stands between the parentheses of a call, of which the first has been taken. -/
def arguments : Nat → Reader (CallStyle × List Expression)
  | 0 => refuse
  | fuel + 1 => do
    if ← symbol? "*" then
      symbol ")"
      pure (.star, [])
    else
      let distinct ← keyword? "DISTINCT"
      if !distinct then let _ ← keyword? "ALL"
      let style : CallStyle := if distinct then .distinct else .plain
      if ← symbol? ")" then pure (style, [])
      else
        let items ← list fuel
        if ← keyword? "ORDER" then
          keyword "BY"
          skipQuery 0 fuel
          pure (.ordered, items)
        else
          symbol ")"
          pure (style, items)

/-- Takes the call of a function, of which the first parenthesis is next. -/
def call : Nat → Name → Reader Expression
  | 0, _ => refuse
  | fuel + 1, function => do
    symbol "("
    let (style, items) ← arguments fuel
    let filtered ←
      if (← isNext "FILTER") && (← peekSecond) == some (.symbol "(") then
        advance
        symbol "("
        keyword "WHERE"
        let _ ← reaching fuel ⟨0, false⟩
        symbol ")"
        pure true
      else pure false
    let isWindow ←
      if ← isNext "OVER" then
        match ← peekSecond with
        | some (.symbol "(") =>
          advance
          advance
          skipQuery 0 fuel
          pure true
        | some (.word _) | some (.name _ _) =>
          advance
          let _ ← name
          pure true
        | _ => pure false
      else pure false
    if mostArguments < items.length then
      complain (.other ("too many arguments on function " ++ function.written))
    pure (if filtered || isWindow then .windowed function else .call function style items)

/-- Takes an operand: a literal, a name, a call, or an expression with a sign or in parentheses. -/
def operand : Nat → Reader Expression
  | 0 => refuse
  | fuel + 1 => do
    match ← peek with
    | some (.number written) => number written
    | some (.literal written text) =>
      advance
      named (.text text) ⟨text, written⟩
    | some (.bytes written) =>
      advance
      pure (.bytes written)
    | some (.placeholder written) =>
      advance
      if let some flaw := placeholderFlaw? written then complain flaw
      pure (.placeholder written)
    | some (.name written text) =>
      advance
      calledOrNamed fuel ⟨text, written⟩
    | some (.symbol "(") =>
      advance
      if ← isQueryNext then closedQuery
      else
        match ← list fuel with
        | [e] =>
          symbol ")"
          pure e
        | items =>
          symbol ")"
          pure (.row items)
    | some (.symbol "+") =>
      advance
      return .unary .plus (← reaching fuel ⟨signStrength, false⟩)
    | some (.symbol "-") =>
      advance
      return .unary .minus (← reaching fuel ⟨signStrength, false⟩)
    | some (.symbol "~") =>
      advance
      return .unary .complement (← reaching fuel ⟨signStrength, false⟩)
    | some (.word text) => wordOperand fuel text
    | _ => refuse

/-- Takes a name that has been taken on to its call or its parts. -/
def calledOrNamed : Nat → Name → Reader Expression
  | 0, _ => refuse
  | fuel + 1, n => do
    if (← peek) == some (.symbol "(") then call fuel n else named (.name n) n

/-- Takes an operand that starts with a word. -/
def wordOperand : Nat → String → Reader Expression
  | 0, _ => refuse
  | fuel + 1, text => do
    match text.toUpper with
    | "NULL" =>
      advance
      pure .null
    | "NOT" =>
      advance
      return .unary .not (← reaching fuel ⟨notStrength, false⟩)
    | "EXISTS" =>
      advance
      symbol "("
      closedQuery
    | "CASE" =>
      advance
      let base ← if ← isNext "WHEN" then pure none else some <$> reaching fuel ⟨0, false⟩
      let choices ← branches fuel
      let otherwise ←
        if ← keyword? "ELSE" then some <$> reaching fuel ⟨0, false⟩ else pure none
      keyword "END"
      pure (.choice base choices otherwise)
    | "CAST" =>
      advance
      symbol "("
      let e ← reaching fuel ⟨0, false⟩
      keyword "AS"
      let type ← typeName
      symbol ")"
      pure (.cast e type)
    | "RAISE" =>
      advance
      raising
    | _ =>
      match present? text with
      | some p =>
        advance
        pure (.present p)
      | none =>
        if isFree text then
          advance
          calledOrNamed fuel ⟨text, text⟩
        else refuse

end

/-- Takes an expression. -/
def expression : Reader Expression := do
  let e ← reaching (8 * ((← count) + 1)) ⟨0, false⟩
  if greatestHeight < e.height then
    complain (.other ("Expression tree is too large (maximum depth " ++
      toString greatestHeight ++ ")"))
  pure e

end Reader

end SchemaEvolution.Sqlite
