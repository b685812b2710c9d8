import SchemaEvolution.Sqlite.Term

/-!
# Scopes

A scope says what the names of an expression stand for, and makes a term of it. A default knows no
names and finds out late which functions there are; everywhere else an unknown name is refused at
once.
-/

namespace SchemaEvolution.Sqlite

/-- A name with its ASCII letters in lower case. -/
def fold (s : String) : List Char := s.toList.map Char.toLower

/-- A column as an expression sees it. -/
structure Visible where
  name : String
  affinity : Affinity
  collation : Collation
  deriving DecidableEq, Repr

/-- Where an expression stands. -/
inductive Setting where
  | default
  | check
  | generated
  | key
  | statement
  deriving DecidableEq, Repr

/-- The settings in which some things are prohibited, in words. -/
def Setting.words? : Setting → Option String
  | .check => some "CHECK constraints"
  | .generated => some "generated columns"
  | .key => some "index expressions"
  | .default | .statement => none

/-- A place of a setting in which the same must come out each time, in words. -/
def Setting.place? : Setting → Option String
  | .check => some "a CHECK constraint"
  | .generated => some "a generated column"
  | .key => some "an index"
  | .default | .statement => none

/-- Whether an expression must be a matter of the columns of its row alone. -/
def Setting.isStrict (s : Setting) : Bool := s = .generated || s = .key

/-- The columns that an expression sees, the names of the table that they are in, whether its rows
have numbers, and where the expression stands. -/
structure Scope where
  columns : List Visible := []
  tables : List String := []
  hasRowNumber : Bool := false
  setting : Setting
  deriving DecidableEq, Repr

namespace Scope

/-- The names that stand for the number of a row where no column has them. -/
def rowNames : List String := ["rowid", "_rowid_", "oid"]

/-- The position of a column. -/
def position? (s : Scope) (name : String) : Option Nat :=
  s.columns.findIdx? fun column => fold column.name == fold name

/-- Whether a name that no column has stands for the number of a row. -/
def isRowNumber (s : Scope) (name : String) : Bool :=
  s.hasRowNumber && !s.setting.isStrict && rowNames.any fun row => row.toList == fold name

/-- Whether a name with the names before it is in the table. -/
def isOwn (s : Scope) (before : List Name) : Bool :=
  match before.getLast? with
  | some table => s.tables.any fun name => fold name == fold table.text
  | none => true

/-- The column of an expression that is one, or the number of a row. -/
def column? (s : Scope) (e : Expression) : Option (Option Visible) :=
  let ofName (n : Name) : Option (Option Visible) :=
    match (s.position? n.text).bind fun i => s.columns[i]? with
    | some column => some (some column)
    | none => if s.isRowNumber n.text then some none else none
  match e with
  | .name n => ofName n
  | .dotted parts =>
    if s.isOwn parts.dropLast then parts.getLast?.bind ofName else none
  | _ => none

/-- The affinity of an expression, which only columns and casts have. -/
def affinity? (s : Scope) : Expression → Option Affinity
  | .cast _ type => some (.ofWords type)
  | .collate e _ => s.affinity? e
  | .row (e :: _) => s.affinity? e
  | e => (s.column? e).map fun column => (column.map (·.affinity)).getD .integer

mutual

/-- Whether a collation is written anywhere in an expression. -/
def isCollated : Expression → Bool
  | .collate _ _ => true
  | .unary _ e => isCollated e
  | .isNull e => isCollated e
  | .notNull e => isCollated e
  | .cast e _ => isCollated e
  | .binary _ l r => isCollated l || isCollated r
  | .compare _ l r => isCollated l || isCollated r
  | .between e low high => isCollated e || isCollated low || isCollated high
  | .among e items => isCollated e || areCollated items
  | .choice base branches otherwise =>
    isCollatedIfAny base || areCollatedPairs branches || isCollatedIfAny otherwise
  | .call _ _ arguments => areCollated arguments
  | .row items => areCollated items
  | _ => false

/-- Whether a collation is written in one of some expressions. -/
def areCollated : List Expression → Bool
  | [] => false
  | e :: rest => isCollated e || areCollated rest

/-- Whether a collation is written in one of some branches. -/
def areCollatedPairs : List (Expression × Expression) → Bool
  | [] => false
  | (e, f) :: rest => isCollated e || isCollated f || areCollatedPairs rest

/-- Whether a collation is written in an expression that may be left out. -/
def isCollatedIfAny : Option Expression → Bool
  | none => false
  | some e => isCollated e

end

mutual

/-- The name of the collation that an expression asks for. -/
def collation? (s : Scope) : Expression → Option (Except String Collation)
  | .collate _ name => some ((Collation.ofName? name).elim (.error name) .ok)
  | .cast e _ => collation? s e
  | .unary .plus e => collation? s e
  | .unary _ e => if isCollated e then collation? s e else none
  | .isNull e => if isCollated e then collation? s e else none
  | .notNull e => if isCollated e then collation? s e else none
  | .binary _ l r =>
    if isCollated l then collation? s l else if isCollated r then collation? s r else none
  | .compare _ l r =>
    if isCollated l then collation? s l else if isCollated r then collation? s r else none
  | .between e low high =>
    if isCollated e then collation? s e
    else if isCollated low then collation? s low
    else if isCollated high then collation? s high
    else none
  | .among e items => if isCollated e then collation? s e else firstCollation s items
  | .choice base branches otherwise =>
    if isCollatedIfAny base then collationIfAny s base
    else if areCollatedPairs branches then pairCollation s branches
    else if isCollatedIfAny otherwise then collationIfAny s otherwise
    else none
  | .call _ _ arguments => firstCollation s arguments
  | .row (e :: _) => collation? s e
  | e => (s.column? e).bind fun column => column.map fun c => .ok c.collation

/-- The collation of the first of some expressions in which one is written. -/
def firstCollation (s : Scope) : List Expression → Option (Except String Collation)
  | [] => none
  | e :: rest => if isCollated e then collation? s e else firstCollation s rest

/-- The collation of the first part of some branches in which one is written. -/
def pairCollation (s : Scope) :
    List (Expression × Expression) → Option (Except String Collation)
  | [] => none
  | (e, f) :: rest =>
    if isCollated e then collation? s e
    else if isCollated f then collation? s f
    else pairCollation s rest

/-- The collation of an expression that may be left out. -/
def collationIfAny (s : Scope) : Option Expression → Option (Except String Collation)
  | none => none
  | some e => collation? s e

end

/-- The collation under which two expressions are compared. -/
def collationOf (s : Scope) (l r : Expression) : Except String Collation :=
  let chosen :=
    if isCollated l then s.collation? l
    else if isCollated r then s.collation? r
    else (s.collation? l).orElse fun _ => s.collation? r
  chosen.getD (.ok .binary)

/-- How two expressions are compared. -/
def comparing (s : Scope) (l r : Expression) : Except String Comparing := do
  let collation ← s.collationOf l r
  .ok ⟨.between (s.affinity? l) (s.affinity? r), collation⟩

/-! ## Terms of expressions -/

/-- The value of a hexadecimal digit. -/
def hexValue (c : Char) : Nat :=
  if c.isDigit then c.toNat - 48 else if 'a' ≤ c then c.toNat - 87 else c.toNat - 55

/-- The value of some hexadecimal digits. -/
def hexNumber (digits : List Char) : Nat := digits.foldl (fun n c => 16 * n + hexValue c) 0

/-- The bytes of which each is two hexadecimal digits. -/
def hexBytes : List Char → List UInt8
  | a :: b :: rest => UInt8.ofNat (16 * hexValue a + hexValue b) :: hexBytes rest
  | _ => []

/-- The value of a number with a sign, or why it has none. -/
def numberValue (negative : Bool) (written : String) : Except String Value :=
  match Expression.hexDigits? written with
  | some digits =>
    let n := (Int64.ofInt (hexNumber digits)).toInt
    let isLong := 16 < (digits.dropWhile (· = '0')).length
    if isLong || (negative && n = leastInteger) then
      .error ("hex literal too big: " ++ (if negative then "-" else "") ++ written)
    else .ok (.ofInt (if negative then -n else n))
  | none =>
    let text := if negative then '-' :: written.toList else written.toList
    let n := integerOfText text
    if Expression.isInteger written && n.fits then .ok (.ofInt n.value)
    else .ok (.ofReal (realOfText text).1)

/-- The number that an expression is but for signs that change nothing. -/
def literal? : Expression → Option String
  | .number written => some written
  | .unary .plus e => literal? e
  | _ => none

/-- The flaw of values in a row where there may be one only. -/
def rowMisused : String := "row value misused"

/-- The complaint about something that is prohibited in a setting, if it is. -/
def prohibited (s : Scope) (what : String) : Option String :=
  s.setting.words?.map fun words => what ++ " prohibited in " ++ words

/-- Something that must not change from one time to another is refused where it does not belong. -/
def checkFixed (s : Scope) (isFixed : Bool) : Except String Unit :=
  if s.setting.isStrict && !isFixed then
    .error ((s.prohibited "non-deterministic functions").getD "")
  else .ok ()

/-- A term that is flawed, or a refusal where flaws are found at once. -/
def misused (s : Scope) (late : Bool) (message : String) : Except String Term :=
  if s.setting = .default then .ok (.flawed ⟨message, late, false⟩) else .error message

/-- A comparison, or a term that is flawed because its collation is unknown. -/
def compared (late : Bool) (c : Except String Comparing) (make : Comparing → Term)
    (parts : List Term) : Term :=
  match c with
  | .ok c => make c
  | .error name => .firstOf (parts ++ [.flawed ⟨Sqlite.noCollation ++ name, late, true⟩])

/-- The term of a name. -/
def nameTerm (s : Scope) (n : Name) : Except String Term :=
  match s.position? n.text with
  | some i => .ok (.column i)
  | none =>
    if s.isRowNumber n.text then .ok .rowNumber
    else if n.written.toList.head? = some '"' then .ok (.constant (.text n.text))
    else if n.written.toUpper == "TRUE" then .ok (.constant (.int 1))
    else if n.written.toUpper == "FALSE" then .ok (.constant (.int 0))
    else .error ("no such column: " ++ n.text)

/-- The term of a name with the names before it. -/
def dottedTerm (s : Scope) (parts : List Name) : Except String Term :=
  let unknown := "no such column: " ++ ".".intercalate (parts.map (·.text))
  match parts.getLast? with
  | some n =>
    if s.setting.isStrict then .error ((s.prohibited "the \".\" operator").getD "")
    else if !s.isOwn parts.dropLast then .error unknown
    else
      match s.position? n.text with
      | some i => .ok (.column i)
      | none => if s.isRowNumber n.text then .ok .rowNumber else .error unknown
  | none => .error unknown

/-- The truth value that a word stands for where no column has its name. -/
def truthWord? (s : Scope) (e : Expression) : Option Bool :=
  match e with
  | .truth b => if s.setting = .default then none else some b
  | .collate e _ => s.truthWord? e
  | .name n =>
    if s.setting = .default || (s.position? n.text).isSome then none
    else if n.written.toUpper == "TRUE" then some true
    else if n.written.toUpper == "FALSE" then some false
    else none
  | _ => none

/-- The collation of the arguments of a function. -/
def argumentCollation (s : Scope) (arguments : List Expression) : Except String Collation :=
  ((arguments.findSome? fun e => s.collation? e).getD (.ok .binary))

/-- The term of a call, given those of its arguments. -/
def callTerm (s : Scope) (late : Bool) (function : Name) (style : CallStyle)
    (arguments : List Expression) (terms : List Term) : Except String Term :=
  let unknown := "unknown function: " ++ function.text ++ "()"
  match Callee.find? function.text arguments.length with
  | some .forbidden => misused s late ("unsafe use of " ++ function.text ++ "()")
  | some .summary =>
    if s.setting = .default then .ok (.flawed ⟨unknown, late, false⟩)
    else .error ("misuse of aggregate function " ++ function.text ++ "()")
  | none =>
    if s.setting = .default then .ok (.flawed ⟨unknown, late, false⟩)
    else if Callee.isKnown function.text then
      .error ("wrong number of arguments to function " ++ function.text ++ "()")
    else .error ("no such function: " ++ function.text)
  | some callee =>
    if style = .ordered && s.setting ≠ .default then
      .error ("ORDER BY may not be used with non-aggregate " ++ function.text ++ "()")
    else
      match callee, terms with
      | .firstOf, _ => .ok (.firstOf terms)
      | .choice, [condition, yes, no] =>
        .ok (.choice none [({}, condition, yes)] (some no))
      | .function f, _ => do
        s.checkFixed f.isFixed
        match s.argumentCollation arguments with
        | .ok c => .ok (.apply (f.inPlace s.setting.place?) c terms)
        | .error name =>
          .ok (.firstOf (terms ++ [.flawed ⟨Sqlite.noCollation ++ name, late, true⟩]))
      | _, t :: _ => .ok t
      | _, [] => .ok (.constant .null)

/-- The function of an operator that looks into JSON. -/
def memberName : BinaryOperator → Name
  | .memberText => ⟨"->>", "->>"⟩
  | _ => ⟨"->", "->"⟩

/-- The items of an expression that is a row of them. -/
def rowItems? : Expression → Option (List Expression)
  | .row items => some items
  | _ => none

mutual

/-- The term of an expression, where `late` says whether it is part of one of literals only. -/
def term (s : Scope) (late : Bool) (e : Expression) : Except String Term :=
  let late := late || e.isConstant .placeholders
  match e with
  | .null => .ok (.constant .null)
  | .number written =>
    match numberValue false written with
    | .ok v => .ok (.constant v)
    | .error message => .ok (.flawed ⟨message, late, false⟩)
  | .text text => .ok (.constant (.text text))
  | .bytes written => .ok (.constant (.blob (hexBytes ((written.toList.drop 2).dropLast))))
  | .truth b => .ok (.constant (.ofBool b))
  | .present p => do
    s.checkFixed false
    .ok (.constant (.text (match p with
      | .date => "2026-01-01"
      | .time => "00:00:00"
      | .timestamp => "2026-01-01 00:00:00")))
  | .name n => s.nameTerm n
  | .dotted parts => s.dottedTerm parts
  | .placeholder written =>
    match s.prohibited "parameters" with
    | some message => .error message
    | none => .ok (.bound (Number.digitsValue (written.toList.drop 1)))
  | .unary .plus e => term s late e
  | .unary .minus e =>
    match literal? e with
    | some written =>
      match numberValue true written with
      | .ok v => .ok (.constant v)
      | .error message => .ok (.flawed ⟨message, late, false⟩)
    | none => do
      let t ← term s late e
      .ok (.arithmetic .subtract (.constant (.int 0)) t)
  | .unary .complement e => do .ok (.complement (← term s late e))
  | .unary .not e => do .ok (.not (← term s late e))
  | .binary op l r => do
    let tl ← term s late l
    let tr ← term s late r
    match op with
    | .and => .ok (.and tl tr)
    | .or => .ok (.or tl tr)
    | .member | .memberText => s.callTerm late (memberName op) .plain [l, r] [tl, tr]
    | op => .ok (.arithmetic op tl tr)
  | .compare relation l r =>
    match rowItems? l, rowItems? r with
    | none, none => do
      let tl ← term s late l
      match relation, s.truthWord? r with
      | .is, some b => .ok (.isTruth b tl)
      | .isNot, some b => .ok (.not (.isTruth b tl))
      | _, _ =>
        let tr ← term s late r
        .ok (compared late (s.comparing l r) (.compare relation · tl tr) [tl, tr])
    | some _, some _ =>
      match l, r with
      | .row ls, .row rs => do
        let tl ← terms s late ls
        let tr ← terms s late rs
        if ls.length ≠ rs.length then misused s late rowMisused
        else
          let kinds := List.zipWith s.comparing ls rs
          let pairs := List.zipWith (fun (c : Except String Comparing) (p : Term × Term) =>
            (c.toOption.getD {}, p.1, p.2)) kinds (tl.zip tr)
          .ok (.compareRows relation pairs)
      | _, _ => misused s late rowMisused
    | _, _ => misused s late rowMisused
  | .isNull e => do .ok (.isNull (← term s late e))
  | .notNull e => do .ok (.not (.isNull (← term s late e)))
  | .between e low high => do
    let t ← term s late e
    let lower ← term s late low
    let upper ← term s late high
    .ok (compared late (s.comparing e low)
      (fun c => compared late (s.comparing e high) (.between c · t lower upper) [t, lower, upper])
      [t, lower, upper])
  | .among e items => do
    let t ← term s late e
    let list ← terms s late items
    let collation := (s.collation? e).getD (.ok .binary)
    let leveling := (s.affinity? e).elim .plain Leveling.ofAffinity
    let allFirst := 2 < list.length && list.all Term.isFixed
    .ok (compared late (collation.map fun c => ⟨leveling, c⟩) (.among allFirst · t list)
      (t :: list))
  | .choice base branches otherwise => do
    let tb ← optionTerm s late base
    let pairs ← branchTerms s late base branches
    .ok (.choice tb pairs (← optionTerm s late otherwise))
  | .cast e type => do .ok (.cast (.ofWords type) (← term s late e))
  | .collate e _ => term s late e
  | .call function style arguments => do
    let list ← terms s late arguments
    s.callTerm late function style arguments list
  | .windowed function => .error ("misuse of window function " ++ function.text ++ "()")
  | .row items => do
    let _ ← terms s late items
    .ok (.flawed ⟨rowMisused, late, false⟩)
  | .query =>
    match s.prohibited "subqueries" with
    | some message => .error message
    | none => .ok (.constant .null)
  | .raise => .error "RAISE() may only be used within a trigger-program"

/-- The terms of some expressions. -/
def terms (s : Scope) (late : Bool) : List Expression → Except String (List Term)
  | [] => .ok []
  | e :: rest => do
    let t ← term s late e
    .ok (t :: (← terms s late rest))

/-- The terms of the branches of a choice. -/
def branchTerms (s : Scope) (late : Bool) (base : Option Expression) :
    List (Expression × Expression) → Except String (List (Comparing × Term × Term))
  | [] => .ok []
  | (condition, result) :: rest => do
    let c ← match base with
      | some e => .ok ((s.comparing e condition).toOption.getD {})
      | none => .ok {}
    let tc ← term s late condition
    let tr ← term s late result
    .ok ((c, tc, tr) :: (← branchTerms s late base rest))

/-- The term of an expression that may be left out. -/
def optionTerm (s : Scope) (late : Bool) : Option Expression → Except String (Option Term)
  | none => .ok none
  | some e => do .ok (some (← term s late e))

end

end Scope

end SchemaEvolution.Sqlite
