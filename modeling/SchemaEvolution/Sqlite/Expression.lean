import SchemaEvolution.Sqlite.Token.Reader

/-!
# Expressions

An expression as it is written: literals, names, operators, calls of functions. What its names and
functions stand for is not known yet.
-/

namespace SchemaEvolution.Sqlite

/-- An operator in front of an expression. -/
inductive UnaryOperator where
  | plus
  | minus
  | complement
  | not
  deriving DecidableEq, Repr

/-- An operator between two expressions that are both computed. -/
inductive BinaryOperator where
  | add
  | subtract
  | multiply
  | divide
  | remainder
  | concatenate
  | bitAnd
  | bitOr
  | shiftLeft
  | shiftRight
  | and
  | or
  | member
  | memberText
  deriving DecidableEq, Repr

/-- A comparison of two expressions; `is` and `isNot` tell null from other values. -/
inductive Relation where
  | equal
  | notEqual
  | less
  | lessOrEqual
  | greater
  | greaterOrEqual
  | is
  | isNot
  deriving DecidableEq, Repr

/-- The present time as a date, a time of day, or both. -/
inductive Present where
  | date
  | time
  | timestamp
  deriving DecidableEq, Repr

/-- What is given to a function: nothing but a star, or values, of which it may take each once. -/
inductive CallStyle where
  | star
  | plain
  | distinct
  | ordered
  deriving DecidableEq, Repr

/-- An expression. Numbers keep the way they are written. -/
inductive Expression where
  | null
  | number (written : String)
  | text (s : String)
  | bytes (written : String)
  | truth (b : Bool)
  | present (p : Present)
  | name (n : Name)
  | dotted (parts : List Name)
  | placeholder (written : String)
  | unary (op : UnaryOperator) (e : Expression)
  | binary (op : BinaryOperator) (l r : Expression)
  | compare (relation : Relation) (l r : Expression)
  | isNull (e : Expression)
  | notNull (e : Expression)
  | between (e low high : Expression)
  | among (e : Expression) (items : List Expression)
  | choice (base : Option Expression) (branches : List (Expression × Expression))
      (otherwise : Option Expression)
  | cast (e : Expression) (type : String)
  | collate (e : Expression) (name : String)
  | call (function : Name) (style : CallStyle) (arguments : List Expression)
  | windowed (function : Name)
  | row (items : List Expression)
  | query
  | raise
  deriving Repr, BEq

namespace Expression

/-- The digits of a hexadecimal number. -/
def hexDigits? (written : String) : Option (List Char) :=
  match written.toList with
  | '0' :: x :: digits => if x = 'x' || x = 'X' then some digits else none
  | _ => none

/-- Whether a number is written as an integer. -/
def isInteger (written : String) : Bool :=
  (hexDigits? written).isSome || written.toList.all Char.isDigit

/-- Whether an expression is so plainly zero that no conjunction with it can be anything else. -/
def isZero : Expression → Bool
  | .number written =>
    match hexDigits? written with
    | some digits => digits.all (· = '0')
    | none => written.toList.all (· = '0')
  | .truth b => !b
  | _ => false

/-- Both of two expressions. -/
def both (l r : Expression) : Expression :=
  if l.isZero || r.isZero then .number "0" else .binary .and l r

/-- What an expression may use to be constant: functions, or placeholders. -/
inductive Allowance where
  | functions
  | placeholders
  deriving DecidableEq, Repr

mutual

/-- Whether an expression uses no column, no query, and otherwise only what is allowed. -/
def isConstant (a : Allowance) : Expression → Bool
  | .null => true
  | .number _ => true
  | .text _ => true
  | .bytes _ => true
  | .truth _ => true
  | .present _ => a == .functions
  | .name n => ["TRUE", "FALSE"].contains n.written.toUpper
  | .placeholder _ => a == .placeholders
  | .dotted _ => false
  | .windowed _ => false
  | .query => false
  | .raise => false
  | .unary _ e => isConstant a e
  | .isNull e => isConstant a e
  | .notNull e => isConstant a e
  | .cast e _ => isConstant a e
  | .collate e _ => isConstant a e
  | .binary _ l r => isConstant a l && isConstant a r
  | .compare _ l r => isConstant a l && isConstant a r
  | .between e low high => isConstant a e && isConstant a low && isConstant a high
  | .among e items => isConstant a e && areConstant a items
  | .choice base branches otherwise =>
    isConstantIfAny a base && areConstantPairs a branches && isConstantIfAny a otherwise
  | .call _ _ arguments => a == .functions && areConstant a arguments
  | .row items => areConstant a items

/-- Whether all of some expressions are constant. -/
def areConstant (a : Allowance) : List Expression → Bool
  | [] => true
  | e :: rest => isConstant a e && areConstant a rest

/-- Whether both parts of some branches are constant. -/
def areConstantPairs (a : Allowance) : List (Expression × Expression) → Bool
  | [] => true
  | (e, f) :: rest => isConstant a e && isConstant a f && areConstantPairs a rest

/-- Whether an expression that may be left out is constant. -/
def isConstantIfAny (a : Allowance) : Option Expression → Bool
  | none => true
  | some e => isConstant a e

end

mutual

/-- How deep an expression is. -/
def height : Expression → Nat
  | .unary _ e => height e + 1
  | .binary _ l r => max (height l) (height r) + 1
  | .compare _ l r => max (height l) (height r) + 1
  | .isNull e => height e + 1
  | .notNull e => height e + 1
  | .between e low high => max (height e) (max (height low) (height high)) + 1
  | .among e items => max (height e) (listHeight items) + 1
  | .choice base branches otherwise =>
    max (heightIfAny base) (max (pairHeight branches) (heightIfAny otherwise)) + 1
  | .cast e _ => height e + 1
  | .call _ _ arguments => listHeight arguments + 1
  | .row items => listHeight items + 1
  | _ => 1

/-- How deep the deepest of some expressions is. -/
def listHeight : List Expression → Nat
  | [] => 0
  | e :: rest => max (height e) (listHeight rest)

/-- How deep the deepest part of some branches is. -/
def pairHeight : List (Expression × Expression) → Nat
  | [] => 0
  | (e, f) :: rest => max (max (height e) (height f)) (pairHeight rest)

/-- How deep an expression that may be left out is. -/
def heightIfAny : Option Expression → Nat
  | none => 0
  | some e => height e

end

/-- Whether an expression is one of some items; being the one and only constant is being equal. -/
def oneOf (e : Expression) (items : List Expression) : Expression :=
  match e, items with
  | _, [] => .truth false
  | .row _, items => .among e items
  | _, [item] =>
    if item.isConstant .placeholders then .compare .equal e (.unary .plus item)
    else .among e items
  | _, items => .among e items

end Expression

end SchemaEvolution.Sqlite
