import SchemaEvolution.Json.Basic

/-!
# JSON text

A value as JSON text, without any spaces, or with one field or item a line.
-/

namespace SchemaEvolution.Json

/-- A code unit as four lower case hexadecimal digits. -/
def hexUnit (n : Nat) : List Char :=
  let digits := Nat.toDigits 16 n
  List.replicate (4 - digits.length) '0' ++ digits

/-- One character inside a string: quotes, backslashes and controls are escaped. -/
def escapeChar (c : Char) : List Char :=
  match c with
  | '"' => ['\\', '"']
  | '\\' => ['\\', '\\']
  | '\n' => ['\\', 'n']
  | '\r' => ['\\', 'r']
  | '\t' => ['\\', 't']
  | '\x08' => ['\\', 'b']
  | '\x0c' => ['\\', 'f']
  | c => if c.toNat < 0x20 then '\\' :: 'u' :: hexUnit c.toNat else [c]

/-- A string literal; the one that denotes no text escapes a lone surrogate. -/
def printString : Option String → List Char
  | some s => '"' :: (s.toList.flatMap escapeChar ++ ['"'])
  | none => "\"\\ud800\"".toList

/-- A number literal. -/
def printLiteral (l : Literal) : List Char :=
  let sign := if l.negative then ['-'] else []
  let fraction := match l.fraction with
    | none => []
    | some digits => '.' :: digits
  let exponent := match l.exponent with
    | none => []
    | some (none, digits) => 'e' :: digits
    | some (some sign, digits) => 'e' :: sign :: digits
  sign ++ l.whole ++ fraction ++ exponent

mutual

/-- A value without any spaces. -/
def print : Json → List Char
  | .null => "null".toList
  | .bool true => "true".toList
  | .bool false => "false".toList
  | .num l => printLiteral l
  | .str s => printString s
  | .arr items => '[' :: (printItems items ++ [']'])
  | .obj fields => '\x7b' :: (printFields fields ++ ['\x7d'])

/-- Items between commas. -/
def printItems : List Json → List Char
  | [] => []
  | [item] => print item
  | item :: items => print item ++ ',' :: printItems items

/-- Fields between commas. -/
def printFields : List (Option String × Json) → List Char
  | [] => []
  | [(key, value)] => printString key ++ ':' :: print value
  | (key, value) :: fields => printString key ++ ':' :: (print value ++ ',' :: printFields fields)

end

/-- The start of a line at a nesting level: a line break and two spaces a level. -/
def lineBreak (level : Nat) : List Char := '\n' :: List.replicate (2 * level) ' '

mutual

/-- A value with one item or field a line. -/
def printLines (level : Nat) : Json → List Char
  | .arr [] => "[]".toList
  | .arr items => '[' :: (printItemLines (level + 1) items ++ lineBreak level ++ [']'])
  | .obj [] => ['\x7b', '\x7d']
  | .obj fields => '\x7b' :: (printFieldLines (level + 1) fields ++ lineBreak level ++ ['\x7d'])
  | .null => "null".toList
  | .bool true => "true".toList
  | .bool false => "false".toList
  | .num l => printLiteral l
  | .str s => printString s

/-- Items, one a line. -/
def printItemLines (level : Nat) : List Json → List Char
  | [] => []
  | [item] => lineBreak level ++ printLines level item
  | item :: items => lineBreak level ++ printLines level item ++ ',' :: printItemLines level items

/-- Fields, one a line. -/
def printFieldLines (level : Nat) : List (Option String × Json) → List Char
  | [] => []
  | [(key, value)] => lineBreak level ++ printString key ++ ':' :: ' ' :: printLines level value
  | (key, value) :: fields =>
    lineBreak level ++ printString key ++ ':' :: ' ' :: (printLines level value ++
      ',' :: printFieldLines level fields)

end

/-- The text of a value without any spaces. -/
def compact (j : Json) : String := String.ofList (print j)

/-- The text of a value with one item or field a line. -/
def pretty (j : Json) : String := String.ofList (printLines 0 j)

end SchemaEvolution.Json
