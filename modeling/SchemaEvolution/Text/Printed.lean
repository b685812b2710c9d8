import SchemaEvolution.Text.Extending
import SchemaEvolution.Text.Unprintable

/-!
# Printed values

How a text appears inside a printed value: between double quotes, with quotes, backslashes and some
controls escaped, and characters that extend the one before them or show nothing of their own
written by code point.
-/

namespace SchemaEvolution.Text

/-- Whether a printed text shows a character by its code point. -/
def isHidden (c : Char) : Bool := isExtending c || isUnprintable c

/-- A code point in lower case hexadecimal between braces. -/
def codePoint (c : Char) : List Char :=
  '\\' :: 'u' :: '\x7b' :: (Nat.toDigits 16 c.toNat ++ ['\x7d'])

/-- One character of a printed text. -/
def printedChar (c : Char) : List Char :=
  match c with
  | '"' => ['\\', '"']
  | '\\' => ['\\', '\\']
  | '\n' => ['\\', 'n']
  | '\r' => ['\\', 'r']
  | '\t' => ['\\', 't']
  | '\x00' => ['\\', '0']
  | c => if isHidden c then codePoint c else [c]

/-- A text as it appears inside a printed value. -/
def printed (text : String) : String :=
  String.ofList ('"' :: (text.toList.flatMap printedChar ++ ['"']))

/-- An optional text as it appears inside a printed value. -/
def printedOption : Option String → String
  | none => "None"
  | some text => "Some(" ++ printed text ++ ")"

/-- A truth value as it appears inside a printed value. -/
def printedBool (b : Bool) : String := if b then "true" else "false"

/-- A record as a printed value: its name and its fields, and two dots if there is more to it. -/
def printedRecord (name : String) (fields : List (String × String)) (complete : Bool) : String :=
  let shown := fields.map fun (field, value) => field ++ ": " ++ value
  name ++ " \x7b " ++ ", ".intercalate (shown ++ if complete then [] else [".."]) ++ " \x7d"

end SchemaEvolution.Text
