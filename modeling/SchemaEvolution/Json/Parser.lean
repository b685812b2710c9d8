import SchemaEvolution.Json.Basic

/-!
# Reading JSON

A strict reader: no comments, no trailing commas, no leading zeros, and nothing but blanks around
the value. Each step consumes a character, so the length of the text bounds the work.
-/

namespace SchemaEvolution.Json

/-- The four characters that may stand between tokens. -/
def isSpace (c : Char) : Bool := c = ' ' || c = '\n' || c = '\t' || c = '\r'

/-- A text without the blanks at its start. -/
def skipSpace (text : List Char) : List Char := text.dropWhile isSpace

/-- The value of a hexadecimal digit. -/
def hexDigit (c : Char) : Option Nat :=
  if '0' ≤ c && c ≤ '9' then some (c.toNat - 48)
  else if 'a' ≤ c && c ≤ 'f' then some (c.toNat - 87)
  else if 'A' ≤ c && c ≤ 'F' then some (c.toNat - 55)
  else none

/-- The code unit written with four hexadecimal digits at the start of a text. -/
def readUnit : List Char → Option (Nat × List Char)
  | a :: b :: c :: d :: rest => do
    let a ← hexDigit a
    let b ← hexDigit b
    let c ← hexDigit c
    let d ← hexDigit d
    some (a * 4096 + b * 256 + c * 16 + d, rest)
  | _ => none

/-- What a letter after a backslash stands for. -/
def unescape : Char → Option Char
  | '"' => some '"'
  | '\\' => some '\\'
  | '/' => some '/'
  | 'b' => some '\x08'
  | 'f' => some '\x0c'
  | 'n' => some '\n'
  | 'r' => some '\r'
  | 't' => some '\t'
  | _ => none

/-- What a piece of a string literal denotes: a character, nothing that is text, or the end. -/
inductive Piece where
  | char (c : Char)
  | surrogate
  | stop
  deriving DecidableEq, Repr

/-- The next piece of a string literal. Two escaped surrogates that pair up are one character. -/
def readPiece : List Char → Option (Piece × List Char)
  | [] => none
  | '"' :: rest => some (.stop, rest)
  | '\\' :: 'u' :: rest => do
    let (high, rest) ← readUnit rest
    if 0xDC00 ≤ high && high < 0xE000 then some (.surrogate, rest)
    else if 0xD800 ≤ high && high < 0xDC00 then
      match rest with
      | '\\' :: 'u' :: after => do
        let (low, after) ← readUnit after
        if 0xDC00 ≤ low && low < 0xE000 then
          some (.char (Char.ofNat (0x10000 + (high - 0xD800) * 0x400 + (low - 0xDC00))), after)
        else some (.surrogate, rest)
      | _ => some (.surrogate, rest)
    else some (.char (Char.ofNat high), rest)
  | '\\' :: letter :: rest => (unescape letter).map fun c => (.char c, rest)
  | c :: rest => if c.toNat < 0x20 || c = '\\' then none else some (.char c, rest)

/-- Reads a string literal after its opening quote, with `fuel` for its pieces. -/
def readString : Nat → List Char → Option (Option (List Char) × List Char)
  | 0, _ => none
  | fuel + 1, text =>
    match readPiece text with
    | none => none
    | some (.stop, rest) => some (some [], rest)
    | some (.char c, rest) => (readString fuel rest).map fun (s, after) => (s.map (c :: ·), after)
    | some (.surrogate, rest) => (readString fuel rest).map fun (_, after) => (none, after)

/-- Splits off the digits at the start of a text, of which there must be some. -/
def someDigits (text : List Char) : Option (List Char × List Char) :=
  let digits := text.takeWhile Char.isDigit
  if digits.isEmpty then none else some (digits, text.dropWhile Char.isDigit)

/-- The digits before the point: a zero alone, or digits that do not start with one. -/
def readWhole : List Char → Option (List Char × List Char)
  | '0' :: rest =>
    match rest with
    | c :: _ => if c.isDigit then none else some (['0'], rest)
    | [] => some (['0'], rest)
  | text => someDigits text

/-- A point and the digits after it, if there is a point. -/
def readFraction : List Char → Option (Option (List Char) × List Char)
  | '.' :: rest => (someDigits rest).map fun (digits, after) => (some digits, after)
  | text => some (none, text)

/-- An exponent, if there is one. -/
def readPower : List Char → Option (Option (Option Char × List Char) × List Char)
  | [] => some (none, [])
  | mark :: rest =>
    if mark = 'e' || mark = 'E' then
      match rest with
      | '+' :: digits => (someDigits digits).map fun (d, after) => (some (some '+', d), after)
      | '-' :: digits => (someDigits digits).map fun (d, after) => (some (some '-', d), after)
      | digits => (someDigits digits).map fun (d, after) => (some (none, d), after)
    else some (none, mark :: rest)

/-- A number literal. -/
def readLiteral (text : List Char) : Option (Literal × List Char) := do
  let (negative, text) := match text with
    | '-' :: rest => (true, rest)
    | rest => (false, rest)
  let (whole, text) ← readWhole text
  let (fraction, text) ← readFraction text
  let (power, text) ← readPower text
  some (⟨negative, whole, fraction, power⟩, text)

mutual

/-- Reads a value and gives what follows it. -/
def readValue : Nat → List Char → Option (Json × List Char)
  | 0, _ => none
  | fuel + 1, text =>
    match skipSpace text with
    | '"' :: rest =>
      (readString (rest.length + 1) rest).map fun (s, after) => (.str (s.map String.ofList), after)
    | '[' :: rest =>
      match skipSpace rest with
      | ']' :: after => some (.arr [], after)
      | _ => (readItems fuel rest).map fun (items, after) => (.arr items, after)
    | '\x7b' :: rest =>
      match skipSpace rest with
      | '\x7d' :: after => some (.obj [], after)
      | _ => (readFields fuel rest).map fun (fields, after) => (.obj fields, after)
    | 'n' :: 'u' :: 'l' :: 'l' :: rest => some (.null, rest)
    | 't' :: 'r' :: 'u' :: 'e' :: rest => some (.bool true, rest)
    | 'f' :: 'a' :: 'l' :: 's' :: 'e' :: rest => some (.bool false, rest)
    | rest => (readLiteral rest).map fun (l, after) => (.num l, after)

/-- Reads the items of a list up to its end. -/
def readItems : Nat → List Char → Option (List Json × List Char)
  | 0, _ => none
  | fuel + 1, text =>
    match readValue fuel text with
    | none => none
    | some (item, rest) =>
      match skipSpace rest with
      | ',' :: rest => (readItems fuel rest).map fun (items, after) => (item :: items, after)
      | ']' :: rest => some ([item], rest)
      | _ => none

/-- Reads the fields of an object up to its end. -/
def readFields : Nat → List Char → Option (List (Option String × Json) × List Char)
  | 0, _ => none
  | fuel + 1, text =>
    match skipSpace text with
    | '"' :: rest =>
      match readString (rest.length + 1) rest with
      | none => none
      | some (key, rest) =>
        match skipSpace rest with
        | ':' :: rest =>
          match readValue fuel rest with
          | none => none
          | some (value, rest) =>
            let field := (key.map String.ofList, value)
            match skipSpace rest with
            | ',' :: rest => (readFields fuel rest).map fun (fs, after) => (field :: fs, after)
            | '\x7d' :: rest => some ([field], rest)
            | _ => none
        | _ => none
    | _ => none

end

/-- The value that a text is, if it is one value with nothing but blanks around it. -/
def parse (text : String) : Option Json :=
  let chars := text.toList
  match readValue (2 * chars.length + 2) chars with
  | some (value, rest) => if (skipSpace rest).isEmpty then some value else none
  | none => none

end SchemaEvolution.Json
