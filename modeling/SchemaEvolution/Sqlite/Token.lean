import SchemaEvolution.Text.Quoted

/-!
# Tokens of SQLite statements

A statement is cut into words, names between quotes, literals, placeholders and symbols; blanks and
comments stand between them. A character that starts no token ends the scan, and a statement ends
at the character zero.
-/

namespace SchemaEvolution.Sqlite

/-- A token as it is written; quoted ones also with what they stand for. -/
inductive Token where
  | word (text : String)
  | name (written text : String)
  | literal (written text : String)
  | bytes (written : String)
  | number (written : String)
  | placeholder (written : String)
  | symbol (text : String)
  | unrecognized (written : String)
  deriving DecidableEq, Repr

namespace Token

/-- A token as it is written. -/
def written : Token → String
  | .word text | .symbol text => text
  | .name written _ | .literal written _ => written
  | .bytes written | .number written | .placeholder written | .unrecognized written => written

/-- Whether a token is a keyword, in any case. -/
def isKeyword (token : Token) (keyword : String) : Bool :=
  match token with
  | .word text => text.toUpper == keyword
  | _ => false

/-- Whether a character continues a word. -/
def isWordChar (c : Char) : Bool := c.isAlphanum || c = '_' || c = '$' || 0x7F < c.toNat

/-- Whether a character starts a word. -/
def isWordStart (c : Char) : Bool := c.isAlpha || c = '_' || 0x7F < c.toNat

/-- Whether a character is a hexadecimal digit. -/
def isHexDigit (c : Char) : Bool :=
  c.isDigit || ('a' ≤ c && c ≤ 'f') || ('A' ≤ c && c ≤ 'F')

/-- Whether a character stands between tokens. -/
def isBlank (c : Char) : Bool :=
  c = ' ' || c = '\t' || c = '\n' || c = '\r' || c.toNat = 0x0C || c.toNat = 0xFEFF

/-- A text after the comment that it starts inside. -/
def skipComment : List Char → List Char
  | '*' :: '/' :: rest => rest
  | _ :: rest => skipComment rest
  | [] => []

/-- A text without the blanks and comments at its start. -/
def skipBlanks : Nat → List Char → List Char
  | 0, text => text
  | fuel + 1, text =>
    match text.dropWhile isBlank with
    | '-' :: '-' :: rest => skipBlanks fuel (rest.dropWhile (· ≠ '\n'))
    | '/' :: '*' :: c :: rest => skipBlanks fuel (skipComment (c :: rest))
    | rest => rest

/-- The token of the first `n` characters of a text, and what follows it. -/
def taking (make : String → Token) (n : Nat) (text : List Char) : Token × List Char :=
  (make (String.ofList (text.take n)), text.drop n)

/-- A token between quotes of which the first has been read; it may not end. -/
def quoted (make : String → String → Token) (opening closing : Char) (body : List Char) :
    Token × List Char :=
  match Text.scanQuoted closing body with
  | some (text, rest) =>
    let written := String.ofList (opening :: body.take (body.length - rest.length))
    (make written (String.ofList text), rest)
  | none => (.unrecognized (String.ofList (opening :: body)), [])

/-- A name in square brackets of which the first has been read. -/
def bracketed (body : List Char) : Token × List Char :=
  match body.dropWhile (· ≠ ']') with
  | _ :: rest =>
    let text := String.ofList (body.takeWhile (· ≠ ']'))
    (.name ("[" ++ text ++ "]") text, rest)
  | [] => (.unrecognized (String.ofList ('[' :: body)), [])

/-- How many characters at the start of a text are digits, or marks between digits. -/
def digitCount (text : List Char) : Nat := (text.takeWhile fun c => c.isDigit || c = '_').length

/-- How many characters at the start of a text are a power of ten after its mark. -/
def powerLength : List Char → Nat
  | mark :: rest =>
    if mark = 'e' || mark = 'E' then
      match rest with
      | sign :: c :: more =>
        if (sign = '+' || sign = '-') && c.isDigit then 2 + digitCount (c :: more)
        else if sign.isDigit then 1 + digitCount rest
        else 0
      | [c] => if c.isDigit then 2 else 0
      | [] => 0
    else 0
  | [] => 0

/-- How many characters at the start of a text are a number. -/
def numberLength (text : List Char) : Nat :=
  let decimal :=
    let whole := digitCount text
    let places := match text.drop whole with
      | '.' :: after => 1 + digitCount after
      | _ => 0
    whole + places + powerLength (text.drop (whole + places))
  match text with
  | '0' :: x :: c :: rest =>
    if (x = 'x' || x = 'X') && isHexDigit c then
      2 + ((c :: rest).takeWhile fun c => isHexDigit c || c = '_').length
    else decimal
  | _ => decimal

/-- A number; one that runs into a word is no token. -/
def scanNumber (text : List Char) : Token × List Char :=
  let n := numberLength text
  match ((text.drop n).takeWhile isWordChar).length with
  | 0 => taking .number n text
  | extra => taking .unrecognized (n + extra) text

/-- A run of bytes, of which the opening has been read; each byte has two hexadecimal digits. -/
def scanBytes (x : Char) (body : List Char) : Token × List Char :=
  let digits := (body.takeWhile isHexDigit).length
  let text := x :: '\x27' :: body
  if (body.drop digits).head? = some '\x27' && digits % 2 = 0 then taking .bytes (digits + 3) text
  else taking .unrecognized ((body.takeWhile (· ≠ '\x27')).length + 3) text

/-- A named placeholder, of which the mark has been read. -/
def scanNamed (mark : Char) (body : List Char) : Token × List Char :=
  match (body.takeWhile isWordChar).length with
  | 0 => (.unrecognized mark.toString, body)
  | n => taking .placeholder (n + 1) (mark :: body)

/-- The symbols of more than one character, the longest first. -/
def longSymbols : List String := ["->>", "->", "==", "<=", "<>", "<<", ">=", ">>", "!=", "||"]

/-- The symbols of one character. -/
def shortSymbols : List Char :=
  ['(', ')', ';', '+', '*', '/', '%', '=', '<', '>', '|', ',', '&', '~', '-', '.']

/-- A symbol at the start of a text. -/
def scanSymbol (c : Char) (rest : List Char) : Token × List Char :=
  match longSymbols.find? fun s => s.toList.isPrefixOf (c :: rest) with
  | some s => (.symbol s, (c :: rest).drop s.length)
  | none =>
    if shortSymbols.contains c then (.symbol c.toString, rest) else (.unrecognized c.toString, rest)

/-- The token at the start of a text and what follows it. -/
def next (c : Char) (rest : List Char) : Token × List Char :=
  match c, rest with
  | '"', _ => quoted .name '"' '"' rest
  | '\x60', _ => quoted .name '\x60' '\x60' rest
  | '\x27', _ => quoted .literal '\x27' '\x27' rest
  | '[', _ => bracketed rest
  | '?', _ => taking .placeholder (1 + (rest.takeWhile Char.isDigit).length) (c :: rest)
  | 'x', '\x27' :: body => scanBytes c body
  | 'X', '\x27' :: body => scanBytes c body
  | '.', d :: _ => if d.isDigit then scanNumber (c :: rest) else scanSymbol c rest
  | _, _ =>
    if c.isDigit then scanNumber (c :: rest)
    else if isWordStart c then taking .word ((c :: rest).takeWhile isWordChar).length (c :: rest)
    else if c = '$' || c = '@' || c = ':' || c = '#' then scanNamed c rest
    else scanSymbol c rest

end Token

/-- A token and the text of its statement from the token on. -/
structure Lexeme where
  token : Token
  source : List Char
  deriving DecidableEq, Repr

namespace Lexeme

/-- The tokens of a text, up to the first that is not recognized. -/
def scan : Nat → List Char → List Lexeme
  | 0, _ => []
  | fuel + 1, text =>
    match Token.skipBlanks (text.length + 1) text with
    | [] => []
    | c :: rest =>
      match Token.next c rest with
      | (.unrecognized written, _) => [⟨.unrecognized written, c :: rest⟩]
      | (token, after) => ⟨token, c :: rest⟩ :: scan fuel after

/-- The tokens of some statements, which end at the character zero. -/
def ofStatements (sql : String) : List Lexeme :=
  let text := sql.toList.takeWhile (· ≠ '\x00')
  scan (text.length + 1) text

/-- The text from the first of some tokens to the first of those that follow. -/
def between (start rest : List Char) : List Char := start.take (start.length - rest.length)

end Lexeme

end SchemaEvolution.Sqlite
