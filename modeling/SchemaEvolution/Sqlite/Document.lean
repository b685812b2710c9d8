import SchemaEvolution.Json.Parser
import SchemaEvolution.Sqlite.Conversion

/-!
# Documents

A JSON document as the store keeps it. Numbers and strings keep the way they are written, with a
note of how they have to be read, so that a document is written again as it was as far as strict
JSON allows it.
-/

namespace SchemaEvolution.Sqlite

/-- How a number of a document is written: with digits, in hexadecimal, with a point or a power of
ten, or with a point that lacks digits on one side. -/
inductive NumberStyle where
  | integer
  | hexadecimal
  | decimal
  | openDecimal
  deriving DecidableEq, Repr

/-- How a string of a document is written: as it is, with the escapes of strict JSON, with more
escapes than those, or as a text of which nothing is escaped yet. -/
inductive StringStyle where
  | plain
  | escaped
  | loose
  | raw
  deriving DecidableEq, Repr

/-- A string of a document as it is written, without its quotes. -/
structure DocumentString where
  style : StringStyle
  written : List Char
  deriving DecidableEq, Repr

/-- A document. An object keeps its fields in their order, and may have two of one name. -/
inductive Document where
  | null
  | truth (b : Bool)
  | number (style : NumberStyle) (written : List Char)
  | string (s : DocumentString)
  | array (items : List Document)
  | object (fields : List (DocumentString × Document))
  deriving Repr

/-! ## Strings -/

namespace DocumentString

/-- A control character as an escape. -/
def controlText (c : Char) : List Char :=
  match c with
  | '\x08' => ['\\', 'b']
  | '\x09' => ['\\', 't']
  | '\x0a' => ['\\', 'n']
  | '\x0c' => ['\\', 'f']
  | '\x0d' => ['\\', 'r']
  | c => "\\u00".toList ++ Number.hexByte (UInt8.ofNat c.toNat) |>.map Char.toLower

/-- A character of a text inside quotes. -/
def charText (c : Char) : List Char :=
  if c = '"' || c = '\\' then ['\\', c]
  else if c.toNat < 0x20 then controlText c
  else [c]

/-- Whether a character after a backslash does nothing but continue a line. -/
def isLineBreak (c : Char) : Bool := c = '\n' || c = '\r' || c = '\u2028' || c = '\u2029'

/-- The end of a line break whose first character was `c`. -/
def afterLineBreak (c : Char) (rest : List Char) : List Char :=
  match c, rest with
  | '\r', '\n' :: rest => rest
  | _, rest => rest

/-- A string with more escapes than strict JSON has, in strict JSON. -/
def strictText : Nat → List Char → List Char
  | 0, _ => []
  | _, [] => []
  | fuel + 1, '\\' :: c :: rest =>
    if c = '\x27' then '\x27' :: strictText fuel rest
    else if c = 'v' then "\\u0009".toList ++ strictText fuel rest
    else if c = '0' then "\\u0000".toList ++ strictText fuel rest
    else if c = 'x' then
      "\\u00".toList ++ rest.take 2 ++ strictText fuel (rest.drop 2)
    else if isLineBreak c then strictText fuel (afterLineBreak c rest)
    else '\\' :: c :: strictText fuel rest
  | fuel + 1, c :: rest =>
    (if c = '"' || c.toNat < 0x20 then charText c else [c]) ++ strictText fuel rest

/-- A string in quotes, in strict JSON. -/
def text (s : DocumentString) : List Char :=
  let inner := match s.style with
    | .plain | .escaped => s.written
    | .loose => strictText s.written.length s.written
    | .raw => s.written.flatMap charText
  '"' :: inner ++ ['"']

/-- The code of an escape that there is none of. -/
def noCode : Nat := 0x99999

/-- The code point that an escape stands for, and what follows it; the escape starts after its
backslash. -/
def escapeCode : List Char → Nat × List Char
  | 'u' :: rest =>
    match Json.readUnit rest with
    | none => (noCode, [])
    | some (high, rest) =>
      let low := match rest with
        | '\\' :: 'u' :: after => Json.readUnit after
        | _ => none
      match low with
      | some (low, after) =>
        if high / 0x400 = 0x36 && low / 0x400 = 0x37 then
          (0x10000 + (high % 0x400) * 0x400 + low % 0x400, after)
        else (high, rest)
      | none => (high, rest)
  | 'x' :: a :: b :: rest =>
    (16 * (Json.hexDigit a).getD 0 + (Json.hexDigit b).getD 0, rest)
  | 'b' :: rest => (8, rest)
  | 'f' :: rest => (12, rest)
  | 'n' :: rest => (10, rest)
  | 'r' :: rest => (13, rest)
  | 't' :: rest => (9, rest)
  | 'v' :: rest => (11, rest)
  | '0' :: rest => (0, rest)
  | c :: rest =>
    (if ['\x27', '"', '/', '\\'].contains c then c.toNat else noCode, rest)
  | [] => (noCode, [])

/-- The code points of a string with escapes. A line break after a backslash is left out, but at
the end of the string it is the code point zero. -/
def codesOf : Nat → List Char → List Nat
  | 0, _ => []
  | _, [] => []
  | fuel + 1, '\\' :: rest =>
    match rest with
    | c :: after =>
      if isLineBreak c then
        let after := afterLineBreak c after
        if after.isEmpty then [0] else codesOf fuel after
      else
        let (code, after) := escapeCode rest
        code :: codesOf fuel after
    | [] => [noCode]
  | fuel + 1, c :: rest => c.toNat :: codesOf fuel rest

/-- Whether nothing in a string is an escape. -/
def isLiteral (s : DocumentString) : Bool := s.style = .plain || s.style = .raw

/-- The code points of a string. -/
def codes (s : DocumentString) : List Nat :=
  if s.isLiteral then s.written.map Char.toNat else codesOf s.written.length s.written

/-- Whether two strings name the same field. With an escape in one of them they are compared up to
the code point zero. -/
def same (s t : DocumentString) : Bool :=
  if s.isLiteral && t.isLiteral then s.written == t.written
  else s.codes.takeWhile (· ≠ 0) == t.codes.takeWhile (· ≠ 0)

/-- The characters of a code point; half of a pair is no character. -/
def charsOfCode (code : Nat) : List Char :=
  if code = noCode then []
  else if 0xD800 ≤ code && code < 0xE000 then List.replicate 3 '\uFFFD'
  else [Char.ofNat code]

/-- The text that a string stands for. -/
def content (s : DocumentString) : String :=
  if s.isLiteral then String.ofList s.written else String.ofList (s.codes.flatMap charsOfCode)

end DocumentString

/-! ## Numbers -/

namespace NumberStyle

/-- The sign of a hexadecimal number and its digits. -/
def hexParts : List Char → List Char × List Char
  | '-' :: rest => (['-'], rest.drop 2)
  | text => ([], text.drop 2)

/-- The value of hexadecimal digits. -/
def hexValue (digits : List Char) : Nat :=
  digits.foldl (fun n c => 16 * n + (Json.hexDigit c).getD 0) 0

/-- A hexadecimal number in strict JSON; what does not fit in 64 bits is too large for a double. -/
def hexText (written : List Char) : List Char :=
  let (sign, digits) := hexParts written
  let digits := digits.dropWhile (· = '0')
  sign ++ if 16 < digits.length then "9.0e999".toList else Nat.toDigits 10 (hexValue digits)

/-- A number after its sign, with a zero on each side of the point that lacks digits. -/
def closedText : List Char → List Char
  | [] => []
  | '.' :: rest =>
    match rest with
    | c :: _ => if c.isDigit then '.' :: closedText rest else '.' :: '0' :: closedText rest
    | [] => ['.', '0']
  | c :: rest => c :: closedText rest

/-- A number in strict JSON. -/
def text (style : NumberStyle) (written : List Char) : List Char :=
  match style with
  | .integer | .decimal => written
  | .hexadecimal => hexText written
  | .openDecimal =>
    let (sign, digits) := match written with
      | '-' :: rest => (['-'], rest)
      | rest => ([], rest)
    sign ++ (if digits.head? = some '.' then ['0'] else []) ++ closedText digits

/-- The value of a number, if it has one: an integer that does not fit is a double, and a
hexadecimal number has to fit. -/
def value? (style : NumberStyle) (written : List Char) : Option Value :=
  match style with
  | .integer =>
    let n := integerOfText written
    some (if n.fits then .ofInt n.value else .ofReal (realOfText written).1)
  | .hexadecimal =>
    let (sign, digits) := hexParts written
    let digits := digits.dropWhile (· = '0')
    let value := Int64.ofNat (hexValue digits)
    if 16 < digits.length then none else some (.int (if sign.isEmpty then value else -value))
  | .decimal | .openDecimal => some (.ofReal (realOfText written).1)

end NumberStyle

/-! ## Documents -/

namespace Document

/-- A text as a document. -/
def ofText (s : String) : Document := .string ⟨.raw, s.toList⟩

/-- What a document is in a word. -/
def kind : Document → String
  | .null => "null"
  | .truth b => if b then "true" else "false"
  | .number style _ => if style = .integer || style = .hexadecimal then "integer" else "real"
  | .string _ => "text"
  | .array _ => "array"
  | .object _ => "object"

/-- Whether a document is made of others. -/
def isCompound : Document → Bool
  | .array _ | .object _ => true
  | _ => false

mutual

/-- A document in strict JSON. -/
def text : Document → List Char
  | .null => "null".toList
  | .truth b => (if b then "true" else "false").toList
  | .number style written => style.text written
  | .string s => s.text
  | .array items => '[' :: [','].intercalate (itemTexts items) ++ [']']
  | .object fields => '\x7b' :: [','].intercalate (fieldTexts fields) ++ ['\x7d']

/-- Some documents in strict JSON. -/
def itemTexts : List Document → List (List Char)
  | [] => []
  | d :: rest => text d :: itemTexts rest

/-- Some fields in strict JSON. -/
def fieldTexts : List (DocumentString × Document) → List (List Char)
  | [] => []
  | (name, d) :: rest => (name.text ++ ':' :: text d) :: fieldTexts rest

end

mutual

/-- A document over several lines, where `margin` starts each line and each level adds an
indent. -/
def lines (indent margin : List Char) : Document → List Char
  | .null => "null".toList
  | .truth b => (if b then "true" else "false").toList
  | .number style written => style.text written
  | .string s => s.text
  | .array [] => ['[', ']']
  | .array items =>
    "[\n".toList ++ [',', '\n'].intercalate (itemLines indent (margin ++ indent) items) ++
      '\n' :: margin ++ [']']
  | .object [] => ['\x7b', '\x7d']
  | .object fields =>
    '\x7b' :: '\n' :: [',', '\n'].intercalate (fieldLines indent (margin ++ indent) fields) ++
      '\n' :: margin ++ ['\x7d']

/-- Some documents on lines of their own. -/
def itemLines (indent margin : List Char) : List Document → List (List Char)
  | [] => []
  | d :: rest => (margin ++ lines indent margin d) :: itemLines indent margin rest

/-- Some fields on lines of their own. -/
def fieldLines (indent margin : List Char) :
    List (DocumentString × Document) → List (List Char)
  | [] => []
  | (name, d) :: rest =>
    (margin ++ name.text ++ ':' :: ' ' :: lines indent margin d) :: fieldLines indent margin rest

end

/-- The value of a document that is made of no others, if it has one. -/
def value? : Document → Option Value
  | .null => some .null
  | .truth b => some (.ofBool b)
  | .number style written => style.value? written
  | .string s => some (.text s.content)
  | d => some (.text (String.ofList d.text))

end Document

end SchemaEvolution.Sqlite
