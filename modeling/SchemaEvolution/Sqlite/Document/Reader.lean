import SchemaEvolution.Sqlite.Document

/-!
# Reading documents

A document is read from a text in JSON with more freedom than strict JSON has: comments, commas
before a closing bracket, names without quotes, strings in single quotes, hexadecimal numbers and
names of numbers that are none. Whether any of it was used is noted, and so is the place where
reading stopped.
-/

namespace SchemaEvolution.Sqlite.Document

/-- What is noted while a document is read: whether it is more than strict JSON, and how many
characters follow the place that was noted last. -/
structure Notes where
  isLoose : Bool
  left : Nat
  deriving DecidableEq, Repr

/-- A reader of a part of a document. -/
abbrev Reader (α : Type) : Type := StateM Notes α

/-- What is found at a place: a document, a bracket, comma or colon that belongs elsewhere, the end
of the text, or nothing that may stand there. -/
inductive Found where
  | document (d : Document) (rest : List Char)
  | mark (c : Char) (rest : List Char)
  | finish
  | wrong

/-- Notes that something is more than strict JSON. -/
def Reader.loosen : Reader Unit := modify fun notes => { notes with isLoose := true }

/-- Finds a mark, and notes its place. -/
def Reader.mark (c : Char) (rest : List Char) : Reader Found := do
  modify fun notes => { notes with left := rest.length + 1 }
  return .mark c rest

/-- Finds nothing that may stand at a place, and notes it. -/
def Reader.wrongAt (text : List Char) : Reader Found := do
  modify fun notes => { notes with left := text.length }
  return .wrong

/-! ## Blanks -/

/-- Whether a character is a blank of strict JSON. -/
def isSpace (c : Char) : Bool := c = ' ' || c = '\t' || c = '\n' || c = '\r'

/-- Whether a character is a blank. -/
def isBlank (c : Char) : Bool :=
  isSpace c || ['\x0b', '\x0c', '\u00a0', '\u1680', '\u2028', '\u2029', '\u202f', '\u205f',
    '\u3000', '\ufeff'].contains c || (0x2000 ≤ c.toNat && c.toNat ≤ 0x200A)

/-- What follows a comment, of which the last character that was read is given. -/
def afterComment? (last : Char) : List Char → Option (List Char)
  | [] => none
  | c :: rest => if c = '/' && last = '*' then some rest else afterComment? c rest

/-- A text without the blanks and comments at its start. -/
def skipBlanks : Nat → List Char → List Char
  | 0, text => text
  | fuel + 1, text =>
    match text with
    | '/' :: '*' :: c :: rest =>
      match afterComment? c rest with
      | some rest => skipBlanks fuel rest
      | none => text
    | '/' :: '/' :: rest =>
      skipBlanks fuel ((rest.dropWhile (!DocumentString.isLineBreak ·)).drop 1)
    | c :: rest => if isBlank c then skipBlanks fuel rest else text
    | [] => []

/-- A text without the blanks and comments at its start. -/
def trimBlanks (text : List Char) : List Char := skipBlanks text.length text

/-! ## Strings and names -/

/-- Whether a text starts with some hexadecimal digits. -/
def hasHexDigits (count : Nat) (text : List Char) : Bool :=
  (text.take count).length = count && (text.take count).all fun c => (Json.hexDigit c).isSome

/-- The style of a string with an escape, which starts after its backslash, and how many characters
the escape has at least. -/
def escapeStyle? (text : List Char) : Option (StringStyle × Nat) :=
  match text with
  | [] => none
  | c :: rest =>
    if "\"\\/bfnrt".toList.contains c || (c = 'u' && hasHexDigits 4 rest) then some (.escaped, 1)
    else if "'0v\n\u2028\u2029".toList.contains c || (c = 'x' && hasHexDigits 2 rest) then
      some (.loose, 1)
    else if c = '\r' then some (.loose, if rest.head? = some '\n' then 2 else 1)
    else none

/-- The style of a string in which something of a style is found. -/
def StringStyle.with (style new : StringStyle) : StringStyle :=
  match style, new with
  | .plain, new => new
  | .escaped, .loose => .loose
  | style, _ => style

/-- Reads a string up to the quote that ends it; `taken` is what was read of it, backwards. -/
def quoted (delimiter : Char) (style : StringStyle) (taken : List Char) :
    Nat → List Char → Reader Found
  | 0, text => Reader.wrongAt text
  | _, [] => Reader.wrongAt []
  | fuel + 1, c :: rest =>
    if c = delimiter then return .document (.string ⟨style, taken.reverse⟩) rest
    else if c = '\\' then
      match escapeStyle? rest with
      | some (new, count) => do
        if new = .loose then Reader.loosen
        quoted delimiter (StringStyle.with style new) ((rest.take count).reverse ++ '\\' :: taken)
          fuel (rest.drop count)
      | none => Reader.wrongAt rest
    else if c.toNat < 0x20 then do
      Reader.loosen
      quoted delimiter .loose (c :: taken) fuel rest
    else quoted delimiter (if c = '"' then .loose else style) (c :: taken) fuel rest

/-- Whether a character may start a name without quotes. -/
def startsName (c : Char) : Bool := c.isAlpha || c = '_' || c = '$' || 0x80 ≤ c.toNat

/-- Whether a name without quotes goes on with an escape. -/
def startsEscape : List Char → Bool
  | '\\' :: 'u' :: rest => hasHexDigits 4 rest
  | _ => false

/-- The characters of a name without quotes, and what follows. -/
def nameChars : List Char → List Char × List Char
  | [] => ([], [])
  | c :: rest =>
    if ((startsName c || c.isDigit) && !isBlank c) || startsEscape (c :: rest) then
      let (name, after) := nameChars rest
      (c :: name, after)
    else ([], c :: rest)

/-- A name without quotes. -/
def name? (text : List Char) : Option (DocumentString × List Char) :=
  match text with
  | [] => none
  | c :: rest =>
    if startsName c || startsEscape text then
      let (name, after) := nameChars rest
      let name := c :: name
      some (⟨if name.contains '\\' then .escaped else .plain, name⟩, after)
    else none

/-! ## Numbers and words -/

/-- A number that is being read: what was found of it, and what was read, backwards. -/
structure Digits where
  isOpen : Bool := false
  hasPoint : Bool := false
  hasPower : Bool := false
  taken : List Char
  deriving DecidableEq, Repr

/-- A number up to a place where digits may end: the point alone may stand before it, after a
digit. -/
def Digits.close? (d : Digits) : Option Digits :=
  match d.taken with
  | '.' :: c :: _ => if c.isDigit then some { d with isOpen := true } else none
  | c :: _ => if c.isDigit then some d else none
  | [] => none

/-- Reads on in a number, and fails at a place. -/
def Digits.read (d : Digits) : Nat → List Char → Except (List Char) (Digits × List Char)
  | 0, text => .error text
  | fuel + 1, text =>
    let stop : Except (List Char) (Digits × List Char) :=
      match d.close? with
      | some d => .ok (d, text)
      | none => .error text
    match text with
    | [] => stop
    | c :: rest =>
      if c.isDigit then Digits.read { d with taken := c :: d.taken } fuel rest
      else if c = '.' then
        if d.hasPoint || d.hasPower then .error text
        else Digits.read { d with hasPoint := true, taken := c :: d.taken } fuel rest
      else if c = 'e' || c = 'E' then
        match d.close? with
        | none => .error text
        | some d =>
          if d.hasPower then .error text
          else
            let (sign, at', after) : List Char × List Char × List Char := match rest with
              | s :: after => if s = '+' || s = '-' then ([s], rest, after) else ([], text, rest)
              | [] => ([], text, [])
            match after with
            | digit :: after =>
              if digit.isDigit then
                Digits.read { d with hasPower := true, taken := digit :: sign ++ c :: d.taken }
                  fuel after
              else .error at'
            | [] => .error at'
      else stop

/-- Whether a text starts with a word in any case. -/
def startsWith (word : String) (text : List Char) : Bool :=
  (text.take word.length).map Char.toLower == word.toList

/-- Finds the number that was read between two places. -/
def foundNumber (style : NumberStyle) (written rest : List Char) : Reader Found := do
  if style = .hexadecimal || style = .openDecimal then Reader.loosen
  return .document (.number style written) rest

/-- Reads the digits of a number of which the first character is given. -/
def digits (sign : List Char) (start : Digits) (rest : List Char) : Reader Found := do
  match start.read (rest.length + 1) rest with
  | .error place => Reader.wrongAt place
  | .ok (d, rest) =>
    let style : NumberStyle :=
      if d.hasPoint || d.hasPower then if d.isOpen then .openDecimal else .decimal else .integer
    foundNumber style (sign ++ d.taken.reverse) rest

/-- Reads a number after its sign, if it has one. -/
def unsigned (sign : List Char) (text : List Char) : Reader Found :=
  match text with
  | '0' :: rest =>
    match rest with
    | x :: after =>
      if (x = 'x' || x = 'X') && hasHexDigits 1 after then
        let isDigit (c : Char) : Bool := (Json.hexDigit c).isSome
        foundNumber .hexadecimal (sign ++ '0' :: x :: after.takeWhile isDigit)
          (after.dropWhile isDigit)
      else if x.isDigit then Reader.wrongAt (if sign.isEmpty then rest else text)
      else digits sign { taken := ['0'] } rest
    | [] => digits sign { taken := ['0'] } rest
  | c :: rest => digits sign { taken := [c] } rest
  | [] => Reader.wrongAt []

/-- Reads a number that starts with a sign; one that is infinite has a name. -/
def signed (sign : Char) (text rest : List Char) : Reader Found := do
  let kept := if sign = '-' then ['-'] else []
  if sign = '+' then Reader.loosen
  match rest with
  | c :: after =>
    if c.isDigit then unsigned kept rest
    else if startsWith "inf" rest then
      Reader.loosen
      return .document (.number .decimal (kept ++ "9e999".toList))
        (rest.drop (if startsWith "infinity" rest then 8 else 3))
    else if c = '.' then
      Reader.loosen
      match (Digits.read { isOpen := true, hasPoint := true, taken := ['.', sign] }
          (after.length + 1) after) with
      | .error place => Reader.wrongAt place
      | .ok (d, rest) =>
        foundNumber .openDecimal (kept ++ d.taken.reverse.drop 1) rest
    else Reader.wrongAt text
  | [] => Reader.wrongAt text

/-- The documents that are words of strict JSON. -/
def words : List (String × Document) :=
  [("true", .truth true), ("false", .truth false), ("null", .null)]

/-- The documents that are words beyond strict JSON, in any case. -/
def looseWords : List (String × Document) :=
  let infinite : Document := .number .decimal "9e999".toList
  [("inf", infinite), ("infinity", infinite), ("nan", .null), ("qnan", .null), ("snan", .null)]

/-- Whether a word ends before a text. -/
def endsWord (rest : List Char) : Bool := !rest.head?.any Char.isAlphanum

/-- Reads a document that is a word. -/
def word (text : List Char) : Reader Found := do
  let strict := words.find? fun w =>
    w.1.toList.isPrefixOf text && endsWord (text.drop w.1.length)
  match strict with
  | some (w, d) => return .document d (text.drop w.length)
  | none =>
    let loose := looseWords.find? fun w =>
      startsWith w.1 text && endsWord (text.drop w.1.length)
    match loose with
    | some (w, d) => do
      Reader.loosen
      return .document d (text.drop w.length)
    | none => Reader.wrongAt text

/-! ## Arrays and objects -/

/-- How deep a document may be. -/
def deepest : Nat := 1000

/-- Finds nothing where something else was found that does not belong there. -/
def wrongHere (found : Found) (text : List Char) : Reader Found :=
  match found with
  | .wrong => return .wrong
  | _ => Reader.wrongAt text

mutual

/-- Finds what is at a place, after blanks. -/
def find : Nat → Nat → List Char → Reader Found
  | 0, _, text => Reader.wrongAt text
  | fuel + 1, depth, text =>
    match text with
    | [] => return .finish
    | c :: rest =>
      if c = '\x7b' then
        if depth = deepest then Reader.wrongAt text else fields fuel (depth + 1) [] rest
      else if c = '[' then
        if depth = deepest then Reader.wrongAt text else items fuel (depth + 1) [] rest
      else if c = '"' then quoted c .plain [] (rest.length + 1) rest
      else if c = '\x27' then do
        Reader.loosen
        quoted c .plain [] (rest.length + 1) rest
      else if c = '+' || c = '-' then signed c text rest
      else if c = '.' then
        if rest.head?.any Char.isDigit then
          digits [] { isOpen := true, hasPoint := true, taken := ['.'] } rest
        else Reader.wrongAt text
      else if c.isDigit then unsigned [] text
      else if ['\x7d', ']', ',', ':'].contains c then Reader.mark c rest
      else if isSpace c then find fuel depth rest
      else
        let after := trimBlanks text
        if after.length < text.length then do
          Reader.loosen
          find fuel depth after
        else word text

/-- Reads the items of an array, of which some were read already, backwards. -/
def items : Nat → Nat → List Document → List Char → Reader Found
  | 0, _, _, text => Reader.wrongAt text
  | fuel + 1, depth, taken, text => do
    match ← find fuel depth text with
    | .document d rest =>
      match ← separator fuel depth ']' rest with
      | .mark ',' rest => items fuel depth (d :: taken) rest
      | .mark _ rest => return .document (.array (d :: taken).reverse) rest
      | found => return found
    | .mark ']' rest =>
      if !taken.isEmpty then Reader.loosen
      return .document (.array taken.reverse) rest
    | found => wrongHere found text

/-- Reads the fields of an object, of which some were read already, backwards. -/
def fields : Nat → Nat → List (DocumentString × Document) → List Char → Reader Found
  | 0, _, _, text => Reader.wrongAt text
  | fuel + 1, depth, taken, text => do
    match ← find fuel depth text with
    | .document (.string name) rest => field fuel depth taken name rest
    | .document _ _ => Reader.wrongAt text
    | .mark '\x7d' rest =>
      if !taken.isEmpty then Reader.loosen
      return .document (.object taken.reverse) rest
    | found =>
      let start := trimBlanks text
      match name? start with
      | some (name, rest) =>
        Reader.loosen
        field fuel depth taken name rest
      | none => wrongHere found start

/-- Reads a field after its name, and the fields after it. -/
def field : Nat → Nat → List (DocumentString × Document) → DocumentString → List Char →
    Reader Found
  | 0, _, _, _, text => Reader.wrongAt text
  | fuel + 1, depth, taken, name, text => do
    let colon ← match text.dropWhile isSpace with
      | ':' :: rest => pure (Found.mark ':' rest)
      | text =>
        match ← find fuel depth text with
        | .mark ':' rest => pure (Found.mark ':' rest)
        | found => wrongHere found text
    match colon with
    | .mark _ text =>
      match ← find fuel depth text with
      | .document d rest =>
        match ← separator fuel depth '\x7d' rest with
        | .mark ',' rest => fields fuel depth ((name, d) :: taken) rest
        | .mark _ rest => return .document (.object ((name, d) :: taken).reverse) rest
        | found => return found
      | found => wrongHere found text
    | found => return found

/-- Reads a comma or a closing bracket. -/
def separator : Nat → Nat → Char → List Char → Reader Found
  | 0, _, _, text => Reader.wrongAt text
  | fuel + 1, depth, closing, text => do
    let text := text.dropWhile isSpace
    match text with
    | c :: rest =>
      if c = ',' || c = closing then return .mark c rest
      else
        match ← find fuel depth text with
        | .mark c rest =>
          if c = ',' || c = closing then return .mark c rest else Reader.wrongAt text
        | _ => Reader.wrongAt text
    | [] => Reader.wrongAt text

end

/-! ## The whole text -/

/-- What was read from a text: the document if the text is one, whether it is more than strict
JSON, and else the place of the character where it goes wrong, counted from one. -/
structure Reading where
  document? : Option Document
  isLoose : Bool
  place : Nat

/-- Reads a text as a document. -/
def read (text : List Char) : Reading :=
  let (found, notes) := find (4 * text.length + 4) 0 text ⟨false, text.length⟩
  let place := text.length - notes.left + 1
  match found with
  | .document d rest =>
    let rest := rest.dropWhile isSpace
    if rest.isEmpty then ⟨some d, notes.isLoose, place⟩
    else if (trimBlanks rest).isEmpty then ⟨some d, true, place⟩
    else ⟨none, notes.isLoose, place⟩
  | _ => ⟨none, notes.isLoose, place⟩

/-- The document that a text is, if it is one. -/
def parse? (text : List Char) : Option Document := (read text).document?

end SchemaEvolution.Sqlite.Document
