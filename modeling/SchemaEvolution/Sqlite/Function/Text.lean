import SchemaEvolution.Json.Parser
import SchemaEvolution.Sqlite.Function
import SchemaEvolution.Sqlite.Pattern

/-!
# Functions of texts

Lengths, parts, cases, patterns, codes and quoting. Where a text is read character by character it
ends at the character zero.
-/

namespace SchemaEvolution.Sqlite.Function

/-- A text up to the character zero. -/
def untilNul (text : List Char) : List Char := text.takeWhile (· ≠ '\x00')

/-- A value as the characters of its text up to the character zero. -/
def chars (v : Value) : List Char := untilNul v.asText.toList

/-- A value of some characters. -/
def ofChars (text : List Char) : Value := .text (String.ofList text)

/-- The last 32 bits of an integer, with their sign. -/
def toInt32 (n : Int) : Int := Int.bmod n 4294967296

/-- Applies a function to a value that is not null. -/
def unlessNull (f : Value → Value) : List Value → Value
  | [.null] => .null
  | [v] => f v
  | _ => .null

/-! ## Lengths and parts -/

/-- How many characters a text has, or bytes a run of bytes. -/
def lengthOf : Value → Value
  | .text s => .ofInt (untilNul s.toList).length
  | v => .ofInt v.asBytes.length

/-- A part of a list from a place that counts from one, or from the end if it is negative; a
negative count takes what stands before. -/
def slice {α : Type} (items : List α) (start : Int) (count : Option Int) : List α :=
  let negative := count.any (· < 0)
  let given := match count with
    | some n => (n.natAbs : Int)
    | none => 1000000000
  let (start, left) : Int × Int :=
    if start < 0 then
      let fromStart := start + items.length
      if fromStart < 0 then (0, max 0 (given + fromStart)) else (fromStart, given)
    else if 0 < start then (start - 1, given)
    else (0, if 0 < given then given - 1 else given)
  let (start, left) : Int × Int :=
    if negative then
      let before := start - left
      if before < 0 then (0, left + before) else (before, left)
    else (start, left)
  (items.drop start.toNat).take left.toNat

/-- A part of a text or of a run of bytes. -/
def part (v start : Value) (count : Option Value) : Value :=
  if v.isNull || start.isNull || count.any (·.isNull) then .null
  else
    let start := toInt32 start.asInteger
    let count := count.map fun n => toInt32 n.asInteger
    match v with
    | .blob [] => .null
    | .blob bytes => .blob (slice bytes start count)
    | v => ofChars (slice (chars v) start count)

/-- The first place of a list in another one, counted from one, or zero. -/
def place {α : Type} [BEq α] (needle : List α) : Nat → List α → Nat
  | n, [] => if needle.isEmpty then n else 0
  | n, a :: rest => if needle.isPrefixOf (a :: rest) then n else place needle (n + 1) rest

/-- The place of one value in another one. -/
def placeOf (v w : Value) : Value :=
  if v.isNull || w.isNull then .null
  else
    match v, w with
    | .blob a, .blob b => .ofInt (place b 1 a)
    | v, w => .ofInt (place w.asText.toList 1 v.asText.toList)

/-- A list with every copy of another one replaced. -/
def replaceAll {α : Type} [BEq α] (old new : List α) : Nat → List α → List α
  | 0, text => text
  | _ + 1, [] => []
  | fuel + 1, a :: rest =>
    if old.isPrefixOf (a :: rest) then
      new ++ replaceAll old new fuel ((a :: rest).drop old.length)
    else a :: replaceAll old new fuel rest

/-- A text with every copy of another one replaced. -/
def replaced (v old new : Value) : Value :=
  if v.isNull || old.isNull then .null
  else
    let text := v.asText.toList
    let pattern := old.asText.toList
    if (untilNul pattern).isEmpty then ofChars text
    else if new.isNull then .null
    else ofChars (replaceAll pattern new.asText.toList (text.length + 1) text)

/-- A text without some characters at its start. -/
def dropChars (set : List Char) (text : List Char) : List Char := text.dropWhile set.contains

/-- A text without some characters at its end. -/
def dropCharsAtEnd (set : List Char) (text : List Char) : List Char :=
  (dropChars set text.reverse).reverse

/-- A function that takes some characters off a text. -/
def trimming (name : String) (f : List Char → List Char → List Char) : Function :=
  pure name (within 1 2) fun
    | [v] => if v.isNull then .null else ofChars (f [' '] v.asText.toList)
    | [v, set] =>
      if v.isNull || set.isNull then .null else ofChars (f (chars set) v.asText.toList)
    | _ => .null

/-- Texts in a row, with a text between those that are not empty. -/
def joined (separator : String) (values : List Value) : Value :=
  .text (separator.intercalate ((values.map Value.asText).filter (!·.isEmpty)))

/-! ## Codes -/

/-- The hexadecimal digits of some bytes. -/
def hexText (bytes : List UInt8) : Value := ofChars (bytes.flatMap Number.hexByte)

/-- The bytes of hexadecimal digits, between which some characters may stand. -/
def unhexed (allowed : List Char) : List Char → Option (List UInt8)
  | [] => some []
  | c :: rest =>
    match Json.hexDigit c with
    | some high =>
      match rest with
      | d :: rest' =>
        match Json.hexDigit d with
        | some low => (unhexed allowed rest').map (UInt8.ofNat (16 * high + low) :: ·)
        | none => none
      | [] => none
    | none => if allowed.contains c then unhexed allowed rest else none

/-- The bytes of hexadecimal digits as a value, if they are ones. -/
def unhexedValue (allowed : List Char) (v : Value) : Value :=
  match unhexed allowed (chars v) with
  | some bytes => .blob bytes
  | none => .null

/-- The character of a code point; what is none becomes the replacement character. -/
def charOf (n : Int) : Char :=
  if n < 0 || 0x10FFFF < n then '\uFFFD'
  else if 0xD800 ≤ n && n ≤ 0xDFFF then '\uFFFD'
  else Char.ofNat n.toNat

/-- The code of a letter among those that sound alike. -/
def soundOf (c : Char) : Nat :=
  if "BFPV".toList.contains c.toUpper then 1
  else if "CGJKQSXZ".toList.contains c.toUpper then 2
  else if "DT".toList.contains c.toUpper then 3
  else if c.toUpper = 'L' then 4
  else if "MN".toList.contains c.toUpper then 5
  else if c.toUpper = 'R' then 6
  else 0

/-- The digits of the sounds after one, at most `n`; a sound again in a row counts once. -/
def sounds (before : Nat) : Nat → List Char → List Char
  | 0, _ => []
  | _, [] => []
  | n + 1, c :: rest =>
    let sound := soundOf c
    if sound = 0 then sounds 0 (n + 1) rest
    else if sound = before then sounds before (n + 1) rest
    else Char.ofNat (48 + sound) :: sounds sound n rest

/-- A word as it sounds: its first letter and three digits. -/
def soundex (v : Value) : Value :=
  match (chars v).dropWhile (!·.isAlpha) with
  | [] => .text "?000"
  | c :: rest =>
    let digits := sounds (soundOf c) 3 rest
    ofChars (c.toUpper :: digits ++ List.replicate (3 - digits.length) '0')

/-! ## Quoting -/

/-- How a double is quoted if that reads back. -/
def quoteFormat : RealFormat := { style := .shorter, precision := 15, long := true }

/-- How a double is quoted otherwise. -/
def longQuoteFormat : RealFormat := { style := .power, precision := 20, long := true }

/-- A double as a literal. -/
def quotedReal (x : Binary64) : String :=
  if x.isInfinite then if x.negative then "-9.0e+999" else "9.0e+999"
  else
    let short := quoteFormat.finiteText x
    if (realOfText short).1.same x then String.ofList short
    else String.ofList (longQuoteFormat.finiteText x)

/-- A value as a literal. -/
def quoted : Value → String
  | .null => "NULL"
  | .bool b => if b then "1" else "0"
  | .int n => toString n.toInt
  | .float x => quotedReal x
  | .text s => Text.quote '\x27' '\x27' (String.ofList (untilNul s.toList))
  | .blob bytes => "X'" ++ String.ofList (bytes.flatMap Number.hexByte) ++ "'"

/-! ## Patterns -/

/-- Whether a text is like a pattern, given a style. -/
def matching (s : PatternStyle) (pattern text : Value) : Value :=
  if pattern.isNull || text.isNull then .null
  else .ofBool (Pattern.isMatch s (String.ofList (chars pattern)) (String.ofList (chars text)))

/-- Whether a text is like a pattern, where a character takes the next one as it is. -/
def likeEscaped (pattern text escape : Value) : Evaluation Value :=
  if escape.isNull then return .null
  else
    match chars escape with
    | [c] => return matching (.likeWith c) pattern text
    | _ => Evaluation.fail "ESCAPE expression must be a single character"

/-! ## The functions -/

/-- The type of a value in words. -/
def typeOf : Value → String
  | .null => "null"
  | .bool _ | .int _ => "integer"
  | .float _ => "real"
  | .text _ => "text"
  | .blob _ => "blob"

/-- The functions of texts. -/
def texts : List Function :=
  [pure "length" (exactly 1) (unlessNull lengthOf),
   pure "octet_length" (exactly 1) (unlessNull fun v => .ofInt v.asBytes.length),
   pure "typeof" (exactly 1) fun values => .text (typeOf (values.head?.getD .null)),
   pure "instr" (exactly 2) fun
     | [v, w] => placeOf v w
     | _ => .null,
   pure "substr" (within 2 3) fun
     | v :: start :: rest => part v start rest.head?
     | _ => .null,
   pure "substring" (within 2 3) fun
     | v :: start :: rest => part v start rest.head?
     | _ => .null,
   pure "upper" (exactly 1) (unlessNull fun v => .text v.asText.toUpper),
   pure "lower" (exactly 1) (unlessNull fun v => .text v.asText.toLower),
   trimming "trim" fun set text => dropCharsAtEnd set (dropChars set text),
   trimming "ltrim" dropChars,
   trimming "rtrim" dropCharsAtEnd,
   pure "replace" (exactly 3) fun
     | [v, old, new] => replaced v old new
     | _ => .null,
   pure "concat" (atLeast 1) (joined ""),
   pure "concat_ws" (atLeast 2) fun
     | .null :: _ => .null
     | separator :: values => joined separator.asText values
     | [] => .null,
   pure "hex" (exactly 1) fun values => hexText (values.head?.getD .null).asBytes,
   pure "unhex" (within 1 2) fun
     | [v] => if v.isNull then .null else unhexedValue [] v
     | [v, set] => if v.isNull || set.isNull then .null else unhexedValue (chars set) v
     | _ => .null,
   pure "char" (fun _ => true) fun values => ofChars (values.map fun v => charOf v.asInteger),
   pure "unicode" (exactly 1) (unlessNull fun v =>
     Value.ofOption (fun c => .ofInt c.toNat) (chars v).head?),
   pure "soundex" (exactly 1) fun values => soundex (values.head?.getD .null),
   pure "quote" (exactly 1) fun values => .text (quoted (values.head?.getD .null)),
   pure "glob" (exactly 2) fun
     | [pattern, text] => matching .glob pattern text
     | _ => .null,
   ofValues "like" (within 2 3) fun
     | [pattern, text] => return matching .like pattern text
     | [pattern, text, escape] => likeEscaped pattern text escape
     | _ => return .null]

end SchemaEvolution.Sqlite.Function
