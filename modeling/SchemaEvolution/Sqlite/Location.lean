import SchemaEvolution.Json.Parser
import SchemaEvolution.Text.Printed
import SchemaEvolution.Text.Separated
import SchemaEvolution.Text.Utf8

/-!
# Where a database is

A database URL names a file and how it is to be used, or a private database that is gone when its
connection closes.
-/

namespace SchemaEvolution.Sqlite

/-- Where a database is and how it is used. `system` is the name of the way in which its file is
reached. -/
structure Location where
  path : String := ""
  inMemory : Bool := false
  readOnly : Bool := false
  immutable : Bool := false
  system : Option String := none
  deriving DecidableEq, Repr

namespace Location

/-- A text without any number of copies of `start` at its start. -/
def dropStarts (start : List Char) : Nat → List Char → List Char
  | 0, text => text
  | fuel + 1, text =>
    if start.isPrefixOf text && !start.isEmpty then dropStarts start fuel (text.drop start.length)
    else text

/-- The bytes of a text in which a percent sign and two hexadecimal digits stand for a byte. -/
def percentDecode : List Char → List UInt8
  | '%' :: a :: b :: rest =>
    match Json.hexDigit a, Json.hexDigit b with
    | some high, some low => UInt8.ofNat (high * 16 + low) :: percentDecode rest
    | _, _ => Text.encode ['%'] ++ percentDecode (a :: b :: rest)
  | c :: rest => Text.encode [c] ++ percentDecode rest
  | [] => []

/-- A key or a value of a setting, where a plus sign stands for a space. -/
def formText (text : List Char) : String :=
  let bytes := percentDecode (text.map fun c => if c = '+' then ' ' else c)
  String.ofList (Text.decodeLossy bytes.length bytes)

/-- A failure to understand a URL. -/
def misconfigured (words : String) : String := "error with configuration: " ++ words

/-- The failure of a setting that has none of its values. -/
def unknownValue (key value : String) : String :=
  misconfigured ("unknown value " ++ Text.printed value ++ " for `" ++ key ++ "`")

/-- Applies one setting of a URL. -/
def setting (l : Location) (key value : String) : Except String Location :=
  match key with
  | "mode" =>
    match value with
    | "ro" => .ok { l with readOnly := true }
    | "rw" | "rwc" => .ok l
    | "memory" => .ok { l with inMemory := true }
    | _ => .error (unknownValue key value)
  | "cache" =>
    if ["private", "shared"].contains value then .ok l else .error (unknownValue key value)
  | "immutable" =>
    if ["true", "1"].contains value then .ok { l with immutable := true }
    else if ["false", "0"].contains value then .ok { l with immutable := false }
    else .error (unknownValue key value)
  | "vfs" => .ok { l with system := some value }
  | _ =>
    .error (misconfigured ("unknown query parameter `" ++ key ++
      "` while parsing connection URL"))

/-- Applies settings in order. -/
def settings (l : Location) : List (List Char) → Except String Location
  | [] => .ok l
  | text :: rest =>
    if text.isEmpty then settings l rest
    else
      let key := formText (text.takeWhile (· ≠ '='))
      let value := formText ((text.dropWhile (· ≠ '=')).drop 1)
      match setting l key value with
      | .ok l => settings l rest
      | .error e => .error e

/-- Where the database of a URL is. -/
def ofUrl (url : String) : Except String Location :=
  let chars := url.toList
  let body := dropStarts "sqlite:".toList chars.length
    (dropStarts "sqlite://".toList chars.length chars)
  let database := body.takeWhile (· ≠ '?')
  let query := Text.splitEvery '&' ((body.dropWhile (· ≠ '?')).drop 1)
  if database = ":memory:".toList then settings { inMemory := true } query
  else
    match Text.decode (percentDecode database) with
    | .error e => .error (misconfigured e.message)
    | .ok path => settings { path := String.ofList path } query

end Location

end SchemaEvolution.Sqlite
