import SchemaEvolution.Json.Basic

/-!
# Reading domain values from JSON

The rules by which a JSON value is read as a value of a known shape. A record is an object with all
its fields, or an array of them in order; fields that the record does not have are ignored, and a
field given twice is refused. An alternative is its name, or an object whose only key is its name.

Lists and objects may nest `maxDepth` levels where their content is read. What is ignored may nest
as deeply as it likes, so the depth is counted here and not when the text is read.
-/

namespace SchemaEvolution.Json

/-- How many levels of lists and objects may nest. -/
def maxDepth : Nat := 127

/-- A reader of values of type `α`, given how many levels it may still enter. -/
abbrev Reader (α : Type) := Nat → Json → Option α

/-- A text. -/
def string? : Json → Option String
  | .str s => s
  | _ => none

/-- A truth value. -/
def bool? : Json → Option Bool
  | .bool b => some b
  | _ => none

/-- An integer written without fraction and exponent. -/
def int? : Json → Option Int
  | .num l => l.toInt?
  | _ => none

/-- A 64-bit integer. -/
def int64? (j : Json) : Option Int64 := j.int? >>= Number.toInt64?

/-- A signed integer of 32 bits. -/
def int32? (j : Json) : Option Int64 := do
  let n ← j.int64?
  if -2147483648 ≤ n.toInt && n.toInt ≤ 2147483647 then some n else none

/-- A signed integer of 16 bits. -/
def int16? (j : Json) : Option Int64 := do
  let n ← j.int64?
  if -32768 ≤ n.toInt && n.toInt ≤ 32767 then some n else none

/-- A natural number below a bound. -/
def natBelow? (bound : Nat) (j : Json) : Option Nat :=
  match j.int? with
  | some (.ofNat n) => if n < bound then some n else none
  | _ => none

/-- A byte. -/
def byte? (j : Json) : Option UInt8 := (natBelow? 0x100 j).map UInt8.ofNat

/-- A natural number of 32 bits. -/
def uint32? (j : Json) : Option UInt32 := (natBelow? 0x100000000 j).map UInt32.ofNat

/-- A count of 64 bits. -/
def count? (j : Json) : Option Nat := natBelow? Number.wordCount j

/-- A natural number of 64 bits. -/
def uint64? (j : Json) : Option UInt64 := (count? j).map UInt64.ofNat

/-- A number, integers included. -/
def float? : Json → Option Binary64
  | .num l => l.toBinary64?
  | _ => none

/-- Null is no value, all else is one. -/
def option? {α : Type} (f : Json → Option α) : Json → Option (Option α)
  | .null => some none
  | j => (f j).map some

/-- A list, which takes one level. -/
def list? {α : Type} (f : Reader α) : Reader (List α)
  | depth + 1, .arr items => items.mapM (f depth)
  | _, _ => none

/-- A list of texts. -/
def texts? : Reader (List String) := list? fun _ => string?

/-- The name of an alternative, and what is given with it. -/
def variant? : Nat → Json → Option (String × Option (Nat × Json))
  | _, .str (some name) => some (name, none)
  | depth + 1, .obj [(some name, value)] => some (name, some (depth, value))
  | _, _ => none

/-- An alternative without content: its name alone, or its name with null. -/
def unit? {α : Type} (alternatives : List (String × α)) (depth : Nat) (j : Json) : Option α :=
  match variant? depth j with
  | some (name, none) => alternatives.lookup name
  | some (name, some (_, .null)) => alternatives.lookup name
  | _ => none

/-- The values given for one field of an object. -/
def valuesOf (name : String) (fields : List (Option String × Json)) : List Json :=
  (fields.filter fun f => f.1 == some name).map (·.2)

/-- What an object gives for each of some fields, none of them given twice. -/
def fieldValues (names : List String) (fields : List (Option String × Json)) :
    Option (List (Option Json)) :=
  if fields.any fun f => f.1.isNone then none
  else names.mapM fun name =>
    match valuesOf name fields with
    | [] => some none
    | [value] => some (some value)
    | _ => none

/-- The fields of a record in order, as far as they are given, and the levels left inside it. -/
def record? (names : List String) : Nat → Json → Option (Nat × List (Option Json))
  | depth + 1, .arr items =>
    if items.length = names.length then some (depth, items.map some) else none
  | depth + 1, .obj fields => (fieldValues names fields).map fun values => (depth, values)
  | _, _ => none

/-- The value of a field that must be given. -/
def required {α : Type} (f : Json → Option α) : Option Json → Option α
  | some j => f j
  | none => none

/-- The value of a field that may be absent or null. -/
def optional {α : Type} (f : Json → Option α) : Option Json → Option (Option α)
  | some j => option? f j
  | none => some none

end SchemaEvolution.Json
