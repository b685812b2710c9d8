import SchemaEvolution.Number.Reading

/-!
# JSON values

A JSON text as a tree. Number literals keep their digits, objects keep every field in order, and a
string literal that escapes an unpaired surrogate denotes no text: it is there, but reads as `none`.
-/

namespace SchemaEvolution

/-- A JSON value. -/
inductive Json where
  | null
  | bool (value : Bool)
  | num (literal : Literal)
  | str (text : Option String)
  | arr (items : List Json)
  | obj (fields : List (Option String × Json))
  deriving Inhabited

namespace Json

/-- A string. -/
def text (s : String) : Json := .str (some s)

/-- An integer. -/
def int (n : Int) : Json := .num ⟨n < 0, Nat.toDigits 10 n.natAbs, none, none⟩

/-- A 64-bit integer. -/
def int64 (n : Int64) : Json := int n.toInt

/-- A natural number. -/
def nat (n : Nat) : Json := int n

/-- A list of values. -/
def list {α : Type} (f : α → Json) (items : List α) : Json := .arr (items.map f)

/-- A list of texts. -/
def texts (items : List String) : Json := list text items

/-- A value or null. -/
def option {α : Type} (f : α → Json) : Option α → Json
  | none => .null
  | some a => f a

/-- An object with the given fields. -/
def record (fields : List (String × Json)) : Json :=
  .obj (fields.map fun (key, value) => (some key, value))

/-- An object with one field, which names the alternative that the value belongs to. -/
def tagged (tag : String) (value : Json) : Json := record [(tag, value)]

/-- The first field of an object with a given key. -/
def field? (key : String) : Json → Option Json
  | .obj fields => (fields.find? fun f => f.1 == some key).map (·.2)
  | _ => none

end Json

end SchemaEvolution
