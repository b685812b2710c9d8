import SchemaEvolution.Sqlite.Document

/-!
# Documents as bytes

A document in bytes: a kind and a size, and then what it is made of, be it characters or other
documents. The size stands beside the kind if it is small, and else in the one, two, four or eight
bytes after it, of which the fewest are written.
-/

namespace SchemaEvolution.Sqlite.Document

/-- The bytes of a number, `count` of them, the greatest first. -/
def numberBytes (n : Nat) : Nat → List UInt8
  | 0 => []
  | count + 1 => numberBytes (n / 256) count ++ [UInt8.ofNat (n % 256)]

/-- The number of some bytes. -/
def bytesNumber (bytes : List UInt8) : Nat := bytes.foldl (fun n b => 256 * n + b.toNat) 0

/-- A part of a document of some kind, in bytes. -/
def block (kind : Nat) (content : List UInt8) : List UInt8 :=
  let size := content.length
  let head (mark count : Nat) : List UInt8 :=
    UInt8.ofNat (16 * mark + kind) :: numberBytes size count
  (if size ≤ 11 then head size 0
    else if size < 256 then head 12 1
    else if size < 65536 then head 13 2
    else head 14 4) ++ content

/-- The kind of a number. -/
def numberKind : NumberStyle → Nat
  | .integer => 3
  | .hexadecimal => 4
  | .decimal => 5
  | .openDecimal => 6

/-- The kind of a string. -/
def stringKind : StringStyle → Nat
  | .plain => 7
  | .escaped => 8
  | .loose => 9
  | .raw => 10

/-- A string in bytes. -/
def stringBytes (s : DocumentString) : List UInt8 :=
  block (stringKind s.style) (bytesOfText (String.ofList s.written))

mutual

/-- A document in bytes. -/
def bytes : Document → List UInt8
  | .null => block 0 []
  | .truth b => block (if b then 1 else 2) []
  | .number style written => block (numberKind style) (bytesOfText (String.ofList written))
  | .string s => stringBytes s
  | .array items => block 11 (itemBytes items)
  | .object fields => block 12 (fieldBytes fields)

/-- Some documents in bytes. -/
def itemBytes : List Document → List UInt8
  | [] => []
  | d :: rest => bytes d ++ itemBytes rest

/-- Some fields in bytes. -/
def fieldBytes : List (DocumentString × Document) → List UInt8
  | [] => []
  | (name, d) :: rest => stringBytes name ++ bytes d ++ fieldBytes rest

end

/-- Splits off a part of a document: its kind, what it is made of, and what follows. -/
def splitBlock (bytes : List UInt8) : Option (Nat × List UInt8 × List UInt8) :=
  match bytes with
  | [] => none
  | head :: rest =>
    let mark := head.toNat / 16
    let count := if mark ≤ 11 then 0 else if mark = 12 then 1 else if mark = 13 then 2
      else if mark = 14 then 4 else 8
    let size := if mark ≤ 11 then mark else bytesNumber (rest.take count)
    let rest := rest.drop count
    if size ≤ rest.length && (mark ≤ 11 || count + rest.length < bytes.length) then
      some (head.toNat % 16, rest.take size, rest.drop size)
    else none

/-- Whether some bytes look like a document from the outside. -/
def mayBe (bytes : List UInt8) : Bool :=
  match splitBlock bytes with
  | some (kind, content, rest) =>
    rest.isEmpty && kind ≤ 12 && (2 < kind || content.isEmpty)
  | none => false

/-- The style of a number of some kind. -/
def numberStyle? : Nat → Option NumberStyle
  | 3 => some .integer
  | 4 => some .hexadecimal
  | 5 => some .decimal
  | 6 => some .openDecimal
  | _ => none

/-- The style of a string of some kind. -/
def stringStyle? : Nat → Option StringStyle
  | 7 => some .plain
  | 8 => some .escaped
  | 9 => some .loose
  | 10 => some .raw
  | _ => none

mutual

/-- Splits a document off some bytes. -/
def splitDocument : Nat → List UInt8 → Option (Document × List UInt8)
  | 0, _ => none
  | fuel + 1, bytes => do
    let (kind, content, rest) ← splitBlock bytes
    let chars := (textOfBytes content).toList
    match kind with
    | 0 => some (.null, rest)
    | 1 => some (.truth true, rest)
    | 2 => some (.truth false, rest)
    | 11 => (splitItems fuel content).map fun items => (.array items, rest)
    | 12 => (splitFields fuel content).map fun fields => (.object fields, rest)
    | kind =>
      match numberStyle? kind, stringStyle? kind with
      | some style, _ => if chars.isEmpty then none else some (.number style chars, rest)
      | none, some style => some (.string ⟨style, chars⟩, rest)
      | none, none => none

/-- Splits bytes into documents. -/
def splitItems : Nat → List UInt8 → Option (List Document)
  | 0, _ => none
  | fuel + 1, bytes =>
    if bytes.isEmpty then some []
    else do
      let (d, rest) ← splitDocument fuel bytes
      some (d :: (← splitItems fuel rest))

/-- Splits bytes into fields. -/
def splitFields : Nat → List UInt8 → Option (List (DocumentString × Document))
  | 0, _ => none
  | fuel + 1, bytes =>
    if bytes.isEmpty then some []
    else do
      match ← splitDocument fuel bytes with
      | (.string name, rest) =>
        let (d, rest) ← splitDocument fuel rest
        some ((name, d) :: (← splitFields fuel rest))
      | _ => none

end

/-- The document that some bytes are, if they are one. -/
def ofBytes? (bytes : List UInt8) : Option Document :=
  match splitDocument (2 * bytes.length + 2) bytes with
  | some (d, rest) => if rest.isEmpty then some d else none
  | none => none

end SchemaEvolution.Sqlite.Document
