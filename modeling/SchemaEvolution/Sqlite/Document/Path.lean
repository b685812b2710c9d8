import SchemaEvolution.Sqlite.Document

/-!
# Paths into documents

A path leads from a document to a part of it by names of fields and places of items. It is read as
it is followed, so what is wrong with it is only found where it leads to.
-/

namespace SchemaEvolution.Sqlite.Document

/-- Why a path leads nowhere: there is no such part, or it is no path. -/
inductive Miss where
  | absent
  | notPath
  deriving DecidableEq, Repr

/-- A step of a path: to the value of a field, or to an item by its place. -/
inductive PathStep where
  | field (name : DocumentString)
  | item (place : Nat)
  deriving DecidableEq, Repr

/-- One more than the greatest place of an item. -/
def placeLimit : Nat := 4294967296

/-- The place that some digits stand for. -/
def placeOf (digits : List Char) : Nat := Number.digitsValue digits % placeLimit

/-- The place of an item among `count` ones, as it is written after an opening bracket: a number,
or a number of places before the end. -/
def readPlace (count : Nat) (text : List Char) : Except Miss (Nat × List Char) :=
  let close (place : Nat) : List Char → Except Miss (Nat × List Char)
    | ']' :: rest => .ok (place, rest)
    | _ => .error .notPath
  match text with
  | '#' :: '-' :: rest =>
    let digits := rest.takeWhile Char.isDigit
    if digits.isEmpty then .error .notPath
    else if count < placeOf digits then .error .absent
    else close (count - placeOf digits) (rest.dropWhile Char.isDigit)
  | '#' :: rest => close count rest
  | text =>
    let digits := text.takeWhile Char.isDigit
    if digits.isEmpty then .error .notPath
    else close (placeOf digits) (text.dropWhile Char.isDigit)

/-- The name of a field, as it is written after a point, in quotes or without. -/
def readName (text : List Char) : Except Miss (DocumentString × List Char) :=
  match text with
  | '"' :: rest =>
    let name := rest.takeWhile (· ≠ '"')
    match rest.dropWhile (· ≠ '"') with
    | _ :: rest => .ok (⟨if name.contains '\\' then .loose else .raw, name⟩, rest)
    | [] => .error .notPath
  | text =>
    let isInside (c : Char) : Bool := c ≠ '.' && c ≠ '['
    let name := text.takeWhile isInside
    if name.isEmpty then .error .notPath else .ok (⟨.raw, name⟩, text.dropWhile isInside)

/-- The first step of a path from a document, and the path after it. -/
def firstStep (d : Document) (path : List Char) : Except Miss (PathStep × List Char) :=
  match path with
  | '.' :: rest => do
    let (name, rest) ← readName rest
    match d with
    | .object _ => .ok (.field name, rest)
    | _ => .error .absent
  | '[' :: rest =>
    match d with
    | .array items => do
      let (place, rest) ← readPlace items.length rest
      .ok (.item place, rest)
    | _ => .error .absent
  | _ => .error .notPath

/-- The value of the first field of a name. -/
def field? (name : DocumentString) (fields : List (DocumentString × Document)) :
    Option Document :=
  (fields.find? fun field => name.same field.1).map (·.2)

/-- Changes the first field of a name; without a new value the field goes. -/
def setField (name : DocumentString) (new : Option Document) :
    List (DocumentString × Document) → List (DocumentString × Document)
  | [] => []
  | (label, d) :: rest =>
    if name.same label then
      match new with
      | some d => (label, d) :: rest
      | none => rest
    else (label, d) :: setField name new rest

/-- Changes an item; without a new one the item goes. -/
def setItem (place : Nat) (new : Option Document) (items : List Document) : List Document :=
  match new with
  | some d => items.set place d
  | none => items.eraseIdx place

/-- Follows a path, of at most `fuel` steps. -/
def follow : Nat → Document → List Char → Except Miss Document
  | _, d, [] => .ok d
  | 0, _, _ => .error .notPath
  | fuel + 1, d, path => do
    let (step, rest) ← firstStep d path
    let part? := match step, d with
      | .field name, .object fields => field? name fields
      | .item place, .array items => items[place]?
      | _, _ => none
    match part? with
    | some part => follow fuel part rest
    | none => .error .absent

/-- The part of a document that a path leads to. -/
def part (d : Document) (path : List Char) : Except Miss Document :=
  follow (path.length + 1) d path

/-- What is done where a path leads to: the part goes, a document is put there unless there is a
part, or only if there is one, or in either case. -/
inductive Change where
  | remove
  | insert (new : Document)
  | replace (new : Document)
  | set (new : Document)

namespace Change

/-- What becomes of a part. -/
def ofPart (change : Change) (d : Document) : Option Document :=
  match change with
  | .remove => none
  | .insert _ => some d
  | .replace new => some new
  | .set new => some new

/-- The document that is put where there is no part. -/
def new? : Change → Option Document
  | .insert new => some new
  | .set new => some new
  | .remove => none
  | .replace _ => none

end Change

/-- Changes what a path of at most `fuel` steps leads to. Where its last step leads to no part, one
may be made, and what a path goes on through is made with it. -/
def alter (change : Change) : Nat → Document → List Char → Except Miss (Option Document)
  | _, d, [] => .ok (change.ofPart d)
  | 0, _, _ => .error .notPath
  | fuel + 1, d, path => do
    let (step, rest) ← firstStep d path
    let make : Except Miss Document :=
      match change.new?, rest with
      | none, _ => .error .absent
      | some new, [] => .ok new
      | some _, c :: _ => do
        let base : Document := if c = '.' then .object [] else .array []
        match ← alter change fuel base rest with
        | some d => .ok d
        | none => .error .absent
    match step, d with
    | .field name, .object fields =>
      match field? name fields with
      | some part => do .ok (some (.object (setField name (← alter change fuel part rest) fields)))
      | none => do .ok (some (.object (fields ++ [(name, ← make)])))
    | .item place, .array items =>
      match items[place]? with
      | some part => do .ok (some (.array (setItem place (← alter change fuel part rest) items)))
      | none =>
        if place = items.length then do .ok (some (.array (items ++ [← make])))
        else .error .absent
    | _, _ => .error .absent

/-- A document changed where a path leads to; where it leads to nothing the document stays. -/
def change (d : Document) (change : Change) (path : List Char) : Except Miss Document :=
  match alter change (path.length + 1) d path with
  | .ok (some d) => .ok d
  | .ok none => .ok .null
  | .error .absent => .ok d
  | .error .notPath => .error .notPath

/-! ## Patches -/

mutual

/-- A document after a patch: what is no object replaces it, the fields of an object patch its own
fields, and a field that is null removes one. -/
def patched (target : Document) : Document → Document
  | .object changes =>
    let fields := match target with
      | .object fields => fields
      | _ => []
    .object (patchedFields fields changes)
  | .null => .null
  | .truth b => .truth b
  | .number style written => .number style written
  | .string s => .string s
  | .array items => .array items

/-- Fields after those of a patch. -/
def patchedFields (fields : List (DocumentString × Document)) :
    List (DocumentString × Document) → List (DocumentString × Document)
  | [] => fields
  | (name, d) :: rest =>
    let fields := match field? name fields, d.kind == "null" with
      | some _, true => setField name none fields
      | some part, false => setField name (some (patched part d)) fields
      | none, true => fields
      | none, false => fields ++ [(name, patched .null d)]
    patchedFields fields rest

end

end SchemaEvolution.Sqlite.Document
