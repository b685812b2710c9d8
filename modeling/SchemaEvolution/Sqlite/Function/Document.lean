import SchemaEvolution.Sqlite.Document.Bytes
import SchemaEvolution.Sqlite.Document.Path
import SchemaEvolution.Sqlite.Document.Reader
import SchemaEvolution.Sqlite.Function.Text

/-!
# Functions of documents

Making documents of values, looking into them, changing them and checking them. A document is taken
as a text or as bytes, and given as a text that is marked as one, or as bytes. Most functions of a
document that is null are null.
-/

namespace SchemaEvolution.Sqlite.Function

/-- How a function gives a document: as a text or as bytes. -/
inductive DocumentForm where
  | text
  | bytes
  deriving DecidableEq, Repr

/-- The failure of reading a document that is none. -/
def malformed {α : Type} : Evaluation α := Evaluation.fail "malformed JSON"

/-- The failure of following what is no path. -/
def notPath {α : Type} (path : String) : Evaluation α :=
  Evaluation.fail ("bad JSON path: " ++ Text.quote '\x27' '\x27' path)

/-- A value as a path, up to the character zero. -/
def pathOf (v : Value) : String := String.ofList (chars v)

/-- The document that a value is, if it is null or one. -/
def document? (v : Value) : Evaluation (Option Document) :=
  let ofText : Evaluation (Option Document) :=
    match Document.parse? (chars v) with
    | some d => return some d
    | none => malformed
  match v with
  | .null => return none
  | .blob bytes =>
    if Document.mayBe bytes then
      match Document.ofBytes? bytes with
      | some d => return some d
      | none => malformed
    else ofText
  | _ => ofText

/-- A document as it is given. -/
def give (form : DocumentForm) (d : Document) : Datum :=
  match form with
  | .text => { value := .text (String.ofList d.text), isJson := true }
  | .bytes => { value := .blob d.bytes }

/-- A text in JSON as it is given. -/
def giveText (form : DocumentForm) (text : List Char) : Datum :=
  match form with
  | .text => { value := .text (String.ofList text), isJson := true }
  | .bytes =>
    { value := .blob (((Document.parse? text).map Document.bytes).getD []) }

/-- A function of a document and other arguments, which gives null if there is no document. -/
def ofDocument (name : String) (accepts : Nat → Bool)
    (f : Document → List Datum → Evaluation Datum) : Function where
  name
  accepts
  run _ _
    | [] => return Datum.null
    | d :: rest => do
      match ← document? d.value with
      | some d => f d rest
      | none => return Datum.null

/-! ## Making documents -/

/-- How a double is written in a document. -/
def realInDocument (x : Binary64) : String :=
  if x.isInfinite then if x.negative then "-9.0e+999" else "9.0e+999" else realText x

/-- The failure of putting bytes into a document. -/
def bytesInDocument {α : Type} : Evaluation α := Evaluation.fail "JSON cannot hold BLOB values"

/-- A value as the text of a document. -/
def documentText (d : Datum) : Evaluation (List Char) :=
  match d.value with
  | .null => return "null".toList
  | .float x => return (realInDocument x).toList
  | .text s => return if d.isJson then s.toList else (Document.ofText s).text
  | .blob bytes =>
    if Document.mayBe bytes then
      match Document.ofBytes? bytes with
      | some d => return d.text
      | none => malformed
    else bytesInDocument
  | v => return v.asText.toList

/-- Values as an array. -/
def arrayText (values : List Datum) : Evaluation (List Char) := do
  let items ← values.mapM documentText
  return '[' :: [','].intercalate items ++ [']']

/-- Names and values by turns as fields. -/
def fieldTexts : List Datum → Evaluation (List (List Char))
  | name :: d :: rest => do
    match name.value with
    | .text s =>
      let text ← documentText d
      return ((Document.ofText s).text ++ ':' :: text) :: (← fieldTexts rest)
    | _ => Evaluation.fail "json_object() labels must be TEXT"
  | _ => return []

/-- Names and values by turns as an object. -/
def objectText (arguments : List Datum) : Evaluation (List Char) := do
  if arguments.length % 2 = 1 then
    Evaluation.fail "json_object() requires an even number of arguments"
  else return '\x7b' :: [','].intercalate (← fieldTexts arguments) ++ ['\x7d']

/-- A value as a part of a document. -/
def partOf (d : Datum) : Evaluation Document :=
  match d.value with
  | .null => return .null
  | .float x =>
    return .number .decimal
      (if x.isInfinite then (if x.negative then "-9e999" else "9e999") else realText x).toList
  | .text s => if d.isJson then return (← document? d.value).getD .null else return .ofText s
  | .blob bytes =>
    if Document.mayBe bytes then return (← document? d.value).getD .null else bytesInDocument
  | v => return .number .integer v.asText.toList

/-! ## Looking into documents -/

/-- The part of a document at a path, if there is one. -/
def partAt (d : Document) (path : String) (steps : List Char) : Evaluation (Option Document) :=
  match d.part steps with
  | .ok part => return some part
  | .error .absent => return none
  | .error .notPath => notPath path

/-- The part of a document at a path, which starts at the document. -/
def partAtPath (d : Document) (path : String) : Evaluation (Option Document) :=
  match path.toList with
  | '$' :: steps => partAt d path steps
  | _ => notPath path

/-- A part of a document as a value: a document if it is made of others, or else what it stands
for. -/
def givePart (form : DocumentForm) (d : Document) : Evaluation Datum :=
  if d.isCompound then return give form d
  else
    match d.value? with
    | some v => return { value := v }
    | none => malformed

/-- The parts of a document at some paths: one part, or an array of more. -/
def partsAt (form : DocumentForm) (d : Document) (paths : List Datum) : Evaluation Datum := do
  match paths with
  | [] => return Datum.null
  | [path] =>
    if path.value.isNull then return Datum.null
    else
      match ← partAtPath d (pathOf path.value) with
      | some part => givePart form part
      | none => return Datum.null
  | paths =>
    let rec texts : List Datum → Evaluation (Option (List (List Char)))
      | [] => return some []
      | path :: rest => do
        if path.value.isNull then return none
        let part ← partAtPath d (pathOf path.value)
        match ← texts rest with
        | some parts => return some ((part.getD .null).text :: parts)
        | none => return none
    match ← texts paths with
    | some parts => return giveText form ('[' :: [','].intercalate parts ++ [']'])
    | none => return Datum.null

/-- A function of a document and paths; without a path it gives null. -/
def extracting (name : String) (form : DocumentForm) : Function :=
  let looking := ofDocument name (fun _ => true) (partsAt form)
  { looking with
    run s c arguments :=
      if arguments.length < 2 then return Datum.null else looking.run s c arguments }

/-- The steps of a path that may be shortened to a place or the name of a field. -/
def shortSteps (v : Value) : List Char :=
  let path := chars v
  match v, path with
  | _, '$' :: steps => steps
  | .int _, path => '[' :: path ++ [']']
  | _, path =>
    if path.all Char.isAlphanum then '.' :: path
    else if path.head? = some '[' && 3 ≤ path.length && path.getLast? = some ']' then path
    else '.' :: '"' :: path ++ ['"']

/-- A function of a document and a short path. -/
def member (name : String) (f : Document → Evaluation Datum) : Function :=
  ofDocument name (exactly 2) fun d arguments => do
    match arguments with
    | path :: _ =>
      if path.value.isNull then return Datum.null
      else
        match ← partAt d (pathOf path.value) (shortSteps path.value) with
        | some part => f part
        | none => return Datum.null
    | [] => return Datum.null

/-- A function of a document or of its part at a path. -/
def ofPart (name : String) (f : Document → Value) : Function :=
  ofDocument name (within 1 2) fun d arguments => do
    match arguments with
    | path :: _ =>
      if path.value.isNull then return Datum.null
      else
        match ← partAtPath d (pathOf path.value) with
        | some part => return { value := f part }
        | none => return Datum.null
    | [] => return { value := f d }

/-- How many items an array has; another document has none. -/
def itemCount : Document → Value
  | .array items => .ofInt items.length
  | _ => .int 0

/-! ## Changing documents -/

/-- A document after changes, each given by a path and a value. -/
def changed (make : Document → Document.Change) : Document → List Datum → Evaluation Document
  | d, path :: new :: rest => do
    if path.value.isNull then changed make d rest
    else
      match (pathOf path.value).toList with
      | '$' :: steps =>
        let new ← partOf new
        match d.change (make new) steps with
        | .ok d => changed make d rest
        | .error _ => notPath (pathOf path.value)
      | _ => notPath (pathOf path.value)
  | d, _ => return d

/-- A function that changes a document. -/
def changing (name : String) (form : DocumentForm) (verb : String)
    (make : Document → Document.Change) : Function where
  name
  accepts := fun _ => true
  run _ _ arguments := do
    match arguments with
    | [] => return Datum.null
    | d :: changes =>
      if changes.length % 2 = 1 then
        Evaluation.fail ("json_" ++ verb ++ "() needs an odd number of arguments")
      else
        match ← document? d.value with
        | some d => return give form (← changed make d changes)
        | none => return Datum.null

/-- A document without its parts at some paths; without itself there is none. -/
def without : Document → List Datum → Evaluation (Option Document)
  | d, [] => return some d
  | d, path :: rest => do
    if path.value.isNull then return none
    else
      match (pathOf path.value).toList with
      | ['$'] => return none
      | '$' :: steps =>
        match d.change .remove steps with
        | .ok d => without d rest
        | .error _ => notPath (pathOf path.value)
      | _ => notPath (pathOf path.value)

/-- A function that takes parts off a document. -/
def removing (name : String) (form : DocumentForm) (accepts : Nat → Bool) : Function :=
  ofDocument name accepts fun d paths => do
    match ← without d paths with
    | some d => return give form d
    | none => return Datum.null

/-- A function that patches a document. -/
def patching (name : String) (form : DocumentForm) : Function :=
  ofDocument name (exactly 2) fun d arguments => do
    match arguments with
    | patch :: _ =>
      match ← document? patch.value with
      | some patch => return give form (d.patched patch)
      | none => return Datum.null
    | [] => return Datum.null

/-! ## Checking documents -/

/-- Whether a value is a document in one of some forms, which are bits of a number: strict JSON,
JSON with more freedom, bytes that look like a document, and bytes that are one. -/
def isValid (v : Value) (forms : Nat) : Bool :=
  let asText : Bool :=
    forms % 4 ≠ 0 &&
      (let reading := Document.read (chars v)
       reading.document?.isSome && (forms / 2 % 2 = 1 || !reading.isLoose))
  match v with
  | .blob bytes =>
    if Document.mayBe bytes then
      forms / 4 % 2 = 1 || (forms / 8 % 2 = 1 && (Document.ofBytes? bytes).isSome)
    else asText
  | _ => asText

/-- Whether a value is a document in the forms that another value says. -/
def validity (v forms : Value) : Evaluation Value :=
  let forms := forms.asInteger
  if forms < 1 || 15 < forms then
    Evaluation.fail "FLAGS parameter to json_valid() must be between 1 and 15"
  else return if v.isNull then .null else .ofBool (isValid v forms.toNat)

/-- The place of the character where a document goes wrong, or zero. -/
def errorPlace (v : Value) : Value :=
  let ofText : Value :=
    let reading := Document.read (chars v)
    .ofInt (if reading.document?.isSome then 0 else reading.place)
  match v with
  | .null => .null
  | .blob bytes =>
    if Document.mayBe bytes then .ofBool (Document.ofBytes? bytes).isNone else ofText
  | _ => ofText

/-- A document over several lines. -/
def overLines (d : Document) (indent : Value) : Value :=
  ofChars (d.lines (if indent.isNull then "    ".toList else chars indent) [])

/-! ## The functions -/

/-- The functions that give documents in a form, by the start of their names. -/
def formed (start : String) (form : DocumentForm) : List Function :=
  [{ name := start ++ "_array"
     accepts := fun _ => true
     run _ _ arguments := return giveText form (← arrayText arguments) },
   { name := start ++ "_object"
     accepts := fun _ => true
     run _ _ arguments := return giveText form (← objectText arguments) },
   extracting (start ++ "_extract") form,
   changing (start ++ "_insert") form "insert" .insert,
   changing (start ++ "_replace") form "replace" .replace,
   changing (start ++ "_set") form "set" .set,
   removing start form (exactly 1),
   removing (start ++ "_remove") form (fun _ => true),
   patching (start ++ "_patch") form]

/-- The functions of documents. -/
def documents : List Function :=
  formed "json" .text ++ formed "jsonb" .bytes ++
  [{ name := "json_quote"
     accepts := exactly 1
     run _ _ arguments := do
       return giveText .text (← documentText (arguments.head?.getD Datum.null)) },
   member "->" fun d => return give .text d,
   member "->>" fun d => do return { value := (← givePart .text d).value },
   ofPart "json_type" fun d => .text d.kind,
   ofPart "json_array_length" itemCount,
   ofValues "json_valid" (within 1 2) fun
     | [v, forms] => validity v forms
     | values => validity (values.head?.getD .null) (.int 1),
   pure "json_error_position" (exactly 1) fun values => errorPlace (values.head?.getD .null),
   ofDocument "json_pretty" (within 1 2) fun d arguments =>
     return { value := overLines d ((arguments.head?.map (·.value)).getD .null) },
   { name := "subtype"
     accepts := exactly 1
     run _ _ arguments := return { value := .int (if arguments.any (·.isJson) then 74 else 0) } }]

end SchemaEvolution.Sqlite.Function
