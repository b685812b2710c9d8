import SchemaEvolution.Files.Failure
import SchemaEvolution.Sqlite.File
import SchemaEvolution.Sqlite.Location

/-!
# Opening a database

What comes of opening the database at a location. A location with settings is handed on in the form
of a URI; a plain path that looks like a URI is taken for one. A missing file is created, unless the
database may only be read; a private database has no file.
-/

namespace SchemaEvolution.Sqlite

/-- What is opened, and how. -/
structure Opening where
  path : String
  inMemory : Bool
  readOnly : Bool
  creates : Bool := true
  immutable : Bool := false
  system : Option String := none
  deriving DecidableEq, Repr

namespace Opening

/-! ## URIs -/

/-- A text up to the first percent-encoded character zero. -/
def beforeZero : List Char → List Char
  | '%' :: '0' :: '0' :: _ => []
  | c :: rest => c :: beforeZero rest
  | [] => []

/-- A part of a URI, in which characters may be percent-encoded. -/
def decoded (part : List Char) : String := textOfBytes (Location.percentDecode (beforeZero part))

/-- A setting of a URI, by its name and its value. -/
def settingOf (part : List Char) : String × String :=
  (decoded (part.takeWhile (· ≠ '=')), decoded ((part.dropWhile (· ≠ '=')).drop 1))

/-- The name and the path of the host that a URI starts with, if it does. -/
def authority (uri : List Char) : List Char × List Char :=
  match uri with
  | '/' :: '/' :: rest => (rest.takeWhile (· ≠ '/'), rest.dropWhile (· ≠ '/'))
  | _ => ([], uri)

/-- Whether a text says yes. -/
def isYes (text : String) : Bool :=
  match text.toList with
  | c :: _ =>
    if c.isDigit then (integerOfText text.toList).value % 256 ≠ 0
    else ["on", "yes", "true"].contains text.toLower
  | [] => false

/-- Changes the way in which a database is opened, which can only get less. -/
def access (o : Opening) (mode : String) : Except BackendError Opening :=
  let isAllowed := !o.readOnly || o.inMemory
  let refusal := failure 3 ("access mode not allowed: " ++ mode)
  match mode with
  | "ro" => .ok { o with readOnly := true, creates := false, inMemory := false }
  | "rw" =>
    if isAllowed then .ok { o with readOnly := false, creates := false, inMemory := false }
    else .error refusal
  | "rwc" =>
    if isAllowed && (o.creates || o.inMemory) then
      .ok { o with readOnly := false, creates := true, inMemory := false }
    else .error refusal
  | "memory" => .ok { o with readOnly := false, creates := false, inMemory := true }
  | _ => .error (failure 1 ("no such access mode: " ++ mode))

/-- Applies a setting of a URI. -/
def apply (o : Opening) (setting : String × String) : Except BackendError Opening :=
  let (name, value) := setting
  match name with
  | "vfs" => .ok { o with system := some value }
  | "cache" =>
    if ["shared", "private"].contains value then .ok o
    else .error (failure 1 ("no such cache mode: " ++ value))
  | "mode" => o.access value
  | _ => .ok o

/-- What a URI without its scheme asks to open. -/
def ofUri (o : Opening) (uri : List Char) : Except BackendError Opening := do
  let (host, rest) := authority uri
  if !host.isEmpty && host ≠ "localhost".toList then
    throw (failure 1 ("invalid uri authority: " ++ String.ofList host))
  let rest := rest.takeWhile (· ≠ '#')
  let parts := Text.splitEvery '&' ((rest.dropWhile (· ≠ '?')).drop 1)
  let settings := (parts.map settingOf).filter fun setting => !setting.1.isEmpty
  let immutable := ((settings.lookup "immutable").map isYes).getD false
  let o := { o with path := decoded (rest.takeWhile (· ≠ '?')), immutable }
  settings.foldlM apply o

/-! ## Locations -/

/-- A text up to the character zero. -/
def untilZero (text : String) : String := String.ofList (text.toList.takeWhile (· ≠ '\x00'))

/-- The ways in which a file can be reached. -/
def systems : List String := ["unix", "unix-none", "unix-dotfile", "unix-excl", "memdb"]

/-- Refuses a way of reaching files that there is not. -/
def checkSystem (o : Opening) : Except BackendError Opening :=
  match o.system with
  | some name =>
    if systems.contains name then .ok o else .error (failure 1 ("no such vfs: " ++ name))
  | none => .ok o

/-- What a location asks to open. -/
def ofLocation (l : Location) : Except String Opening :=
  let o : Opening := { path := l.path, inMemory := l.inMemory, readOnly := l.readOnly }
  let scheme := "file:".toList
  if l.immutable || l.system.isSome then
    let systemName (name : String) : String :=
      untilZero (String.ofList (name.toList.map fun c => if c = ' ' then '+' else c))
    let o := { o with
      path := untilZero l.path, immutable := l.immutable, system := l.system.map systemName }
    o.checkSystem.mapError (·.message)
  else if l.path.toList.contains '\x00' then
    .error ("error communicating with database: " ++
      "filename passed to SQLite must not contain nul bytes")
  else if scheme.isPrefixOf l.path.toList then
    ((o.ofUri (l.path.toList.drop scheme.length)).bind checkSystem).mapError (·.message)
  else .ok o

/-- Whether the database is kept in memory under the name of a file. -/
def isNamedMemory (o : Opening) : Bool :=
  o.system == some "memdb" && !o.path.isEmpty && !o.inMemory && o.path ≠ ":memory:"

/-- Whether the database has no file. -/
def isPrivate (o : Opening) : Bool :=
  o.inMemory || o.path.isEmpty || o.path == ":memory:" || o.isNamedMemory

/-- The store of a private database. -/
def openPrivate (o : Opening) : Except String Store :=
  if !o.isNamedMemory then .ok { readOnly := o.readOnly }
  else if o.readOnly && o.path.toList.head? = some '/' then .error unopenable.message
  else .ok { readOnly := o.readOnly || o.immutable }

/-- The store of a file, given what is found at its path, and whether the file is to be created. -/
def openFile (o : Opening) (found : Except FileFailure String) : Except String (Store × Bool) :=
  match found with
  | .ok text => .ok ({ Store.ofFileText text with readOnly := o.readOnly || o.immutable }, false)
  | .error .notText =>
    .ok ({ damage := some notDatabase, readOnly := o.readOnly || o.immutable }, false)
  | .error .missing =>
    if o.readOnly || !o.creates then .error unopenable.message
    else .ok ({ readOnly := o.immutable }, true)
  | .error .directory => .error (if o.readOnly then unreadable else unopenable).message
  | .error _ => .error unopenable.message

end Opening

end SchemaEvolution.Sqlite
