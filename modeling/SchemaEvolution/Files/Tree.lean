import SchemaEvolution.Files.Failure
import SchemaEvolution.Text.Separated

/-!
# Trees of files

Directories and files with their texts, by the names on the way to them from the root. A path is
followed name by name: only a directory can be entered, and a name may have 255 bytes.
-/

namespace SchemaEvolution

/-- The names on the way from the root to a file or a directory. -/
abbrev Place : Type := List String

/-- A tree of files, and the directory where relative paths start. -/
structure FileTree where
  directories : List Place
  files : List (Place × String)
  here : Place
  deriving DecidableEq, Repr

namespace FileTree

/-- Whether there is a directory at a place. -/
def isDirectory (t : FileTree) (place : Place) : Bool :=
  place.isEmpty || t.directories.contains place

/-- The text of the file at a place. -/
def text? (t : FileTree) (place : Place) : Option String := t.files.lookup place

/-- Follows names from a place; the last one need not be there. -/
def follow (t : FileTree) (place : Place) : List String → Except FileFailure Place
  | [] => .ok place
  | name :: rest =>
    if !t.isDirectory place then
      .error (if (t.text? place).isSome then .notDirectory else .missing)
    else if name == "" || name == "." then follow t place rest
    else if name == ".." then follow t place.dropLast rest
    else if 255 < name.utf8ByteSize then .error .nameTooLong
    else follow t (place ++ [name]) rest

/-- The place that a path leads to. -/
def resolve (t : FileTree) (path : String) : Except FileFailure Place :=
  if path.isEmpty then .error .missing
  else if 4095 < path.utf8ByteSize then .error .nameTooLong
  else
    let names := (Text.splitEvery '/' path.toList).map String.ofList
    t.follow (if path.toList.head? = some '/' then [] else t.here) names

/-- The text of the file at a path. -/
def read (t : FileTree) (path : String) : Except FileFailure String := do
  let place ← t.resolve path
  if t.isDirectory place then .error .directory
  else
    match t.text? place with
    | some text => .ok text
    | none => .error .missing

/-- Gives the file at a path a text; a new file needs the directory that it is in. -/
def write (t : FileTree) (path text : String) : Except FileFailure FileTree := do
  let place ← t.resolve path
  if t.isDirectory place then .error .directory
  else .ok { t with files := (place, text) :: t.files.filter fun file => file.1 ≠ place }

end FileTree

end SchemaEvolution
