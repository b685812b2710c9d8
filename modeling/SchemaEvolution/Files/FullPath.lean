import SchemaEvolution.Files.Failure
import SchemaEvolution.Text.Separated

/-!
# Full paths

The names on the way from the root to a file, for a path in which names may lead back. Such a name
only takes the one before it away: what that one was does not matter, as long as it could be looked
at.
-/

namespace SchemaEvolution

/-- The names on the way from the root. -/
structure FullPath where
  names : List String
  deriving DecidableEq, Repr

namespace FullPath

/-- A path as a text. -/
def text (p : FullPath) : String := "/" ++ "/".intercalate p.names

/-- How many bytes a path has. -/
def byteCount (p : FullPath) : Nat := p.names.foldl (fun n name => n + 1 + name.utf8ByteSize) 0

/-- The most bytes of a path, with room for the ends of the names of files beside it. -/
def mostBytes : Nat := 512

/-- Whether a path is that of a file, and not too long. -/
def isUsable (p : FullPath) : Bool := !p.names.isEmpty && p.byteCount + 8 ≤ mostBytes

/-- A path with one more name, if there is room for it, and whether what is there is to be looked
at. -/
def step (p : FullPath) (name : String) : Option (FullPath × Bool) :=
  if name == "" || name == "." then some (p, false)
  else if name == ".." then some (⟨p.names.dropLast⟩, false)
  else if mostBytes < p.byteCount + name.utf8ByteSize + 2 then none
  else some (⟨p.names ++ [name]⟩, true)

/-- The names of a path as it is written. -/
def namesOf (path : String) : List String := (Text.splitEvery '/' path.toList).map String.ofList

/-- Whether one can go on from what is found at a place. -/
def isPassable (found : Except FileFailure String) : Bool :=
  match found with
  | .ok _ | .error .missing | .error .directory | .error .denied | .error .notText => true
  | .error .notDirectory | .error .nameTooLong | .error (.other _) => false

end FullPath

end SchemaEvolution
