import SchemaEvolution.CommandLine.Run
import SchemaEvolution.Files.FullPath
import SchemaEvolution.Files.Tree
import SchemaEvolution.Sqlite.Opening

/-!
# Hosts

A host has a clock, an environment and files. The program runs on any host: on a real one, or on a
tree of files whose clock stands still.
-/

namespace SchemaEvolution.CommandLine

open Sqlite

/-- What the program needs around it. -/
structure Host (m : Type → Type) where
  now : m Moment
  databaseUrl : m (Option String)
  here : m String
  read : String → m (Except FileFailure String)
  write : String → String → m (Except FileFailure Unit)

namespace Host

variable {m : Type → Type} [Monad m]

/-- The text of a file; a database is no text. -/
def readText (h : Host m) (path : String) : m (Except FileFailure String) := do
  match ← h.read path with
  | .ok text => pure (if Store.isFileText text then .error .notText else .ok text)
  | .error e => pure (.error e)

/-- Goes on from a path along some names, as far as what is there can be looked at. -/
def follow (h : Host m) (p : FullPath) : List String → m (Option FullPath)
  | [] => pure (some p)
  | name :: rest =>
    match p.step name with
    | none => pure none
    | some (p, false) => follow h p rest
    | some (p, true) => do
      if FullPath.isPassable (← h.read p.text) then follow h p rest else pure none

/-- The full path of a file, if it has a usable one. -/
def fullPath (h : Host m) (path : String) : m (Option String) := do
  let start ← if path.toList.head? = some '/' then pure "" else h.here
  let p ← h.follow ⟨[]⟩ (FullPath.namesOf start ++ FullPath.namesOf path)
  pure ((p.filter (·.isUsable)).map (·.text))

/-- The store of a file with the path where it is kept. -/
def openFile (h : Host m) (o : Opening) : m (Except String (Store × Option String)) := do
  match ← h.fullPath o.path with
  | none => pure (.error unopenable.message)
  | some path =>
    match o.openFile (← h.read path) with
    | .error e => pure (.error e)
    | .ok (store, false) => pure (.ok (store, some path))
    | .ok (store, true) =>
      match ← h.write path "" with
      | .ok _ => pure (.ok (store, some path))
      | .error _ => pure (.error unopenable.message)

/-- The store at a location, with the path where it is kept unless it is private. -/
def openStore (h : Host m) (l : Location) : m (Except String (Store × Option String)) :=
  match Opening.ofLocation l with
  | .error e => pure (.error e)
  | .ok o => if o.isPrivate then pure (o.openPrivate.map (·, none)) else h.openFile o

/-- Keeps what is left of a store in its file, if that is not what was there. -/
def keep (h : Host m) (path : Option String) (before after : Store) : m Unit :=
  match path with
  | none => pure ()
  | some path => do
    let after := after.close
    if before.fileText ≠ after.fileText then
      let _ ← h.write path after.fileText

/-- Works on the store at a URL. -/
def work (h : Host m) (i : Invocation) (t : VersionTable) (url : String) : m Report := do
  match Location.ofUrl url with
  | .error e => pure (failed [] e)
  | .ok l =>
    match ← h.openStore l with
    | .error e => pure (failed [] e)
    | .ok (store, path) =>
      let (report, left) := i.work t url store
      h.keep path store left
      pure report

/-- Carries out what arguments ask for. -/
def carryOut (h : Host m) (arguments : List String) : m Report := do
  match parseArguments arguments with
  | .error usage => pure usage.report
  | .ok i =>
    let config ← match i.get? .config with
      | some path => do pure (some (← h.readText path))
      | none => pure none
    match i.plan (← h.now) config with
    | .report r => pure r
    | .work t => h.work i t (i.url (← h.databaseUrl))

/-- A host on a tree of files, with a fixed moment and a fixed database. -/
def onTree (now : Moment) (url : String) : Host (StateM FileTree) where
  now := pure now
  databaseUrl := pure (some url)
  here := do return FullPath.text ⟨(← get).here⟩
  read path := do return (← get).read path
  write path text := do
    match (← get).write path text with
    | .ok tree =>
      set tree
      pure (.ok ())
    | .error e => pure (.error e)

end Host

end SchemaEvolution.CommandLine
