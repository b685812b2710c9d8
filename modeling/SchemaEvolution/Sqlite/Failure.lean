import SchemaEvolution.Error
import SchemaEvolution.Text.Separated

/-!
# Failures of the built-in store

A failure is a code and a message, from which follows whether something is there already.
-/

namespace SchemaEvolution.Sqlite

/-- A failure that the store reports. -/
def failure (code : Nat) (message : String) : BackendError :=
  let text := "error returned from database: (code: " ++ toString code ++ ") " ++ message
  let has (part : String) : Bool := Text.occurs part.toList text.toList
  { kind := if has "already exists" || has "duplicate column name" then .alreadyExists else .other
    message := text
    native := true }

/-- The start of the complaint about a collation that there is none of. -/
def noCollation : String := "no such collation sequence: "

/-- The failure of a statement that cannot be prepared, by what is wrong with it. -/
def complaint (message : String) : BackendError :=
  failure (if noCollation.toList.isPrefixOf message.toList then 257 else 1) message

/-- The failure of opening a file that cannot be opened. -/
def unopenable : BackendError := failure 14 "unable to open database file"

/-- The failure of reading what is no file. -/
def unreadable : BackendError := failure 266 "disk I/O error"

/-- The failure of using a file that holds no database. -/
def notDatabase : BackendError := failure 26 "file is not a database"

/-- The failure of changing what may only be read. -/
def readOnlyFailure : BackendError := failure 8 "attempt to write a readonly database"

end SchemaEvolution.Sqlite
