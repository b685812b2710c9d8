/-!
# Failures of a file system

Why a file cannot be read or written.
-/

namespace SchemaEvolution

/-- Why a file cannot be read or written. -/
inductive FileFailure where
  | missing
  | notDirectory
  | directory
  | nameTooLong
  | denied
  | notText
  | other (words : String)
  deriving DecidableEq, Repr

/-- A failure in words. -/
def FileFailure.message : FileFailure → String
  | .missing => "No such file or directory (os error 2)"
  | .notDirectory => "Not a directory (os error 20)"
  | .directory => "Is a directory (os error 21)"
  | .nameTooLong => "File name too long (os error 36)"
  | .denied => "Permission denied (os error 13)"
  | .notText => "stream did not contain valid UTF-8"
  | .other words => words

end SchemaEvolution
