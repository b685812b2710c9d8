import SchemaEvolution.Json.Row
import SchemaEvolution.Migration.Basic

/-!
# Failures in JSON

A failure is an object that names its kind under `error`, gives its wording, and holds what it is
about.
-/

namespace SchemaEvolution

open Json

namespace BackendError.Kind

/-- The kinds of failure with their names. -/
def names : List (String × BackendError.Kind) :=
  [("AlreadyExists", .alreadyExists), ("Closed", .closed), ("Other", .other)]

/-- The name of a kind of failure. -/
def name : BackendError.Kind → String
  | .alreadyExists => "AlreadyExists"
  | .closed => "Closed"
  | .other => "Other"

end BackendError.Kind

/-- What a failure of a backend is about. -/
def BackendError.fields (e : BackendError) : List (String × Json) :=
  [("error", .text "DatabaseError"), ("kind", .text e.kind.name), ("message", .text e.message),
   ("display", .text e.message), ("already_exists", .bool (e.kind == .alreadyExists)),
   ("has_source", .bool e.native)]

/-- What a failure is about. -/
def Error.fields (float : Binary64 → Json) (e : Error) : List (String × Json) :=
  ("message", .text e.message) ::
    match e with
    | .unsupported dialect request =>
      [("error", .text "UnsupportedOperation"), ("dialect", .text dialect),
       ("operation", .text request.describe)]
    | .execution sql parameters cause =>
      [("error", .text "SqlExecution"), ("sql", .text sql),
       ("parameters", .list (Parameter.toJson float) parameters), ("kind", .text cause.kind.name),
       ("source", .text cause.message), ("already_exists", .bool e.isAlreadyExists)]
    | .parameterMismatch placeholders values =>
      [("error", .text "ParameterMismatch"), ("placeholders", .nat placeholders),
       ("values", .nat values)]
    | .invalidArgument argument =>
      [("error", .text "InvalidArgument"), ("argument", .text argument.describe)]

/-- What a failure of a migration is about. A table that could not be read shows no wording. -/
def MigrationError.fields (float : Binary64 → Json) (e : MigrationError) : List (String × Json) :=
  let message := ("message", Json.text e.message)
  let about (name : String) (version : Int64) (group : String) : List (String × Json) :=
    [("error", .text name), message, ("version", .int64 version), ("group", .text group)]
  match e with
  | .notReversible version group => about "MigrationNotReversible" version group
  | .versionConflict version group => about "VersionConflict" version group
  | .unknownVersion version group => about "UnknownVersion" version group
  | .invalidName name => [("error", .text "InvalidName"), message, ("name", .text name)]
  | .failed version cause =>
    [("error", .text "MigrationFailed"), message, ("version", .int64 version),
     ("source", .record (cause.fields float))]
  | .client cause =>
    [("error", .text "Client"), message, ("source", .record (cause.fields float))]
  | .serialization => [("error", .text "Serialization")]

end SchemaEvolution
