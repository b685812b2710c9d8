import SchemaEvolution.Parameter

/-!
# Failures

Why a statement could not be written or carried out. Each failure is a cause; its wording is in one
function.
-/

namespace SchemaEvolution

/-- The kinds of failure that a backend tells apart. -/
inductive BackendError.Kind where
  | alreadyExists
  | closed
  | other
  deriving DecidableEq, Repr

/-- A failure that a backend reports; `native` when it comes from the database behind it. -/
structure BackendError where
  kind : BackendError.Kind := .other
  message : String
  native : Bool := false
  deriving DecidableEq, Repr

/-- The failure of a call on a closed connection. -/
def BackendError.closed : BackendError := { kind := .closed, message := "connection is closed" }

/-- A change that some dialects have no statement for. -/
inductive Request where
  | modifyColumn (table column : String)
  | returning (column table : String)
  | addPrimaryKey (table : String)
  | dropPrimaryKey (table : String)
  | addForeignKey (name table : String)
  | dropForeignKey (name table : String)
  | dropConstraint (name table : String)
  | commentTable (table : String)
  | commentColumn (table column : String)
  | uncommentTable (table : String)
  | uncommentColumn (table column : String)
  deriving DecidableEq, Repr

/-- A request in words. -/
def Request.describe : Request → String
  | .modifyColumn table column => "modifying column " ++ table ++ "." ++ column
  | .returning column table => "returning " ++ column ++ " from an insert into " ++ table
  | .addPrimaryKey table => "adding a primary key to existing table " ++ table
  | .dropPrimaryKey table => "dropping the primary key of " ++ table
  | .addForeignKey name table => "adding foreign key " ++ name ++ " to " ++ table
  | .dropForeignKey name table => "dropping foreign key " ++ name ++ " from " ++ table
  | .dropConstraint name table => "dropping constraint " ++ name ++ " from " ++ table
  | .commentTable table => "commenting table " ++ table
  | .commentColumn table column => "commenting column " ++ table ++ "." ++ column
  | .uncommentTable table => "removing the comment of table " ++ table
  | .uncommentColumn table column => "removing the comment of column " ++ table ++ "." ++ column

/-- Arguments that form no statement. -/
inductive InvalidArgument where
  | tableWithoutColumns (table : String)
  | selectWithoutTable
  | updateWithoutColumns (table : String)
  deriving DecidableEq, Repr

/-- Invalid arguments in words. -/
def InvalidArgument.describe : InvalidArgument → String
  | .tableWithoutColumns table => "table " ++ table ++ " has no columns"
  | .selectWithoutTable => "a select needs at least one table"
  | .updateWithoutColumns table => "update of " ++ table ++ " sets no columns"

/-- Why a statement could not be written or carried out. -/
inductive Error where
  | unsupported (dialect : String) (request : Request)
  | execution (sql : String) (parameters : List Parameter) (cause : BackendError)
  | parameterMismatch (placeholders values : Nat)
  | invalidArgument (argument : InvalidArgument)
  deriving DecidableEq, Repr

namespace Error

/-- The wording of a failure. -/
def message : Error → String
  | .unsupported dialect request =>
    request.describe ++ " is not supported by the " ++ dialect ++ " dialect"
  | .execution sql parameters cause =>
    "failed to execute `" ++ sql ++ "` with " ++ toString parameters.length ++ " parameter(s): " ++
      cause.message
  | .parameterMismatch placeholders values =>
    "statement has " ++ toString placeholders ++ " placeholder(s) but " ++ toString values ++
      " value(s)"
  | .invalidArgument argument => "invalid argument: " ++ argument.describe

/-- Whether the backend refused to create an object because it exists. -/
def isAlreadyExists : Error → Bool
  | .execution _ _ cause => cause.kind == .alreadyExists
  | _ => false

end Error

end SchemaEvolution
