import SchemaEvolution.CommandLine.Arguments
import SchemaEvolution.Dialect.Sqlite
import SchemaEvolution.Files.Failure
import SchemaEvolution.Json.Printer
import SchemaEvolution.Migration.VersionTable
import SchemaEvolution.Sqlite.Connection

/-!
# Running a command

A command inspects or creates the version table of a database. It prints lines, some of them log
lines with a level, a message and fields, and ends with an exit code.
-/

namespace SchemaEvolution.CommandLine

open Sqlite

/-- What a command has printed, and how it ended. -/
structure Report where
  code : Nat
  stdout : List String
  stderr : Option String
  deriving DecidableEq, Repr

/-- A connection, and the lines printed so far, the latest first. -/
structure Console where
  connection : Connection Store
  verbose : Bool
  printed : List String := []

/-- A part of a command that works on the console and may fail with a message. -/
abbrev Interaction (α : Type) : Type := ExceptT String (StateM Console) α

/-- The lines of a text. -/
def linesOf (text : String) : List String := (Text.splitEvery '\n' text.toList).map String.ofList

/-- Prints a text. -/
def Console.print (c : Console) (text : String) : Console :=
  { c with printed := (linesOf text).reverse ++ c.printed }

/-- A log line: level, message, and fields with their values. -/
def logLine (level message : String) (fields : List (String × String)) : String :=
  let shown := fields.map fun (field, value) => field ++ "=" ++ value
  " ".intercalate ((level ++ " " ++ message) :: shown)

/-- Logs what is always shown. -/
def info (message : String) (fields : List (String × String)) : Interaction Unit :=
  modify (·.print (logLine " INFO" message fields))

/-- Logs what is shown only when the command is verbose. -/
def Console.debug (c : Console) (message : String) (fields : List (String × String)) : Console :=
  if c.verbose then c.print (logLine "DEBUG" message fields) else c

/-- Prints a text. -/
def print (text : String) : Interaction Unit := modify (·.print text)

/-- Logs a call of the client. -/
def Console.logCall (c : Console) (call : Call) : Console :=
  let fields := [("sql", call.sql), ("parameters", toString call.parameters.length)]
  match call with
  | .execute _ _ => c.debug "Executing SQL" fields
  | .insertReturning _ _ => c.debug "Executing SQL" fields
  | .query _ _ => c.debug "Running query" fields
  | .scalar _ _ => c.debug "Running scalar query" fields
  | .commit => c.debug "Committing" []
  | .rollback => c.debug "Rolling back" []
  | .close => c

/-- The connection of a command as a backend that logs its calls. -/
def backend : Backend Console where
  answer call := fun c =>
    let c := c.logCall call
    let (answer, connection) := (Connection.backend storeEngine).answer call c.connection
    (answer, { c with connection })

/-- Carries an action out, whose failure is one of the client. -/
def act {α : Type} (action : Action α) : Interaction α := ExceptT.mk do
  match ← Session.on action.run backend with
  | .ok a => pure (.ok a)
  | .error e => pure (.error (MigrationError.client e).message)

/-- Where versions are recorded: what a configuration says, and the options over it. -/
def versionTable (i : Invocation) (config : Option String) :
    Except MigrationError VersionTable := do
  let base ← match config with
    | some text => VersionTable.parse text
    | none => .ok {}
  .ok { schema := (i.get? .schema).orElse fun _ => base.schema
        table := (i.get? .table).getD base.table
        group := (i.get? .group).getD base.group }

/-- What the status of a version table is as JSON. -/
def statusJson (table group : String) (applied : List Int64) : Json := .record
  [("table", .text table), ("group", .text group),
   ("current_version", .int64 (VersionTable.greatest applied)), ("applied", .list .int64 applied)]

/-- Creates the version table. -/
def init (t : VersionTable) (c : Client) : Interaction Unit := do
  info "Initializing version table..." []
  if ← act (t.isPresent c) then pure ()
  else
    info "Creating version table" [("table", t.name c)]
    act (t.create c)
  info "Version table ready." [("table", t.name c)]

/-- Shows the versions applied. -/
def status (t : VersionTable) (c : Client) (json : Bool) : Interaction Unit := do
  let applied ← act (t.applied c)
  if json then print (statusJson (t.name c) t.group applied).pretty
  else if applied.isEmpty then info "No migrations have been applied yet." [("group", t.group)]
  else
    print ("\nApplied versions (" ++ t.name c ++ ", group '" ++ t.group ++ "'):")
    print (String.ofList (List.replicate 60 '-'))
    applied.forM fun version => print (" [X] " ++ toString version.toInt)
    print ("\nCurrent version: " ++ toString (VersionTable.greatest applied).toInt ++ "\n")

/-- Carries a command out and closes the connection. -/
def perform (i : Invocation) (t : VersionTable) : Interaction Unit := do
  let c := Client.ofConfig Dialect.sqlite t.schema {}
  match i.command with
  | .init => init t c
  | .status json => status t c json
  | .newVersion => pure ()
  let closed ← ExceptT.lift (Session.on (ExceptT.run Client.close) backend)
  match closed with
  | Except.ok _ => modify (·.debug "Closed SQLite connection" [])
  | Except.error e => throw e.message

/-- The database URL of an invocation: the option, or the environment's, or a file of its own. -/
def Invocation.url (i : Invocation) (environment : Option String) : String :=
  (i.get? .database).getD (environment.getD "sqlite:strata.db")

/-- A report of failure. -/
def failed (stdout : List String) (message : String) : Report :=
  ⟨1, stdout, some ("Error: " ++ message)⟩

/-- What an invocation comes to before any database is opened: a report, or work on a version
table. -/
inductive Plan where
  | report (r : Report)
  | work (t : VersionTable)

/-- The plan of an invocation at a moment, on the text of its configuration if it names one, which
may have failed to be read. -/
def Invocation.plan (i : Invocation) (now : Moment) (config : Option (Except FileFailure String)) :
    Plan :=
  if i.command = .newVersion then .report ⟨0, [toString now.version], none⟩
  else
    match config with
    | some (.error e) => .report (failed [] e.message)
    | config =>
      match versionTable i (config.bind Except.toOption) with
      | .error e => .report (failed [] e.message)
      | .ok t => .work t

/-- Works on the version table in the store at a URL. The store is given as it is left. -/
def Invocation.work (i : Invocation) (t : VersionTable) (url : String) (store : Store) :
    Report × Store :=
  let console : Console := { connection := { state := store }, verbose := i.verbose }
  let (answer, console) :=
    (perform i t).run (console.debug "Opened SQLite connection" [("url", url)])
  let lines := console.printed.reverse
  match answer with
  | .ok _ => (⟨0, lines, none⟩, console.connection.state)
  | .error e => (failed lines e, console.connection.state)

/-- The report of arguments that are no invocation. -/
def Usage.report : Usage → Report
  | .misuse => ⟨2, [], some "Usage: strata-migrate [OPTIONS] <COMMAND>"⟩
  | .help =>
    let lines := ["Usage: strata-migrate [OPTIONS] <COMMAND>", "",
      "Commands: init, status, new-version"]
    ⟨0, lines, none⟩
  | .version => ⟨0, ["strata-migrate 0.1.0"], none⟩

end SchemaEvolution.CommandLine
