import SchemaEvolution.CommandLine.Host
import Std.Time.DateTime.Timestamp

/-!
# The command line program

The program on the machine that it runs on.
-/

namespace SchemaEvolution.CommandLine

/-- Why an action on a file failed. -/
def fileFailure (e : IO.Error) : FileFailure :=
  match e with
  | .noFileOrDirectory .. => .missing
  | .permissionDenied .. => .denied
  | .inappropriateType _ code _ => ofCode code
  | .invalidArgument _ code _ => ofCode code
  | .resourceExhausted _ code _ => ofCode code
  | .otherError code _ => ofCode code
  | .userError _ => .notText
  | e => .other e.toString
where
  /-- Why an action failed, by its code. -/
  ofCode (code : UInt32) : FileFailure :=
    if code = 20 then .notDirectory
    else if code = 21 then .directory
    else if code = 36 then .nameTooLong
    else .other e.toString

/-- The machine that the program runs on. -/
def machine : Host IO where
  now := do
    let timestamp ← Std.Time.Timestamp.now
    pure (Moment.ofUnixSeconds timestamp.toSecondsSinceUnixEpoch.val)
  databaseUrl := IO.getEnv "DATABASE_URL"
  here := do return (← IO.currentDir).toString
  read path := do
    try
      return .ok (← IO.FS.readFile path)
    catch e => return .error (fileFailure e)
  write path text := do
    try
      IO.FS.writeFile path text
      return .ok ()
    catch e => return .error (fileFailure e)

end SchemaEvolution.CommandLine

/-- Prints the report of a command and ends with its code. -/
def main (arguments : List String) : IO UInt32 := do
  let report ← SchemaEvolution.CommandLine.machine.carryOut arguments
  for line in report.stdout do
    IO.println line
  for line in report.stderr do
    IO.eprintln line
  pure (UInt32.ofNat report.code)
