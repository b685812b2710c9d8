/-!
# Command line arguments

Options stand before the command, each at most once: long ones with their value after an equals sign
or as the next argument, short ones also with their value attached. An argument that starts with a
dash is no value of the option before it.
-/

namespace SchemaEvolution.CommandLine

/-- What is to be done. -/
inductive Command where
  | init
  | status (json : Bool)
  | newVersion
  deriving DecidableEq, Repr

/-- An option with a value. -/
inductive Setting where
  | database
  | schema
  | table
  | group
  | config
  deriving DecidableEq, Repr

namespace Setting

/-- The long names of the options. -/
def long : List (String × Setting) :=
  [("database", .database), ("schema", .schema), ("table", .table), ("group", .group),
   ("config", .config)]

/-- The short names of the options. -/
def short : List (Char × Setting) :=
  [('d', .database), ('s', .schema), ('t', .table), ('g', .group), ('c', .config)]

end Setting

/-- Options and a command. -/
structure Invocation where
  settings : List (Setting × String)
  verbose : Bool
  command : Command
  deriving DecidableEq, Repr

/-- The value of an option. -/
def Invocation.get? (i : Invocation) (setting : Setting) : Option String :=
  i.settings.lookup setting

/-- Why arguments are no invocation: they are wrong, or ask for the usage or the version. -/
inductive Usage where
  | misuse
  | help
  | version
  deriving DecidableEq, Repr

/-- Options read so far. -/
structure Options where
  settings : List (Setting × String) := []
  verbose : Bool := false
  deriving DecidableEq, Repr

namespace Options

/-- Sets an option, once and, for the configuration file, not to nothing. -/
def set (o : Options) (setting : Setting) (value : String) : Except Usage Options :=
  if (o.settings.lookup setting).isSome || (setting = .config && value.isEmpty) then .error .misuse
  else .ok { o with settings := o.settings ++ [(setting, value)] }

/-- Sets the option to be verbose, once. -/
def setVerbose (o : Options) : Except Usage Options :=
  if o.verbose then .error .misuse else .ok { o with verbose := true }

end Options

/-- Whether an argument may be the value of an option. -/
def isValue (argument : String) : Bool :=
  argument == "-" || argument.toList.head? != some '-'

/-- The value of an option that is the next argument. -/
def nextValue : List String → Except Usage (String × List String)
  | value :: rest => if isValue value then .ok (value, rest) else .error .misuse
  | [] => .error .misuse

/-- Reads short options that stand together, and gives the arguments that follow. -/
def readShort (o : Options) : List Char → List String → Except Usage (Options × List String)
  | [], rest => .ok (o, rest)
  | 'v' :: more, rest =>
    match o.setVerbose with
    | .ok o => readShort o more rest
    | .error e => .error e
  | 'h' :: _, _ => .error .help
  | 'V' :: _, _ => .error .version
  | letter :: more, rest =>
    match Setting.short.lookup letter, more with
    | none, _ => .error .misuse
    | some setting, [] => do
      let (value, rest) ← nextValue rest
      .ok (← o.set setting value, rest)
    | some setting, '=' :: value => do .ok (← o.set setting (String.ofList value), rest)
    | some setting, value => do .ok (← o.set setting (String.ofList value), rest)

/-- Reads a long option, and gives the arguments that follow. -/
def readLong (o : Options) (body : List Char) (rest : List String) :
    Except Usage (Options × List String) :=
  let name := String.ofList (body.takeWhile (· != '='))
  let attached := match body.dropWhile (· != '=') with
    | [] => none
    | _ :: value => some (String.ofList value)
  match Setting.long.lookup name, attached with
  | some setting, some value => do .ok (← o.set setting value, rest)
  | some setting, none => do
    let (value, rest) ← nextValue rest
    .ok (← o.set setting value, rest)
  | none, some _ => .error .misuse
  | none, none =>
    if name == "verbose" then do .ok (← o.setVerbose, rest)
    else if name == "help" then .error .help
    else if name == "version" then .error .version
    else .error .misuse

/-- Reads the flags of a command: whether the one for JSON, if the command has it, is given, which
may be once. Nothing follows two dashes. -/
def readFlags (hasJson json : Bool) : List String → Except Usage Bool
  | [] => .ok json
  | argument :: rest =>
    match argument.toList with
    | ['-', '-'] => if rest.isEmpty then .ok json else .error .misuse
    | '-' :: 'h' :: _ => .error .help
    | _ =>
      if argument == "--help" then .error .help
      else if hasJson && !json && argument == "--json" then readFlags hasJson true rest
      else .error .misuse

/-- The commands by their names. -/
def commandNames : List String := ["init", "status", "new-version", "help"]

/-- Reads a command and its own arguments. -/
def readCommand (name : String) (arguments : List String) : Except Usage Command :=
  match name with
  | "init" => do
    let _ ← readFlags false false arguments
    .ok .init
  | "status" => do .ok (.status (← readFlags true false arguments))
  | "new-version" => do
    let _ ← readFlags false false arguments
    .ok .newVersion
  | "help" =>
    match arguments with
    | [] => .error .help
    | [about] => .error (if commandNames.contains about then .help else .misuse)
    | _ => .error .misuse
  | _ => .error .misuse

/-- Reads options and a command. -/
def readArguments (o : Options) : Nat → List String → Except Usage Invocation
  | 0, _ => .error .misuse
  | _, [] => .error .misuse
  | fuel + 1, argument :: rest =>
    match argument.toList with
    | '-' :: '-' :: [] => .error .misuse
    | '-' :: '-' :: body => do
      let (o, rest) ← readLong o body rest
      readArguments o fuel rest
    | '-' :: letter :: more => do
      let (o, rest) ← readShort o (letter :: more) rest
      readArguments o fuel rest
    | _ => do
      let command ← readCommand argument rest
      .ok ⟨o.settings, o.verbose, command⟩

/-- The invocation that arguments ask for. -/
def parseArguments (arguments : List String) : Except Usage Invocation :=
  readArguments {} (arguments.length + 1) arguments

end SchemaEvolution.CommandLine
