import CobolSubset.Arguments.Parser

/-!
# The arguments of the program

Which commands there are and which arguments each of them takes, and the command that a list of
arguments stands for.
-/

namespace CobolSubset

namespace Arguments

/-! ### Arguments -/

def flag (long : String) (setting : Setting) : Argument where
  long := long.toList
  action := .flag setting

def option (long valueName : String) (read : Text → Except ValueError Setting) : Argument where
  long := long.toList
  action := .value valueName.toList false read

def withShort (argument : Argument) (short : Char) : Argument := { argument with short := some short }

def targets : List (String × Target) := [("java", .java), ("rust", .rust)]

def formats : List (String × Format) := [("text", .text), ("json", .json)]

def shells : List (String × Text) :=
  ["bash", "elvish", "fish", "powershell", "zsh"].map fun name => (name, name.toList)

/-- The arguments that may be given before and after the command. -/
def shared : List Argument :=
  [withShort (flag "verbose" .verbose) 'v', withShort (flag "quiet" .quiet) 'q',
    option "format" "FORMAT" (Setting.ofChoice formats .format),
    { long := "help".toList, short := some 'h', action := .help }]

/-- The arguments about generated code. -/
def code : List Argument :=
  [withShort (option "target" "TARGET" (Setting.ofChoice targets .target)) 't',
    flag "keep-quotes" .keepQuotes,
    option "class-name" "CLASS_NAME" (Setting.ofText .className),
    flag "no-header" .noHeader,
    option "db-host" "DB_HOST" (Setting.ofText .host),
    option "db-port" "DB_PORT" Setting.ofPort,
    option "db-name" "DB_NAME" (Setting.ofText .database),
    option "db-user" "DB_USER" (Setting.ofText .user),
    option "db-password" "DB_PASSWORD" (Setting.ofText .password),
    { long := "declare".toList, action := .value "NAME=TYPE".toList true Setting.ofDeclaration }]

/-! ### From settings to commands -/

def applyCode (choices : CodeChoices) : Setting → CodeChoices
  | .target target => { choices with target }
  | .keepQuotes => { choices with keepQuotes := true }
  | .className name => { choices with className := some name }
  | .noHeader => { choices with header := false }
  | .host host => { choices with database := { choices.database with host } }
  | .portNumber portNumber => { choices with database := { choices.database with portNumber } }
  | .database database => { choices with database := { choices.database with database } }
  | .user user => { choices with database := { choices.database with user } }
  | .password password => { choices with database := { choices.database with password } }
  | .declare name type => { choices with declarations := choices.declarations ++ [(name, type)] }
  | _ => choices

def applyBatch (choices : BatchChoices) : Setting → BatchChoices
  | .input input => { choices with input }
  | .outputDirectory outputDirectory => { choices with outputDirectory }
  | .recursive => { choices with recursive := true }
  | .jobs jobs => { choices with jobs }
  | .keepGoing => { choices with keepGoing := true }
  | setting => { choices with code := applyCode choices.code setting }

def applyShared (invocation : Invocation) : Setting → Invocation
  | .quiet => { invocation with quiet := true }
  | .format format => { invocation with format }
  | _ => invocation

def input (settings : List Setting) : Text :=
  (settings.findSome? fun setting =>
    match setting with
    | .input path => some path
    | .shell name => some name
    | _ => none).getD []

def output? (settings : List Setting) : Option Path :=
  settings.findSome? fun setting =>
    match setting with
    | .output path => some path
    | _ => none

/-! ### Commands -/

/-- A command: its name, its arguments, and what they make of it. -/
structure CommandForm where
  name : Text
  level : Level
  build : List Setting → Command

def inputPath (name : String) : Positional := ⟨name.toList, Setting.ofPath .input⟩

def transpile : CommandForm where
  name := "transpile".toList
  level :=
    { arguments := withShort (option "output" "OUTPUT" (Setting.ofPath .output)) 'o' :: code ++ shared
      positional := some (inputPath "INPUT") }
  build settings := .transpile (input settings) (output? settings) (settings.foldl applyCode {})

def batch : CommandForm where
  name := "batch".toList
  level :=
    { arguments :=
        [withShort (option "output-dir" "OUTPUT_DIR" (Setting.ofPath .outputDirectory)) 'o',
          withShort (flag "recursive" .recursive) 'r',
          withShort (option "jobs" "JOBS" Setting.ofCount) 'j',
          flag "keep-going" .keepGoing] ++ code ++ shared
      positional := some (inputPath "INPUT") }
  build settings := .batch (settings.foldl applyBatch { input := [] })

def look (name valueName : String) (command : Path → Command) : CommandForm where
  name := name.toList
  level := { arguments := shared, positional := some (inputPath valueName) }
  build settings := command (input settings)

def completions : CommandForm where
  name := "completions".toList
  level := { arguments := shared, positional := some ⟨"SHELL".toList, Setting.ofChoice shells .shell⟩ }
  build settings := .completions (input settings)

def commands : List CommandForm :=
  [transpile, batch, look "tokens" "INPUT" .tokens, look "ast" "INPUT" .ast, look "info" "FILE" .info,
    completions]

/-- The arguments of the program itself. There is a further command that explains the others. -/
def top : Level where
  arguments := shared ++ [{ long := "version".toList, short := some 'V', action := .version }]
  commands := commands.map (·.name) ++ ["help".toList]

/-! ### The command line -/

/-- What asking for help on some commands leads to. -/
def helpOn : List Text → Halt
  | [] => .help
  | name :: rest =>
    if top.commands.contains name then
      match rest with
      | [] => .help
      | other :: _ => .usage (.unknownCommand other)
    else .usage (.unknownCommand name)

def withoutCommand (settings : List Setting) : UsageError :=
  if settings.isEmpty then .nothing else .noCommand

/-- Reads the arguments of a command, and then looks at what is pending before it. -/
def parseCommand (form : CommandForm) (before : Progress) (arguments : List Text) : Except Halt Invocation := do
  let (inner, _) ← form.level.takeAll {} arguments
  let settings ← form.level.finish inner
  let shared ← top.finish before
  return (shared ++ settings).foldl applyShared { command := form.build settings }

/-- The command that a list of arguments stands for. -/
def parse (arguments : List Text) : Except Halt Invocation := do
  match ← top.takeAll {} arguments with
  | (progress, none) =>
    let settings ← top.finish progress
    .error (.usage (withoutCommand settings))
  | (progress, some (name, rest)) =>
    match commands.find? fun form => form.name == name with
    | some form => parseCommand form progress rest
    | none => .error (helpOn rest)

end Arguments

end CobolSubset
