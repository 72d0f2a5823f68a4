import CobolSubset.Arguments.Number
import CobolSubset.Command.Basic
import CobolSubset.Text.Blank

/-!
# Arguments

An argument of the command line is a flag, an option with a value, or a value that stands by itself.
Each sets one thing.
-/

namespace CobolSubset

/-- What an argument sets. -/
inductive Setting where
  | verbose
  | quiet
  | format (format : Format)
  | input (path : Path)
  | output (path : Path)
  | outputDirectory (path : Path)
  | recursive
  | jobs (n : Nat)
  | keepGoing
  | target (target : Target)
  | keepQuotes
  | className (name : Text)
  | noHeader
  | host (text : Text)
  | portNumber (n : UInt16)
  | database (text : Text)
  | user (text : Text)
  | password (text : Text)
  | declare (name type : Text)
  | shell (name : Text)
deriving DecidableEq, Repr

inductive ValueError where
  /-- There has to be a value, and the empty text is none. -/
  | missing
  /-- The value is none of the allowed ones. -/
  | unknown
  | because (reason : Text)
deriving DecidableEq, Repr

/-- What giving an argument does. -/
inductive Action where
  /-- Sets something. -/
  | flag (setting : Setting)
  /-- Reads a value. Unless it is `repeatable` it may be given once only. -/
  | value (valueName : Text) (repeatable : Bool) (read : Text → Except ValueError Setting)
  /-- Ends the program with a help text. -/
  | help
  /-- Ends the program with its name and version. -/
  | version

/-- An argument that is given by name. -/
structure Argument where
  long : Text
  short : Option Char := none
  action : Action

namespace Argument

def label (argument : Argument) : Text :=
  "--".toList ++ argument.long
    ++ match argument.action with
      | .value valueName _ _ => " <".toList ++ valueName ++ ['>']
      | _ => []

end Argument

/-- A value that stands by itself. -/
structure Positional where
  name : Text
  read : Text → Except ValueError Setting

def Positional.label (positional : Positional) : Text := '<' :: positional.name ++ ['>']

/-! ### Values -/

namespace Setting

/-- A path, which is not empty. -/
def ofPath (set : Path → Setting) (text : Text) : Except ValueError Setting :=
  if text.isEmpty then .error .missing else .ok (set text)

def ofText (set : Text → Setting) (text : Text) : Except ValueError Setting := .ok (set text)

def ofChoice {α : Type} (choices : List (String × α)) (set : α → Setting) (text : Text) :
    Except ValueError Setting :=
  match choices.find? fun choice => choice.1.toList == text with
  | some choice => .ok (set choice.2)
  | none => .error (if text.isEmpty then .missing else .unknown)

/-- The number at which a server listens. -/
def ofPort (text : Text) : Except ValueError Setting :=
  match Number.signed text with
  | .error e => .error (.because e.message)
  | .ok n =>
    if 0 ≤ n ∧ n < 65536 then .ok (.portNumber (UInt16.ofNat n.toNat))
    else .error (.because (Number.text n ++ " is not in 0..=65535".toList))

def ofCount (text : Text) : Except ValueError Setting :=
  match Number.unsigned text with
  | .error e => .error (.because e.message)
  | .ok n => .ok (.jobs n)

/-- A name and a type with an equals sign between them, and blanks around them that do not count. -/
def ofDeclaration (text : Text) : Except ValueError Setting :=
  let (name, type) := text.cutAt (· == '=')
  let name := Text.trim name
  let type := Text.trim (type.getD [])
  if name.isEmpty || type.isEmpty then
    .error (.because ("expected NAME=TYPE, got `".toList ++ text ++ ['`']))
  else .ok (.declare name type)

end Setting

/-! ### Errors -/

/-- Why the arguments cannot be used. -/
inductive UsageError where
  /-- There are no arguments at all. -/
  | nothing
  /-- There is no command. -/
  | noCommand
  | unknownCommand (name : Text)
  /-- An unknown option, or a value too many. -/
  | unexpected (argument : Text)
  /-- A value that has to be given is not. -/
  | incomplete
  | noValue (label : Text)
  | invalidValue (value label : Text) (reason : Option Text)
  | repeated (label : Text)
  /-- A value for a flag. -/
  | needlessValue (value label : Text)
deriving DecidableEq, Repr

namespace UsageError

def message : UsageError → Text
  | nothing => "Translate a COBOL subset into Java or Rust".toList
  | noCommand => "error: 'transcob' requires a subcommand but one was not provided".toList
  | unknownCommand name => "error: unrecognized subcommand '".toList ++ name ++ "'".toList
  | unexpected argument => "error: unexpected argument '".toList ++ argument ++ "' found".toList
  | incomplete => "error: the following required arguments were not provided:".toList
  | noValue label => "error: a value is required for '".toList ++ label ++ "' but none was supplied".toList
  | invalidValue value label reason =>
    "error: invalid value '".toList ++ value ++ "' for '".toList ++ label ++ "'".toList
      ++ match reason with
        | some reason => ": ".toList ++ reason
        | none => []
  | repeated label => "error: the argument '".toList ++ label ++ "' cannot be used multiple times".toList
  | needlessValue value label =>
    "error: unexpected value '".toList ++ value ++ "' for '".toList ++ label
      ++ "' found; no more were expected".toList

end UsageError

def ValueError.usage (error : ValueError) (value label : Text) : UsageError :=
  match error with
  | missing => .noValue label
  | unknown => .invalidValue value label none
  | because reason => .invalidValue value label (some reason)

end CobolSubset
