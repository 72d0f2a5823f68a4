import CobolSubset.Files.Path
import CobolSubset.Symbols
import CobolSubset.Target.Basic

/-!
# Commands

What the program can be asked to do.
-/

namespace CobolSubset

/-- How a command writes its output. -/
inductive Format where
  | text
  | json
deriving DecidableEq, Repr

/-- The choices about generated code that all files of a command share. -/
structure CodeChoices where
  target : Target := .java
  keepQuotes : Bool := false
  /-- The name of the Java class, if it is not to follow from the name of the file. -/
  className : Option Text := none
  header : Bool := true
  database : Database := {}
  /-- Names and types in the order of their declaration. -/
  declarations : List (Text × Text) := []
deriving DecidableEq, Repr

namespace CodeChoices

def options (choices : CodeChoices) (className : Text) : Options where
  target := choices.target
  stripQuotes := !choices.keepQuotes
  className
  includeHeader := choices.header
  database := choices.database

def symbols (choices : CodeChoices) : SymbolTable := .ofList choices.declarations

end CodeChoices

/-- What to do with all COBOL files in a directory. -/
structure BatchChoices where
  input : Path
  outputDirectory : Path := "transcob_output".toList
  recursive : Bool := false
  jobs : Nat := 4
  keepGoing : Bool := false
  code : CodeChoices := {}
deriving DecidableEq, Repr

inductive Command where
  | transpile (input : Path) (output : Option Path) (code : CodeChoices)
  | batch (choices : BatchChoices)
  | tokens (input : Path)
  | ast (input : Path)
  | info (input : Path)
  /-- A script for a command interpreter, which is no part of this library. -/
  | completions (shell : Text)
deriving DecidableEq, Repr

/-- A command with the choices that all commands share. -/
structure Invocation where
  command : Command
  quiet : Bool := false
  format : Format := .text
deriving DecidableEq, Repr

/-- Whether people read the output along the way. -/
def Invocation.decorated (invocation : Invocation) : Bool :=
  !invocation.quiet && invocation.format == .text

end CobolSubset
