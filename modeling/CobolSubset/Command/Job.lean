import CobolSubset.Command.Basic
import CobolSubset.Command.Failure
import CobolSubset.Files.Disk
import CobolSubset.Target.JavaName

/-!
# Jobs

A job is one file to be read, converted and written. Nothing is written unless the code is there.
-/

namespace CobolSubset

structure Job where
  input : Path
  output : Path
  options : Options
deriving DecidableEq, Repr

namespace Job

def className (choices : CodeChoices) (input : Path) : Text :=
  choices.className.getD (Java.className (input.stem?.getD []))

/-- The output for a file, if none is given: Java code goes to a file named like its class, Rust
code to one named like its source. -/
def defaultOutput (target : Target) (className : Text) (input directory : Path) : Path :=
  match target with
  | .java => Path.join directory (className ++ ".java".toList)
  | .rust => Path.withExtension (Path.join directory (input.fileName?.getD [])) Target.rust.extension

def plan (choices : CodeChoices) (input : Path) (output : Option Path) (directory : Path) : Job :=
  let name := className choices input
  { input
    output := output.getD (defaultOutput choices.target name input directory)
    options := choices.options name }

variable {m : Type → Type} [Monad m]

/-- An action on a path, its error turned into a failure. -/
def attempt {α : Type} (action : String) (path : Path) (act : m (Except FileError α)) :
    ExceptT Failure m α :=
  ExceptT.mk (Except.mapError (Failure.ofFile action path) <$> act)

def readSource (disk : Disk m) (path : Path) : ExceptT Failure m Text :=
  attempt "Failed to read" path (disk.read path)

/-- Creates the directory that a file is to stand in. -/
def makeRoom (disk : Disk m) (output : Path) : ExceptT Failure m Unit :=
  match output.parent? with
  | none | some [] => pure ()
  | some directory => attempt "Failed to create" directory (disk.createDirectories directory)

def writeCode (disk : Disk m) (output : Path) (code : Text) : ExceptT Failure m Unit :=
  attempt "Failed to write" output (disk.write output code)

/-- Does the job and gives the number of lines of the code. -/
def run (disk : Disk m) (symbols : SymbolTable) (job : Job) : ExceptT Failure m Nat := do
  let source ← readSource disk job.input
  let code ← (RuleSet.standard.convert job.options symbols source).mapError
    (Failure.ofConversion "Failed to translate" job.input)
  makeRoom disk job.output
  writeCode disk job.output code
  return code.lines.length

end Job

end CobolSubset
