import CobolSubset.Command.Batch
import CobolSubset.Command.Inspect

/-!
# Carrying out commands

A command runs on a disk and ends with an exit code, what it wrote, and the report of its failure if
it failed.
-/

namespace CobolSubset

structure Outcome where
  code : Nat
  output : Text
  report : Text
deriving DecidableEq, Repr

def Run.outcome (run : Run) : Outcome :=
  match run.result with
  | .ok () => ⟨0, run.output, []⟩
  | .error failure => ⟨1, run.output, failure.report⟩

namespace Invocation

/-! ### Converting one file -/

/-- The job of converting one file. Without an output the code goes to the directory of the source.
-/
def singleJob (input : Path) (output : Option Path) (choices : CodeChoices) : Job :=
  Job.plan choices input output (input.parent?.getD [])

def announcement (job : Job) : Text :=
  "\nTranspiling ".toList ++ job.input ++ " -> ".toList ++ job.output ++ "\n  Target: ".toList
    ++ job.options.target.key ++ ['\n']

def jobReport (invocation : Invocation) (job : Job) (lines : Nat) : Text :=
  if invocation.quiet then []
  else
    match invocation.format with
    | .text =>
      "[OK] Transpilation complete!\n  Output: ".toList ++ job.output ++ " (".toList ++ Text.ofNat lines
        ++ " lines)\n".toList
    | .json =>
      (Json.object [("input".toList, .string job.input), ("output".toList, .string job.output),
        ("target".toList, .string job.options.target.key), ("lines".toList, .ofNat lines)]).pretty ++ ['\n']

variable {m : Type → Type} [Monad m]

def runSingle (disk : Disk m) (invocation : Invocation) (input : Path) (output : Option Path)
    (choices : CodeChoices) : m Run := do
  let job := singleJob input output choices
  let opening := if invocation.decorated then announcement job else []
  match ← (Job.run disk choices.symbols job).run with
  | .ok lines => return { output := opening ++ invocation.jobReport job lines }
  | .error failure => return { output := opening, result := .error failure }

/-! ### All commands -/

def runLook (disk : Disk m) (path : Path) (look : Path → Text → Except Failure Text) : m Run := do
  match ← (Job.readSource disk path).run with
  | .error failure => return { output := [], result := .error failure }
  | .ok source =>
    match look path source with
    | .ok output => return { output }
    | .error failure => return { output := [], result := .error failure }

def run (disk : Disk m) (invocation : Invocation) : m Run :=
  match invocation.command with
  | .transpile input output choices => runSingle disk invocation input output choices
  | .batch choices => Batch.run disk invocation choices
  | .tokens input => runLook disk input (Inspect.tokensOf invocation.format)
  | .ast input => runLook disk input (Inspect.treeOf invocation.format)
  | .info input => runLook disk input (Inspect.infoOf invocation.format)
  | .completions _ => return { output := [] }

end Invocation

end CobolSubset
