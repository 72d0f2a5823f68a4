import CobolSubset.Arguments.Table
import CobolSubset.Command.Execute

/-!
# The command line

From the arguments of the program to its outcome.
-/

namespace CobolSubset

/-- The outcome where there is no command to carry out. -/
def Halt.outcome : Halt → Outcome
  | usage error => ⟨2, [], error.message ++ ['\n']⟩
  | help => ⟨0, UsageError.nothing.message ++ ['\n'], []⟩
  | version => ⟨0, "transcob 0.1.0\n".toList, []⟩

/-- Carries out what the arguments ask for. -/
def runArguments {m : Type → Type} [Monad m] (disk : Disk m) (arguments : List Text) : m Outcome := do
  match Arguments.parse arguments with
  | .error halt => return halt.outcome
  | .ok invocation =>
    let run ← invocation.run disk
    return run.outcome

end CobolSubset
