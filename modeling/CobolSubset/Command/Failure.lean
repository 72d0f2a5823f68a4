import CobolSubset.Conversion
import CobolSubset.Files.Error
import CobolSubset.Files.Path

/-!
# Failures

A command fails with a sentence and the causes behind it, the nearest first. The report shows them
on lines of their own, a list in the output of a command shows them on one line.
-/

namespace CobolSubset

/-- What went wrong, and why. -/
structure Failure where
  sentence : Text
  causes : List Text := []
deriving DecidableEq, Repr

namespace Failure

/-- The failure of an action on a path because of the file system. -/
def ofFile (action : String) (path : Path) (error : FileError) : Failure :=
  ⟨action.toList ++ ' ' :: path, [error.message]⟩

/-- The failure of an action on a source: the cause with the name of the stage, then the cause
alone. -/
def ofConversion (action : String) (path : Path) (error : ConversionError) : Failure :=
  ⟨action.toList ++ ' ' :: path, [error.message, error.inner]⟩

def line (failure : Failure) : Text :=
  Text.join ": ".toList (failure.sentence :: failure.causes)

/-! ### The report -/

/-- A text whose lines after the first start with the given margin. -/
def hang (margin : Nat) (text : Text) : Text :=
  Text.join ('\n' :: List.replicate margin ' ') (text.splitBy (· == '\n'))

def padLeft (width : Nat) (text : Text) : Text := List.replicate (width - text.length) ' ' ++ text

def numbered (number : Nat) : List Text → List Text
  | [] => []
  | cause :: more =>
    (padLeft 5 (Text.ofNat number) ++ ": ".toList ++ hang 7 cause) :: numbered (number + 1) more

/-- The lines of the causes. A single cause has no number. -/
def causeLines : List Text → List Text
  | [cause] => [List.replicate 4 ' ' ++ hang 4 cause]
  | causes => numbered 0 causes

def report (failure : Failure) : Text :=
  "Error: ".toList ++ failure.sentence
    ++ (if failure.causes.isEmpty then []
      else "\n\nCaused by:\n".toList ++ Text.join ['\n'] (causeLines failure.causes))
    ++ ['\n']

end Failure

end CobolSubset
