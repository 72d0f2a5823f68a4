import CobolSubset.Text.Basic

/-!
# Errors of the file system
-/

namespace CobolSubset

inductive FileError where
  | notFound
  | alreadyExists
  | notDirectory
  | isDirectory
  /-- The bytes of the file are no UTF-8. -/
  | notText
  /-- Another error of the system, with its number. -/
  | system (text : Text) (number : Nat)
deriving DecidableEq, Repr

namespace FileError

/-- A text with the number that the system gives the error. -/
def numbered (text : Text) (number : Nat) : Text :=
  text ++ " (os error ".toList ++ Text.ofNat number ++ ")".toList

def message : FileError → Text
  | notFound => numbered "No such file or directory".toList 2
  | alreadyExists => numbered "File exists".toList 17
  | notDirectory => numbered "Not a directory".toList 20
  | isDirectory => numbered "Is a directory".toList 21
  | notText => "stream did not contain valid UTF-8".toList
  | system text number => numbered text number

end FileError

end CobolSubset
