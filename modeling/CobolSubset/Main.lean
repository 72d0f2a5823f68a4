import CobolSubset.Command.Line

/-!
# The program

Runs the command line on the real disk.
-/

namespace CobolSubset

namespace RealDisk

/-- The error of the file system behind an error of the system, whose number may have its sign
changed. -/
def fileError : IO.Error → FileError
  | .noFileOrDirectory _ _ _ => .notFound
  | .alreadyExists _ _ _ => .alreadyExists
  | .inappropriateType _ number _ => if number = 20 || number = 0 - 20 then .notDirectory else .isDirectory
  | e => .system e.toString.toList 0

/-- Runs an action and keeps its error. -/
def attempt {α : Type} (act : IO α) : IO (Except FileError α) := do
  try
    let value ← act
    return .ok value
  catch e => return .error (fileError e)

/-- Reads a file whose bytes have to be UTF-8. -/
def readText (path : Path) : IO (Except FileError Text) := do
  match ← attempt (IO.FS.readBinFile (String.ofList path)) with
  | .error e => return .error e
  | .ok bytes =>
    match String.fromUTF8? bytes with
    | some s => return .ok s.toList
    | none => return .error .notText

def isDirectory (path : Path) : IO Bool := do
  match ← attempt (IO.FS.realPath (String.ofList path)) with
  | .ok real => real.isDir
  | .error _ => return false

/-- The files among some entries, and below them if asked. -/
partial def filesAmong (recursive : Bool) (above : List Text) (entries : List IO.FS.DirEntry) :
    IO (List (List Text)) := do
  let mut found := []
  for entry in entries do
    let names := above ++ [entry.fileName.toList]
    match (← entry.path.symlinkMetadata).type with
    | .file => found := found ++ [names]
    | .dir =>
      if recursive then
        let below ← entry.path.readDir
        found := found ++ (← filesAmong recursive names below.toList)
    | _ => pure ()
  return found

/-- The files in a directory. A file is its own only entry. -/
def scan (path : Path) (recursive : Bool) : IO (Except FileError (List (List Text))) :=
  attempt do
    let real ← IO.FS.realPath (String.ofList path)
    if ← real.isDir then
      let entries ← real.readDir
      filesAmong recursive [] entries.toList
    else return [[]]

end RealDisk

def realDisk : Disk IO where
  read := RealDisk.readText
  write path content :=
    RealDisk.attempt (IO.FS.writeFile (String.ofList path) (String.ofList content))
  createDirectory path := RealDisk.attempt (IO.FS.createDir (String.ofList path))
  isDirectory := RealDisk.isDirectory
  scan := RealDisk.scan

end CobolSubset

/-- Carries out what the arguments ask for and ends with the exit code. -/
def main (arguments : List String) : IO UInt32 := do
  let outcome ← CobolSubset.runArguments CobolSubset.realDisk (arguments.map String.toList)
  IO.print (String.ofList outcome.output)
  IO.eprint (String.ofList outcome.report)
  return UInt32.ofNat outcome.code
