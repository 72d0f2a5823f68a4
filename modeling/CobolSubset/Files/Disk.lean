import CobolSubset.Files.Error
import CobolSubset.Files.Path

/-!
# Disks

What a command needs of a file system. Commands are written over these operations alone, so they run
on a tree of files in memory as well as on a real disk.
-/

namespace CobolSubset

/-- The operations on files in a monad. -/
structure Disk (m : Type → Type) where
  /-- The text of a file. -/
  read : Path → m (Except FileError Text)
  /-- Makes the text the content of a file, which is created if it is not there. -/
  write : Path → Text → m (Except FileError Unit)
  /-- Creates a directory in an existing one. -/
  createDirectory : Path → m (Except FileError Unit)
  /-- Whether the path leads to a directory. -/
  isDirectory : Path → m Bool
  /-- The files in a directory, also in those below it if asked, each by the names that lead to it
  from there. A file given as directory is its own only entry. -/
  scan : Path → Bool → m (Except FileError (List (List Text)))

namespace Disk

variable {m : Type → Type} [Monad m]

/-- Creates a directory, which may also be there already. -/
def ensureDirectory (disk : Disk m) (path : Path) : m (Except FileError Unit) := do
  match ← disk.createDirectory path with
  | .ok () => return .ok ()
  | .error e => if ← disk.isDirectory path then return .ok () else return .error e

/-- Creates the directory at the end of some pieces, given from the last one on, and those above it
that are missing. -/
def createPieces (disk : Disk m) (start : Text) : List Text → m (Except FileError Unit)
  | [] => return .ok ()
  | piece :: above =>
    if Path.isIdle piece then disk.createPieces start above
    else do
      let path := start ++ Text.join ['/'] (piece :: above).reverse
      match ← disk.ensureDirectory path with
      | .error .notFound =>
        match ← disk.createPieces start above with
        | .ok () => disk.ensureDirectory path
        | .error e => return .error e
      | result => return result

/-- Creates a directory and those above it that are missing. -/
def createDirectories (disk : Disk m) (path : Path) : m (Except FileError Unit) :=
  let (start, body) := path.splitStart
  disk.createPieces start (Path.pieces body).reverse

end Disk

end CobolSubset
