import CobolSubset.Files.Disk

/-!
# Trees of files

Directories and files in memory. An entry is known by the names that lead to it from the root.
Relative paths start at the home directory. A path is followed name by name, so every directory on
the way has to be there.
-/

namespace CobolSubset

inductive Entry where
  | directory
  | text (content : Text)
  /-- A file whose bytes are no UTF-8. -/
  | bytes (content : List UInt8)
deriving DecidableEq, Repr

def Entry.isFile : Entry → Bool
  | directory => false
  | _ => true

/-- The names that lead from the root to an entry. -/
abbrev Location := List Text

/-- Files and directories, the root aside. -/
structure FileTree where
  home : Location := []
  entries : List (Location × Entry) := []
deriving DecidableEq, Repr

namespace FileTree

/-! ### Entries -/

def get? (tree : FileTree) (location : Location) : Option Entry :=
  if location.isEmpty then some .directory
  else (tree.entries.find? fun entry => entry.1 == location).map (·.2)

def insert (location : Location) (entry : Entry) : List (Location × Entry) → List (Location × Entry)
  | [] => [(location, entry)]
  | (other, old) :: rest =>
    if other = location then (location, entry) :: rest else (other, old) :: insert location entry rest

def put (tree : FileTree) (location : Location) (entry : Entry) : FileTree :=
  { tree with entries := insert location entry tree.entries }

/-- Finding an entry after putting one into a list of entries. -/
theorem find?_insert (location other : Location) (entry : Entry) (entries : List (Location × Entry)) :
    ((insert location entry entries).find? fun e => e.1 == other).map (·.2)
      = if other = location then some entry else (entries.find? fun e => e.1 == other).map (·.2) := by
  induction entries with
  | nil =>
    by_cases h : other = location
    · simp [insert, h]
    · simp [insert, h, Ne.symm h]
  | cons head rest ih =>
    obtain ⟨key, old⟩ := head
    by_cases hkey : key = location
    · subst hkey
      by_cases h : other = key
      · simp [insert, h]
      · simp [insert, h, Ne.symm h]
    · by_cases h : key = other
      · subst h
        simp [insert, hkey]
      · simp only [insert, if_neg hkey, List.find?_cons, beq_false_of_ne h]
        exact ih

/-- Putting an entry changes its own location and no other. -/
theorem get?_put (tree : FileTree) {location : Location} (hlocation : location ≠ []) (entry : Entry)
    (other : Location) :
    (tree.put location entry).get? other = if other = location then some entry else tree.get? other := by
  cases other with
  | nil => simp [get?, Ne.symm hlocation]
  | cons name names => exact find?_insert location (name :: names) entry tree.entries

/-! ### Following paths -/

def expectDirectory (tree : FileTree) (location : Location) : Except FileError Unit :=
  match tree.get? location with
  | none => .error .notFound
  | some .directory => .ok ()
  | some _ => .error .notDirectory

/-- Follows the pieces of a path from a location. Where there is a further piece there has to be a
directory. -/
def follow (tree : FileTree) (location : Location) : List Text → Except FileError Location
  | [] => .ok location
  | piece :: rest => do
    tree.expectDirectory location
    if Path.isIdle piece then tree.follow location rest
    else if piece = ['.', '.'] then tree.follow location.dropLast rest
    else tree.follow (location ++ [piece]) rest

def start (tree : FileTree) (path : Path) : Location := if path.isAbsolute then [] else tree.home

/-- The location that a path leads to. There may be nothing at its end. -/
def locate (tree : FileTree) (path : Path) : Except FileError Location :=
  if path.isEmpty then .error .notFound else tree.follow (tree.start path) (Path.pieces path)

/-- The pieces of a path without the empty ones at its end. -/
def solidPieces (path : Path) : List Text := ((Path.pieces path).reverse.dropWhile List.isEmpty).reverse

/-- The location for a new entry, if the last piece of the path is a name. Nothing is said if it is
not. -/
def locateNew (tree : FileTree) (path : Path) : Except FileError (Option Location) :=
  if path.isEmpty then .error .notFound
  else
    match (solidPieces path).getLast? with
    | none => .ok none
    | some last => do
      let directory ← tree.follow (tree.start path) (solidPieces path).dropLast
      tree.expectDirectory directory
      return if Path.isIdle last || last == ['.', '.'] then none else some (directory ++ [last])

/-! ### Operations -/

def read (tree : FileTree) (path : Path) : Except FileError Text := do
  let location ← tree.locate path
  match tree.get? location with
  | none => .error .notFound
  | some .directory => .error .isDirectory
  | some (.text content) => .ok content
  | some (.bytes _) => .error .notText

/-- Writes a file. A path that ends like that of a directory is refused. -/
def write (tree : FileTree) (path : Path) (content : Text) : Except FileError FileTree := do
  match ← tree.locateNew path with
  | none => .error .isDirectory
  | some location =>
    if path.getLast? = some '/' || tree.get? location = some .directory then .error .isDirectory
    else .ok (tree.put location (.text content))

def createDirectory (tree : FileTree) (path : Path) : Except FileError FileTree := do
  match ← tree.locateNew path with
  | none => .error .alreadyExists
  | some location =>
    if (tree.get? location).isSome then .error .alreadyExists else .ok (tree.put location .directory)

def isDirectory (tree : FileTree) (path : Path) : Bool :=
  match tree.locate path with
  | .ok location => tree.get? location == some .directory
  | .error _ => false

/-- The files below a location, by the names that lead to them from there. -/
def filesBelow (tree : FileTree) (location : Location) : List (List Text) :=
  tree.entries.filterMap fun (other, entry) =>
    if entry.isFile && location.isPrefixOf other then some (other.drop location.length) else none

/-- The files in a directory, also in those below it if asked. -/
def scan (tree : FileTree) (path : Path) (recursive : Bool) : Except FileError (List (List Text)) := do
  let location ← tree.locate path
  match tree.get? location with
  | none => .error .notFound
  | some .directory => .ok ((tree.filesBelow location).filter fun names => recursive || names.length == 1)
  | some _ => .ok [[]]

/-- Makes the outcome of a change the new tree, and leaves the tree as it is if there is none. -/
def change (act : FileTree → Except FileError FileTree) : StateM FileTree (Except FileError Unit) := fun tree =>
  match act tree with
  | .ok changed => (.ok (), changed)
  | .error e => (.error e, tree)

def disk : Disk (StateM FileTree) where
  read path := fun tree => (tree.read path, tree)
  write path content := change (·.write path content)
  createDirectory path := change (·.createDirectory path)
  isDirectory path := fun tree => (tree.isDirectory path, tree)
  scan path recursive := fun tree => (tree.scan path recursive, tree)

end FileTree

end CobolSubset
