import CobolSubset.Text.Basic

/-!
# Paths

A path is a text whose parts are divided by slashes. Empty parts and single points mean nothing, a
leading slash or point aside; two points go up. The functions here only look at the text, never at
the files.
-/

namespace CobolSubset

/-- A path as it was written. -/
abbrev Path := Text

namespace Path

/-- A part of a path that means something. -/
inductive Component where
  /-- The slash at the start. -/
  | root
  /-- The point at the start. -/
  | current
  /-- Two points. -/
  | up
  | name (n : Text)
deriving DecidableEq, Repr, Ord

/-- Whether a piece between slashes means nothing. -/
def isIdle (piece : Text) : Bool := piece == [] || piece == ['.']

def pieces (text : Text) : List Text := text.splitBy (· == '/')

def isAbsolute : Path → Bool
  | '/' :: _ => true
  | _ => false

/-- Whether the first piece is a single point. -/
def startsHere : Path → Bool
  | ['.'] => true
  | '.' :: '/' :: _ => true
  | _ => false

/-- The slash or point that the path starts with, if it does, and what follows it. -/
def splitStart (path : Path) : Text × Text :=
  if path.isAbsolute || path.startsHere then (path.take 1, path.drop 1) else ([], path)

/-! ### Components -/

def Component.ofPiece (piece : Text) : Component :=
  if piece = ['.', '.'] then up else name piece

def startComponents : Text → List Component
  | ['/'] => [.root]
  | ['.'] => [.current]
  | _ => []

def components (path : Path) : List Component :=
  let (start, body) := path.splitStart
  startComponents start ++ ((pieces body).filter (!isIdle ·)).map Component.ofPiece

def same (a b : Path) : Bool := a.components == b.components

/-- Whether a path comes before another one, or has the same components: names in order of their
characters, from the first component on. -/
def le (a b : Path) : Bool := (compare a.components b.components).isLE

/-! ### The last component -/

/-- The pieces without the idle ones at the end. -/
def trimEnd (pieces : List Text) : List Text := (pieces.reverse.dropWhile isIdle).reverse

/-- The path without its last component, if it has one that is not the root. -/
def parent? (path : Path) : Option Path :=
  let (start, body) := path.splitStart
  match trimEnd (pieces body) with
  | [] => if start = ['.'] then some [] else none
  | all => some (start ++ Text.join ['/'] (trimEnd all.dropLast))

/-- The last component, if it is a name. -/
def fileName? (path : Path) : Option Text :=
  match path.components.getLast? with
  | some (.name n) => some n
  | _ => none

/-- A file name cut at its last point. A point at the very start does not count. -/
def cutExtension (name : Text) : Text × Option Text :=
  let behind := name.reverse.takeWhile (· != '.')
  if behind.length + 1 < name.length then
    (name.take (name.length - behind.length - 1), some behind.reverse)
  else (name, none)

def stem? (path : Path) : Option Text := path.fileName?.map fun name => (cutExtension name).1

def extension? (path : Path) : Option Text := path.fileName?.bind fun name => (cutExtension name).2

/-! ### New paths -/

/-- One path below another. An absolute path stays alone. -/
def join (base path : Path) : Path :=
  if path.isAbsolute then path
  else if base.isEmpty || base.getLast? = some '/' then base ++ path
  else base ++ '/' :: path

/-- The path up to the end of its last name, if it ends in a name. -/
def upToName (path : Path) : Path :=
  let (start, body) := path.splitStart
  start ++ Text.join ['/'] (trimEnd (pieces body))

/-- The path with an extension behind the stem of its file name. Without a file name it stays as it
is. -/
def setExtension (path : Path) (extension : Text) : Path :=
  match path.fileName? with
  | none => path
  | some name =>
    let stem := (cutExtension name).1
    let whole := path.upToName
    whole.take (whole.length - (name.length - stem.length)) ++ '.' :: extension

/-- The path with another extension: the old one is cut off before the new one is set. -/
def withExtension (path : Path) (extension : Text) : Path :=
  match path.extension? with
  | none => path.setExtension extension
  | some old => setExtension (path.take (path.length - old.length)) extension

end Path

end CobolSubset
