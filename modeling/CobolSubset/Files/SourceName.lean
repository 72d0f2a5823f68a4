import CobolSubset.Text.Basic

/-!
# Names of COBOL files

A COBOL file is known by its extension, in small or capital letters.
-/

namespace CobolSubset

def cobolExtensions : List Text := ["cob".toList, "cbl".toList, "cpy".toList]

def isCobolExtension (extension : Text) : Bool :=
  cobolExtensions.contains (Text.toLower extension)

/-- The text behind the last point, if there is a point. -/
def behindLastPoint? : Text → Option Text
  | [] => none
  | c :: rest => (behindLastPoint? rest).or (if c = '.' then some rest else none)

/-- Whether the text behind the last point of a file name is the extension of a COBOL file. -/
def isCobolName (name : Text) : Bool :=
  (behindLastPoint? name).any isCobolExtension

end CobolSubset
