import CobolSubset.Text.Basic

/-!
# Java class names

The class of a program is named after its file: `payroll-run` becomes `PayrollRun`.
-/

namespace CobolSubset.Java

/-- A part of a name with a capital letter first and small letters after it. -/
def capitalize : Text → Text
  | [] => []
  | c :: rest => c.toUpper :: Text.toLower rest

/-- The class name for the stem of a file name. The parts between characters that are no ASCII
letters or digits are capitalized and joined. Where nothing is left the name is `Program`, and a
digit in front gets a low line before it. -/
def className (stem : Text) : Text :=
  match (stem.splitBy fun c => !c.isAlphanum).flatMap capitalize with
  | [] => "Program".toList
  | c :: rest => if c.isDigit then '_' :: c :: rest else c :: rest

end CobolSubset.Java
