import CobolSubset.Target.RustGrammar
import CobolSubset.Target.RustString

/-!
# Rust code line by line

A statement stands on one line if the line, with its indentation, has no more than 89 bytes.
Otherwise it is broken: what stands between brackets goes to lines of its own, and what follows a
point may do so before.
-/

namespace CobolSubset.Rust

/-- The greatest length of a line, in bytes. -/
def lineLimit : Nat := 89

def fits (line : Text) : Bool := line.byteLength ≤ lineLimit

def indented (depth : Nat) (line : Text) : Text := List.replicate (4 * depth) ' ' ++ line

/-- The one line if it is short enough, else the others. -/
def fitOr (line : Text) (broken : List Text) : List Text := if fits line then [line] else broken

def Literal.inline (literal : Literal) : Text :=
  (if literal.negative then ['-'] else []) ++ literal.text

def argument (name : Text) : Text := "&mut ".toList ++ name

def printLines (text : Text) : List Text :=
  let literal := quote text
  fitOr (indented 1 ("println!(\"\x7b\x7d\", ".toList ++ literal ++ ");".toList))
    ([indented 1 "println!(".toList]
      ++ fitOr (indented 2 ("\"\x7b\x7d\", ".toList ++ literal))
        [indented 2 "\"\x7b\x7d\",".toList, indented 2 literal]
      ++ [indented 1 ");".toList])

/-- The lines of a call. Without arguments there is nothing to break. -/
def callLines (module : Text) (arguments : List Text) : List Text :=
  let line := indented 1 (module ++ "::call(".toList ++ Text.join ", ".toList (arguments.map argument)
    ++ ");".toList)
  if arguments.isEmpty then [line]
  else
    fitOr line
      ([indented 1 (module ++ "::call(".toList)]
        ++ arguments.map (fun name => indented 2 (argument name ++ [',']))
        ++ [indented 1 ");".toList])

def poolLines (url : Text) : List Text :=
  let literal := quote url
  fitOr (indented 2 ("let pool = mysql::Pool::new(".toList ++ literal ++ ")?;".toList))
    [indented 2 "let pool = mysql::Pool::new(".toList, indented 3 (literal ++ [',']), indented 2 ")?;".toList]

def rowLines (query : Text) : List Text :=
  let literal := quote query
  let start := "let row: Option<String> = conn".toList
  let send := ".query_first(".toList
  fitOr (indented 2 (start ++ send ++ literal ++ ")?;".toList))
    (indented 2 start
      :: fitOr (indented 3 (send ++ literal ++ ")?;".toList))
        [indented 3 send, indented 4 (literal ++ [',']), indented 3 ")?;".toList])

/-- The lines of the block for a query. -/
def queryLines (url query : Text) : List Text :=
  [indented 1 "\x7b".toList]
    ++ poolLines url
    ++ [indented 2 "let mut conn = pool.get_conn()?;".toList]
    ++ rowLines query
    ++ [indented 2 "if let Some(value) = row \x7b".toList,
      indented 3 "println!(\"\x7b\x7d\", value);".toList,
      indented 2 "\x7d".toList,
      indented 1 "\x7d".toList]

def Statement.lines : Statement → List Text
  | print text => printLines text
  | assign name value => [indented 1 (name ++ " = ".toList ++ value.inline ++ ";".toList)]
  | exit => [indented 1 "std::process::exit(0);".toList]
  | call module arguments => callLines module arguments
  | query url text => queryLines url text

def Program.lines (program : Program) : List Text :=
  (if program.header then ["//! Transpiled from COBOL by transcob".toList] else [])
    ++ (if program.usesDatabase then ["use mysql::prelude::Queryable;".toList] else [])
    ++ ["fn main() -> Result<(), Box<dyn std::error::Error>> \x7b".toList]
    ++ program.statements.flatMap Statement.lines
    ++ [indented 1 "Ok(())".toList, "\x7d".toList]

/-- The text of a file, each line ended by a line feed. -/
def Program.text (program : Program) : Text :=
  program.lines.flatMap (· ++ ['\n'])

/-- The code for a tree. It is laid out after it has been read back. -/
def generate (options : Options) (root : Node) : Except GenerateError Text := do
  let program ← Program.ofNode options root
  let program ← program.readBack
  return program.text

end CobolSubset.Rust
