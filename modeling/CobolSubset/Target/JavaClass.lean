import CobolSubset.Statement.Basic
import CobolSubset.Symbols
import CobolSubset.Target.Basic

/-!
# Java code

A program becomes a class with one method `main`. Every statement is a line of that method, or a
block of seven lines for an embedded query.
-/

namespace CobolSubset.Java

/-! ### Literals -/

def escapeChar (c : Char) : Text :=
  match c with
  | '\\' => "\\\\".toList
  | '"' => "\\\"".toList
  | '\n' => "\\n".toList
  | '\r' => "\\r".toList
  | '\t' => "\\t".toList
  | c => [c]

def escape (text : Text) : Text := text.flatMap escapeChar

/-- A text between quotation marks, as it is. -/
def quoted (text : Text) : Text := '"' :: text ++ ['"']

def literal (text : Text) : Text := quoted (escape text)

/-! ### Statements -/

def indent : Text := List.replicate 8 ' '

def bodyLine (text : Text) : Text := indent ++ text ++ ['\n']

/-- The inside of the literal of a `DISPLAY`. Where quotation marks are kept the text is taken as it
is. -/
def displayText (options : Options) (raw : Text) : Text :=
  if options.stripQuotes then escape (stripQuotes raw) else raw

/-- The remark behind an assignment to a declared variable. -/
def typeRemark (symbols : SymbolTable) (name : Text) : Text :=
  match symbols.type? name with
  | some type => " // ".toList ++ type
  | none => []

/-- The block that sends a query and shows the first column of the first row. -/
def queryBlock (db : Database) (query : Text) : Text :=
  bodyLine ("try (Connection conn = DriverManager.getConnection(".toList ++ literal db.jdbcUrl ++ ", ".toList
      ++ literal db.user ++ ", ".toList ++ literal db.password ++ ");".toList)
    ++ bodyLine ("     PreparedStatement stmt = conn.prepareStatement(".toList ++ literal query
      ++ ")) \x7b".toList)
    ++ bodyLine "    ResultSet rs = stmt.executeQuery();".toList
    ++ bodyLine "    if (rs.next()) \x7b".toList
    ++ bodyLine "        System.out.println(rs.getString(1));".toList
    ++ bodyLine "    \x7d".toList
    ++ bodyLine "\x7d".toList

def statementText (options : Options) (symbols : SymbolTable) : Statement → Text
  | .display raw =>
    bodyLine ("System.out.println(".toList ++ quoted (displayText options raw) ++ ");".toList)
  | .move value name => bodyLine (name ++ " = ".toList ++ value ++ ";".toList ++ typeRemark symbols name)
  | .stopRun => bodyLine "System.exit(0);".toList
  | .call subroutine parameters =>
    bodyLine (options.literal subroutine ++ ".methodName(".toList ++ Text.join ", ".toList parameters
      ++ ");".toList)
  | .execSql query => queryBlock options.database query

/-! ### The class -/

def preamble (className : Text) : Text :=
  "import java.util.*;\nimport java.sql.*;\npublic class ".toList ++ className
    ++ " \x7b\n    public static void main(String[] args) throws SQLException \x7b\n".toList

def closing : Text := "    \x7d\n\x7d\n".toList

def classText (options : Options) (symbols : SymbolTable) (statements : List Statement) : Text :=
  preamble options.className ++ statements.flatMap (statementText options symbols) ++ closing

/-- The class for a tree, if the tree has the right shape. -/
def generate (options : Options) (symbols : SymbolTable) (program : Node) : Except GenerateError Text := do
  let nodes ← program.statements
  let statements ← nodes.mapM Statement.ofNode
  return classText options symbols statements

end CobolSubset.Java
