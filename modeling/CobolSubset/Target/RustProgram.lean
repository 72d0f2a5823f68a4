import CobolSubset.Statement.Basic
import CobolSubset.Target.Basic
import CobolSubset.Target.RustLiteral
import CobolSubset.Target.RustName

/-!
# Rust programs

A program becomes a function `main`. Here it is a list of what `main` does; the text is made of it
in `CobolSubset.Target.RustTokens`, token by token, and in `CobolSubset.Target.RustLayout`, line by
line.
-/

namespace CobolSubset.Rust

inductive Statement where
  /-- Prints a text. -/
  | print (text : Text)
  /-- Assigns a literal to a variable. -/
  | assign (name : Text) (value : Literal)
  /-- Ends the process. -/
  | exit
  /-- Calls the function of a module with its arguments borrowed for writing. -/
  | call (module : Text) (arguments : List Text)
  /-- Connects to `url`, sends a query and prints the first value. -/
  | query (url text : Text)
deriving DecidableEq, Repr

structure Program where
  header : Bool
  statements : List Statement
deriving DecidableEq, Repr

def Statement.usesDatabase : Statement → Bool
  | query _ _ => true
  | _ => false

def Program.usesDatabase (program : Program) : Bool :=
  program.statements.any Statement.usesDatabase

/-! ### From trees -/

/-- The first name that occurs a second time, given the names before the list. -/
def firstRepeated? (seen : List Text) : List Text → Option Text
  | [] => none
  | name :: rest => if seen.contains name then some name else firstRepeated? (name :: seen) rest

/-- The error of a call that passes a name twice. -/
def repeatedArgument (name : Text) : GenerateError :=
  .malformedNode Kind.callStatement.name
    ("parameter `".toList ++ name ++ "` passed more than once".toList)

/-- The Rust statement for a statement. Values have to be literals, names have to have a Rust form,
and no argument may be borrowed twice. -/
def Statement.ofStatement (options : Options) : CobolSubset.Statement → Except GenerateError Statement
  | .display raw => .ok (print (options.literal raw))
  | .move value name =>
    match Literal.ofText? value with
    | none => .error (.invalidLiteral value)
    | some literal => do
      let name ← identifier name
      return assign name literal
  | .stopRun => .ok exit
  | .call subroutine parameters => do
    let module ← identifier (stripQuotes subroutine)
    let arguments ← parameters.mapM identifier
    match firstRepeated? [] arguments with
    | some name => .error (repeatedArgument name)
    | none => return call module arguments
  | .execSql text => .ok (query options.database.mysqlUrl text)

def Statement.ofNode (options : Options) (node : Node) : Except GenerateError Statement := do
  let statement ← CobolSubset.Statement.ofNode node
  Statement.ofStatement options statement

def Program.ofNode (options : Options) (root : Node) : Except GenerateError Program := do
  let nodes ← root.statements
  let statements ← nodes.mapM (Statement.ofNode options)
  return { header := options.includeHeader, statements }

end CobolSubset.Rust
