import CobolSubset.Target.RustProgram
import CobolSubset.Text.IdentChar

/-!
# Rust files that can be read back

Before a file is laid out it is read back as Rust code. All that can be wrong with it are its names:
the rest of a statement has a fixed shape, and texts and values are literals. The grammar takes a
word for a name if it is formed like one and does not reserve it.

The words that the grammar reserves are not a matter of how names are made, so they are listed here
apart from the `keywords` that `identifier` stays clear of.
-/

namespace CobolSubset.Rust

/-- The words that the grammar takes for no name, with the low line alone among them. -/
def reserved : List Text :=
  ["_".toList, "abstract".toList, "as".toList, "async".toList, "await".toList, "become".toList,
    "box".toList, "break".toList, "const".toList, "continue".toList, "crate".toList, "do".toList,
    "dyn".toList, "else".toList, "enum".toList, "extern".toList, "false".toList, "final".toList,
    "fn".toList, "for".toList, "if".toList, "impl".toList, "in".toList, "let".toList, "loop".toList,
    "macro".toList, "match".toList, "mod".toList, "move".toList, "mut".toList, "override".toList,
    "priv".toList, "pub".toList, "ref".toList, "return".toList, "Self".toList, "self".toList,
    "static".toList, "struct".toList, "super".toList, "trait".toList, "true".toList, "try".toList,
    "type".toList, "typeof".toList, "unsafe".toList, "unsized".toList, "use".toList,
    "virtual".toList, "where".toList, "while".toList, "yield".toList]

/-- Whether a word is formed like a name. -/
def isWord : Text → Bool
  | [] => false
  | c :: rest => isIdentStart c && rest.all isIdentContinue

/-- Why the grammar does not take the word for a name, if it does not. -/
def nameFault? (word : Text) : Option Text :=
  if !isWord word then some "expected identifier".toList
  else if reserved.contains word then
    some ("expected identifier, found keyword `".toList ++ word ++ "`".toList)
  else none

def Statement.names : Statement → List Text
  | assign name _ => [name]
  | call module arguments => module :: arguments
  | print _ | exit | query _ _ => []

/-- The names in a file, in the order in which they are read. -/
def Program.names (program : Program) : List Text := program.statements.flatMap Statement.names

/-- Reads the file back. The first word in the place of a name that is none decides the error. -/
def Program.readBack (program : Program) : Except GenerateError Program :=
  match program.names.findSome? nameFault? with
  | some reason => .error (.rejectedCode reason)
  | none => .ok program

end CobolSubset.Rust
