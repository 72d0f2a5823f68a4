import CobolSubset.Target.RustProgram
import CobolSubset.Target.RustString

/-!
# Rust code token by token

The tokens of a file with single blanks between them, and none inside the brackets.
-/

namespace CobolSubset.Rust

def Literal.tokens (literal : Literal) : Text :=
  (if literal.negative then "- ".toList else []) ++ literal.text

def argumentTokens (name : Text) : Text := "& mut ".toList ++ name

def Statement.tokens : Statement → Text
  | print text => "println ! (\"\x7b\x7d\" , ".toList ++ quote text ++ ") ;".toList
  | assign name value => name ++ " = ".toList ++ value.tokens ++ " ;".toList
  | exit => "std :: process :: exit (0) ;".toList
  | call module arguments =>
    module ++ " :: call (".toList ++ Text.join " , ".toList (arguments.map argumentTokens) ++ ") ;".toList
  | query url text =>
    "\x7b let pool = mysql :: Pool :: new (".toList ++ quote url
      ++ ") ? ; let mut conn = pool . get_conn () ? ; ".toList
      ++ "let row : Option < String > = conn . query_first (".toList ++ quote text
      ++ ") ? ; if let Some (value) = row \x7b println ! (\"\x7b\x7d\" , value) ; \x7d \x7d".toList

def Program.tokens (program : Program) : Text :=
  Text.join [' ']
    ((if program.header then ["# ! [doc = \" Transpiled from COBOL by transcob\"]".toList] else [])
      ++ (if program.usesDatabase then ["use mysql :: prelude :: Queryable ;".toList] else [])
      ++ ["fn main () -> Result < () , Box < dyn std :: error :: Error >> \x7b".toList]
      ++ program.statements.map Statement.tokens
      ++ ["Ok (()) \x7d".toList])

end CobolSubset.Rust
