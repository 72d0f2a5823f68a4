import CobolSubset.Statement.Parser
import CobolSubset.Target.JavaClass
import CobolSubset.Target.RustLayout
import CobolSubset.Token.Scan
import CobolSubset.Token.Standard

/-!
# From source to code

The way from a source to generated code leads through tokens and a tree, and fails with the first
stage that does.
-/

namespace CobolSubset

/-- Why there is no code for a source. -/
inductive ConversionError where
  | lex (error : LexError)
  | parse (error : ParseError)
  | generate (error : GenerateError)
deriving DecidableEq, Repr

namespace ConversionError

/-- The wording of the stage's own error. -/
def inner : ConversionError → Text
  | lex error => error.message
  | parse error => error.message
  | generate error => error.message

/-- The stage, as it stands before its error. -/
def stage : ConversionError → Text
  | lex _ => "Lexer error: ".toList
  | parse _ => "Parse error: ".toList
  | generate _ => "Code generation error: ".toList

def message (error : ConversionError) : Text := error.stage ++ error.inner

end ConversionError

def RuleSet.parse (rules : RuleSet) (source : Text) : Except ConversionError Node := do
  let tokens ← (rules.tokenize source).mapError .lex
  (Node.ofTokens tokens).mapError .parse

/-- The code for a tree, in the language that the options ask for. -/
def Node.generate (root : Node) (options : Options) (symbols : SymbolTable) : Except GenerateError Text :=
  match options.target with
  | .java => Java.generate options symbols root
  | .rust => Rust.generate options root

def RuleSet.convert (rules : RuleSet) (options : Options) (symbols : SymbolTable) (source : Text) :
    Except ConversionError Text := do
  let root ← rules.parse source
  (root.generate options symbols).mapError .generate

end CobolSubset
