import CobolSubset.Command.Job
import CobolSubset.Json.Node
import CobolSubset.Json.Pretty
import CobolSubset.Json.Token
import CobolSubset.Text.Blank

/-!
# Looking at a source

The tokens, the tree and some figures of a source, for people or as data.
-/

namespace CobolSubset

namespace Inspect

/-! ### Figures -/

/-- Figures about a source. -/
structure Info where
  totalLines : Nat
  codeLines : Nat
  blankLines : Nat
  commentLines : Nat
  /-- The number of tokens that are no comments. -/
  tokens : Nat
  /-- How many statements there are of each kind. -/
  statements : List (Kind × Nat)
deriving DecidableEq, Repr

def isBlankLine (line : Text) : Bool := (Text.trim line).isEmpty

def isCommentLine (line : Text) : Bool := "*>".toList.isPrefixOf (Text.trimStart line)

/-- The figures of a source, given its tokens and its tree. -/
def Info.ofSource (source : Text) (tokens : List Token) (root : Node) : Info :=
  let lines := source.lines
  let blank := lines.countP isBlankLine
  let comment := lines.countP isCommentLine
  { totalLines := lines.length
    codeLines := lines.length - blank - comment
    blankLines := blank
    commentLines := comment
    tokens := tokens.countP fun token => !token.isComment
    statements := Kind.statements.map fun kind => (kind, root.count kind) }

/-- A line with a number at its end. -/
def figure (label : String) (n : Nat) : Text := label.toList ++ Text.ofNat n ++ ['\n']

def Info.text (info : Info) (path : Path) : Text :=
  "\nFile Analysis: ".toList ++ path ++ '\n' :: List.replicate 50 '─' ++ ['\n']
    ++ figure "  Total lines:   " info.totalLines
    ++ figure "  Code lines:    " info.codeLines
    ++ figure "  Comment lines: " info.commentLines
    ++ figure "  Blank lines:   " info.blankLines
    ++ figure "  Tokens:        " info.tokens
    ++ "\n  Statements:\n".toList
    ++ info.statements.flatMap fun (kind, n) => "    ".toList ++ kind.name ++ Text.ofNat n ++ ['\n']

def Info.toJson (info : Info) (path : Path) : Json :=
  .object [("file".toList, .string path), ("total_lines".toList, .ofNat info.totalLines),
    ("code_lines".toList, .ofNat info.codeLines), ("blank_lines".toList, .ofNat info.blankLines),
    ("comment_lines".toList, .ofNat info.commentLines), ("tokens".toList, .ofNat info.tokens),
    ("statements".toList, .array (info.statements.map fun (kind, n) =>
      .object [("kind".toList, .string kind.name), ("count".toList, .ofNat n)]))]

/-! ### Commands -/

def present (format : Format) (text : Text) (json : Json) : Text :=
  match format with
  | .text => text
  | .json => json.pretty ++ ['\n']

def tokenize (path : Path) (source : Text) : Except Failure (List Token) :=
  (RuleSet.standard.tokenize source).mapError fun e => Failure.ofConversion "Failed to tokenize" path (.lex e)

def parse (path : Path) (source : Text) : Except Failure Node :=
  (RuleSet.standard.parse source).mapError (Failure.ofConversion "Failed to parse" path)

def tokensOf (format : Format) (path : Path) (source : Text) : Except Failure Text := do
  let tokens ← tokenize path source
  return present format (tokens.flatMap fun token => token.line ++ ['\n']) (.array (tokens.map Token.toJson))

def treeOf (format : Format) (path : Path) (source : Text) : Except Failure Text := do
  let root ← parse path source
  return present format root.tree root.toJson

def infoOf (format : Format) (path : Path) (source : Text) : Except Failure Text := do
  let tokens ← tokenize path source
  let root ← parse path source
  let info := Info.ofSource source tokens root
  return present format (info.text path) (info.toJson path)

end Inspect

end CobolSubset
