import CobolSubset.Node.Shape

/-!
# Rust names

COBOL names become Rust names in small letters with low lines for hyphens: `WS-TOTAL` becomes
`ws_total`. A name that is a word of the language gets a low line at its end.
-/

namespace CobolSubset.Rust

/-- The words that no name may be. -/
def keywords : List Text :=
  ["abstract".toList, "as".toList, "async".toList, "await".toList, "become".toList, "box".toList,
    "break".toList, "const".toList, "continue".toList, "crate".toList, "do".toList, "dyn".toList,
    "else".toList, "enum".toList, "extern".toList, "false".toList, "final".toList, "fn".toList, "for".toList,
    "if".toList, "impl".toList, "in".toList, "let".toList, "loop".toList, "macro".toList, "match".toList,
    "mod".toList, "move".toList, "mut".toList, "override".toList, "priv".toList, "pub".toList, "ref".toList,
    "return".toList, "self".toList, "static".toList, "struct".toList, "super".toList, "trait".toList,
    "true".toList, "try".toList, "type".toList, "typeof".toList, "unsafe".toList, "unsized".toList,
    "use".toList, "virtual".toList, "where".toList, "while".toList, "yield".toList]

def nameChar (c : Char) : Char := if c = '-' then '_' else c.toLower

/-- Whether a text is made like a name: a letter or low line, then letters, digits and low lines,
but not the low line alone. -/
def isNameForm : Text → Bool
  | [] => false
  | c :: rest =>
    (c.isAlpha || c == '_') && rest.all (fun c => c.isAlphanum || c == '_') && !(c == '_' && rest.isEmpty)

/-- The Rust name for a COBOL name. -/
def identifier (name : Text) : Except GenerateError Text :=
  let mapped := name.map nameChar
  if isNameForm mapped then
    .ok (if keywords.contains mapped then mapped ++ ['_'] else mapped)
  else .error (.invalidLiteral name)

end CobolSubset.Rust
