import CobolSubset.Target.RustQuotation
import CobolSubset.Target.RustSpacing

/-!
# Rust literals

The value of an assignment is taken over letter for letter, provided that it is a literal of the
language: a string, a character, a number with or without a minus sign, or a truth value. Blanks and
comments around it are dropped.
-/

namespace CobolSubset.Rust

/-- A literal: its text, and whether a minus sign stands before it. -/
structure Literal where
  negative : Bool
  text : Text
deriving DecidableEq, Repr

/-- The part of `text` before its end `rest`. -/
def before (text rest : Text) : Text := text.take (text.length - rest.length)

/-- The piece that `behind?` reads at the start of the text, if nothing but blanks and comments
follows it. -/
def soleToken? (behind? : Text → Option Text) (text : Text) : Option Text := do
  let rest ← behind? text
  if skipSpacing rest = [] then some (before text rest) else none

def word? (word : Text) (text : Text) : Option Text :=
  if word.isPrefixOf text then some (text.drop word.length) else none

def unsigned? (text : Text) : Option Text :=
  (string? text).or ((char? text).or ((number? text).or
    ((word? "true".toList text).or (word? "false".toList text))))

/-- The text without a mark of byte order at its start. -/
def dropByteOrderMark : Text → Text
  | '\ufeff' :: rest => rest
  | text => text

/-- The literal that a text consists of. -/
def Literal.ofText? (text : Text) : Option Literal :=
  match skipSpacing (dropByteOrderMark text) with
  | '-' :: rest => (soleToken? number? (skipSpacing rest)).map (Literal.mk true)
  | rest => (soleToken? unsigned? rest).map (Literal.mk false)

end CobolSubset.Rust
