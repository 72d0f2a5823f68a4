import CobolSubset.Pattern.Match
import CobolSubset.Pattern.Parser
import CobolSubset.Token.Basic

/-!
# Rules

A rule says which pieces of text are tokens of a category. A list of rules is tried in order and the
first one that finds a token at the very start of the text decides, so special rules stand before
general ones.
-/

namespace CobolSubset

/-- A category and the pattern of its tokens. -/
structure Rule where
  category : Category
  pattern : Pattern
deriving DecidableEq, Repr

/-- Rules in the order in which they are tried. -/
abbrev RuleSet := List Rule

namespace Rule

/-- The characters that continue a word: ASCII letters and digits, the low line and the hyphen. -/
def wordPart : CharSet :=
  .union (.range 'A' 'Z') (.union (.range 'a' 'z') (.union (.range '0' '9') (.ofList ['_', '-'])))

/-- What has to follow a word: a character that does not continue it, or the end of the text. -/
def wordEnd : Pattern :=
  .alt (.set (.compl wordPart)) (.anchor .textEnd)

/-- The rule that takes any of the words as a whole. -/
def words (category : Category) (list : List Text) : Rule where
  category
  pattern := .seq (.token (.choice (list.map .literal))) wordEnd

/-- The rule with the pattern written as `text`, held to the start of the input. -/
def ofText (category : Category) (text : Text) : Except PatternError Rule := do
  let pattern ← Pattern.ofText ("^(?:".toList ++ text ++ ")".toList)
  return { category, pattern }

/-- The token text that the rule finds at the very start of the input. -/
def matchStart? (rule : Rule) (input : Text) : Option Text :=
  rule.pattern.matchPrefix? input

end Rule

/-- The token that the first fitting rule finds at the very start of the input. -/
def RuleSet.matchStart? (rules : RuleSet) (input : Text) : Option Token :=
  rules.findSome? fun rule => (rule.matchStart? input).map (Token.mk rule.category)

end CobolSubset
