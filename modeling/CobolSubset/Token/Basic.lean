import CobolSubset.Text.Basic

/-!
# Tokens

A token is a word of a program: a piece of the source together with the category of the rule that
took it.
-/

namespace CobolSubset

inductive Category where
  | divisionHeader
  | keyword
  | identifier
  | string
  | number
  | comment
  | operator
  | punctuation
  | symbol
deriving DecidableEq, Repr

namespace Category

def all : List Category :=
  [divisionHeader, keyword, identifier, string, number, comment, operator, punctuation, symbol]

/-- The name shown to people. -/
def name : Category → Text
  | divisionHeader => "DIVISION_HEADER".toList
  | keyword => "KEYWORD".toList
  | identifier => "IDENTIFIER".toList
  | string => "STRING".toList
  | number => "NUMBER".toList
  | comment => "COMMENT".toList
  | operator => "OPERATOR".toList
  | punctuation => "PUNCTUATION".toList
  | symbol => "SYMBOL".toList

/-- The name in data: that of `name`, but for strings. -/
def key : Category → Text
  | string => "STRING_LITERAL".toList
  | category => category.name

def ofKey? (key : Text) : Option Category :=
  all.find? fun category => category.key == key

end Category

/-- A word of a program. -/
structure Token where
  category : Category
  text : Text
deriving DecidableEq, Repr

namespace Token

def is (token : Token) (category : Category) (text : Text) : Bool :=
  token.category == category && token.text == text

def isComment (token : Token) : Bool := token.category == .comment

/-- The token on a line of a listing: the category in sixteen columns, then the text. -/
def line (token : Token) : Text :=
  token.category.name.padRight 16 ++ token.text

end Token

end CobolSubset
