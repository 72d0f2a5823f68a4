import CobolSubset.Token.Rule

/-!
# The rules of the COBOL subset

Programs are written in upper case. Division headers and keywords come before identifiers, relations
of two signs before those of one, and strings before the lone quotation mark.
-/

namespace CobolSubset

def divisionHeaders : List Text :=
  ["IDENTIFICATION", "DATA", "PROCEDURE"].map String.toList

/-- The reserved words. -/
def keywords : List Text :=
  ["DIVISION", "PROGRAM-ID", "WORKING-STORAGE", "SECTION", "STOP", "RUN", "MOVE", "TO", "IF", "ELSE",
    "DISPLAY", "COMPUTE", "PERFORM", "TIMES", "READ", "WRITE", "OPEN", "CLOSE", "INTO", "OUTPUT", "INPUT",
    "END-IF", "END-PERFORM", "ACCEPT", "EVALUATE", "WHEN", "OTHER", "END-EVALUATE", "STRING", "FUNCTION",
    "LENGTH", "OCCURS", "SEARCH", "AT", "END-EXEC", "END", "ALL", "SORT", "ASCENDING", "DESCENDING", "MERGE",
    "CALL", "USING", "GOTO", "EXEC", "SQL", "PIC"].map String.toList

namespace Rule

def digit : CharSet := .range '0' '9'

def digits : Pattern := .plus true (.set digit)

/-- A capital letter, then capital letters, digits and hyphens. -/
def identifier : Rule where
  category := .identifier
  pattern :=
    .seq
      (.token (.seq (.set (.range 'A' 'Z'))
        (.star true (.set (.union (.range 'A' 'Z') (.union digit (.single '-')))))))
      wordEnd

/-- Everything between two quotation marks, line feeds included. -/
def string : Rule where
  category := .string
  pattern := .seq (.char '"') (.seq (.star true (.set (.compl (.single '"')))) (.char '"'))

/-- Digits, perhaps with a point and further digits, that no word character follows. -/
def number : Rule where
  category := .number
  pattern := .seq digits (.seq (.opt true (.seq (.char '.') digits)) (.anchor .wordBoundary))

/-- From `*>` up to the end of the line. -/
def comment : Rule where
  category := .comment
  pattern := .seq (.literal "*>".toList) (.star true (.set (.compl (.single '\n'))))

def relation : Rule where
  category := .operator
  pattern := .choice (["<=", ">=", "<>", "=", "<", ">"].map fun sign => .literal sign.toList)

def arithmetic : Rule where
  category := .operator
  pattern := .set (.ofList ['+', '-', '*', '/', '='])

/-- Comma, period and the lone quotation mark. -/
def punctuation : Rule where
  category := .punctuation
  pattern := .set (.ofList [',', '.', '"'])

def symbol : Rule where
  category := .symbol
  pattern := .set (.ofList ['(', ')', ':'])

end Rule

/-- The rules of the COBOL subset in the order in which they are tried. -/
def RuleSet.standard : RuleSet :=
  [.words .divisionHeader divisionHeaders, .words .keyword keywords, .identifier, .string, .number,
    .comment, .relation, .arithmetic, .punctuation, .symbol]

end CobolSubset
