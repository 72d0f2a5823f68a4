import CobolSubset.Text.Blank
import CobolSubset.Text.WordChar
import CobolSubset.Text.CaseFold

/-!
# Patterns

A pattern describes how a piece of text may look. It is built from sets of characters, anchors that
look at the surroundings without taking anything, sequence, choice and repetition. One part of a
pattern can be marked as the token: the rest then only says what has to surround it.

Choice is ordered: the earlier alternative is preferred. A repetition prefers more rounds when it is
greedy and fewer when it is not.
-/

namespace CobolSubset

inductive CharSet where
  | all
  | single (c : Char)
  | range (low high : Char)
  | decimalDigit
  | wordChar
  | blank
  | union (a b : CharSet)
  | inter (a b : CharSet)
  | compl (a : CharSet)
  /-- The characters that differ only in case from one of `a`. -/
  | anyCase (a : CharSet)
  /-- The same, where only the letters of ASCII have a case. -/
  | anyAsciiCase (a : CharSet)
deriving DecidableEq, Repr

/-- The letter of ASCII that differs from `c` only in case; any other character is its own. -/
def otherAsciiCase (c : Char) : Char := if c.isUpper then c.toLower else c.toUpper

namespace CharSet

def contains : CharSet → Char → Bool
  | all, _ => true
  | single d, c => c == d
  | range low high, c => decide (low ≤ c) && decide (c ≤ high)
  | decimalDigit, c => isDecimalDigit c
  | wordChar, c => isWordChar c
  | blank, c => isBlank c
  | union a b, c => a.contains c || b.contains c
  | inter a b, c => a.contains c && b.contains c
  | compl a, c => !a.contains c
  | anyCase a, c => (caseVariants c).any a.contains
  | anyAsciiCase a, c => a.contains c || a.contains (otherAsciiCase c)

def ofList : List Char → CharSet
  | [] => compl all
  | [c] => single c
  | c :: cs => union (single c) (ofList cs)

end CharSet

/-! ### Anchors -/

/-- What ends a line. -/
inductive LineEnding where
  | feed
  /-- A return, a line feed, or a return and the line feed behind it. -/
  | returnOrFeed
deriving DecidableEq, Repr

/-- Which characters make up words. -/
inductive Letters where
  | unicode
  | ascii
deriving DecidableEq, Repr

/-- Where a place may lie with respect to words. The half edges look at one side only. -/
inductive WordEdge where
  | boundary
  | noBoundary
  | start
  | stop
  | startHalf
  | stopHalf
deriving DecidableEq, Repr

/-- A condition on a place in the text. -/
inductive Anchor where
  | textStart
  | textEnd
  | lineStart (ending : LineEnding)
  | lineEnd (ending : LineEnding)
  | word (edge : WordEdge) (letters : Letters)
deriving DecidableEq, Repr

/-- Exactly one side of the place is a word character. -/
abbrev Anchor.wordBoundary : Anchor := .word .boundary .unicode

/-! ### Patterns -/

inductive Pattern where
  | empty
  | set (s : CharSet)
  | anchor (a : Anchor)
  | seq (a b : Pattern)
  | alt (a b : Pattern)
  | opt (greedy : Bool) (a : Pattern)
  | plus (greedy : Bool) (a : Pattern)
  /-- Marks what `a` takes as the token. -/
  | token (a : Pattern)
deriving DecidableEq, Repr

namespace Pattern

/-! ### Derived patterns -/

def char (c : Char) : Pattern := set (.single c)

/-- Any number of rounds. -/
def star (greedy : Bool) (a : Pattern) : Pattern := opt greedy (plus greedy a)

def concat : List Pattern → Pattern
  | [] => empty
  | [a] => a
  | a :: as => seq a (concat as)

/-- The first of the patterns that fits; no pattern at all is the empty pattern. -/
def choice : List Pattern → Pattern
  | [] => empty
  | [a] => a
  | a :: as => alt a (choice as)

def literal (text : Text) : Pattern := concat (text.map char)

def times (a : Pattern) (count : Nat) : Pattern := concat (List.replicate count a)

/-- At most `count` rounds: each further round is tried only after the one before it. -/
def atMost (greedy : Bool) (a : Pattern) : Nat → Pattern
  | 0 => empty
  | 1 => opt greedy a
  | n + 1 => opt greedy (seq a (atMost greedy a n))

/-- At least `least` rounds and, if `most` is given, at most `most`. -/
def repeated (greedy : Bool) (a : Pattern) : (least : Nat) → (most : Option Nat) → Pattern
  | 0, none => star greedy a
  | 1, none => plus greedy a
  | n + 1, none => seq (times a n) (plus greedy a)
  | n, some m =>
    if n = m then times a n
    else if n = 0 then atMost greedy a m
    else seq (times a n) (atMost greedy a (m - n))

end Pattern

end CobolSubset
