import CobolSubset.Pattern.Basic

/-!
# Matching a pattern at the start of a text

`Pattern.run` walks the text with a cursor. What follows the pattern is handed in as a continuation,
so that a choice that leads nowhere is undone and the next one is tried: the result is the first
way, in the order of preference, in which pattern and continuation both succeed.

A repetition may take nothing in its first round, and then it is over; every further round takes
something, or it does not count. This is what makes repetition end, and why an empty last round
never moves the mark that an earlier round has set.

`Pattern.matchPrefix?` only looks at matches that start at the very first character. A match that
would start later never yields a token there, so nothing is lost.
-/

namespace CobolSubset

/-- A place in the text, with what was marked on the way to it. -/
structure Cursor where
  /-- The character just before the place. -/
  previous : Option Char
  /-- The text from the place on. -/
  rest : Text
  /-- The number of characters before the place. -/
  offset : Nat
  /-- Where the marked token starts and ends, counted in characters. -/
  token : Option (Nat × Nat)
deriving DecidableEq, Repr

namespace Cursor

def start (text : Text) : Cursor := ⟨none, text, 0, none⟩

/-- The place behind `c`, when `rest` follows it. -/
def advance (cursor : Cursor) (c : Char) (rest : Text) : Cursor :=
  { cursor with previous := some c, rest := rest, offset := cursor.offset + 1 }

/-- Marks the text from offset `first` up to the cursor as the token. -/
def markFrom (cursor : Cursor) (first : Nat) : Cursor :=
  { cursor with token := some (first, cursor.offset) }

end Cursor

/-! ### Looking around -/

/-- Whether a line starts between the two characters. Between a return and its line feed no line
does. -/
def LineEnding.starts (previous next : Option Char) : LineEnding → Bool
  | feed => previous.all (· == '\n')
  | returnOrFeed => previous.all fun c => c == '\n' || c == '\r' && next != some '\n'

def LineEnding.ends (previous next : Option Char) : LineEnding → Bool
  | feed => next.all (· == '\n')
  | returnOrFeed => next.all fun c => c == '\r' || c == '\n' && previous != some '\r'

def Letters.contains : Letters → Char → Bool
  | unicode, c => isWordChar c
  | ascii, c => c.isAlphanum || c == '_'

/-- Whether the edge lies between two places, of which it is known whether they are in a word. -/
def WordEdge.between (before after : Bool) : WordEdge → Bool
  | boundary => before != after
  | noBoundary => before == after
  | start => !before && after
  | stop => before && !after
  | startHalf => !before
  | stopHalf => !after

def Anchor.holds : Anchor → Cursor → Bool
  | textStart, cursor => cursor.offset == 0
  | textEnd, cursor => cursor.rest.isEmpty
  | lineStart ending, cursor => ending.starts cursor.previous cursor.rest.head?
  | lineEnd ending, cursor => ending.ends cursor.previous cursor.rest.head?
  | word edge letters, cursor =>
    edge.between (cursor.previous.any letters.contains) (cursor.rest.head?.any letters.contains)

namespace Pattern

variable {α : Type}

/-- Any number of further rounds of `round`, each of which takes something, then `next`. A greedy
repetition tries a further round before `next`, a lazy one after it. -/
def furtherRounds (greedy : Bool) (round : (Cursor → Option α) → Cursor → Option α)
    (next : Cursor → Option α) (cursor : Cursor) : Option α :=
  let again := round (fun after =>
    if _shorter : after.rest.length < cursor.rest.length then furtherRounds greedy round next after
    else none)
  if greedy then again cursor <|> next cursor else next cursor <|> again cursor
termination_by cursor.rest.length

/-- One or more rounds of `round`, then `next`. A first round that takes nothing is the only one. -/
def rounds (greedy : Bool) (round : (Cursor → Option α) → Cursor → Option α)
    (next : Cursor → Option α) (cursor : Cursor) : Option α :=
  round (fun after =>
    if after.rest.length < cursor.rest.length then furtherRounds greedy round next after
    else next after) cursor

/-- The first way to go on from `cursor` through the pattern and then through `next`. -/
def run : Pattern → (next : Cursor → Option α) → Cursor → Option α
  | empty, next, cursor => next cursor
  | set s, next, cursor =>
    match cursor.rest with
    | [] => none
    | c :: rest => if s.contains c then next (cursor.advance c rest) else none
  | anchor a, next, cursor => if a.holds cursor then next cursor else none
  | seq a b, next, cursor => a.run (b.run next) cursor
  | alt a b, next, cursor => a.run next cursor <|> b.run next cursor
  | opt greedy a, next, cursor =>
    if greedy then a.run next cursor <|> next cursor else next cursor <|> a.run next cursor
  | plus greedy a, next, cursor => rounds greedy (fun k c => a.run k c) next cursor
  | token a, next, cursor => a.run (fun after => next (after.markFrom cursor.offset)) cursor

/-- The token at the very start of `text`: the marked part of the preferred match, or the whole
match if nothing was marked. A token that is empty or starts later does not count. -/
def matchPrefix? (pattern : Pattern) (text : Text) : Option Text :=
  match pattern.run some (Cursor.start text) with
  | none => none
  | some stop =>
    let (first, last) := stop.token.getD (0, stop.offset)
    if first = 0 ∧ 0 < last then some (text.take last) else none

end Pattern

end CobolSubset
