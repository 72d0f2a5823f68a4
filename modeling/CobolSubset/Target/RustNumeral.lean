import CobolSubset.Text.Basic
import CobolSubset.Text.IdentChar

/-!
# Numbers in Rust text

A number is an integer in base 2, 8, 10 or 16 or a decimal fraction, with low lines between its
digits and any identifier at its end. Each function gives what is behind the piece it reads, or
nothing if the text does not start with such a piece.
-/

namespace CobolSubset.Rust

/-- What is behind an identifier, if there is one. -/
def behindSuffix : Text → Text
  | [] => []
  | c :: rest => if isIdentStart c then rest.dropWhile isIdentContinue else c :: rest

/-- What is behind a number whose digits have been read: an identifier may follow them, but nothing
else that continues a word. -/
def numberEnd? (rest : Text) : Option Text :=
  match behindSuffix rest with
  | [] => some []
  | c :: behind => if isIdentContinue c then none else some (c :: behind)

/-! ### Fractions -/

def isDigitPart (c : Char) : Bool := c.isDigit || c == '_'

def isExponentMark (c : Char) : Bool := c == 'e' || c == 'E'

def behindSign : Text → Text
  | '+' :: rest => rest
  | '-' :: rest => rest
  | rest => rest

/-- What is behind the digits of an exponent. There has to be at least one digit. -/
def behindExponent? (text : Text) : Option Text :=
  let digits := behindSign (text.dropWhile (· == '_'))
  if (digits.takeWhile isDigitPart).any Char.isDigit then some (digits.dropWhile isDigitPart) else none

/-- What is behind the places after a point. An exponent that has no digits is left for the suffix.
-/
def behindPlaces (text : Text) : Text :=
  let rest := text.dropWhile isDigitPart
  match rest with
  | c :: exponent => if isExponentMark c then (behindExponent? exponent).getD rest else rest
  | [] => []

/-- Whether a text may follow the point of a number: no second point and no name. -/
def mayFollowPoint : Text → Bool
  | [] => true
  | c :: _ => c != '.' && !isIdentStart c

/-- What is behind the digits of a fraction, of which the first has been read: there is a point or
an exponent. -/
def behindFraction? (text : Text) : Option Text :=
  match text.dropWhile isDigitPart with
  | [] => none
  | c :: rest =>
    if c = '.' then if mayFollowPoint rest then some (behindPlaces rest) else none
    else if isExponentMark c then behindExponent? rest
    else none

def float? : Text → Option Text
  | [] => none
  | c :: rest => if c.isDigit then behindFraction? rest >>= numberEnd? else none

/-! ### Integers -/

/-- What is behind the digits of an integer. A decimal digit that the base does not have is refused,
a letter that it does not have ends the digits. `seen` says whether there was a digit before. -/
def behindDigits? (base : Nat) (seen : Bool) : Text → Option Text
  | [] => if seen then some [] else none
  | c :: rest =>
    if c.isDigit then
      if c.toNat - '0'.toNat < base then behindDigits? base true rest else none
    else if (hexLetter? c).any (· < base) then behindDigits? base true rest
    else if c = '_' then if !seen && base == 10 then none else behindDigits? base seen rest
    else if seen then some (c :: rest)
    else none

def integer? (text : Text) : Option Text :=
  let digits :=
    match text with
    | '0' :: 'x' :: rest => behindDigits? 16 false rest
    | '0' :: 'o' :: rest => behindDigits? 8 false rest
    | '0' :: 'b' :: rest => behindDigits? 2 false rest
    | text => behindDigits? 10 false text
  digits >>= numberEnd?

def number? (text : Text) : Option Text :=
  (float? text).or (integer? text)

end CobolSubset.Rust
