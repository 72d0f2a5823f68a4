import CobolSubset.Text.Basic

/-!
# Numbers in arguments

A number is written in decimal digits, with a sign if its type has one. It is read from the left, so
the first character that cannot be taken decides about the error.
-/

namespace CobolSubset

inductive NumberError where
  | empty
  | invalidDigit
  | tooLarge
  | tooSmall
deriving DecidableEq, Repr

namespace NumberError

def message : NumberError → Text
  | empty => "cannot parse integer from empty string".toList
  | invalidDigit => "invalid digit found in string".toList
  | tooLarge => "number too large to fit in target type".toList
  | tooSmall => "number too small to fit in target type".toList

end NumberError

namespace Number

/-- Reads digits behind a number that has been read. The number may not pass the limit. -/
def digits (limit : Nat) (overflow : NumberError) (value : Nat) : Text → Except NumberError Nat
  | [] => .ok value
  | c :: rest =>
    if c.isDigit then
      let next := 10 * value + (c.toNat - '0'.toNat)
      if next ≤ limit then digits limit overflow next rest else .error overflow
    else .error .invalidDigit

/-- Reads a number of at least one digit. -/
def magnitude (limit : Nat) (overflow : NumberError) (text : Text) : Except NumberError Nat :=
  if text.isEmpty then .error .invalidDigit else digits limit overflow 0 text

def maxSigned : Nat := 9223372036854775807

def maxUnsigned : Nat := 18446744073709551615

/-- Reads a whole number of 64 bits with an optional sign. -/
def signed : Text → Except NumberError Int
  | [] => .error .empty
  | '+' :: rest => (magnitude maxSigned .tooLarge rest).map Int.ofNat
  | '-' :: rest => (magnitude (maxSigned + 1) .tooSmall rest).map fun n => -(n : Int)
  | text => (magnitude maxSigned .tooLarge text).map Int.ofNat

/-- Reads a natural number of 64 bits, which may have a plus sign. -/
def unsigned : Text → Except NumberError Nat
  | [] => .error .empty
  | '+' :: rest => magnitude maxUnsigned .tooLarge rest
  | text => magnitude maxUnsigned .tooLarge text

def text (n : Int) : Text :=
  if n < 0 then '-' :: Text.ofNat n.natAbs else Text.ofNat n.natAbs

end Number

end CobolSubset
