import CobolSubset.Json.Basic

/-!
# Writing JSON on several lines

Every element of an array and every field of an object stands on a line of its own, two blanks
further in than the bracket around it; an empty array or object stays on one line. In strings the
quotation mark, the backslash and the controls below U+0020 are escaped, nothing else.
-/

namespace CobolSubset

namespace Json

def hexDigit (n : Nat) : Char := Nat.digitChar n

/-- A character inside a string. -/
def escapeChar (c : Char) : Text :=
  match c with
  | '"' => "\\\"".toList
  | '\\' => "\\\\".toList
  | '\x08' => "\\b".toList
  | '\x0c' => "\\f".toList
  | '\n' => "\\n".toList
  | '\r' => "\\r".toList
  | '\t' => "\\t".toList
  | c =>
    if c.toNat < 0x20 then "\\u00".toList ++ [hexDigit (c.toNat / 16), hexDigit (c.toNat % 16)] else [c]

def quote (s : Text) : Text := '"' :: s.flatMap escapeChar ++ ['"']

def intText (n : Int) : Text :=
  match n with
  | .ofNat n => Text.ofNat n
  | .negSucc n => '-' :: Text.ofNat (n + 1)

/-- The decimal form of `mantissa * 10 ^ (-exponent)`. -/
def numberText (mantissa : Int) (exponent : Nat) : Text :=
  if exponent = 0 then intText mantissa
  else
    let digits := Text.ofNat mantissa.natAbs
    let padded := List.replicate (exponent + 1 - digits.length) '0' ++ digits
    let whole := padded.take (padded.length - exponent)
    (if mantissa < 0 then ['-'] else []) ++ whole ++ '.' :: padded.drop (padded.length - exponent)

/-- A line feed and the indentation of the given depth. -/
def newLine (depth : Nat) : Text := '\n' :: List.replicate (2 * depth) ' '

mutual

/-- The value, written so that its lines after the first are indented for `depth`. -/
def prettyAt (depth : Nat) : Json → Text
  | null => "null".toList
  | bool true => "true".toList
  | bool false => "false".toList
  | number mantissa exponent => numberText mantissa exponent
  | string s => quote s
  | array [] => "[]".toList
  | array items => '[' :: prettyItems (depth + 1) items ++ newLine depth ++ [']']
  | object [] => "\x7b\x7d".toList
  | object fields => '\x7b' :: prettyFields (depth + 1) fields ++ newLine depth ++ ['\x7d']

/-- The elements of an array, each on a line of its own. -/
def prettyItems (depth : Nat) : List Json → Text
  | [] => []
  | [item] => newLine depth ++ prettyAt depth item
  | item :: more => newLine depth ++ prettyAt depth item ++ ',' :: prettyItems depth more

/-- The fields of an object, each on a line of its own. -/
def prettyFields (depth : Nat) : List (Text × Json) → Text
  | [] => []
  | [(name, value)] => newLine depth ++ quote name ++ ": ".toList ++ prettyAt depth value
  | (name, value) :: more =>
    newLine depth ++ quote name ++ ": ".toList ++ prettyAt depth value ++ ',' :: prettyFields depth more

end

def pretty (value : Json) : Text := prettyAt 0 value

end Json

end CobolSubset
