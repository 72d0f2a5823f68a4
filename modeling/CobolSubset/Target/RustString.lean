import CobolSubset.Text.Basic
import CobolSubset.Text.Printable

/-!
# Writing Rust strings

The string literal for a text. What is not printable is escaped, a single quotation mark is not.
-/

namespace CobolSubset.Rust

/-- Whether NUL needs its long form before this text, lest the escape be read as an octal one. -/
def startsWithOctal : Text → Bool
  | [] => false
  | c :: _ => '0' ≤ c && c ≤ '7'

def escapePoint (c : Char) : Text :=
  "\\u\x7b".toList ++ Nat.toDigits 16 c.toNat ++ ['\x7d']

def escapeChar (c : Char) (rest : Text) : Text :=
  match c with
  | '\x00' => if startsWithOctal rest then "\\x00".toList else "\\0".toList
  | '\t' => "\\t".toList
  | '\n' => "\\n".toList
  | '\r' => "\\r".toList
  | '"' => "\\\"".toList
  | '\\' => "\\\\".toList
  | c => if isPrintable c then [c] else escapePoint c

def escape : Text → Text
  | [] => []
  | c :: rest => escapeChar c rest ++ escape rest

def quote (text : Text) : Text := '"' :: escape text ++ ['"']

end CobolSubset.Rust
