/-!
# Text

Source, tokens and generated code are lists of characters. `String` appears only where a literal is
written down (`"STOP".toList`) and at the outermost layer, so every function below the command line
recurses on the text itself.
-/

namespace CobolSubset

/-- A piece of text, character by character. -/
abbrev Text := List Char

namespace Text

/-! ### Cutting -/

/-- The part before the first character that satisfies `p`, and the part after it if there is one.
-/
def cutAt (p : Char → Bool) : Text → Text × Option Text
  | [] => ([], none)
  | c :: rest =>
    if p c then ([], some rest)
    else
      let (before, after) := cutAt p rest
      (c :: before, after)

/-- The pieces between the characters that satisfy `p`; there is always at least one. -/
def splitBy (p : Char → Bool) : Text → List Text
  | [] => [[]]
  | c :: rest =>
    if p c then [] :: splitBy p rest
    else
      match splitBy p rest with
      | [] => [[c]]
      | piece :: pieces => (c :: piece) :: pieces

def dropReturn (line : Text) : Text :=
  if line.getLast? = some '\r' then line.dropLast else line

/-- The lines of a text: line feeds end a line, a carriage return before one belongs to it, and an
empty rest after the last line feed is no line. A last line without a line feed keeps its carriage
return. -/
def lines (text : Text) : List Text :=
  let pieces := text.splitBy (· == '\n')
  let last := pieces.getLast?.getD []
  pieces.dropLast.map dropReturn ++ (if last.isEmpty then [] else [last])

/-! ### Joining and padding -/

def join (separator : Text) (pieces : List Text) : Text :=
  separator.intercalate pieces

def padRight (width : Nat) (text : Text) : Text :=
  text ++ List.replicate (width - text.length) ' '

/-- The number of bytes the text occupies in UTF-8. -/
def byteLength : Text → Nat
  | [] => 0
  | c :: rest => c.utf8Size + byteLength rest

/-! ### ASCII case -/

/-- The text with the letters A to Z made small. -/
def toLower (text : Text) : Text := text.map Char.toLower

def ofNat (n : Nat) : Text := Nat.toDigits 10 n

end Text

/-! ### Hexadecimal digits -/

def hexLetter? (c : Char) : Option Nat :=
  if 'a' ≤ c ∧ c ≤ 'f' then some (c.toNat - 'a'.toNat + 10)
  else if 'A' ≤ c ∧ c ≤ 'F' then some (c.toNat - 'A'.toNat + 10)
  else none

def hexDigit? (c : Char) : Option Nat :=
  if c.isDigit then some (c.toNat - '0'.toNat) else hexLetter? c

end CobolSubset
