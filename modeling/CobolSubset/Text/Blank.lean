import CobolSubset.Text.Basic
import CobolSubset.Text.CharTable

/-!
# Blanks

A blank is a character with the Unicode property White_Space. The zero width space, the byte order
mark and the information separators are not blanks.
-/

namespace CobolSubset

/-- The code points with the property White_Space. -/
def blankTable : CharTable :=
  [(0x9, 0xD), (0x20, 0x20), (0x85, 0x85), (0xA0, 0xA0), (0x1680, 0x1680), (0x2000, 0x200A),
    (0x2028, 0x2029), (0x202F, 0x202F), (0x205F, 0x205F), (0x3000, 0x3000)]

def isBlank (c : Char) : Bool := blankTable.contains c

namespace Text

def trimStart (text : Text) : Text := text.dropWhile isBlank

def trimEnd (text : Text) : Text := (text.reverse.dropWhile isBlank).reverse

def trim (text : Text) : Text := text.trimStart.trimEnd

end Text

end CobolSubset
