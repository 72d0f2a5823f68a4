import CobolSubset.Target.RustNumeral

/-!
# Strings and characters in Rust text

There are strings, byte strings and C strings, each plain or raw, and characters and bytes. As for
numbers, each function gives what is behind the piece it reads, or nothing if the text does not
start with such a piece.
-/

namespace CobolSubset.Rust

/-- What a literal between quotation marks holds. -/
inductive Content where
  | text
  | bytes
  /-- Text that ends at the first NUL, and so may not hold one. -/
  | cText
deriving DecidableEq, Repr

/-! ### Escapes -/

/-- Whether the content may hold this character as it is. -/
def Content.allows : Content → Char → Bool
  | text, _ => true
  | bytes, c => c.toNat < 128
  | cText, c => c != '\x00'

/-- Whether the content may hold the character with this two-digit code. -/
def Content.allowsCode : Content → Nat → Bool
  | text, n => n < 128
  | bytes, _ => true
  | cText, n => n != 0

/-- Whether the content may hold the character with this code point. -/
def Content.allowsPoint : Content → Nat → Bool
  | text, n => Nat.isValidChar n
  | bytes, _ => false
  | cText, n => Nat.isValidChar n && n != 0

/-- Whether a backslash and this letter are an escape. -/
def Content.allowsLetter (content : Content) (c : Char) : Bool :=
  ['n', 'r', 't', '\\', '\'', '"'].contains c || (c == '0' && content != .cText)

/-- A code point in hexadecimal up to the closing brace, and what is behind it: one to six digits,
low lines after the first. -/
def codePoint? (digits value : Nat) : Text → Option (Nat × Text)
  | [] => none
  | c :: rest =>
    match hexDigit? c with
    | some d => if digits = 6 then none else codePoint? (digits + 1) (16 * value + d) rest
    | none =>
      if digits = 0 then none
      else if c = '_' then codePoint? digits value rest
      else if c = '\x7d' then some (value, rest)
      else none

/-- What is behind an escape of which the backslash has been read. -/
def behindEscape? (content : Content) : Text → Option Text
  | 'x' :: high :: low :: rest => do
    let high ← hexDigit? high
    let low ← hexDigit? low
    if content.allowsCode (16 * high + low) then some rest else none
  | 'u' :: '\x7b' :: rest => do
    let (value, rest) ← codePoint? 0 0 rest
    if content.allowsPoint value then some rest else none
  | c :: rest => if content.allowsLetter c then some rest else none
  | [] => none

/-- What is behind the blanks at the start of a continued line. A return has to be followed by a
line feed, and something has to follow the blanks. -/
def behindIndent? : Text → Option Text
  | [] => none
  | '\r' :: '\n' :: rest => behindIndent? rest
  | c :: rest =>
    if c = '\r' then none
    else if c = ' ' || c = '\t' || c = '\n' then behindIndent? rest
    else some (c :: rest)

/-- What is behind an escape or the break of a continued line, of which the backslash has been read.
-/
def behindBackslash? (content : Content) : Text → Option Text
  | '\n' :: rest => behindIndent? rest
  | '\r' :: '\n' :: rest => behindIndent? rest
  | text => behindEscape? content text

/-- A code point is taken from the front. -/
theorem length_codePoint? {digits value found : Nat} {text rest : Text}
    (h : codePoint? digits value text = some (found, rest)) : rest.length ≤ text.length := by
  fun_induction codePoint? digits value text with
  | case1 => cases h
  | case2 => cases h
  | case3 _ _ _ _ _ _ _ ih => exact Nat.le_succ_of_le (ih h)
  | case4 => cases h
  | case5 _ _ _ _ _ ih => exact Nat.le_succ_of_le (ih h)
  | case6 => cases h; exact Nat.le_succ _
  | case7 => cases h

/-- An escape is taken from the front. -/
theorem length_behindEscape? {content : Content} {text rest : Text}
    (h : behindEscape? content text = some rest) : rest.length ≤ text.length := by
  unfold behindEscape? at h
  split at h
  · obtain ⟨high, _, h⟩ := Option.bind_eq_some_iff.1 h
    obtain ⟨low, _, h⟩ := Option.bind_eq_some_iff.1 h
    split at h
    · cases h
      simp only [List.length_cons]
      omega
    · cases h
  · obtain ⟨⟨value, behind⟩, hpoint, h⟩ := Option.bind_eq_some_iff.1 h
    have := length_codePoint? hpoint
    simp only at h
    split at h
    · cases h
      simp only [List.length_cons]
      omega
    · cases h
  · split at h
    · cases h
      exact Nat.le_succ _
    · cases h
  · cases h

/-- Indentation is taken from the front. -/
theorem length_behindIndent? {text rest : Text} (h : behindIndent? text = some rest) :
    rest.length ≤ text.length := by
  fun_induction behindIndent? text with
  | case1 => cases h
  | case2 _ ih => exact Nat.le_succ_of_le (Nat.le_succ_of_le (ih h))
  | case3 => cases h
  | case4 _ _ _ _ _ ih => exact Nat.le_succ_of_le (ih h)
  | case5 => cases h; exact Nat.le_refl _

/-- An escape is taken from the front. -/
theorem length_behindBackslash? {content : Content} {text rest : Text}
    (h : behindBackslash? content text = some rest) : rest.length ≤ text.length := by
  unfold behindBackslash? at h
  split at h
  · exact Nat.le_succ_of_le (length_behindIndent? h)
  · exact Nat.le_succ_of_le (Nat.le_succ_of_le (length_behindIndent? h))
  · exact length_behindEscape? h

/-! ### Strings -/

/-- What is behind a string of which the opening quotation mark has been read. -/
def behindPlain? (content : Content) (text : Text) : Option Text :=
  match text with
  | [] => none
  | '"' :: rest => some (behindSuffix rest)
  | '\\' :: rest =>
    match _escape : behindBackslash? content rest with
    | some behind => behindPlain? content behind
    | none => none
  | '\r' :: '\n' :: rest => behindPlain? content rest
  | c :: rest => if c != '\r' && content.allows c then behindPlain? content rest else none
termination_by text.length
decreasing_by
  · have := length_behindBackslash? _escape
    simp only [List.length_cons]
    omega
  · simp only [List.length_cons]
    omega
  · exact Nat.lt_succ_self _

/-- What is behind a raw string of which the opening has been read; it ends at a quotation mark
followed by `hashes` number signs. -/
def behindRaw? (content : Content) (hashes : Nat) : Text → Option Text
  | [] => none
  | '\r' :: '\n' :: rest => behindRaw? content hashes rest
  | c :: rest =>
    if c = '"' ∧ rest.take hashes = List.replicate hashes '#' then some (behindSuffix (rest.drop hashes))
    else if c != '\r' && content.allows c then behindRaw? content hashes rest
    else none

/-- What is behind a raw string of which the letter in front has been read. -/
def rawString? (content : Content) (text : Text) : Option Text :=
  let hashes := (text.takeWhile (· == '#')).length
  match text.dropWhile (· == '#') with
  | '"' :: rest => if hashes ≤ 255 then behindRaw? content hashes rest else none
  | _ => none

def quotation? (content : Content) : Text → Option Text
  | '"' :: rest => behindPlain? content rest
  | 'r' :: rest => rawString? content rest
  | _ => none

def string? : Text → Option Text
  | 'b' :: rest => quotation? .bytes rest
  | 'c' :: rest => quotation? .cText rest
  | text => quotation? .text text

/-! ### Characters -/

/-- What is behind the character of a literal: one character, or an escape. -/
def behindChar? (content : Content) : Text → Option Text
  | [] => none
  | '\\' :: rest => behindEscape? content rest
  | c :: rest => if content.allows c then some rest else none

/-- What is behind a literal for one character, of which the opening mark has been read. -/
def behindQuotedChar? (content : Content) (text : Text) : Option Text :=
  match behindChar? content text with
  | some ('\'' :: rest) => some (behindSuffix rest)
  | _ => none

def char? : Text → Option Text
  | 'b' :: '\'' :: rest => behindQuotedChar? .bytes rest
  | '\'' :: rest => behindQuotedChar? .text rest
  | _ => none

end CobolSubset.Rust
