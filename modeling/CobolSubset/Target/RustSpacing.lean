import CobolSubset.Text.Blank

/-!
# Blanks and comments in Rust text

Between two tokens there may be blanks, line comments and nested block comments. Comments that
document something are tokens and are not skipped.
-/

namespace CobolSubset.Rust

/-- Whether a character separates tokens: the blanks and the two marks of writing direction. -/
def isSpacing (c : Char) : Bool := isBlank c || c == '\u200e' || c == '\u200f'

/-- Whether what follows two slashes makes them a documenting comment. -/
def documentsLine : Text → Bool
  | '!' :: _ => true
  | '/' :: '/' :: _ => false
  | '/' :: _ => true
  | _ => false

/-- Whether what follows slash and asterisk makes them a documenting comment. -/
def documentsBlock : Text → Bool
  | '!' :: _ => true
  | '*' :: '/' :: _ => false
  | '*' :: '*' :: _ => false
  | '*' :: _ => true
  | _ => false

/-- What is behind a block comment of which `depth` levels are still to be closed. -/
def behindBlock (depth : Nat) : Text → Option Text
  | '/' :: '*' :: rest => behindBlock (depth + 1) rest
  | '*' :: '/' :: rest => if depth ≤ 1 then some rest else behindBlock (depth - 1) rest
  | _ :: rest => behindBlock depth rest
  | [] => none

/-- A block comment is taken from the front. -/
theorem length_behindBlock {depth : Nat} {text rest : Text} (h : behindBlock depth text = some rest) :
    rest.length ≤ text.length := by
  fun_induction behindBlock depth text with
  | case1 depth tail ih => exact Nat.le_succ_of_le (Nat.le_succ_of_le (ih h))
  | case2 depth tail hdepth =>
    cases h
    exact Nat.le_succ_of_le (Nat.le_succ _)
  | case3 depth tail hdepth ih => exact Nat.le_succ_of_le (Nat.le_succ_of_le (ih h))
  | case4 depth c tail _ _ ih => exact Nat.le_succ_of_le (ih h)
  | case5 => cases h

/-- The text without the blanks and comments at its start. A comment that is not closed stays. -/
def skipSpacing (text : Text) : Text :=
  match text with
  | '/' :: '/' :: rest =>
    if documentsLine rest then '/' :: '/' :: rest else skipSpacing (rest.dropWhile (· != '\n'))
  | '/' :: '*' :: rest =>
    if documentsBlock rest then '/' :: '*' :: rest
    else
      match _closed : behindBlock 1 rest with
      | some behind => skipSpacing behind
      | none => '/' :: '*' :: rest
  | c :: rest => if isSpacing c then skipSpacing rest else c :: rest
  | [] => []
termination_by text.length
decreasing_by
  · have := (List.dropWhile_suffix (l := rest) (· != '\n')).length_le
    simp only [List.length_cons]
    omega
  · have := length_behindBlock _closed
    simp only [List.length_cons]
    omega
  · exact Nat.lt_succ_self _

end CobolSubset.Rust
