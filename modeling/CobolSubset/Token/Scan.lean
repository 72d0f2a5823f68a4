import CobolSubset.Text.Blank
import CobolSubset.Token.Rule

/-!
# Cutting a source into tokens

Blanks are skipped, the first fitting rule takes a token, and so on to the end. A rule never finds
an empty token, so what is left gets shorter each time. Where no rule fits, the error holds all that
is left.
-/

namespace CobolSubset

/-- No rule fits at the start of what is left of the source. -/
structure LexError where
  remaining : Text
deriving DecidableEq, Repr

def LexError.message (error : LexError) : Text :=
  "Unexpected token in source: ".toList ++ error.remaining

/-! ### What a rule finds -/

namespace Pattern

/-- A token found at the start of a text is a part of that text and is not empty. -/
theorem matchPrefix?_eq_take {pattern : Pattern} {text found : Text}
    (h : pattern.matchPrefix? text = some found) : ∃ n, 0 < n ∧ found = text.take n := by
  unfold matchPrefix? at h
  split at h
  · cases h
  · next stop _ =>
    generalize hspan : stop.token.getD (0, stop.offset) = span at h
    obtain ⟨first, last⟩ := span
    simp only at h
    split at h
    · next hpos =>
      cases h
      exact ⟨last, hpos.2, rfl⟩
    · cases h

end Pattern

/-- A token that a rule set finds is a part of the input and is not empty. -/
theorem RuleSet.matchStart?_eq_take {rules : RuleSet} {input : Text} {token : Token}
    (h : rules.matchStart? input = some token) : ∃ n, 0 < n ∧ token.text = input.take n := by
  obtain ⟨rule, _, hrule⟩ := List.exists_of_findSome?_eq_some h
  obtain ⟨found, hfound, rfl⟩ := Option.map_eq_some_iff.1 hrule
  exact Pattern.matchPrefix?_eq_take hfound

/-- Behind a token there is less than before it. -/
theorem RuleSet.length_drop_matchStart? {rules : RuleSet} {c : Char} {rest : Text} {token : Token}
    (h : rules.matchStart? (c :: rest) = some token) :
    ((c :: rest).drop token.text.length).length < (c :: rest).length := by
  obtain ⟨n, hn, htext⟩ := RuleSet.matchStart?_eq_take h
  rw [htext, List.length_drop, List.length_take]
  simp only [List.length_cons]
  omega

/-! ### The tokens of a source -/

/-- The tokens of a source under the given rules. -/
def RuleSet.tokenize (rules : RuleSet) (source : Text) : Except LexError (List Token) :=
  match _hsource : source.trimStart with
  | [] => .ok []
  | c :: rest =>
    match _hfound : rules.matchStart? (c :: rest) with
    | none => .error ⟨c :: rest⟩
    | some token =>
      match rules.tokenize ((c :: rest).drop token.text.length) with
      | .error e => .error e
      | .ok tokens => .ok (token :: tokens)
termination_by source.length
decreasing_by
  have hdrop := RuleSet.length_drop_matchStart? _hfound
  have htrim : (source.dropWhile isBlank).length ≤ source.length :=
    (List.dropWhile_suffix isBlank).length_le
  rw [show source.dropWhile isBlank = c :: rest from _hsource] at htrim
  omega

end CobolSubset
