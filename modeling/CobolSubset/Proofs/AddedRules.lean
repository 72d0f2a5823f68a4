import CobolSubset.Proofs.Cutting
import CobolSubset.Proofs.Scanner

/-!
# Adding rules

The first rule that fits decides, so rules that are added behind all others have a say only where
none of the others fits. Two runs over one source, with and without the added rules, therefore go in
step up to the first place where the old rules are stuck:

    Cut.append_rules : Cut rules source tokens rest → Cut (rules ++ more) source tokens rest

From there on the added rules may find a token, and then the old ones go on behind it. What had been
found up to then stays (`RuleSet.tokenize_conservative`). A rule that finds nothing, an empty text or
something further on does not count as fitting, and the next one is tried; this is part of
`matchStart?` and needs no case of its own.
-/

namespace CobolSubset

/-- Two texts that start with no blank, each with blanks before it, are told from the whole. -/
theorem Text.eq_of_blanks_append {blanks blanks' text text' : Text} (hblanks : blanks.AllBlank)
    (hblanks' : blanks'.AllBlank) (hsolid : text.startsSolid = true)
    (hsolid' : text'.startsSolid = true) (h : blanks ++ text = blanks' ++ text') :
    text = text' := by
  have htrim := congrArg Text.trimStart h
  rwa [trimStart_append_of_allBlank hblanks, trimStart_append_of_allBlank hblanks',
    trimStart_of_startsSolid hsolid, trimStart_of_startsSolid hsolid'] at htrim

namespace RuleSet

variable {rules more : RuleSet} {source rest : Text} {tokens other : List Token}

/-! ### The tokens before a place -/

/-- Behind a token there is less than with it, also after further tokens. -/
theorem Cut.ne_token_append {behind : Text} {token : Token} (h : Cut rules behind tokens rest)
    (hsolid : token.text.startsSolid = true) : rest ≠ token.text ++ behind := by
  intro heq
  have hlength := h.suffix.length_le
  have hpositive : token.text ≠ [] := by
    intro hnil
    simp [hnil] at hsolid
  rw [heq, List.length_append] at hlength
  have hzero : token.text.length = 0 := by omega
  exact hpositive (List.length_eq_zero_iff.1 hzero)

/-- There is only one way to get to a place that is no blank. -/
theorem Cut.tokens_eq (hrest : rest.startsSolid = true) (h : Cut rules source tokens rest)
    (h' : Cut rules source other rest) : other = tokens := by
  induction h generalizing other with
  | @stop blanks rest hblanks =>
      generalize hsource : blanks ++ rest = source at h'
      cases h' with
      | stop => rfl
      | take hblanks' hsolid' _ hbehind' =>
          have heq := Text.eq_of_blanks_append hblanks hblanks' hrest
            (Text.startsSolid_append hsolid' _) hsource
          exact absurd heq (hbehind'.ne_token_append hsolid')
  | @take blanks behind rest token tokens hblanks hsolid hfound hbehind ih =>
      generalize hsource : blanks ++ (token.text ++ behind) = source at h'
      cases h' with
      | stop _ hblanks' =>
          have heq := Text.eq_of_blanks_append hblanks' hblanks hrest
            (Text.startsSolid_append hsolid _) hsource.symm
          exact absurd heq (hbehind.ne_token_append hsolid)
      | @take _ behind' _ token' tokens' hblanks' hsolid' hfound' hbehind' =>
          have heq := Text.eq_of_blanks_append hblanks hblanks' (Text.startsSolid_append hsolid _)
            (Text.startsSolid_append hsolid' _) hsource
          -- Both runs ask the same rules about the same text.
          rw [heq, hfound'] at hfound
          cases hfound
          rw [List.append_cancel_left heq] at ih
          rw [ih hrest hbehind']

/-- These tokens, and no others, are found before `rest`. -/
def FoundBefore (rules : RuleSet) (source rest : Text) (tokens : List Token) : Prop :=
  ∀ found, Cut rules source found rest ↔ found = tokens

theorem Cut.foundBefore (h : Cut rules source tokens rest) (hrest : rest.startsSolid = true) :
    FoundBefore rules source rest tokens := by
  intro found
  constructor
  · intro hfound
    exact h.tokens_eq hrest hfound
  · rintro rfl
    exact h

/-! ### Two runs in step -/

/-- A token that the old rules find is found with the added ones as well. -/
theorem matchStart?_append_of_some {input : Text} {token : Token}
    (h : rules.matchStart? input = some token) (more : RuleSet) :
    matchStart? (rules ++ more) input = some token := by
  rw [matchStart?_append, h]
  rfl

/-- As far as the old rules get, the added ones change nothing. -/
theorem Cut.append_rules (h : Cut rules source tokens rest) (more : RuleSet) :
    Cut (rules ++ more) source tokens rest := by
  induction h with
  | stop rest hblanks => exact .stop rest hblanks
  | take hblanks hsolid hfound _ ih =>
      exact .take hblanks hsolid (matchStart?_append_of_some hfound more) ih

/-- Where the old rules are stuck, the added ones decide. -/
theorem Stuck.matchStart?_append_rules (h : Stuck rules rest) (more : RuleSet) :
    matchStart? (rules ++ more) rest = more.matchStart? rest := by
  rw [matchStart?_append, h.2]
  rfl

/-- Where the first rules get stuck, only the added ones can help. -/
theorem Stuck.append_rules_iff (h : Stuck rules rest) :
    Stuck (rules ++ more) rest ↔ more.matchStart? rest = none := by
  unfold Stuck
  rw [h.matchStart?_append_rules more]
  exact and_iff_right h.1

/-- **Added rules are conservative**: where the old rules cut the whole source, the added ones make
no difference. Where the old rules get stuck, the tokens found before come first in any case. Then
the rest is cut up to its end, or the rules get stuck at some end of it; and it is the same place as
before exactly if no added rule fits there. -/
theorem tokenize_conservative (rules more : RuleSet) (source : Text) :
    (∀ tokens, rules.tokenize source = .ok tokens →
      tokenize (rules ++ more) source = .ok tokens) ∧
    ∀ error, rules.tokenize source = .error error →
      ∃ tokens, FoundBefore rules source error.remaining tokens ∧
        (tokenize (rules ++ more) source = .error error ↔
          more.matchStart? error.remaining = none) ∧
        ((∃ further, tokenize (rules ++ more) source = .ok (tokens ++ further)) ∨
          ∃ later further, tokenize (rules ++ more) source = .error later ∧
            later.remaining <:+ error.remaining ∧
            FoundBefore (rules ++ more) source later.remaining (tokens ++ further)) := by
  constructor
  · intro tokens htokens
    have hcut := tokenize_eq_ok_iff.1 htokens
    exact tokenize_eq_ok_iff.2 (hcut.append_rules more)
  · intro error herror
    obtain ⟨hstuck, tokens, hcut⟩ := tokenize_eq_error_iff.1 herror
    have hfirst := hcut.append_rules more
    refine ⟨tokens, hcut.foundBefore hstuck.1, ?_, ?_⟩
    · rw [← hstuck.append_rules_iff, tokenize_eq_error_iff]
      exact and_iff_left ⟨tokens, hfirst⟩
    · -- Both runs are at the same place now, and what is left is cut with all rules.
      have hsource := hfirst.tokenize
      cases hlast : tokenize (rules ++ more) error.remaining with
      | ok further =>
          rw [hlast] at hsource
          exact .inl ⟨further, hsource⟩
      | error later =>
          obtain ⟨hstuck', further, hfurther⟩ := tokenize_eq_error_iff.1 hlast
          rw [hlast] at hsource
          exact .inr ⟨later, further, hsource, hfurther.suffix,
            (hfirst.append hfurther).foundBefore hstuck'.1⟩

/-- Rules for digits and for relations of one sign, of which the first may also find nothing. Behind
them come a rule for relations of two signs, which never gets its turn, and one for a single sign. -/
theorem tokenize_conservative_relations :
    let rules : RuleSet :=
      [⟨.number, .star true (.set Rule.digit)⟩, ⟨.operator, .set (.ofList ['<', '='])⟩]
    let more : RuleSet := [⟨.operator, .literal "<>".toList⟩, ⟨.symbol, .set (.single '>')⟩]
    let found : List Token := [⟨.number, ['1']⟩, ⟨.operator, ['<']⟩, ⟨.operator, ['=']⟩]
    let source := "< <> 2 A".toList
    rules.tokenize "1 <=".toList = .ok found ∧
      tokenize (rules ++ more) "1 <=".toList = .ok found ∧
      rules.tokenize source = .error ⟨"> 2 A".toList⟩ ∧
      tokenize (rules ++ more) source = .error ⟨['A']⟩ ∧
      ∃ tokens further, FoundBefore rules source "> 2 A".toList tokens ∧
        FoundBefore (rules ++ more) source ['A'] (tokens ++ further) := by
  intro rules more found source
  have hwhole : rules.tokenize "1 <=".toList = .ok found := by decide +kernel
  have hstuck : rules.tokenize source = .error ⟨"> 2 A".toList⟩ := by decide +kernel
  have hlater : tokenize (rules ++ more) source = .error ⟨['A']⟩ := by decide +kernel
  obtain ⟨hsame, -⟩ := tokenize_conservative rules more "1 <=".toList
  obtain ⟨-, hfails⟩ := tokenize_conservative rules more source
  refine ⟨hwhole, hsame found hwhole, hstuck, hlater, ?_⟩
  obtain ⟨tokens, hbefore, -, ⟨further, hok⟩ | ⟨later, further, herror, -, hagain⟩⟩ :=
    hfails _ hstuck
  · rw [hlater] at hok
    cases hok
  · rw [hlater] at herror
    cases herror
    exact ⟨tokens, further, hbefore, hagain⟩

end RuleSet

end CobolSubset
