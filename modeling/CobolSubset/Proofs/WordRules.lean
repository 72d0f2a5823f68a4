import CobolSubset.Proofs.Scanner

/-!
# Rules for whole words

The rule for a list of words tries them in order, and a word that goes on behind its end is given
back. `Rule.Fits` says without patterns when a word may be taken, and `Rule.FirstFit` which word of a
list is. An empty word that fits first hides all words behind it, since an empty token does not
count.

With the words of a language this does not happen. If words are made of the characters that continue
a word, only the longest run of such characters can fit, so no text fits two of them and their order
does not matter (`Rule.matchStart?_words_perm`).

Words may hold characters that mean something in a pattern. They are escaped where the pattern of the
rule is written down, and reading the written form gives back the rule (`Rule.ofText_wordsForm`). The
same holds of all anchors that a pattern may hold (`Anchor.ofText_written`).
-/

namespace CobolSubset.Rule

open Pattern

/-! ### The word that is taken -/

/-- No word goes on here: the text is at its end or starts with a character that continues none. -/
def WordEnds (rest : Text) : Prop :=
  rest = [] ∨ ∃ c more, rest = c :: more ∧ isWordPart c = false

/-- The text starts with the word, and the word ends there. -/
def Fits (text word : Text) : Prop := ∃ rest, text = word ++ rest ∧ WordEnds rest

/-- The word is the first of the list that fits. -/
def FirstFit (list : List Text) (text word : Text) : Prop :=
  ∃ before after, list = before ++ word :: after ∧ Fits text word ∧
    ∀ earlier ∈ before, ¬ Fits text earlier

theorem wordEnds_iff {rest : Text} : WordEnds rest ↔ Text.stops wordPart.contains rest = true := by
  rw [contains_wordPart_eq]
  cases rest with
  | nil => simp [WordEnds]
  | cons c more => simp [WordEnds]

theorem fits_eq_true_iff {text word : Text} : fits text word = true ↔ Fits text word := by
  rw [fits, Bool.and_eq_true, ← wordEnds_iff, List.isPrefixOf_iff_prefix]
  constructor
  · rintro ⟨⟨rest, rfl⟩, hends⟩
    rw [List.drop_left] at hends
    exact ⟨rest, rfl, hends⟩
  · rintro ⟨rest, rfl, hends⟩
    rw [List.drop_left]
    exact ⟨List.prefix_append word rest, hends⟩

theorem find?_fits_eq_some_iff {list : List Text} {text word : Text} :
    list.find? (fits text) = some word ↔ FirstFit list text word := by
  rw [List.find?_eq_some_iff_append]
  constructor
  · rintro ⟨hfits, before, after, hlist, hbefore⟩
    refine ⟨before, after, hlist, fits_eq_true_iff.1 hfits, ?_⟩
    intro earlier hearlier hfits
    simpa [fits_eq_true_iff.2 hfits] using hbefore earlier hearlier
  · rintro ⟨before, after, hlist, hfits, hbefore⟩
    refine ⟨fits_eq_true_iff.2 hfits, before, after, hlist, ?_⟩
    intro earlier hearlier
    simpa [← fits_eq_true_iff] using hbefore earlier hearlier

theorem matchStart?_words_eq_some_iff {category : Category} {list : List Text} {text found : Text} :
    (words category list).matchStart? text = some found ↔
      FirstFit list text found ∧ found ≠ [] := by
  rw [matchStart?_words, Option.filter_eq_some_iff, find?_fits_eq_some_iff]
  simp

/-- The order of words does not matter, if they are not empty and made of word characters. -/
theorem matchStart?_words_perm (category : Category) {list list' : List Text}
    (hperm : list.Perm list') (hlist : ∀ word ∈ list, word ≠ [] ∧ word.all isWordPart = true)
    (text : Text) :
    (words category list).matchStart? text = (words category list').matchStart? text := by
  have hlist' : ∀ word ∈ list', word ≠ [] ∧ word.all isWordPart = true :=
    fun word hword => hlist word (hperm.mem_iff.2 hword)
  rw [matchStart?_words_eq category hlist, matchStart?_words_eq category hlist']
  -- Both rules look for the same run, and the lists have the same members.
  simp only [hperm.mem_iff]

/-! ### The written form -/

/-- The characters that mean something in a pattern. -/
def metaChars : List Char :=
  ['\\', '.', '+', '*', '?', '(', ')', '|', '[', ']', '\x7b', '\x7d', '^', '$', '#', '&', '-', '~']

/-- A character as it is written in a pattern, so that it stands for itself. -/
def escapedChar (c : Char) : Text := if c ∈ metaChars then ['\\', c] else [c]

def escapedText (text : Text) : Text := text.flatMap escapedChar

/-- The pattern of the rule for a list of words, as it is written down. -/
def wordsForm (list : List Text) : Text :=
  "(?P<tok>".toList ++ Text.join ['|'] (list.map escapedText) ++
    ")(?:[^A-Za-z0-9_\\-]|$)".toList

theorem escape_of_mem_metaChars {c : Char} (h : c ∈ metaChars) (flags : Flags) (rest : Text) :
    escape flags (c :: rest) = .ok (.char c, rest) := by
  unfold metaChars at h
  fin_cases h <;> rfl

/-- A character that means nothing is read as itself. -/
theorem alternativesFrom_plain {c : Char} (h : c ∉ metaChars) (fuel : Nat) (state : GroupState)
    (rest : Text) :
    alternativesFrom (fuel + 1) state (c :: rest) =
      alternativesFrom fuel (state.push (.set (state.flags.apply (.single c)))) rest := by
  simp only [metaChars, List.mem_cons, List.not_mem_nil, or_false, not_or] at h
  rw [alternativesFrom]
  all_goals simp only [h, imp_false, not_false_eq_true]

/-- An escaped character is read as itself, in one step. -/
theorem alternativesFrom_escapedChar (c : Char) (rest : Text) {state : GroupState}
    (hflags : state.flags = {}) (fuel : Nat) :
    alternativesFrom (fuel + 1) state (escapedChar c ++ rest) =
      alternativesFrom fuel (state.push (char c)) rest := by
  have hset : set (state.flags.apply (.single c)) = char c := by rw [hflags]; rfl
  by_cases hmeta : c ∈ metaChars
  · have hescaped : escapedChar c = ['\\', c] := if_pos hmeta
    rw [hescaped, ← hset]
    show alternativesFrom (fuel + 1) state ('\\' :: c :: rest) = _
    rw [alternativesFrom, escape_of_mem_metaChars hmeta]
    rfl
  · have hescaped : escapedChar c = [c] := if_neg hmeta
    rw [hescaped, ← hset]
    exact alternativesFrom_plain hmeta fuel state rest

/-- An escaped text is read as the parts of its literal. A step takes at least one character, so
enough steps are left. -/
theorem alternativesFrom_escapedText (word rest : Text) {state : GroupState}
    (hflags : state.flags = {}) {fuel : Nat} (hfuel : (escapedText word ++ rest).length < fuel) :
    ∃ left, rest.length < left ∧
      alternativesFrom fuel state (escapedText word ++ rest) =
        alternativesFrom left
          { state with parts := (word.map fun c => some (char c)).reverse ++ state.parts } rest := by
  induction word generalizing state fuel with
  | nil => exact ⟨fuel, hfuel, rfl⟩
  | cons c word ih =>
      have hsplit : escapedText (c :: word) ++ rest = escapedChar c ++ (escapedText word ++ rest) := by
        simp [escapedText]
      have hchar : 0 < (escapedChar c).length := by
        unfold escapedChar
        split <;> simp
      rw [hsplit, List.length_append] at hfuel
      obtain ⟨fuel, rfl⟩ : ∃ before, fuel = before + 1 := ⟨fuel - 1, by omega⟩
      obtain ⟨left, hleft, hread⟩ := @ih (state.push (char c)) hflags fuel (by omega)
      refine ⟨left, hleft, ?_⟩
      rw [hsplit, alternativesFrom_escapedChar c _ hflags, hread]
      simp [GroupState.push]

/-- The end of an alternative that consists of a literal. -/
theorem closeAlternative_literal {state : GroupState} (hparts : state.parts = []) (word : Text) :
    GroupState.closeAlternative
        { state with parts := (word.map fun c => some (char c)).reverse ++ state.parts } =
      { state with alternatives := literal word :: state.alternatives, parts := [] } := by
  simp [GroupState.closeAlternative, hparts, literal, List.filterMap_map]

/-- Escaped words with bars between them are read as the choice of their literals. -/
theorem alternativesFrom_words (word : Text) (list : List Text) (rest : Text) {state : GroupState}
    (hflags : state.flags = {}) (hparts : state.parts = []) {fuel : Nat}
    (hfuel : (Text.join ['|'] ((word :: list).map escapedText) ++ ')' :: rest).length < fuel) :
    alternativesFrom fuel state
        (Text.join ['|'] ((word :: list).map escapedText) ++ ')' :: rest) =
      .ok (choice (state.alternatives.reverse ++ (word :: list).map literal), state.names,
        ')' :: rest) := by
  induction list generalizing word state fuel with
  | nil =>
      have hjoin : Text.join ['|'] ([word].map escapedText) = escapedText word :=
        List.intercalate_singleton
      rw [hjoin] at hfuel ⊢
      obtain ⟨left, hleft, hread⟩ := alternativesFrom_escapedText word (')' :: rest) hflags hfuel
      obtain ⟨left, rfl⟩ : ∃ before, left = before + 1 := ⟨left - 1, by omega⟩
      rw [hread, alternativesFrom, GroupState.pattern, closeAlternative_literal hparts]
      simp
  | cons next list ih =>
      have hjoin : Text.join ['|'] ((word :: next :: list).map escapedText) ++ ')' :: rest =
          escapedText word ++
            '|' :: (Text.join ['|'] ((next :: list).map escapedText) ++ ')' :: rest) := by
        simp [Text.join, List.intercalate]
      rw [hjoin] at hfuel ⊢
      obtain ⟨left, hleft, hread⟩ := alternativesFrom_escapedText word _ hflags hfuel
      obtain ⟨left, rfl⟩ : ∃ before, left = before + 1 := ⟨left - 1, by omega⟩
      rw [hread, alternativesFrom, closeAlternative_literal hparts]
      have hmore := @ih next { state with alternatives := literal word :: state.alternatives, parts := [] }
        hflags rfl left (by simpa using hleft)
      rw [hmore]
      simp

/-- The set of characters that end a word is read as such. -/
theorem bracketSet_wordEnd :
    bracketSet {} ("^A-Za-z0-9_\\-]|$))".toList.length + 1) "^A-Za-z0-9_\\-]|$))".toList =
      .ok (.compl wordPart, "|$))".toList) :=
  RuleSet.eq_ok_of_toOption (by decide)

theorem groupHead_plain (rest : Text) :
    groupHead {} ('?' :: ':' :: rest) = .ok (.plain {}, rest) := rfl

theorem groupHead_token (rest : Text) :
    groupHead {} ('?' :: 'P' :: '<' :: 't' :: 'o' :: 'k' :: '>' :: rest) =
      .ok (.named tokenGroup, rest) := rfl

/-- A group that only brackets is read as its inside. -/
theorem alternativesFrom_group {fuel : Nat} {state : GroupState} {inside behind : Text}
    {inner : Pattern} {names : List Text} (hflags : state.flags = {})
    (hinner : alternativesFrom fuel { flags := {}, names := state.names } inside =
      .ok (inner, names, ')' :: behind)) :
    alternativesFrom (fuel + 1) state ('(' :: '?' :: ':' :: inside) =
      alternativesFrom fuel ({ state with names := names }.push inner) behind := by
  rw [alternativesFrom, hflags, groupHead_plain]
  show (alternativesFrom fuel { flags := {}, names := state.names } inside >>= _) = _
  rw [hinner]
  rfl

/-- The group that marks the token is read as the mark around its inside. -/
theorem alternativesFrom_tokenGroup {fuel : Nat} {inside behind : Text} {inner : Pattern}
    {names : List Text}
    (hinner : alternativesFrom fuel { flags := {}, names := [tokenGroup] } inside =
      .ok (inner, names, ')' :: behind)) :
    alternativesFrom (fuel + 1) { flags := {}, names := [] }
        ('(' :: '?' :: 'P' :: '<' :: 't' :: 'o' :: 'k' :: '>' :: inside) =
      alternativesFrom fuel { flags := {}, names, parts := [some (token inner)] } behind := by
  rw [alternativesFrom, groupHead_token]
  show (alternativesFrom fuel { flags := {}, names := [tokenGroup] } inside >>= _) = _
  rw [hinner]
  rfl

/-- The written form of the end of a word. -/
theorem alternativesFrom_wordEnd (fuel : Nat) (names : List Text) :
    alternativesFrom (fuel + 4) { flags := {}, names } "[^A-Za-z0-9_\\-]|$))".toList =
      .ok (wordEnd, names, "))".toList) := by
  show alternativesFrom (fuel + 4) { flags := {}, names }
    ('[' :: "^A-Za-z0-9_\\-]|$))".toList) = _
  rw [alternativesFrom, bracketSet_wordEnd]
  rfl

/-- What stands behind the words in the written form, with the parenthesis that closes it all. -/
def behindWords : Text := "(?:[^A-Za-z0-9_\\-]|$))".toList

/-- The words in the written form, with all that stands behind them. -/
def fromWords (list : List Text) : Text :=
  Text.join ['|'] (list.map escapedText) ++ ')' :: behindWords

/-- The words are read up to the parenthesis behind them. No word at all is the empty pattern, as
the choice among no patterns is. -/
theorem alternativesFrom_fromWords (list : List Text) {fuel : Nat}
    (hfuel : (fromWords list).length < fuel) :
    alternativesFrom fuel { flags := {}, names := [tokenGroup] } (fromWords list) =
      .ok (choice (list.map literal), [tokenGroup], ')' :: behindWords) := by
  cases list with
  | nil =>
      obtain ⟨fuel, rfl⟩ : ∃ before, fuel = before + 1 := ⟨fuel - 1, by omega⟩
      rfl
  | cons word list =>
      unfold fromWords at hfuel ⊢
      rw [alternativesFrom_words word list behindWords rfl rfl hfuel]
      rfl

theorem wordsForm_held (list : List Text) :
    "^(?:".toList ++ wordsForm list ++ ")".toList =
      '^' :: '(' :: '?' :: ':' :: '(' :: '?' :: 'P' :: '<' :: 't' :: 'o' :: 'k' :: '>' ::
        fromWords list := by
  have hbefore : "^(?:".toList ++ "(?P<tok>".toList =
      ['^', '(', '?', ':', '(', '?', 'P', '<', 't', 'o', 'k', '>'] := by simp
  have hbehind : ")(?:[^A-Za-z0-9_\\-]|$)".toList ++ ")".toList = ')' :: behindWords := by decide
  have hassoc (first second third fourth fifth : Text) :
      first ++ (second ++ third ++ fourth) ++ fifth =
        first ++ second ++ (third ++ (fourth ++ fifth)) := by
    simp only [List.append_assoc]
  have hheld := hassoc "^(?:".toList "(?P<tok>".toList (Text.join ['|'] (list.map escapedText))
    ")(?:[^A-Za-z0-9_\\-]|$)".toList ")".toList
  rewrite [hbefore, hbehind] at hheld
  exact hheld

/-- **The rule as it is written**: reading the pattern with its words escaped gives the rule that
takes any of the words as a whole, held to the start of the input. -/
theorem ofText_wordsForm (category : Category) (list : List Text) :
    ofText category (wordsForm list) = .ok (RuleSet.anchored (words category list)) := by
  have hwords := @alternativesFrom_fromWords list ((fromWords list).length + 10) (by omega)
  have hinner : alternativesFrom ((fromWords list).length + 11) { flags := {}, names := [] }
      ('(' :: '?' :: 'P' :: '<' :: 't' :: 'o' :: 'k' :: '>' :: fromWords list) =
        .ok ((words category list).pattern, [tokenGroup], [')']) := by
    rw [alternativesFrom_tokenGroup hwords]
    exact (alternativesFrom_group rfl (alternativesFrom_wordEnd _ _)).trans rfl
  have houter : alternativesFrom ((fromWords list).length + 13) { flags := {}, names := [] }
      ('^' :: '(' :: '?' :: ':' :: '(' :: '?' :: 'P' :: '<' :: 't' :: 'o' :: 'k' :: '>' ::
        fromWords list) =
        .ok (.seq (.anchor .textStart) (words category list).pattern, [tokenGroup], []) := by
    rw [alternativesFrom]
    exact (alternativesFrom_group rfl hinner).trans rfl
  rw [Rule.ofText, wordsForm_held, Pattern.ofText]
  simp only [List.length_cons]
  rw [houter]
  rfl

/-! ### The rule as a whole -/

/-- **A word rule takes the first word that fits**: it finds that word if it is not empty, and
nothing if it is empty or no word fits. The rule may also be written as a pattern with the words
escaped, whatever characters they hold. If the words are not empty and made of word characters, their
order does not matter. -/
theorem words_first_fit (category : Category) (list : List Text) :
    (∀ input found, (words category list).matchStart? input = some found ↔
      FirstFit list input found ∧ found ≠ []) ∧
    (∀ input, (words category list).matchStart? input = none ↔
      ∀ word, FirstFit list input word → word = []) ∧
    (∃ rule, ofText category (wordsForm list) = .ok rule ∧
      ∀ input, rule.matchStart? input = (words category list).matchStart? input) ∧
    ∀ list', list.Perm list' → (∀ word ∈ list, word ≠ [] ∧ word.all isWordPart = true) →
      ∀ input, (words category list).matchStart? input =
        (words category list').matchStart? input := by
  refine ⟨fun _ _ => matchStart?_words_eq_some_iff, ?_, ?_, ?_⟩
  · intro input
    rw [Option.eq_none_iff_forall_ne_some]
    simp only [ne_eq, matchStart?_words_eq_some_iff, not_and, not_not]
  · exact ⟨_, ofText_wordsForm category list, RuleSet.matchStart?_anchored _⟩
  · exact fun _ hperm hlist => matchStart?_words_perm category hperm hlist

/-- `END` is given back where `END-EXEC` stands, whichever of them is tried first, and an empty word
hides the words behind it. -/
theorem words_first_fit_end :
    FirstFit ["END".toList, "END-EXEC".toList] "END-EXEC.".toList "END-EXEC".toList ∧
      (words .keyword ["END".toList, "END-EXEC".toList]).matchStart? "END-EXEC.".toList =
        (words .keyword ["END-EXEC".toList, "END".toList]).matchStart? "END-EXEC.".toList ∧
      ∀ word, FirstFit [[], "+".toList] "+1".toList word → word = [] := by
  obtain ⟨hfirst, -, -, hperm⟩ := words_first_fit .keyword ["END".toList, "END-EXEC".toList]
  obtain ⟨-, hnone, -, -⟩ := words_first_fit .operator [[], "+".toList]
  refine ⟨((hfirst _ _).1 ?_).1, hperm _ (.swap _ _ _) ?_ _, (hnone _).1 ?_⟩
  · decide
  · decide
  · decide

end CobolSubset.Rule

namespace CobolSubset

/-! ### Anchors -/

def WordEdge.written : WordEdge → Text
  | boundary => "\\b".toList
  | noBoundary => "\\B".toList
  | start => "\\b\x7bstart\x7d".toList
  | stop => "\\b\x7bend\x7d".toList
  | startHalf => "\\b\x7bstart-half\x7d".toList
  | stopHalf => "\\b\x7bend-half\x7d".toList

def Anchor.written : Anchor → Text
  | textStart => "^".toList
  | textEnd => "$".toList
  | lineStart .feed => "(?m)^".toList
  | lineStart .returnOrFeed => "(?mR)^".toList
  | lineEnd .feed => "(?m)$".toList
  | lineEnd .returnOrFeed => "(?mR)$".toList
  | word edge .unicode => edge.written
  | word edge .ascii => "(?-u)".toList ++ edge.written

/-- **Every anchor can be written**: its written form is read as the anchor alone, the flags before
it being no part of the pattern. -/
theorem Anchor.ofText_written (a : Anchor) : Pattern.ofText a.written = .ok (.anchor a) := by
  cases a with
  | textStart => rfl
  | textEnd => rfl
  | lineStart ending => cases ending <;> rfl
  | lineEnd ending => cases ending <;> rfl
  | word edge letters => cases letters <;> cases edge <;> rfl

end CobolSubset
