import CobolSubset.Proofs.Matching
import CobolSubset.Token.Standard

/-!
# The standard rules as a scanner

The standard rules are ten patterns, tried in order, with trailing contexts and backtracking. `scan`
says the same without patterns: it looks at the first character and knows from it which kind of
token stands there and how far it reaches. The two agree on every text (`matchStart?_standard`).
-/

namespace CobolSubset

/-! ### Classes of characters -/

/-- The characters words are made of: ASCII letters and digits, the low line and the hyphen. -/
def isWordPart (c : Char) : Bool := c.isAlphanum || c == '_' || c == '-'

/-- The characters names are made of: capital letters, digits and the hyphen. -/
def isNamePart (c : Char) : Bool := c.isUpper || c.isDigit || c == '-'

namespace Scanner

/-! ### The scanner -/

/-- What a word is: a division header, a reserved word, a name, or no token at all. -/
def wordCategory? (word : Text) : Option Category :=
  if word ∈ divisionHeaders then some .divisionHeader
  else if word ∈ keywords then some .keyword
  else if word.all isNamePart then some .identifier
  else none

/-- A word: the longest run of word characters, if it is one. -/
def word (text : Text) : Option Token :=
  let run := text.takeWhile isWordPart
  (wordCategory? run).map fun category => ⟨category, run⟩

/-- The digits behind a decimal point, if the text starts with a point, then digits, and then no
word character. -/
def decimals? : Text → Option Text
  | [] => none
  | c :: rest =>
    let digits := rest.takeWhile Char.isDigit
    if c = '.' ∧ digits ≠ [] ∧ Text.stops isWordChar (rest.dropWhile Char.isDigit) then
      some digits
    else none

/-- Decimals are a point and digits that end well, and nothing else. -/
theorem exists_of_decimals? {text decimals : Text} (h : decimals? text = some decimals) :
    ∃ behind, text = '.' :: (decimals ++ behind) ∧ decimals ≠ [] ∧
      decimals.all Char.isDigit = true ∧ Text.stops isWordChar behind = true := by
  cases text with
  | nil => cases h
  | cons c rest =>
      simp only [decimals?] at h
      split at h
      · next hdecimals =>
        cases h
        refine ⟨rest.dropWhile Char.isDigit, ?_, hdecimals.2.1, List.all_takeWhile, hdecimals.2.2⟩
        rw [hdecimals.1, List.takeWhile_append_dropWhile]
      · cases h

/-- A number: the longest run of digits, with its decimals if they end well. -/
def number (text : Text) : Option Token :=
  let digits := text.takeWhile Char.isDigit
  let behind := text.dropWhile Char.isDigit
  match decimals? behind with
  | some decimals => some ⟨.number, digits ++ '.' :: decimals⟩
  | none => if Text.stops isWordChar behind then some ⟨.number, digits⟩ else none

/-- If the decimals end well, they belong to the number. -/
theorem number_of_some {text decimals : Text}
    (h : decimals? (text.dropWhile Char.isDigit) = some decimals) :
    number text = some ⟨.number, text.takeWhile Char.isDigit ++ '.' :: decimals⟩ := by
  simp only [number, h]

/-- Without decimals the digits alone have to end well. -/
theorem number_of_none {text : Text} (h : decimals? (text.dropWhile Char.isDigit) = none) :
    number text =
      if Text.stops isWordChar (text.dropWhile Char.isDigit) then
        some ⟨.number, text.takeWhile Char.isDigit⟩
      else none := by
  simp only [number, h]

/-- What a quotation mark starts: a string if there is another one, else it stands for itself. -/
def quotation (rest : Text) : Token :=
  if '"' ∈ rest then ⟨.string, '"' :: (rest.takeWhile (· != '"') ++ ['"'])⟩
  else ⟨.punctuation, ['"']⟩

/-- What a star starts: a comment up to the end of the line, or a sign. -/
def star (rest : Text) : Token :=
  if rest.head? = some '>' then ⟨.comment, '*' :: rest.takeWhile (· != '\n')⟩
  else ⟨.operator, ['*']⟩

/-- The second sign of a relation, if one of `signs` follows. -/
def secondSign (signs : List Char) : Text → Text
  | [] => []
  | c :: _ => if c ∈ signs then [c] else []

end Scanner

open Scanner in
/-- The token at the very start of the text, told from its first character. -/
def scan : Text → Option Token
  | [] => none
  | c :: rest =>
    if c.isUpper then word (c :: rest)
    else if c.isDigit then number (c :: rest)
    else if c = '"' then some (quotation rest)
    else if c = '*' then some (star rest)
    else if c = '<' then some ⟨.operator, '<' :: secondSign ['=', '>'] rest⟩
    else if c = '>' then some ⟨.operator, '>' :: secondSign ['='] rest⟩
    else if c ∈ ['=', '+', '-', '/'] then some ⟨.operator, [c]⟩
    else if c ∈ [',', '.'] then some ⟨.punctuation, [c]⟩
    else if c ∈ ['(', ')', ':'] then some ⟨.symbol, [c]⟩
    else none

namespace Rule

open Pattern

/-! ### The classes as sets -/

theorem contains_range_upper (c : Char) : (CharSet.range 'A' 'Z').contains c = c.isUpper := by
  simp [CharSet.contains, Char.isUpper, Char.le_def]

theorem contains_range_lower (c : Char) : (CharSet.range 'a' 'z').contains c = c.isLower := by
  simp [CharSet.contains, Char.isLower, Char.le_def]

theorem contains_digit (c : Char) : digit.contains c = c.isDigit := by
  simp [digit, CharSet.contains, Char.isDigit, Char.le_def]

/-- The set of the rules and the class of the scanner are the same. -/
theorem contains_wordPart (c : Char) : wordPart.contains c = isWordPart c := by
  show ((CharSet.range 'A' 'Z').contains c || ((CharSet.range 'a' 'z').contains c ||
    (digit.contains c || (c == '_' || c == '-')))) = _
  rw [contains_range_upper, contains_range_lower, contains_digit]
  simp [isWordPart, Char.isAlphanum, Char.isAlpha, Bool.or_assoc]

/-- The characters behind the first of a name, as a set. -/
abbrev namePart : CharSet := .union (.range 'A' 'Z') (.union digit (.single '-'))

theorem contains_namePart (c : Char) : namePart.contains c = isNamePart c := by
  show ((CharSet.range 'A' 'Z').contains c || (digit.contains c || c == '-')) = _
  rw [contains_range_upper, contains_digit, ← Bool.or_assoc]
  rfl

theorem contains_wordPart_eq : wordPart.contains = isWordPart := funext contains_wordPart

theorem contains_namePart_eq : namePart.contains = isNamePart := funext contains_namePart

theorem contains_digit_eq : digit.contains = Char.isDigit := funext contains_digit

/-! ### Words -/

/-- A word made of word characters fits exactly if it is the longest run of them. -/
theorem fits_iff {text word : Text} (hword : ∀ c ∈ word, isWordPart c = true) :
    fits text word = true ↔ text.takeWhile isWordPart = word := by
  rw [fits, Bool.and_eq_true, contains_wordPart_eq, List.isPrefixOf_iff_prefix]
  constructor
  · rintro ⟨⟨behind, rfl⟩, hends⟩
    rw [List.drop_left] at hends
    exact Text.takeWhile_append_of_stops hword hends
  · rintro rfl
    refine ⟨List.takeWhile_prefix isWordPart, ?_⟩
    rw [Text.drop_length_takeWhile]
    exact Text.stops_dropWhile text

/-- If the words are not empty and made of word characters, their rule finds the longest run of word
characters, if it is one of them. -/
theorem matchStart?_words_eq (category : Category) {list : List Text}
    (hlist : ∀ word ∈ list, word ≠ [] ∧ word.all isWordPart = true) (text : Text) :
    (words category list).matchStart? text =
      if text.takeWhile isWordPart ∈ list then some (text.takeWhile isWordPart) else none := by
  have hparts (word : Text) (hword : word ∈ list) : ∀ c ∈ word, isWordPart c = true :=
    List.all_eq_true.1 (hlist word hword).2
  rw [matchStart?_words]
  split
  · next hmem =>
    have hfits : fits text (text.takeWhile isWordPart) = true := (fits_iff (hparts _ hmem)).2 rfl
    have hfind : list.find? (fits text) = some (text.takeWhile isWordPart) := by
      cases hfind : list.find? (fits text) with
      | none => exact absurd hfits (List.find?_eq_none.1 hfind _ hmem)
      | some word =>
          have hword := List.find?_some hfind
          rw [(fits_iff (hparts word (List.mem_of_find?_eq_some hfind))).1 hword]
    rw [hfind]
    simpa [Option.filter] using (hlist _ hmem).1
  · next hmem =>
    have hfind : list.find? (fits text) = none := by
      refine List.find?_eq_none.2 ?_
      intro word hword hfits
      exact hmem ((fits_iff (hparts word hword)).1 hfits ▸ hword)
    rw [hfind]
    rfl

/-- The division headers letter by letter. To evaluate the rules on a program is mostly to decode the
texts of their words over and over, unless the words are spelled out first. -/
def headerLetters : List Text :=
  [['I', 'D', 'E', 'N', 'T', 'I', 'F', 'I', 'C', 'A', 'T', 'I', 'O', 'N'], ['D', 'A', 'T', 'A'],
    ['P', 'R', 'O', 'C', 'E', 'D', 'U', 'R', 'E']]

def keywordLetters : List Text :=
  [['D', 'I', 'V', 'I', 'S', 'I', 'O', 'N'], ['P', 'R', 'O', 'G', 'R', 'A', 'M', '-', 'I', 'D'],
    ['W', 'O', 'R', 'K', 'I', 'N', 'G', '-', 'S', 'T', 'O', 'R', 'A', 'G', 'E'],
    ['S', 'E', 'C', 'T', 'I', 'O', 'N'], ['S', 'T', 'O', 'P'], ['R', 'U', 'N'],
    ['M', 'O', 'V', 'E'], ['T', 'O'], ['I', 'F'], ['E', 'L', 'S', 'E'],
    ['D', 'I', 'S', 'P', 'L', 'A', 'Y'], ['C', 'O', 'M', 'P', 'U', 'T', 'E'],
    ['P', 'E', 'R', 'F', 'O', 'R', 'M'], ['T', 'I', 'M', 'E', 'S'], ['R', 'E', 'A', 'D'],
    ['W', 'R', 'I', 'T', 'E'], ['O', 'P', 'E', 'N'], ['C', 'L', 'O', 'S', 'E'],
    ['I', 'N', 'T', 'O'], ['O', 'U', 'T', 'P', 'U', 'T'], ['I', 'N', 'P', 'U', 'T'],
    ['E', 'N', 'D', '-', 'I', 'F'], ['E', 'N', 'D', '-', 'P', 'E', 'R', 'F', 'O', 'R', 'M'],
    ['A', 'C', 'C', 'E', 'P', 'T'], ['E', 'V', 'A', 'L', 'U', 'A', 'T', 'E'], ['W', 'H', 'E', 'N'],
    ['O', 'T', 'H', 'E', 'R'], ['E', 'N', 'D', '-', 'E', 'V', 'A', 'L', 'U', 'A', 'T', 'E'],
    ['S', 'T', 'R', 'I', 'N', 'G'], ['F', 'U', 'N', 'C', 'T', 'I', 'O', 'N'],
    ['L', 'E', 'N', 'G', 'T', 'H'], ['O', 'C', 'C', 'U', 'R', 'S'], ['S', 'E', 'A', 'R', 'C', 'H'],
    ['A', 'T'], ['E', 'N', 'D', '-', 'E', 'X', 'E', 'C'], ['E', 'N', 'D'], ['A', 'L', 'L'],
    ['S', 'O', 'R', 'T'], ['A', 'S', 'C', 'E', 'N', 'D', 'I', 'N', 'G'],
    ['D', 'E', 'S', 'C', 'E', 'N', 'D', 'I', 'N', 'G'], ['M', 'E', 'R', 'G', 'E'],
    ['C', 'A', 'L', 'L'], ['U', 'S', 'I', 'N', 'G'], ['G', 'O', 'T', 'O'], ['E', 'X', 'E', 'C'],
    ['S', 'Q', 'L'], ['P', 'I', 'C']]

theorem divisionHeaders_eq_letters : divisionHeaders = headerLetters := by
  simp only [divisionHeaders, headerLetters, List.map]
  repeat rw [String.toList_ofList]

theorem keywords_eq_letters : keywords = keywordLetters := by
  simp only [keywords, keywordLetters, List.map]
  repeat rw [String.toList_ofList]

/-- The words of the language are made of word characters and start with a capital letter. -/
theorem divisionHeaders_capital :
    ∀ word ∈ divisionHeaders, word.head?.any Char.isUpper = true ∧ word.all isWordPart = true := by
  rw [divisionHeaders_eq_letters]
  decide

/-- The same holds for the keywords. -/
theorem keywords_capital :
    ∀ word ∈ keywords, word.head?.any Char.isUpper = true ∧ word.all isWordPart = true := by
  rw [keywords_eq_letters]
  decide

theorem ne_nil_of_capital {list : List Text}
    (hlist : ∀ word ∈ list, word.head?.any Char.isUpper = true ∧ word.all isWordPart = true) :
    ∀ word ∈ list, word ≠ [] ∧ word.all isWordPart = true := by
  intro word hword
  refine ⟨?_, (hlist word hword).2⟩
  rintro rfl
  cases (hlist [] hword).1

/-! ### Names -/

theorem isWordPart_of_isNamePart {c : Char} (h : isNamePart c = true) : isWordPart c = true := by
  simp only [isNamePart, isWordPart, Char.isAlphanum, Char.isAlpha, Bool.or_eq_true] at h ⊢
  rcases h with (hupper | hdigit) | hhyphen
  · exact .inl (.inl (.inl (.inl hupper)))
  · exact .inl (.inl (.inr hdigit))
  · exact .inr hhyphen

/-- Behind the first letter of a name the longest run counts: behind a shorter one the word has not
ended. -/
theorem run_names (cursor : Cursor) :
    (star true (set namePart)).run closeWord cursor =
      closeWord (cursor.pass (cursor.rest.takeWhile isNamePart)
        (cursor.rest.dropWhile isNamePart)) := by
  rw [run_star_set, furtherRounds_set_longest, contains_namePart_eq]
  intro _ before c after hsplit
  have hname : namePart.contains c = true := Text.of_mem_takeWhile (by rw [hsplit]; simp)
  refine closeWord_eq_none _ ?_
  rw [contains_namePart] at hname
  simp [contains_wordPart, isWordPart_of_isNamePart hname]

/-- A name is the longest run of word characters, and it is refused as a whole if one of them is
none of a name. -/
theorem matchStart?_identifier (c : Char) (rest : Text) :
    identifier.matchStart? (c :: rest) =
      if c.isUpper ∧ ((c :: rest).takeWhile isWordPart).all isNamePart then
        some ((c :: rest).takeWhile isWordPart)
      else none := by
  have hrun : identifier.pattern.run some (Cursor.start (c :: rest)) =
      if c.isUpper then closeWord ((Cursor.start (c :: rest)).pass
        (c :: rest.takeWhile isNamePart) (rest.dropWhile isNamePart)) else none := by
    have hpattern : identifier.pattern =
        .seq (.token (.seq (.set (.range 'A' 'Z')) (.star true (.set namePart)))) wordEnd := rfl
    have hclose : (fun after : Cursor => wordEnd.run some (after.markFrom 0)) = closeWord := rfl
    rw [hpattern, run, run, run, show (Cursor.start (c :: rest)).offset = 0 from rfl, hclose]
    rw [run_set_cons rfl, contains_range_upper, run_names, Cursor.pass_advance]
    rfl
  have hsplit : c :: rest = (c :: rest.takeWhile isNamePart) ++ rest.dropWhile isNamePart := by
    rw [List.cons_append, List.takeWhile_append_dropWhile]
  by_cases hupper : c.isUpper = true
  · have hname : isNamePart c = true := by simp [isNamePart, hupper]
    have hword : (c :: rest).takeWhile isWordPart = c :: rest.takeWhile isWordPart := by
      simp [isWordPart_of_isNamePart hname]
    rw [hword, List.all_cons, hname, Bool.true_and]
    rw [if_pos hupper, hsplit] at hrun
    rw [hsplit, matchStart?_of_closeWord hrun, contains_wordPart_eq,
      Text.stops_dropWhile_of_imp @isWordPart_of_isNamePart]
    split
    · next h => rw [if_pos ⟨hupper, h.1⟩, Text.takeWhile_eq_of_all @isWordPart_of_isNamePart h.1]
    · next h => rw [if_neg fun hall => h ⟨hall.2, List.cons_ne_nil _ _⟩]
  · rw [if_neg hupper] at hrun
    rw [matchStart?, matchPrefix?_eq_none hrun]
    simp [hupper]

/-! ### Signs -/

theorem contains_ofList {list : List Char} {c : Char} :
    (CharSet.ofList list).contains c = true ↔ c ∈ list := by
  fun_induction CharSet.ofList list with
  | case1 => simp [CharSet.contains]
  | case2 d => simp [CharSet.contains]
  | case3 d more hmore ih => simp [CharSet.contains, ih]

/-- A rule for single characters looks at the first one. -/
theorem matchStart?_set (category : Category) (s : CharSet) (c : Char) (rest : Text) :
    (Rule.mk category (set s)).matchStart? (c :: rest) =
      if s.contains c then some [c] else none := by
  have hrun : (set s).run some (Cursor.start (c :: rest)) =
      if s.contains c then some ((Cursor.start (c :: rest)).pass [c] rest) else none :=
    run_set_cons rfl
  split
  · next hc =>
    rw [if_pos hc] at hrun
    exact matchPrefix?_of_unmarked rfl hrun (List.cons_ne_nil c [])
  · next hc =>
    rw [if_neg hc] at hrun
    exact matchPrefix?_eq_none hrun

/-- A choice of literals takes the first of them that the text starts with. -/
theorem matchStart?_literals (category : Category) (signs : List Text) (hne : signs ≠ [])
    (hsigns : [] ∉ signs) (text : Text) :
    (Rule.mk category (choice (signs.map literal))).matchStart? text =
      signs.find? (·.isPrefixOf text) := by
  have hrun : (choice (signs.map literal)).run some (Cursor.start text) =
      (signs.find? (·.isPrefixOf text)).bind fun sign =>
        (literal sign).run some (Cursor.start text) := by
    rw [run_choice_literals hne]
    refine findSome?_eq_bind_find? ?_ ?_
    · intro sign _ hsign
      rw [run_literal, Cursor.start_rest, hsign]
      rfl
    · intro sign _ hsign
      rw [run_literal, Cursor.start_rest, hsign]
      rfl
  cases hfind : signs.find? (·.isPrefixOf text) with
  | none =>
      rw [hfind] at hrun
      exact matchPrefix?_eq_none hrun
  | some sign =>
      have hstarts : sign.isPrefixOf text = true := by simpa using List.find?_some hfind
      have hsign : sign ≠ [] := fun h => hsigns (h ▸ List.mem_of_find?_eq_some hfind)
      rw [hfind, Option.bind_some, run_literal, Cursor.start_rest, if_pos hstarts] at hrun
      obtain ⟨behind, rfl⟩ := List.isPrefixOf_iff_prefix.1 hstarts
      rw [List.drop_left] at hrun
      exact matchPrefix?_of_unmarked rfl hrun hsign

/-! ### Strings and comments -/

/-- Between the quotation marks the longest run counts: behind a shorter one stands a character that
is no quotation mark. -/
theorem run_quoted (cursor : Cursor) :
    (star true (set (.compl (.single '"')))).run ((char '"').run some) cursor =
      (char '"').run some (cursor.pass (cursor.rest.takeWhile (· != '"'))
        (cursor.rest.dropWhile (· != '"'))) := by
  rw [run_star_set, furtherRounds_set_longest]
  · rfl
  · intro _ before c after hsplit
    have hc : (CharSet.compl (.single '"')).contains c = true :=
      Text.of_mem_takeWhile (by rw [hsplit]; simp)
    refine run_char_eq_none ?_
    simpa [CharSet.contains] using hc

/-- Behind the opening mark all other characters are passed, and then the closing mark has to
come. -/
theorem run_string (rest : Text) :
    string.pattern.run some (Cursor.start ('"' :: rest)) =
      (char '"').run some ((Cursor.start ('"' :: rest)).pass ('"' :: rest.takeWhile (· != '"'))
        (rest.dropWhile (· != '"'))) := by
  show (char '"').run ((star true (set (.compl (.single '"')))).run ((char '"').run some))
    (Cursor.start ('"' :: rest)) = _
  rw [run_char_self rfl, run_quoted, Cursor.pass_advance]
  rfl

/-- A string ends at the next quotation mark; without one the rule takes nothing. -/
theorem matchStart?_string (c : Char) (rest : Text) :
    string.matchStart? (c :: rest) =
      if c = '"' ∧ '"' ∈ rest then some ('"' :: (rest.takeWhile (· != '"') ++ ['"']))
      else none := by
  by_cases hc : c = '"'
  · subst hc
    have hrun := run_string rest
    by_cases hmem : '"' ∈ rest
    · obtain ⟨behind, hbehind⟩ := Text.dropWhile_ne_of_mem hmem
      have hsplit : '"' :: rest = ('"' :: (rest.takeWhile (· != '"') ++ ['"'])) ++ behind := by
        rw [List.cons_append, List.append_assoc, List.singleton_append, ← hbehind,
          List.takeWhile_append_dropWhile]
      rw [hbehind, run_char_self rfl, Cursor.advance_eq_pass, Cursor.pass_pass] at hrun
      rw [if_pos ⟨rfl, hmem⟩]
      exact matchPrefix?_of_unmarked hsplit hrun (List.cons_ne_nil _ _)
    · rw [Text.dropWhile_ne_of_not_mem hmem, run_char_eq_none (by simp)] at hrun
      rw [matchStart?, matchPrefix?_eq_none hrun]
      simp [hmem]
  · have hrun : string.pattern.run some (Cursor.start (c :: rest)) = none := by
      show (char '"').run _ (Cursor.start (c :: rest)) = none
      exact run_char_eq_none (by simpa using hc)
    rw [matchStart?, matchPrefix?_eq_none hrun]
    simp [hc]

/-- A comment takes the rest of the line: nothing follows that could ask for less. -/
theorem run_line (cursor : Cursor) :
    (star true (set (.compl (.single '\n')))).run some cursor =
      some (cursor.pass (cursor.rest.takeWhile (· != '\n'))
        (cursor.rest.dropWhile (· != '\n'))) := by
  rw [run_star_set, furtherRounds_set_longest]
  · rfl
  · intro h
    cases h

/-- A comment goes up to the line feed, which is none of it. -/
theorem matchStart?_comment (c : Char) (rest : Text) :
    comment.matchStart? (c :: rest) =
      if c = '*' ∧ rest.head? = some '>' then some ('*' :: rest.takeWhile (· != '\n'))
      else none := by
  have hrun : comment.pattern.run some (Cursor.start (c :: rest)) =
      (literal ['*', '>']).run ((star true (set (.compl (.single '\n')))).run some)
        (Cursor.start (c :: rest)) := rfl
  rw [run_literal, Cursor.start_rest] at hrun
  by_cases hc : c = '*' ∧ rest.head? = some '>'
  · obtain ⟨rfl, hhead⟩ := hc
    obtain ⟨more, rfl⟩ : ∃ more, rest = '>' :: more := List.head?_eq_some_iff.1 hhead
    have hsplit : '*' :: '>' :: more =
        ('*' :: '>' :: more.takeWhile (· != '\n')) ++ more.dropWhile (· != '\n') := by
      rw [List.cons_append, List.cons_append, List.takeWhile_append_dropWhile]
    rw [if_pos (by simp), run_line, Cursor.pass_pass] at hrun
    rw [if_pos ⟨rfl, rfl⟩]
    exact matchPrefix?_of_unmarked hsplit hrun (List.cons_ne_nil _ _)
  · have hstarts : ¬ ['*', '>'].isPrefixOf (c :: rest) := by
      intro hstarts
      obtain ⟨more, hmore⟩ := List.isPrefixOf_iff_prefix.1 hstarts
      cases hmore
      exact hc ⟨rfl, rfl⟩
    rw [if_neg hstarts] at hrun
    rw [matchStart?, matchPrefix?_eq_none hrun, if_neg hc]

/-! ### Numbers -/

theorem isWordChar_of_isDigit {c : Char} (h : c.isDigit = true) : isWordChar c = true := by
  have hsmall : c.toNat < 0x80 := by
    simp only [Char.isDigit, Bool.and_eq_true, decide_eq_true_eq, UInt32.le_iff_toNat_le] at h
    exact Nat.lt_of_le_of_lt h.2 (by decide)
  simp [isWordChar, hsmall, Char.isAlphanum, h]

/-- Behind a digit the place before the cursor is inside a word. -/
theorem previous_pass_digits {cursor : Cursor} {run behind : Text} (hne : run ≠ [])
    (hrun : ∀ c ∈ run, c.isDigit = true) :
    (cursor.pass run behind).previous.any isWordChar = true := by
  have hlast := List.getLast?_eq_some_getLast hne
  rw [Cursor.pass_previous, hlast]
  exact isWordChar_of_isDigit (hrun _ (List.getLast_mem hne))

/-- Behind a word character a boundary means that none follows. -/
theorem run_wordBoundary {cursor : Cursor} (hprevious : cursor.previous.any isWordChar = true) :
    (anchor .wordBoundary).run some cursor =
      if Text.stops isWordChar cursor.rest then some cursor else none := by
  have hholds : Anchor.wordBoundary.holds cursor = Text.stops isWordChar cursor.rest := by
    show (cursor.previous.any isWordChar != cursor.rest.head?.any isWordChar) = _
    rw [hprevious]
    cases cursor.rest <;> simp
  rw [run, hholds]

/-- The longest run of digits counts, if what follows cannot start with a digit. -/
theorem run_digits {next : Cursor → Option Cursor} (cursor : Cursor)
    (hnext : ∀ (run behind : Text) (d : Char), run ≠ [] → (∀ c ∈ run, c.isDigit = true) →
      d.isDigit = true → next (cursor.pass run (d :: behind)) = none) :
    digits.run next cursor =
      if cursor.rest.takeWhile Char.isDigit ≠ [] then
        next (cursor.pass (cursor.rest.takeWhile Char.isDigit)
          (cursor.rest.dropWhile Char.isDigit))
      else none := by
  rw [digits]
  cases hrest : cursor.rest with
  | nil => rw [run_plus_set_eq_none (by rw [hrest]; rfl)]; rfl
  | cons c rest =>
      cases hc : c.isDigit with
      | false =>
          rw [run_plus_set_eq_none (by rw [hrest]; simp [contains_digit, hc])]
          simp [hc]
      | true =>
          rw [run_plus_set hrest (by rw [contains_digit, hc]), furtherRounds_set_longest,
            Cursor.pass_advance, contains_digit_eq]
          · simp [hc, Cursor.advance]
          · intro _ before d after hsplit
            have hdigits : ∀ e ∈ before ++ d :: after, e.isDigit = true := by
              intro e he
              rw [← hsplit, contains_digit_eq] at he
              exact Text.of_mem_takeWhile he
            rw [Cursor.pass_advance]
            refine hnext (c :: before) _ d (List.cons_ne_nil c before) ?_ (hdigits d (by simp))
            intro e he
            rcases List.mem_cons.1 he with rfl | he
            · exact hc
            · exact hdigits e (List.mem_append_left _ he)

/-- The decimals of a number. -/
theorem run_decimals (cursor : Cursor) :
    (seq (char '.') digits).run ((anchor .wordBoundary).run some) cursor =
      (Scanner.decimals? cursor.rest).map fun decimals =>
        cursor.pass ('.' :: decimals) (cursor.rest.drop (decimals.length + 1)) := by
  show (char '.').run (digits.run ((anchor .wordBoundary).run some)) cursor = _
  cases hrest : cursor.rest with
  | nil => rw [run_char_eq_none (by simp [hrest])]; rfl
  | cons c rest =>
      by_cases hc : c = '.'
      · subst hc
        rw [run_char_self hrest, run_digits]
        · show (if rest.takeWhile Char.isDigit ≠ [] then (anchor .wordBoundary).run some
            ((cursor.advance '.' rest).pass (rest.takeWhile Char.isDigit)
              (rest.dropWhile Char.isDigit)) else none) = _
          by_cases hne : rest.takeWhile Char.isDigit = []
          · simp [Scanner.decimals?, hne]
          · rw [if_pos hne,
              run_wordBoundary (previous_pass_digits hne fun _ => Text.of_mem_takeWhile),
              Cursor.pass_advance, Cursor.pass_rest]
            cases hends : Text.stops isWordChar (rest.dropWhile Char.isDigit) with
            | false => simp [Scanner.decimals?, hends]
            | true => simp [Scanner.decimals?, hends, hne, Text.drop_length_takeWhile]
        · intro run behind d hne hrun hd
          rw [run_wordBoundary (previous_pass_digits hne hrun)]
          simp [isWordChar_of_isDigit hd]
      · rw [run_char_eq_none (by simpa [hrest] using hc)]
        simp [Scanner.decimals?, hc]

/-- What follows the digits of a number: decimals, or else the end of the word. -/
def closeNumber (cursor : Cursor) : Option Cursor :=
  (seq (opt true (seq (char '.') digits)) (anchor .wordBoundary)).run some cursor

/-- Behind the digits of a number the pattern does as the scanner: decimals if they end well, else
the end of the word. -/
theorem closeNumber_eq {cursor : Cursor} (hprevious : cursor.previous.any isWordChar = true) :
    closeNumber cursor =
      match Scanner.decimals? cursor.rest with
      | some decimals =>
        some (cursor.pass ('.' :: decimals) (cursor.rest.drop (decimals.length + 1)))
      | none => if Text.stops isWordChar cursor.rest then some cursor else none := by
  have hopt : closeNumber cursor =
      ((seq (char '.') digits).run ((anchor .wordBoundary).run some) cursor <|>
        (anchor .wordBoundary).run some cursor) := rfl
  rw [hopt, run_decimals, run_wordBoundary hprevious]
  cases Scanner.decimals? cursor.rest <;> rfl

/-- The longest run of digits counts, since a shorter one would end before a digit. -/
theorem run_number (text : Text) :
    number.pattern.run some (Cursor.start text) =
      if text.takeWhile Char.isDigit ≠ [] then
        closeNumber ((Cursor.start text).pass (text.takeWhile Char.isDigit)
          (text.dropWhile Char.isDigit))
      else none := by
  refine run_digits (Cursor.start text) ?_
  intro run behind d hne hrun hd
  have hpoint : d ≠ '.' := by
    rintro rfl
    cases hd
  -- Behind a shorter run stands a digit: neither a point nor the end of a word.
  refine (closeNumber_eq (previous_pass_digits hne hrun)).trans ?_
  simp [Scanner.decimals?, hpoint, isWordChar_of_isDigit hd]

/-- The rule for numbers finds what the scanner finds. -/
theorem matchStart?_number (text : Text) :
    (number.matchStart? text).map (Token.mk .number) =
      if text.takeWhile Char.isDigit ≠ [] then Scanner.number text else none := by
  have hrun := run_number text
  split
  · next hne =>
    have hsplit : text = text.takeWhile Char.isDigit ++ text.dropWhile Char.isDigit :=
      List.takeWhile_append_dropWhile.symm
    rw [if_pos hne, closeNumber_eq (previous_pass_digits hne fun _ => Text.of_mem_takeWhile),
      Cursor.pass_rest] at hrun
    cases hdecimals : Scanner.decimals? (text.dropWhile Char.isDigit) with
    | some decimals =>
        simp only [hdecimals, Cursor.pass_pass] at hrun
        obtain ⟨behind, hpoint, -⟩ := Scanner.exists_of_decimals? hdecimals
        have htext : text = (text.takeWhile Char.isDigit ++ '.' :: decimals) ++
            (text.dropWhile Char.isDigit).drop (decimals.length + 1) := by
          rw [hpoint, List.drop_succ_cons, List.drop_left, List.append_assoc, List.cons_append,
            ← hpoint]
          exact hsplit
        rw [Scanner.number_of_some hdecimals, matchStart?,
          matchPrefix?_of_unmarked htext hrun (by simp)]
        rfl
    | none =>
        simp only [hdecimals] at hrun
        rw [Scanner.number_of_none hdecimals, matchStart?]
        cases hends : Text.stops isWordChar (text.dropWhile Char.isDigit) with
        | false =>
            rw [hends] at hrun
            rw [matchPrefix?_eq_none hrun]
            rfl
        | true =>
            rw [hends] at hrun
            rw [matchPrefix?_of_unmarked hsplit hrun hne]
            rfl
  · next hne =>
    rw [if_neg hne] at hrun
    rw [matchStart?, matchPrefix?_eq_none hrun]
    rfl

/-! ### Signs of the language -/

/-- Of the relations the longest one is found, since those of two signs come first. -/
theorem matchStart?_relation (c : Char) (rest : Text) :
    relation.matchStart? (c :: rest) =
      if c = '<' then some ('<' :: Scanner.secondSign ['=', '>'] rest)
      else if c = '>' then some ('>' :: Scanner.secondSign ['='] rest)
      else if c = '=' then some ['='] else none := by
  have hfind : relation.matchStart? (c :: rest) =
      [['<', '='], ['>', '='], ['<', '>'], ['='], ['<'], ['>']].find?
        (·.isPrefixOf (c :: rest)) :=
    matchStart?_literals .operator [['<', '='], ['>', '='], ['<', '>'], ['='], ['<'], ['>']]
      (by simp) (by simp) (c :: rest)
  rw [hfind]
  -- The pairs come first in the list, so a single sign is left only if its pairs do not fit.
  by_cases hless : c = '<'
  · subst hless
    cases rest with
    | nil => rfl
    | cons d more =>
        by_cases heq : d = '='
        · subst heq; rfl
        by_cases hgreater : d = '>'
        · subst hgreater; rfl
        simp [Scanner.secondSign, heq, hgreater, Ne.symm heq, Ne.symm hgreater]
  by_cases hgreater : c = '>'
  · subst hgreater
    cases rest with
    | nil => rfl
    | cons d more =>
        by_cases heq : d = '='
        · subst heq; rfl
        simp [Scanner.secondSign, heq, Ne.symm heq]
  by_cases heq : c = '='
  · subst heq; rfl
  simp [hless, hgreater, heq, Ne.symm hless, Ne.symm hgreater, Ne.symm heq]

theorem matchStart?_arithmetic (c : Char) (rest : Text) :
    arithmetic.matchStart? (c :: rest) =
      if c ∈ ['+', '-', '*', '/', '='] then some [c] else none := by
  refine (matchStart?_set _ _ c rest).trans ?_
  simp only [contains_ofList]

theorem matchStart?_punctuation (c : Char) (rest : Text) :
    punctuation.matchStart? (c :: rest) = if c ∈ [',', '.', '"'] then some [c] else none := by
  refine (matchStart?_set _ _ c rest).trans ?_
  simp only [contains_ofList]

theorem matchStart?_symbol (c : Char) (rest : Text) :
    symbol.matchStart? (c :: rest) = if c ∈ ['(', ')', ':'] then some [c] else none := by
  refine (matchStart?_set _ _ c rest).trans ?_
  simp only [contains_ofList]

end Rule

/-! ### The rules together -/

namespace RuleSet

/-- The rules are tried in turn. -/
theorem matchStart?_cons (rule : Rule) (rules : RuleSet) (text : Text) :
    matchStart? (rule :: rules) text =
      ((rule.matchStart? text).map (Token.mk rule.category)).or (matchStart? rules text) := by
  rw [matchStart?, List.findSome?_cons]
  cases (rule.matchStart? text).map (Token.mk rule.category) <;> rfl

theorem matchStart?_append (first second : RuleSet) (text : Text) :
    matchStart? (first ++ second) text = (first.matchStart? text).or (second.matchStart? text) :=
  List.findSome?_append

/-- What is a word of such a list starts with a capital letter. -/
theorem isUpper_of_takeWhile_mem {list : List Text}
    (hlist : ∀ word ∈ list, word.head?.any Char.isUpper = true ∧ word.all isWordPart = true)
    {c : Char} {rest : Text} (h : (c :: rest).takeWhile isWordPart ∈ list) : c.isUpper = true := by
  have hhead := (hlist _ h).1
  rw [List.takeWhile_cons] at hhead
  split at hhead
  · exact hhead
  · cases hhead

def wordRules : RuleSet :=
  [.words .divisionHeader divisionHeaders, .words .keyword keywords, .identifier]

def otherRules : RuleSet :=
  [.string, .number, .comment, .relation, .arithmetic, .punctuation, .symbol]

/-- The standard rules come in two parts that start with different characters. -/
theorem standard_eq : standard = wordRules ++ otherRules := rfl

/-- The standard rules with their words letter by letter. -/
def spelled : RuleSet :=
  .words .divisionHeader Rule.headerLetters :: .words .keyword Rule.keywordLetters ::
    .identifier :: otherRules

/-- Programs are evaluated with the words spelled out. -/
theorem standard_eq_spelled : standard = spelled := by
  rw [spelled, ← Rule.divisionHeaders_eq_letters, ← Rule.keywords_eq_letters]
  rfl

/-- The rules for words take what starts with a capital letter. -/
theorem matchStart?_wordRules (c : Char) (rest : Text) :
    wordRules.matchStart? (c :: rest) =
      if c.isUpper then Scanner.word (c :: rest) else none := by
  simp only [wordRules, matchStart?_cons, Rule.matchStart?_identifier,
    Rule.matchStart?_words_eq _ (Rule.ne_nil_of_capital Rule.divisionHeaders_capital),
    Rule.matchStart?_words_eq _ (Rule.ne_nil_of_capital Rule.keywords_capital)]
  cases hupper : c.isUpper with
  | true =>
      unfold Scanner.word Scanner.wordCategory?
      by_cases hheader : (c :: rest).takeWhile isWordPart ∈ divisionHeaders
      · simp [hheader, Rule.words]
      by_cases hkeyword : (c :: rest).takeWhile isWordPart ∈ keywords
      · simp [hheader, hkeyword, Rule.words]
      by_cases hname : ((c :: rest).takeWhile isWordPart).all isNamePart = true
      · simp only [hheader, hkeyword, hname]; rfl
      · simp only [hheader, hkeyword, hname]; rfl
  | false =>
      have hheader : (c :: rest).takeWhile isWordPart ∉ divisionHeaders := by
        intro h
        rw [isUpper_of_takeWhile_mem Rule.divisionHeaders_capital h] at hupper
        cases hupper
      have hkeyword : (c :: rest).takeWhile isWordPart ∉ keywords := by
        intro h
        rw [isUpper_of_takeWhile_mem Rule.keywords_capital h] at hupper
        cases hupper
      simp only [hheader, hkeyword]
      rfl

theorem isUpper_eq_false_of_isDigit {c : Char} (h : c.isDigit = true) : c.isUpper = false := by
  rw [Bool.eq_false_iff]
  intro hupper
  simp only [Char.isDigit, Char.isUpper, Bool.and_eq_true, decide_eq_true_eq, ge_iff_le,
    UInt32.le_iff_toNat_le] at h hupper
  exact absurd (Nat.le_trans hupper.1 h.2) (by decide)

/-- The characters that tell by themselves which token they start. -/
def signs : List Char := ['"', '*', '<', '>', '=', '+', '-', '/', ',', '.', '(', ')', ':']

/-- The other rules take nothing that starts with a capital letter. -/
theorem matchStart?_otherRules (c : Char) (rest : Text) :
    otherRules.matchStart? (c :: rest) = if c.isUpper then none else scan (c :: rest) := by
  simp only [otherRules, matchStart?_cons, Rule.matchStart?_string, Rule.matchStart?_comment,
    Rule.matchStart?_relation, Rule.matchStart?_arithmetic, Rule.matchStart?_punctuation,
    Rule.matchStart?_symbol, show Rule.number.category = .number from rfl, Rule.matchStart?_number]
  -- A sign settles which rules can fit; only the quotation mark and the star look further.
  by_cases hsign : c ∈ signs
  · simp only [signs, List.mem_cons, List.not_mem_nil, or_false] at hsign
    rcases hsign with rfl | rfl | rfl | rfl | rfl | rfl | rfl | rfl | rfl | rfl | rfl | rfl | rfl
    · by_cases hmem : '"' ∈ rest
      · simp [hmem, scan, Scanner.quotation, Rule.string]
      · simp [hmem, scan, Scanner.quotation, Rule.punctuation]
    · by_cases hhead : rest.head? = some '>'
      · simp [hhead, scan, Scanner.star, Rule.comment]
      · simp [hhead, scan, Scanner.star, Rule.arithmetic]
    all_goals rfl
  · simp only [signs, List.mem_cons, List.not_mem_nil, or_false, not_or] at hsign
    cases hdigit : c.isDigit with
    | true => simp [hsign, scan, hdigit, isUpper_eq_false_of_isDigit hdigit, matchStart?]
    | false =>
        cases hupper : c.isUpper with
        | true => simp [hsign, hdigit, matchStart?]
        | false => simp [hsign, scan, hdigit, hupper, matchStart?]

/-- The standard rules find what the scanner finds. -/
theorem matchStart?_standard (text : Text) : standard.matchStart? text = scan text := by
  cases text with
  | nil =>
      rw [standard_eq_spelled]
      rfl
  | cons c rest =>
      rw [standard_eq, matchStart?_append, matchStart?_wordRules, matchStart?_otherRules]
      cases hupper : c.isUpper with
      | true => simp [scan, hupper]
      | false => simp

/-! ### The rules as they are written down

All rules but those for whole words can be written as patterns. A pattern that is read from text is
held to the start of the input; here that makes no difference, since matching starts there. -/

/-- The written form of the rules behind those for whole words. -/
def written : List (Category × String) :=
  [(.identifier, "(?P<tok>[A-Z][A-Z0-9\\-]*)(?:[^A-Za-z0-9_\\-]|$)"),
    (.string, "\"[^\"]*\""),
    (.number, "[0-9]+(?:\\.[0-9]+)?\\b"),
    (.comment, "\\*>.*"),
    (.operator, "<=|>=|<>|=|<|>"),
    (.operator, "[+\\-*/=]"),
    (.punctuation, "[,.\"]"),
    (.symbol, "[():]")]

/-- Results cannot be compared as such, but what they hold can. -/
theorem eq_ok_of_toOption {ε α : Type} {result : Except ε α} {value : α}
    (h : result.toOption = some value) : result = .ok value := by
  cases result with
  | ok found => rw [Option.some.inj h]
  | error e => cases h

def read (forms : List (Category × String)) : Except PatternError RuleSet :=
  forms.mapM fun form => Rule.ofText form.1 form.2.toList

/-- The rule with its pattern held to the start of the input. -/
def anchored (rule : Rule) : Rule := ⟨rule.category, .seq (.anchor .textStart) rule.pattern⟩

/-- To be held to the start makes no difference to a rule that is tried there only. -/
theorem matchStart?_anchored (rule : Rule) (text : Text) :
    (anchored rule).matchStart? text = rule.matchStart? text := rfl

/-- The rule for comments as it is read: a sequence is bracketed to the right. -/
def commentRead : Rule :=
  ⟨.comment, .seq (.char '*') (.seq (.char '>') (.star true (.set (.compl (.single '\n')))))⟩

def rulesRead : RuleSet :=
  [.identifier, .string, .number, commentRead, .relation, .arithmetic, .punctuation, .symbol].map
    anchored

/-- Reading the written form gives the rules, each held to the start. -/
theorem read_written : read written = .ok rulesRead := by
  refine eq_ok_of_toOption ?_
  simp only [read, written, List.mapM_cons, List.mapM_nil]
  repeat rw [String.toList_ofList]
  decide

/-- The rules that were read find what those of the language find. -/
theorem matchStart?_rulesRead (text : Text) :
    rulesRead.matchStart? text = matchStart? (.identifier :: otherRules) text := by
  have hcomment : commentRead.matchStart? text = Rule.comment.matchStart? text := rfl
  simp only [rulesRead, otherRules, List.map_cons, List.map_nil, matchStart?_cons,
    matchStart?_anchored, hcomment]
  rfl

/-- **The rules are the scanner**: on every text the standard rules find the token that the scanner
tells from the first character, and so do the rules read from their written form. -/
theorem matchStart?_eq_scan :
    (∀ text : Text, standard.matchStart? text = scan text) ∧
      ∃ rules : RuleSet, read written = .ok rules ∧
        ∀ text : Text, matchStart? (.words .divisionHeader divisionHeaders ::
          .words .keyword keywords :: rules) text = scan text := by
  refine ⟨matchStart?_standard, rulesRead, read_written, ?_⟩
  intro text
  rw [← matchStart?_standard, standard_eq, wordRules]
  simp only [List.cons_append, List.nil_append, matchStart?_cons, matchStart?_rulesRead]

end RuleSet

end CobolSubset
