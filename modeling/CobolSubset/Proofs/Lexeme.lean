import CobolSubset.Proofs.Scanner
import CobolSubset.Text.Blank

/-!
# Tokens and what may follow them

What the scanner finds depends on the text behind the token as well: a word ends where no word
character follows, a number also looks for decimals, a comment takes the rest of its line, and a
quotation mark stands for itself only if there is no other one in all that follows. `Lexeme` says
for each kind of token how it is spelled and what may stand behind it, and the scanner is
characterized by it:

    scan_eq_some_iff : scan text = some token ↔
                         ∃ behind, text = token.text ++ behind ∧ Lexeme token behind

The main use is to replace what stands behind a token by something else (`Lexeme.replace`). What
the new text has to keep of the old one is said once, for all kinds of tokens, by `Replaces`; so a
blank ends everything but a comment, which needs a line feed (`Lexeme.exchange`).
-/

namespace CobolSubset

open Scanner

/-! ### The kinds of tokens -/

/-- The signs that stand for themselves whatever follows them. -/
def plainSigns : List (Category × Char) :=
  [(.operator, '='), (.operator, '+'), (.operator, '-'), (.operator, '/'), (.punctuation, ','),
    (.punctuation, '.'), (.symbol, '('), (.symbol, ')'), (.symbol, ':')]

/-- The signs that go on if one of the given characters follows. -/
def openSigns : List (Char × List Char) := [('*', ['>']), ('<', ['=', '>']), ('>', ['='])]

def relations : List (Char × Char) := [('<', '='), ('<', '>'), ('>', '=')]

def Token.quotationMark : Token := ⟨.punctuation, ['"']⟩

/-- `Lexeme token behind`: the token is spelled as its kind is, and `behind` does not go on with
it. -/
inductive Lexeme : Token → Text → Prop
  | word {category : Category} {word behind : Text} :
      word.head?.any Char.isUpper = true → word.all isWordPart = true →
      wordCategory? word = some category → Text.stops isWordPart behind = true →
      Lexeme ⟨category, word⟩ behind
  | string {inner behind : Text} : '"' ∉ inner → Lexeme ⟨.string, '"' :: (inner ++ ['"'])⟩ behind
  | integer {digits behind : Text} :
      digits ≠ [] → digits.all Char.isDigit = true →
      Text.stops isWordChar behind = true → decimals? behind = none →
      Lexeme ⟨.number, digits⟩ behind
  | decimal {digits decimals behind : Text} :
      digits ≠ [] → digits.all Char.isDigit = true →
      decimals ≠ [] → decimals.all Char.isDigit = true → Text.stops isWordChar behind = true →
      Lexeme ⟨.number, digits ++ '.' :: decimals⟩ behind
  | comment {line behind : Text} :
      '\n' ∉ line → Text.stops (· != '\n') behind = true →
      Lexeme ⟨.comment, '*' :: '>' :: line⟩ behind
  | plainSign {category : Category} {c : Char} {behind : Text} :
      (category, c) ∈ plainSigns → Lexeme ⟨category, [c]⟩ behind
  | openSign {c : Char} {followers : List Char} {behind : Text} :
      (c, followers) ∈ openSigns → Text.stops (· ∈ followers) behind = true →
      Lexeme ⟨.operator, [c]⟩ behind
  | relation {c d : Char} {behind : Text} :
      (c, d) ∈ relations → Lexeme ⟨.operator, [c, d]⟩ behind
  | quotationMark {behind : Text} : '"' ∉ behind → Lexeme ⟨.punctuation, ['"']⟩ behind

/-! ### From a token to the scanner -/

/-- Digits behind a point are read as decimals if no word character follows them. -/
theorem decimals?_append {decimals behind : Text} (hne : decimals ≠ [])
    (hdigits : decimals.all Char.isDigit = true) (hbehind : Text.stops isWordChar behind = true) :
    decimals? ('.' :: (decimals ++ behind)) = some decimals := by
  have hstop := Text.stops_of_imp @Rule.isWordChar_of_isDigit hbehind
  have htake := Text.takeWhile_append_of_stops (List.all_eq_true.1 hdigits) hstop
  have hdrop := Text.dropWhile_append_of_stops (List.all_eq_true.1 hdigits) hstop
  simp only [decimals?, htake, hdrop]
  exact if_pos ⟨trivial, hne, hbehind⟩

namespace Lexeme

variable {behind : Text}

/-- A word that ends here is scanned as what it is. -/
theorem scan_word {category : Category} {word : Text}
    (hcapital : word.head?.any Char.isUpper = true) (hparts : word.all isWordPart = true)
    (hcategory : wordCategory? word = some category)
    (hbehind : Text.stops isWordPart behind = true) :
    scan (word ++ behind) = some ⟨category, word⟩ := by
  have hrun : (word ++ behind).takeWhile isWordPart = word :=
    Text.takeWhile_append_of_stops (List.all_eq_true.1 hparts) hbehind
  cases word with
  | nil => cases hcapital
  | cons c rest =>
      have hupper : c.isUpper = true := hcapital
      rw [List.cons_append] at hrun ⊢
      simp only [scan, hupper, if_true, Scanner.word, hrun, hcategory, Option.map_some]

/-- A string is scanned up to the first quotation mark, so it has to have none inside. -/
theorem scan_string {inner : Text} (hinner : '"' ∉ inner) :
    scan ('"' :: (inner ++ ['"']) ++ behind) = some ⟨.string, '"' :: (inner ++ ['"'])⟩ := by
  have htake : (inner ++ '"' :: behind).takeWhile (· != '"') = inner :=
    Text.takeWhile_append_of_stops (fun c hc => bne_iff_ne.2 fun heq => hinner (heq ▸ hc)) rfl
  have hquotation : quotation (inner ++ '"' :: behind) = ⟨.string, '"' :: (inner ++ ['"'])⟩ := by
    rw [quotation, if_pos (by simp), htake]
  rw [List.cons_append, List.append_assoc, List.singleton_append]
  simp [scan, hquotation]

/-- A run of digits is where the scanner looks for a number. -/
theorem scan_digits {digits : Text} (hne : digits ≠ []) (hdigits : digits.all Char.isDigit = true) :
    scan (digits ++ behind) = number (digits ++ behind) := by
  cases digits with
  | nil => exact absurd rfl hne
  | cons c rest =>
      have hdigit : c.isDigit = true := by
        rw [List.all_cons, Bool.and_eq_true] at hdigits
        exact hdigits.1
      simp [scan, hdigit, RuleSet.isUpper_eq_false_of_isDigit hdigit]

/-- Digits make an integer where no decimals follow. -/
theorem scan_integer {digits : Text} (hne : digits ≠ []) (hdigits : digits.all Char.isDigit = true)
    (hbehind : Text.stops isWordChar behind = true) (hdecimals : decimals? behind = none) :
    scan (digits ++ behind) = some ⟨.number, digits⟩ := by
  have hstop := Text.stops_of_imp @Rule.isWordChar_of_isDigit hbehind
  have htake := Text.takeWhile_append_of_stops (List.all_eq_true.1 hdigits) hstop
  have hdrop := Text.dropWhile_append_of_stops (List.all_eq_true.1 hdigits) hstop
  rw [← hdrop] at hdecimals
  rw [scan_digits hne hdigits, number_of_none hdecimals, htake, hdrop, if_pos hbehind]

/-- Decimals are scanned with the digits before the point. -/
theorem scan_decimal {digits decimals : Text} (hne : digits ≠ [])
    (hdigits : digits.all Char.isDigit = true) (hdecimals : decimals ≠ [])
    (hall : decimals.all Char.isDigit = true) (hbehind : Text.stops isWordChar behind = true) :
    scan (digits ++ '.' :: decimals ++ behind) = some ⟨.number, digits ++ '.' :: decimals⟩ := by
  have hstop : Text.stops Char.isDigit ('.' :: (decimals ++ behind)) = true := rfl
  have htake := Text.takeWhile_append_of_stops (List.all_eq_true.1 hdigits) hstop
  have hdrop := Text.dropWhile_append_of_stops (List.all_eq_true.1 hdigits) hstop
  have hsome := decimals?_append hdecimals hall hbehind
  rw [← hdrop] at hsome
  rw [List.append_assoc, List.cons_append, scan_digits hne hdigits, number_of_some hsome, htake]

/-- A comment is scanned up to the end of its line. -/
theorem scan_comment {line : Text} (hline : '\n' ∉ line)
    (hbehind : Text.stops (· != '\n') behind = true) :
    scan ('*' :: '>' :: line ++ behind) = some ⟨.comment, '*' :: '>' :: line⟩ := by
  have htake : (line ++ behind).takeWhile (· != '\n') = line :=
    Text.takeWhile_append_of_stops (fun c hc => bne_iff_ne.2 fun heq => hline (heq ▸ hc)) hbehind
  have hstar : Scanner.star ('>' :: (line ++ behind)) = ⟨.comment, '*' :: '>' :: line⟩ := by
    simp [Scanner.star, htake]
  simp [scan, hstar]

/-- A sign that could go on stands alone if it does not. -/
theorem scan_openSign {c : Char} {followers : List Char} (hsign : (c, followers) ∈ openSigns)
    (hbehind : Text.stops (· ∈ followers) behind = true) :
    scan (c :: behind) = some ⟨.operator, [c]⟩ := by
  simp only [openSigns, List.mem_cons, Prod.mk.injEq, List.not_mem_nil, or_false] at hsign
  rcases hsign with ⟨rfl, rfl⟩ | ⟨rfl, rfl⟩ | ⟨rfl, rfl⟩
  · cases behind with
    | nil => rfl
    | cons d rest =>
        have hd : d ≠ '>' := by simpa using hbehind
        simp [scan, Scanner.star, hd]
  · cases behind with
    | nil => rfl
    | cons d rest =>
        have hd : d ≠ '=' ∧ d ≠ '>' := by simpa using hbehind
        simp [scan, secondSign, hd]
  · cases behind with
    | nil => rfl
    | cons d rest =>
        have hd : d ≠ '=' := by simpa using hbehind
        simp [scan, secondSign, hd]

/-- **Completeness**: the scanner finds a token that may stand before what is behind it. -/
theorem scan_append {token : Token} (h : Lexeme token behind) :
    scan (token.text ++ behind) = some token := by
  cases h with
  | word hcapital hparts hcategory hbehind => exact scan_word hcapital hparts hcategory hbehind
  | string hinner => exact scan_string hinner
  | integer hne hdigits hbehind hdecimals => exact scan_integer hne hdigits hbehind hdecimals
  | decimal hne hdigits hdecimals hall hbehind =>
      exact scan_decimal hne hdigits hdecimals hall hbehind
  | comment hline hbehind => exact scan_comment hline hbehind
  | @plainSign category c _ hsign =>
      simp only [plainSigns, List.mem_cons, Prod.mk.injEq, List.not_mem_nil, or_false] at hsign
      rcases hsign with h | h | h | h | h | h | h | h | h <;> obtain ⟨rfl, rfl⟩ := h <;> rfl
  | openSign hsign hbehind => exact scan_openSign hsign hbehind
  | @relation c d _ hsigns =>
      simp only [relations, List.mem_cons, Prod.mk.injEq, List.not_mem_nil, or_false] at hsigns
      rcases hsigns with ⟨rfl, rfl⟩ | ⟨rfl, rfl⟩ | ⟨rfl, rfl⟩ <;> rfl
  | quotationMark hbehind => simp [scan, quotation, hbehind]

end Lexeme

/-! ### From the scanner to a token -/

/-- `token` stands at the start of the text, before what may follow it. -/
def StartsWith (text : Text) (token : Token) : Prop :=
  ∃ behind, text = token.text ++ behind ∧ Lexeme token behind

/-- What the scanner takes for a word is a lexeme, and it stands at the start. -/
theorem startsWith_of_word {c : Char} {rest : Text} {token : Token} (hupper : c.isUpper = true)
    (h : word (c :: rest) = some token) : StartsWith (c :: rest) token := by
  unfold Scanner.word at h
  obtain ⟨category, hcategory, rfl⟩ := Option.map_eq_some_iff.1 h
  have hpart : isWordPart c = true := by
    simp [isWordPart, Char.isAlphanum, Char.isAlpha, hupper]
  refine ⟨(c :: rest).dropWhile isWordPart, List.takeWhile_append_dropWhile.symm, ?_⟩
  refine .word ?_ List.all_takeWhile hcategory (Text.stops_dropWhile _)
  simp [hpart, hupper]

/-- The same for numbers, with decimals and without. -/
theorem startsWith_of_number {c : Char} {rest : Text} {token : Token} (hdigit : c.isDigit = true)
    (h : number (c :: rest) = some token) : StartsWith (c :: rest) token := by
  have hne : (c :: rest).takeWhile Char.isDigit ≠ [] := by simp [hdigit]
  have hsplit : (c :: rest).takeWhile Char.isDigit ++ (c :: rest).dropWhile Char.isDigit =
      c :: rest :=
    List.takeWhile_append_dropWhile
  cases hdecimals : decimals? ((c :: rest).dropWhile Char.isDigit) with
  | none =>
      rw [number_of_none hdecimals] at h
      split at h
      · next hstops =>
        cases h
        exact ⟨_, hsplit.symm, .integer hne List.all_takeWhile hstops hdecimals⟩
      · cases h
  | some decimals =>
      rw [number_of_some hdecimals] at h
      cases h
      obtain ⟨behind, hpoint, hsome, hall, hstops⟩ := exists_of_decimals? hdecimals
      refine ⟨behind, ?_, .decimal hne List.all_takeWhile hsome hall hstops⟩
      rw [List.append_assoc, List.cons_append, ← hpoint, hsplit]

/-- A quotation mark starts a string if another one follows, and else stands for itself. -/
theorem startsWith_quotation (rest : Text) : StartsWith ('"' :: rest) (quotation rest) := by
  unfold quotation
  split
  · next hmem =>
    obtain ⟨behind, hbehind⟩ := Text.dropWhile_ne_of_mem hmem
    have hsplit : rest = rest.takeWhile (· != '"') ++ '"' :: behind := by
      rw [← hbehind, List.takeWhile_append_dropWhile]
    refine ⟨behind, ?_, .string fun hquote => ?_⟩
    · simpa using hsplit
    · simpa using Text.of_mem_takeWhile hquote
  · next hmem => exact ⟨rest, rfl, .quotationMark hmem⟩

/-- A star starts a comment or stands for itself. -/
theorem startsWith_star (rest : Text) : StartsWith ('*' :: rest) (Scanner.star rest) := by
  unfold Scanner.star
  split
  · next hhead =>
    obtain ⟨more, rfl⟩ : ∃ more, rest = '>' :: more := List.head?_eq_some_iff.1 hhead
    have htake : ('>' :: more).takeWhile (· != '\n') = '>' :: more.takeWhile (· != '\n') := rfl
    rw [htake]
    refine ⟨more.dropWhile (· != '\n'), ?_, .comment (fun hfeed => ?_) (Text.stops_dropWhile more)⟩
    · simp [List.takeWhile_append_dropWhile]
    · simpa using Text.of_mem_takeWhile hfeed
  · next hhead =>
    refine ⟨rest, rfl, .openSign (List.Mem.head _) ?_⟩
    cases rest with
    | nil => rfl
    | cons c rest => simpa using hhead

/-- A sign that goes on takes the character behind it, or that character does not go on with it. -/
theorem startsWith_secondSign {c : Char} {followers : List Char} (rest : Text)
    (hopen : (c, followers) ∈ openSigns) (hpairs : ∀ d ∈ followers, (c, d) ∈ relations) :
    StartsWith (c :: rest) ⟨.operator, c :: secondSign followers rest⟩ := by
  cases rest with
  | nil => exact ⟨[], rfl, .openSign hopen rfl⟩
  | cons d rest =>
      by_cases hd : d ∈ followers
      · rw [secondSign, if_pos hd]
        exact ⟨rest, rfl, .relation (hpairs d hd)⟩
      · rw [secondSign, if_neg hd]
        exact ⟨d :: rest, rfl, .openSign hopen (by simpa using hd)⟩

theorem startsWith_plainSign {category : Category} {signs : List Char}
    (hsigns : ∀ c ∈ signs, (category, c) ∈ plainSigns) {c : Char} (hc : c ∈ signs) (rest : Text) :
    StartsWith (c :: rest) ⟨category, [c]⟩ :=
  ⟨rest, rfl, .plainSign (hsigns c hc)⟩

/-- **Soundness**: what the scanner finds starts the text and may stand before what is behind it. -/
theorem startsWith_of_scan {text : Text} {token : Token} (h : scan text = some token) :
    StartsWith text token := by
  cases text with
  | nil => cases h
  | cons c rest =>
      -- One case for each line of the scanner.
      rw [scan] at h
      split at h
      · next hupper => exact startsWith_of_word hupper h
      split at h
      · next hdigit => exact startsWith_of_number hdigit h
      split at h
      · next hquote => cases h; subst hquote; exact startsWith_quotation rest
      split at h
      · next hstar => cases h; subst hstar; exact startsWith_star rest
      split at h
      · next hless =>
        cases h
        subst hless
        exact startsWith_secondSign rest (by simp [openSigns]) (by simp [relations])
      split at h
      · next hmore =>
        cases h
        subst hmore
        exact startsWith_secondSign rest (by simp [openSigns]) (by simp [relations])
      split at h
      · next hsign => cases h; exact startsWith_plainSign (by simp [plainSigns]) hsign rest
      split at h
      · next hsign => cases h; exact startsWith_plainSign (by simp [plainSigns]) hsign rest
      split at h
      · next hsign => cases h; exact startsWith_plainSign (by simp [plainSigns]) hsign rest
      · cases h

/-- The scanner finds a token just where it stands as a lexeme. -/
theorem scan_eq_some_iff {text : Text} {token : Token} :
    scan text = some token ↔ StartsWith text token := by
  constructor
  · exact startsWith_of_scan
  · rintro ⟨behind, rfl, hlexeme⟩
    exact hlexeme.scan_append

/-- The standard rules find a token exactly if it may stand before what is behind it. -/
theorem RuleSet.matchStart?_append_eq_some_iff {token : Token} {behind : Text} :
    RuleSet.standard.matchStart? (token.text ++ behind) = some token ↔ Lexeme token behind := by
  rw [RuleSet.matchStart?_standard, scan_eq_some_iff]
  constructor
  · rintro ⟨other, heq, hlexeme⟩
    rw [List.append_cancel_left heq]
    exact hlexeme
  · intro hlexeme
    exact ⟨behind, rfl, hlexeme⟩

/-! ### Replacing what stands behind a token -/

/-- What ends the token in `behind` ends it in `other` as well. Only a comment minds the rest of its
line, and only the lone quotation mark minds what comes later. -/
structure Replaces (token : Token) (behind other : Text) : Prop where
  word : Text.stops isWordPart behind = true → Text.stops isWordPart other = true
  number : Text.stops isWordChar behind = true → Text.stops isWordChar other = true
  decimals : decimals? behind = none → decimals? other = none
  sign : ∀ sign ∈ openSigns,
    Text.stops (· ∈ sign.2) behind = true → Text.stops (· ∈ sign.2) other = true
  line : token.isComment = true →
    Text.stops (· != '\n') behind = true → Text.stops (· != '\n') other = true
  quote : token = Token.quotationMark → '"' ∉ behind → '"' ∉ other

/-- A lexeme is one before any text that ends it as well. -/
theorem Lexeme.replace {token : Token} {behind other : Text} (h : Lexeme token behind)
    (hother : Replaces token behind other) : Lexeme token other := by
  cases h with
  | word hcapital hparts hcategory hbehind =>
      exact .word hcapital hparts hcategory (hother.word hbehind)
  | string hinner => exact .string hinner
  | integer hne hdigits hbehind hdecimals =>
      exact .integer hne hdigits (hother.number hbehind) (hother.decimals hdecimals)
  | decimal hne hdigits hdecimals hall hbehind =>
      exact .decimal hne hdigits hdecimals hall (hother.number hbehind)
  | comment hline hbehind => exact .comment hline (hother.line rfl hbehind)
  | plainSign hsign => exact .plainSign hsign
  | openSign hsign hbehind => exact .openSign hsign (hother.sign _ hsign hbehind)
  | relation hsigns => exact .relation hsigns
  | quotationMark hbehind => exact .quotationMark (hother.quote rfl hbehind)

/-- What goes on with a sign is a sign itself. -/
theorem mem_signs_of_openSigns : ∀ sign ∈ openSigns, ∀ c ∈ sign.2, c ∈ RuleSet.signs := by
  simp [openSigns, RuleSet.signs]

/-! ### Blanks end a token -/

/-- The code points that a table covers. -/
def CharTable.codes (table : CharTable) : List Nat :=
  table.flatMap fun span => List.range' span.1 (span.2 + 1 - span.1)

theorem CharTable.mem_codes {table : CharTable} {n : Nat} (h : table.covers n = true) :
    n ∈ table.codes := by
  induction table with
  | nil => cases h
  | cons span table ih =>
      obtain ⟨low, high⟩ := span
      rw [codes, List.flatMap_cons, List.mem_append, List.mem_range'_1]
      rw [covers] at h
      split at h
      · next hhigh =>
        have hlow : low ≤ n := of_decide_eq_true h
        exact .inl ⟨hlow, by omega⟩
      · exact .inr (ih h)

/-- A blank is no part of a word, no word character and no sign. -/
theorem blank_separates {c : Char} (h : isBlank c = true) :
    isWordPart c = false ∧ isWordChar c = false ∧ c ∉ RuleSet.signs := by
  -- There are few blanks, so each of them is looked up in the other tables.
  have hall : ∀ n ∈ blankTable.codes, isWordPart (Char.ofNat n) = false ∧
      isWordChar (Char.ofNat n) = false ∧ Char.ofNat n ∉ RuleSet.signs := by decide +kernel
  have hc := hall c.toNat (CharTable.mem_codes h)
  rwa [Char.ofNat_toNat] at hc

/-- Behind the token comes a blank, a line feed if the token is a comment, or nothing at all. -/
def Separates (token : Token) (behind : Text) : Prop :=
  ∀ c ∈ behind.head?, isBlank c = true ∧ (token.isComment = true → c = '\n')

/-- What stands behind a token may be exchanged for anything that a blank starts, as long as no
quotation mark comes in. -/
theorem Lexeme.exchange {token : Token} {behind other : Text} (h : Lexeme token behind)
    (hother : Separates token other) (hquote : '"' ∉ behind → '"' ∉ other) :
    Lexeme token other := by
  have hstops {p : Char → Bool} (hp : ∀ c, isBlank c = true → p c = false) :
      Text.stops p other = true :=
    Text.stops_of_head? fun c hc => hp c (hother c hc).1
  refine h.replace ⟨fun _ => ?_, fun _ => ?_, fun _ => ?_, fun sign hsign _ => ?_,
    fun hcomment _ => ?_, fun _ => hquote⟩
  · exact hstops fun c hc => (blank_separates hc).1
  · exact hstops fun c hc => (blank_separates hc).2.1
  · cases other with
    | nil => rfl
    | cons c rest =>
        have hpoint : c ≠ '.' := by
          rintro rfl
          exact (blank_separates (hother '.' rfl).1).2.2 (by decide)
        simp [decimals?, hpoint]
  · refine hstops fun c hc => ?_
    simpa using fun hmem => (blank_separates hc).2.2 (mem_signs_of_openSigns sign hsign c hmem)
  · exact Text.stops_of_head? fun c hc => by simp [(hother c hc).2 hcomment]

end CobolSubset
