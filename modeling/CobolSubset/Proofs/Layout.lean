import CobolSubset.Conversion
import CobolSubset.Proofs.Cutting
import CobolSubset.Proofs.Grammar
import CobolSubset.Proofs.Lexeme
import CobolSubset.Proofs.ShapeContract

/-!
# Every layout of a program

A program is written down by putting its tokens one after the other, with gaps of blanks and comment
lines between them. A period or a comma may also follow directly, but for those in a query. Whatever
gaps are chosen, reading the text gives the tree of the program (`Derivation.parse_layout`).

Two facts carry this. A token that is read from its own text alone is also read before anything that
`Closes` it, and that is what every gap, period and comma does (`Token.Steady.lexeme`). And what the
gaps bring in are comments, which are dropped before reading.
-/

namespace CobolSubset

open Scanner

/-! ### Gaps -/

/-- A blank, or a comment with the line feed that ends it. -/
inductive Space where
  | blank (c : Char) (white : isBlank c = true)
  | comment (line : Text) (oneLine : '\n' ∉ line)

def Space.text : Space → Text
  | blank c _ => [c]
  | comment line _ => '*' :: '>' :: (line ++ ['\n'])

/-- What stands between two tokens. -/
abbrev Gap := List Space

def Gap.text (gap : Gap) : Text := gap.flatMap Space.text

/-- The characters that end a token before them, comments apart. -/
def isCloser (c : Char) : Bool := isBlank c || c ∈ ['*', ',', '.']

/-- What closes a token goes on with none. -/
theorem closer_separates {c : Char} (h : isCloser c = true) :
    isWordPart c = false ∧ isWordChar c = false ∧ ∀ sign ∈ openSigns, c ∉ sign.2 := by
  simp only [isCloser, Bool.or_eq_true, decide_eq_true_eq, List.mem_cons, List.not_mem_nil,
    or_false] at h
  rcases h with hblank | rfl | rfl | rfl
  · obtain ⟨hpart, hword, hsigns⟩ := blank_separates hblank
    exact ⟨hpart, hword, fun sign hsign hmem => hsigns (mem_signs_of_openSigns sign hsign c hmem)⟩
  all_goals decide

/-- The text ends every token before it that is no comment and no lone quotation mark. -/
structure Closes (text : Text) : Prop where
  first : ∀ c ∈ text.head?, isCloser c = true
  decimals : decimals? text = none

theorem Closes.stops {text : Text} (h : Closes text) {p : Char → Bool}
    (hp : ∀ c, isCloser c = true → p c = false) : Text.stops p text = true :=
  Text.stops_of_head? fun c hc => hp c (h.first c hc)

theorem closes_nil : Closes [] := ⟨by simp, rfl⟩

theorem closes_cons {c : Char} (hc : isCloser c = true) (hpoint : c ≠ '.') (rest : Text) :
    Closes (c :: rest) where
  first := by
    intro d hd
    cases hd
    exact hc
  decimals := by simp [decimals?, hpoint]

/-- A point closes a token if no digit follows it. -/
theorem Closes.point {rest : Text} (h : Closes rest) : Closes ('.' :: rest) where
  first := by
    intro c hc
    cases hc
    rfl
  decimals := by
    have hdigits : rest.takeWhile Char.isDigit = [] := by
      cases rest with
      | nil => rfl
      | cons c rest =>
          have hdigit : c.isDigit = false := by
            cases hc : c.isDigit with
            | false => rfl
            | true =>
                have hword := (closer_separates (h.first c rfl)).2.1
                rw [Rule.isWordChar_of_isDigit hc] at hword
                cases hword
          simp [hdigit]
    simp [decimals?, hdigits]

/-- A gap closes the token before it; an empty one leaves that to what follows. -/
theorem Gap.closes {gap : Gap} {rest : Text} (hrest : gap = [] → Closes rest) :
    Closes (gap.text ++ rest) := by
  cases gap with
  | nil => exact hrest rfl
  | cons space gap =>
      cases space with
      | blank c hblank =>
          refine closes_cons (by simp [isCloser, hblank]) ?_ _
          rintro rfl
          exact absurd hblank (by decide)
      | comment line _ => exact closes_cons rfl (by decide) _

/-- A token that is closed ends as it would at the end of the text. -/
theorem Closes.replaces {text : Text} (h : Closes text) {token : Token}
    (hcomment : token.isComment = false) (hquote : token ≠ Token.quotationMark) :
    Replaces token [] text where
  word _ := h.stops fun _ hc => (closer_separates hc).1
  number _ := h.stops fun _ hc => (closer_separates hc).2.1
  decimals _ := h.decimals
  sign sign hsign _ := h.stops fun c hc => by simpa using (closer_separates hc).2.2 sign hsign
  line hline := by rw [hcomment] at hline; cases hline
  quote heq := absurd heq hquote

/-! ### Tokens that are read from their own text -/

namespace Token

/-- Cutting the text of the token gives just the token. -/
def Valid (token : Token) : Prop := RuleSet.standard.tokenize token.text = .ok [token]

instance (token : Token) : Decidable token.Valid :=
  inferInstanceAs (Decidable (RuleSet.standard.tokenize token.text = .ok [token]))

/-- A valid token that is no comment and no lone quotation mark, and so does not reach beyond what
closes it. -/
structure Steady (token : Token) : Prop where
  valid : token.Valid
  notComment : token.isComment = false
  notQuotation : token ≠ quotationMark

instance (token : Token) : Decidable token.Steady :=
  decidable_of_iff (token.Valid ∧ token.isComment = false ∧ token ≠ quotationMark)
    ⟨fun h => ⟨h.1, h.2.1, h.2.2⟩, fun h => ⟨h.1, h.2, h.3⟩⟩

/-- To show that tokens are steady is to cut their texts, and to look at their kinds. -/
theorem steady_of_tokenize {tokens : List Token}
    (hvalid : ∀ token ∈ tokens, RuleSet.standard.tokenize token.text = .ok [token])
    (hkind : ∀ token ∈ tokens, token.isComment = false ∧ token ≠ quotationMark) :
    ∀ token ∈ tokens, token.Steady := by
  intro token htoken
  obtain ⟨hcomment, hquotation⟩ := hkind token htoken
  exact ⟨hvalid token htoken, hcomment, hquotation⟩

/-- A valid token is a lexeme that is all of its text. -/
theorem Valid.lexeme {token : Token} (h : token.Valid) :
    token.text.startsSolid = true ∧ Lexeme token [] := by
  have hcut := RuleSet.tokenize_eq_ok_iff.1 h
  generalize htext : token.text = text at hcut
  cases hcut with
  | @take blanks behind _ _ _ _ hsolid hfound _ =>
      -- The token is all of the text, so nothing stands behind it.
      have hlength := congrArg List.length htext
      simp only [List.length_append] at hlength
      obtain rfl : behind = [] := List.length_eq_zero_iff.1 (by omega)
      exact ⟨htext ▸ hsolid, RuleSet.matchStart?_append_eq_some_iff.1 hfound⟩

/-- A steady token is found before everything that closes it. -/
theorem Steady.lexeme {token : Token} (h : token.Steady) {text : Text} (htext : Closes text) :
    Lexeme token text :=
  h.valid.lexeme.2.replace (htext.replaces h.notComment h.notQuotation)

end Token

/-! ### Layouts -/

/-- A token at its place in a program. One that may touch what stands before it is a period or a
comma. -/
structure Placed where
  token : Token
  touches : Bool
  closing : touches = true → token = Token.period ∨ token = Token.comma

namespace Placed

/-- The token of a query, which stands apart whatever it is. -/
def apart (token : Token) : Placed := ⟨token, false, by simp⟩

/-- A token outside of queries. -/
def free (token : Token) : Placed :=
  ⟨token, token = Token.period ∨ token = Token.comma, by simp⟩

@[simp] theorem map_token_apart (tokens : List Token) :
    (tokens.map apart).map Placed.token = tokens := by
  simp [apart, Function.comp_def]

@[simp] theorem map_token_free (tokens : List Token) :
    (tokens.map free).map Placed.token = tokens := by
  simp [free, Function.comp_def]

end Placed

/-- The tokens in turn, each with the gap behind it. -/
def written (pieces : List (Placed × Gap)) : Text :=
  pieces.flatMap fun piece => piece.1.token.text ++ piece.2.text

/-- Gaps are empty only at the end and before tokens that may touch. -/
def Spaced (pieces : List (Placed × Gap)) : Prop :=
  pieces.IsChain fun piece next => piece.2 = [] → next.1.touches = true

instance (pieces : List (Placed × Gap)) : Decidable (Spaced pieces) :=
  inferInstanceAs (Decidable (pieces.IsChain _))

/-- A way to write the tokens: gaps between them, and one in front. -/
structure Layout (placed : List Placed) where
  front : Gap
  pieces : List (Placed × Gap)
  complete : pieces.map Prod.fst = placed
  spaced : Spaced pieces

def Layout.text {placed : List Placed} (layout : Layout placed) : Text :=
  layout.front.text ++ written layout.pieces

theorem spaced_cons {placed : Placed} {gap : Gap} {pieces : List (Placed × Gap)} :
    Spaced ((placed, gap) :: pieces) ↔
      (gap = [] → ∀ next ∈ pieces.head?, next.1.touches = true) ∧ Spaced pieces := by
  rw [Spaced, List.isChain_cons, ← Spaced]
  exact and_congr_left' ⟨fun h hnil next hnext => h next hnext hnil,
    fun h next hnext hnil => h hnil next hnext⟩

theorem written_cons (placed : Placed) (gap : Gap) (pieces : List (Placed × Gap)) :
    written ((placed, gap) :: pieces) = placed.token.text ++ (gap.text ++ written pieces) := by
  simp [written]

/-- What starts with a token that may touch closes the token before it. -/
theorem Spaced.closes {pieces : List (Placed × Gap)} (h : Spaced pieces)
    (htouches : ∀ piece ∈ pieces.head?, piece.1.touches = true) : Closes (written pieces) := by
  induction pieces with
  | nil => exact closes_nil
  | cons piece pieces ih =>
      obtain ⟨placed, gap⟩ := piece
      obtain ⟨hempty, hpieces⟩ := spaced_cons.1 h
      rw [written_cons]
      -- A period closes only if no digit follows it, so what stands behind it matters as well.
      rcases placed.closing (htouches _ rfl) with hperiod | hcomma
      · rw [hperiod]
        exact (Gap.closes fun hnil => ih hpieces (hempty hnil)).point
      · rw [hcomma]
        exact closes_cons rfl (by decide) _

/-- A gap brings in nothing but comments. -/
theorem Gap.exists_cut (gap : Gap) {rest : Text} {tokens : List Token}
    (hrest : RuleSet.standard.Cut rest tokens []) :
    ∃ found, RuleSet.standard.Cut (gap.text ++ rest) found [] ∧
      withoutComments found = withoutComments tokens := by
  induction gap with
  | nil => exact ⟨tokens, hrest, rfl⟩
  | cons space gap ih =>
      obtain ⟨found, hfound, heq⟩ := ih
      cases space with
      | blank c hblank =>
          have hskip : Text.AllBlank [c] := by simpa [Text.AllBlank] using hblank
          exact ⟨found, RuleSet.Cut.append (.stop (Gap.text gap ++ rest) hskip) hfound, heq⟩
      | comment line hline =>
          have hfeed : Text.AllBlank ['\n'] := by decide
          have hcomment : Lexeme ⟨.comment, '*' :: '>' :: line⟩ ('\n' :: (Gap.text gap ++ rest)) :=
            .comment hline rfl
          have hsolid : Text.startsSolid ('*' :: '>' :: line) = true := rfl
          refine ⟨⟨.comment, '*' :: '>' :: line⟩ :: found, ?_, heq⟩
          simpa [Gap.text, Space.text] using RuleSet.Cut.token hsolid
            (RuleSet.matchStart?_append_eq_some_iff.2 hcomment) (hfound.skip hfeed)

/-- What is written is cut into the tokens again, and into comments between them. -/
theorem Spaced.exists_cut {pieces : List (Placed × Gap)} (h : Spaced pieces)
    (hsteady : ∀ piece ∈ pieces, piece.1.token.Steady) :
    ∃ tokens, RuleSet.standard.Cut (written pieces) tokens [] ∧
      withoutComments tokens = pieces.map (·.1.token) := by
  induction pieces with
  | nil => exact ⟨[], .done [], rfl⟩
  | cons piece pieces ih =>
      obtain ⟨placed, gap⟩ := piece
      obtain ⟨hempty, hpieces⟩ := spaced_cons.1 h
      obtain ⟨htoken, hmore⟩ := List.forall_mem_cons.1 hsteady
      obtain ⟨tokens, hcut, htokens⟩ := ih hpieces hmore
      obtain ⟨found, hfound, heq⟩ := gap.exists_cut hcut
      -- Whatever the gap is, the token is at its end where the gap starts.
      have hcloses : Closes (gap.text ++ written pieces) :=
        Gap.closes fun hnil => hpieces.closes (hempty hnil)
      have hlexeme := RuleSet.matchStart?_append_eq_some_iff.2 (htoken.lexeme hcloses)
      rw [written_cons]
      refine ⟨placed.token :: found, .token htoken.valid.lexeme.1 hlexeme hfound, ?_⟩
      calc withoutComments (placed.token :: found)
          = placed.token :: withoutComments found := by simp [withoutComments, htoken.notComment]
        _ = placed.token :: pieces.map (·.1.token) := by rw [heq, htokens]

/-- A layout is cut into the tokens that it lays out, and into comments. -/
theorem Layout.exists_tokenize {placed : List Placed} (layout : Layout placed)
    (hsteady : ∀ token ∈ placed.map Placed.token, token.Steady) :
    ∃ tokens, RuleSet.standard.tokenize layout.text = .ok tokens ∧
      withoutComments tokens = placed.map Placed.token := by
  obtain ⟨front, pieces, rfl, hspaced⟩ := layout
  rw [List.map_map] at hsteady ⊢
  obtain ⟨tokens, hcut, htokens⟩ := hspaced.exists_cut (List.forall_mem_map.1 hsteady)
  obtain ⟨found, hfound, heq⟩ := front.exists_cut hcut
  exact ⟨found, RuleSet.tokenize_eq_ok_iff.2 hfound, heq.trans htokens⟩

/-! ### Layouts of programs -/

/-- The tokens that the grammar itself brings in. -/
def fixedWords : List Token :=
  Token.period :: Token.comma ::
    ["DIVISION", "DISPLAY", "MOVE", "TO", "STOP", "RUN", "CALL", "USING", "EXEC", "SQL",
      "END-EXEC"].map Token.keyword

/-- The words of the grammar are steady, so only the operands of a program have to be looked at. -/
theorem steady_of_mem_fixedWords : ∀ token ∈ fixedWords, token.Steady := by
  refine Token.steady_of_tokenize ?_ (by decide)
  rw [RuleSet.standard_eq_spelled]
  unfold fixedWords Token.keyword
  simp only [List.map]
  repeat rw [String.toList_ofList]
  decide +kernel

namespace Sentence

/-- The tokens of a sentence that its form leaves open. -/
def operands : Sentence → List Token
  | display literal => [⟨.string, literal⟩]
  | move value name => [⟨.number, value⟩, ⟨.identifier, name⟩]
  | stopRun => []
  | call subroutine parameters => ⟨.string, subroutine⟩ :: parameters.map (⟨.identifier, ·⟩)
  | execSql body _ => body

def placed : Sentence → List Placed
  | execSql body _ =>
    (Token.keyword "EXEC" :: Token.keyword "SQL" ::
      (body ++ [Token.keyword "END-EXEC"])).map Placed.apart ++ [Placed.free Token.period]
  | sentence => sentence.words.map Placed.free

theorem map_token_placed (sentence : Sentence) :
    sentence.placed.map Placed.token = sentence.words := by
  cases sentence with
  | execSql body unended =>
      rw [placed, List.map_append, Placed.map_token_apart]
      simp [words, Placed.free]
  | _ => exact Placed.map_token_free _

theorem mem_words {sentence : Sentence} {token : Token} (h : token ∈ sentence.words) :
    token ∈ fixedWords ∨ token ∈ sentence.operands := by
  cases sentence with
  | call subroutine parameters =>
      simp only [words, List.mem_cons, List.mem_append, List.not_mem_nil, or_false] at h
      rcases h with rfl | rfl | husing | rfl
      · simp [fixedWords]
      · simp [operands]
      · rcases mem_usingWords husing with rfl | rfl | ⟨name, hname, rfl⟩
        · simp [fixedWords]
        · simp [fixedWords]
        · simp [operands, hname]
      · simp [fixedWords]
  | execSql body unended =>
      simp only [words, List.mem_cons, List.mem_append, List.not_mem_nil, or_false] at h
      rcases h with rfl | rfl | hbody | rfl | rfl
      · simp [fixedWords]
      · simp [fixedWords]
      · exact .inr hbody
      · simp [fixedWords]
      · simp [fixedWords]
  | _ =>
      simp only [words, List.mem_cons, List.not_mem_nil, or_false] at h
      rcases h with rfl | rfl | rfl | rfl | rfl <;> simp [fixedWords, operands]

end Sentence

namespace Derivation

/-- The tokens of a program that its form leaves open. The names of its divisions are among them. -/
def operands (derivation : Derivation) : List Token :=
  derivation.divisions.map (⟨.divisionHeader, ·⟩) ++
    derivation.sentences.flatMap Sentence.operands

def placed (derivation : Derivation) : List Placed :=
  (derivation.divisions.flatMap divisionWords).map Placed.free ++
    derivation.sentences.flatMap Sentence.placed

theorem map_token_placed (derivation : Derivation) :
    derivation.placed.map Placed.token = derivation.words := by
  simp only [placed, words, List.map_append, Placed.map_token_free, List.map_flatMap,
    Sentence.map_token_placed]

theorem mem_words {derivation : Derivation} {token : Token} (h : token ∈ derivation.words) :
    token ∈ fixedWords ∨ token ∈ derivation.operands := by
  rw [words, List.mem_append, List.mem_flatMap, List.mem_flatMap] at h
  rcases h with ⟨name, hname, htoken⟩ | ⟨sentence, hsentence, htoken⟩
  · simp only [divisionWords, List.mem_cons, List.not_mem_nil, or_false] at htoken
    rcases htoken with rfl | rfl | rfl
    · simp [operands, hname]
    · simp [fixedWords]
    · simp [fixedWords]
  · refine (Sentence.mem_words htoken).imp_right fun hmem => ?_
    exact List.mem_append_right _ (List.mem_flatMap.2 ⟨sentence, hsentence, hmem⟩)

/-- **Every layout is read**: if each operand of a program is read from its own text, and none in a
query is a comment or a lone quotation mark, then the tree of the program is read from every way to
write it. -/
theorem parse_layout (derivation : Derivation)
    (hoperands : ∀ token ∈ derivation.operands, token.Steady) (layout : Layout derivation.placed) :
    RuleSet.standard.parse layout.text = .ok derivation.tree := by
  have hsteady : ∀ token ∈ derivation.placed.map Placed.token, token.Steady := by
    rw [map_token_placed]
    intro token htoken
    exact (mem_words htoken).elim (steady_of_mem_fixedWords token) (hoperands token)
  obtain ⟨tokens, htokens, hwords⟩ := layout.exists_tokenize hsteady
  have hread := Statement.ofTokens_eq_ok_iff.2
    ⟨derivation, (hwords.trans derivation.map_token_placed).symm, rfl⟩
  refine RuleSet.parse_eq_ok_iff.2 ⟨tokens, htokens, ?_⟩
  exact map_eq_ok_iff.2 ⟨_, hread, derivation.ofStatements_sentences⟩

/-- A division, a call, a move and a query, with comments that look like parts of the program. One of
them touches the sign in the query. -/
theorem parse_layout_close :
    ∃ (derivation : Derivation) (layout : Layout derivation.placed),
      layout.text = ("*> \"\nDATA DIVISION.*> MOVE\nCALL \"S\" USING A, B.\tMOVE 1 TO A. " ++
        "EXEC SQL **> END-EXEC\n . END-EXEC.").toList ∧
      (∀ token ∈ derivation.operands, token.Steady) ∧
      derivation.tree = .program [.call "\"S\"".toList ["A".toList, "B".toList],
        .move "1".toList "A".toList, .execSql "* .".toList] ∧
      RuleSet.standard.parse layout.text = .ok derivation.tree := by
  let derivation : Derivation :=
    ⟨["DATA".toList],
      [.call "\"S\"".toList ["A".toList, "B".toList], .move "1".toList "A".toList,
        .execSql [⟨.operator, ['*']⟩, Token.period] (by decide)]⟩
  let space : Space := .blank ' ' rfl
  let gaps : List Gap :=
    [[space], [], [.comment " MOVE".toList (by decide)],
      [space], [space], [space], [], [space], [], [.blank '\t' rfl],
      [space], [space], [space], [], [space],
      [space], [space], [.comment " END-EXEC".toList (by decide), space], [space], [], []]
  let layout : Layout derivation.placed :=
    ⟨[.comment " \"".toList (by decide)], derivation.placed.zip gaps, rfl, by decide⟩
  have hoperands : ∀ token ∈ derivation.operands, token.Steady := by
    refine Token.steady_of_tokenize ?_ (by decide)
    rw [RuleSet.standard_eq_spelled]
    decide +kernel
  refine ⟨derivation, layout, ?_, hoperands, rfl, derivation.parse_layout hoperands layout⟩
  rw [String.toList_append, String.toList_ofList, String.toList_ofList]
  decide

end Derivation

end CobolSubset
