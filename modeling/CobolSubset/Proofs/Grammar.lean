import Mathlib
import CobolSubset.Statement.Parser

/-!
# The grammar of programs

`Node.ofTokens` reads a program from its tokens. Here is what a program *is*, said without reading
it: a `Derivation` holds the names of the divisions and the sentences behind them, `words` writes it
out as tokens, and `tree` gives its tree. The two sides agree:

    Node.ofTokens tokens = .ok node  ↔  node is the tree of the only derivation of the tokens

* **Reading** — every reading function has one lemma `…_eq_ok_iff` that says which tokens it takes
  and what it leaves. Those of the loops are inductions over the loop, the others are assembled from
  the ones before, so that no function is unfolded twice.
* **Unambiguity** (`Derivation.words_injective`) — no token list is written by two derivations. This
  is not about reading at all: it says that no sentence is a proper beginning of another.
-/

namespace CobolSubset

namespace Token

def keyword (word : String) : Token := ⟨.keyword, word.toList⟩

/-- The period that ends divisions and statements. -/
def period : Token := ⟨.punctuation, ['.']⟩

def comma : Token := ⟨.punctuation, [',']⟩

theorem is_iff {token : Token} {category : Category} {text : Text} :
    token.is category text = true ↔ token = ⟨category, text⟩ := by
  cases token
  simp [Token.is]

end Token

/-- The tokens a program is read from: all but the comments. -/
def withoutComments (tokens : List Token) : List Token :=
  tokens.filter fun token => !token.isComment

/-! ### Written statements -/

/-- A statement as it is written. It differs from a `Statement` in what it keeps of an embedded
query: the tokens themselves, none of which ends the query, and not their joined texts. -/
inductive Sentence where
  | display (literal : Text)
  | move (value name : Text)
  | stopRun
  | call (subroutine : Text) (parameters : List Text)
  | execSql (body : List Token) (unended : ∀ token ∈ body, token ≠ Token.keyword "END-EXEC")

namespace Sentence

/-- Names with a comma before each of them. -/
def furtherNames (names : List Text) : List Token :=
  names.flatMap fun name => [Token.comma, ⟨.identifier, name⟩]

/-- The parameters of a call as they are written; a call without parameters has no clause. -/
def usingWords : List Text → List Token
  | [] => []
  | first :: more => Token.keyword "USING" :: ⟨.identifier, first⟩ :: furtherNames more

/-- The clause has its keyword, commas and the names, and nothing else. -/
theorem mem_usingWords {names : List Text} {token : Token} (h : token ∈ usingWords names) :
    token = Token.keyword "USING" ∨ token = Token.comma ∨
      ∃ name ∈ names, token = ⟨.identifier, name⟩ := by
  cases names with
  | nil => cases h
  | cons first more =>
      simp only [usingWords, furtherNames, List.mem_cons, List.mem_flatMap, List.not_mem_nil,
        or_false] at h
      rcases h with husing | hfirst | ⟨name, hname, hcomma | hmore⟩
      · exact .inl husing
      · exact .inr (.inr ⟨first, List.mem_cons_self, hfirst⟩)
      · exact .inr (.inl hcomma)
      · exact .inr (.inr ⟨name, List.mem_cons_of_mem _ hname, hmore⟩)

def words : Sentence → List Token
  | display literal => [Token.keyword "DISPLAY", ⟨.string, literal⟩, Token.period]
  | move value name =>
    [Token.keyword "MOVE", ⟨.number, value⟩, Token.keyword "TO", ⟨.identifier, name⟩, Token.period]
  | stopRun => [Token.keyword "STOP", Token.keyword "RUN", Token.period]
  | call subroutine parameters =>
    Token.keyword "CALL" :: ⟨.string, subroutine⟩ :: (usingWords parameters ++ [Token.period])
  | execSql body _ =>
    Token.keyword "EXEC" :: Token.keyword "SQL" ::
      (body ++ [Token.keyword "END-EXEC", Token.period])

/-- The node of a sentence. The query is what its tokens say, with one blank between neighbours. -/
def node : Sentence → Node
  | display literal => Node.display literal
  | move value name => Node.move value name
  | stopRun => Node.stopRun
  | call subroutine parameters => Node.call subroutine parameters
  | execSql body _ => Node.execSql (Text.join [' '] (body.map Token.text))

def statement : Sentence → Statement
  | display literal => .display literal
  | move value name => .move value name
  | stopRun => .stopRun
  | call subroutine parameters => .call subroutine parameters
  | execSql body _ => .execSql (Text.join [' '] (body.map Token.text))

/-- The two trees of a sentence are one: the node it stands for and the node of its statement. -/
theorem toNode_statement (sentence : Sentence) : sentence.statement.toNode = sentence.node := by
  cases sentence <;> rfl

end Sentence

/-! ### Derivations -/

def divisionWords (name : Text) : List Token :=
  [⟨.divisionHeader, name⟩, Token.keyword "DIVISION", Token.period]

/-- How a program is built: divisions, then sentences. -/
structure Derivation where
  divisions : List Text
  sentences : List Sentence

namespace Derivation

def words (derivation : Derivation) : List Token :=
  derivation.divisions.flatMap divisionWords ++ derivation.sentences.flatMap Sentence.words

/-- The tree of the program. Divisions leave no trace in it. -/
def tree (derivation : Derivation) : Node :=
  Node.program (derivation.sentences.map Sentence.node)

end Derivation

/-- Rewording errors leaves success alone. -/
theorem mapError_eq_ok_iff {ε ε' α : Type} {f : ε → ε'} {x : Except ε α} {a : α} :
    x.mapError f = .ok a ↔ x = .ok a := by
  cases x with
  | error e => simp [Except.mapError]
  | ok b => simp [Except.mapError]

/-- A change of the value leaves success alone. -/
theorem map_eq_ok_iff {ε α β : Type} {f : α → β} {x : Except ε α} {b : β} :
    x.map f = .ok b ↔ ∃ a, x = .ok a ∧ f a = b := by
  cases x with
  | error e => simp [Except.map]
  | ok a => simp [Except.map]

namespace Statement

/-! ### Reading single tokens -/

/-- To expect a category is to take one token of it, whatever its text. -/
theorem expect_eq_ok_iff {category : Category} {tokens rest : List Token} {text : Text} :
    expect category tokens = .ok (text, rest) ↔ tokens = ⟨category, text⟩ :: rest := by
  cases tokens with
  | nil => simp [expect]
  | cons token tail =>
      obtain ⟨found, word⟩ := token
      by_cases h : found = category
      · simp [expect, h]
      · simp [expect, h]

/-- To expect a text is to take the one token that has it. -/
theorem expectText_eq_ok_iff {category : Category} {text : Text} {tokens rest : List Token} :
    expectText category text tokens = .ok rest ↔ tokens = ⟨category, text⟩ :: rest := by
  cases tokens with
  | nil => simp [expectText]
  | cons token tail =>
      by_cases h : token = ⟨category, text⟩
      · rw [expectText, if_pos (Token.is_iff.2 h), h]
        simp
      · rw [expectText, if_neg (fun his => h (Token.is_iff.1 his))]
        simp [h]

theorem expectKeyword_eq_ok_iff {word : String} {tokens rest : List Token} :
    expectKeyword word tokens = .ok rest ↔ tokens = Token.keyword word :: rest :=
  expectText_eq_ok_iff

theorem expectPeriod_eq_ok_iff {tokens rest : List Token} :
    expectPeriod tokens = .ok rest ↔ tokens = Token.period :: rest :=
  expectText_eq_ok_iff

/-! ### Reading parameters

The loop over parameters and the clause around it look one token ahead, so for the way back it
matters what follows: neither a comma nor `USING`. -/

/-- What is read as parameters is a name, and further names with commas before them. -/
theorem parameters_sound {tokens rest : List Token} {names : List Text}
    (h : parameters tokens = .ok (names, rest)) :
    ∃ first more, names = first :: more ∧
      tokens = ⟨.identifier, first⟩ :: (Sentence.furtherNames more ++ rest) := by
  fun_induction parameters tokens generalizing names rest with
  | case1 => cases h
  | case2 token hname => cases h; exact ⟨token.text, [], rfl, by rw [← hname]; rfl⟩
  | case3 => cases h
  | case4 token next tail hname hcomma ih =>
      obtain ⟨⟨_, _⟩, hmore, h⟩ := bind_eq_ok_iff.1 h
      cases h
      obtain ⟨second, more, rfl, rfl⟩ := ih hmore
      refine ⟨token.text, second :: more, rfl, ?_⟩
      obtain ⟨category, text⟩ := token
      cases hname
      rw [Token.is_iff.1 hcomma]
      rfl
  | case5 token next tail hname => cases h; exact ⟨token.text, [], rfl, by rw [← hname]; rfl⟩
  | case6 => cases h

/-- Names with commas are read to the last one, provided that no comma follows it. -/
theorem parameters_complete (first : Text) (more : List Text) {rest : List Token}
    (hrest : rest.head? ≠ some Token.comma) :
    parameters (⟨.identifier, first⟩ :: (Sentence.furtherNames more ++ rest)) =
      .ok (first :: more, rest) := by
  induction more generalizing first with
  | nil =>
      show parameters (⟨.identifier, first⟩ :: rest) = .ok ([first], rest)
      cases rest with
      | nil => rfl
      | cons next tail =>
          have hnext : ¬ next.is .punctuation [','] := by
            intro hcomma
            exact hrest (congrArg some (Token.is_iff.1 hcomma))
          rw [parameters, if_pos rfl, if_neg hnext]
  | cons second more ih =>
      show parameters (⟨.identifier, first⟩ :: Token.comma :: ⟨.identifier, second⟩ ::
        (Sentence.furtherNames more ++ rest)) = _
      have hcomma : Token.comma.is .punctuation [','] := Token.is_iff.2 rfl
      rw [parameters, if_pos rfl, if_pos hcomma, ih second]
      rfl

/-- A clause is read from its own words, and an absent one from none. -/
theorem usingClause_sound {tokens rest : List Token} {names : List Text}
    (h : usingClause tokens = .ok (names, rest)) : tokens = Sentence.usingWords names ++ rest := by
  cases tokens with
  | nil => cases h; rfl
  | cons token tail =>
      rw [usingClause] at h
      split at h
      · next husing =>
        obtain ⟨first, more, rfl, rfl⟩ := parameters_sound h
        rw [Token.is_iff.1 husing]
        rfl
      · cases h; rfl

/-- A period behind the clause ends it, with or without parameters. -/
theorem usingClause_complete (names : List Text) (rest : List Token) :
    usingClause (Sentence.usingWords names ++ Token.period :: rest) =
      .ok (names, Token.period :: rest) := by
  cases names with
  | nil => rfl
  | cons first more =>
      show usingClause (Token.keyword "USING" :: ⟨.identifier, first⟩ ::
        (Sentence.furtherNames more ++ Token.period :: rest)) = _
      have husing : (Token.keyword "USING").is .keyword "USING".toList := Token.is_iff.2 rfl
      rw [usingClause, if_pos husing]
      exact parameters_complete first more (by simp [Token.period, Token.comma])

/-! ### Reading a query -/

/-- A query is read up to the first `END-EXEC`. -/
theorem queryTexts_sound {tokens rest : List Token} {texts : List Text}
    (h : queryTexts tokens = .ok (texts, rest)) :
    ∃ body : List Token, (∀ token ∈ body, token ≠ Token.keyword "END-EXEC") ∧
      texts = body.map Token.text ∧ tokens = body ++ Token.keyword "END-EXEC" :: rest := by
  fun_induction queryTexts tokens generalizing texts rest with
  | case1 => cases h
  | case2 token tail hend =>
      cases h
      refine ⟨[], by simp, rfl, ?_⟩
      rw [Token.is_iff.1 hend]
      rfl
  | case3 token tail hgo ih =>
      obtain ⟨⟨_, _⟩, hmore, h⟩ := bind_eq_ok_iff.1 h
      cases h
      obtain ⟨body, hbody, rfl, rfl⟩ := ih hmore
      refine ⟨token :: body, ?_, rfl, rfl⟩
      intro other hother
      rcases List.mem_cons.1 hother with rfl | hmem
      · exact fun heq => hgo (Token.is_iff.2 heq)
      · exact hbody other hmem

/-- Any tokens but `END-EXEC` can stand in a query. -/
theorem queryTexts_complete {body : List Token} (rest : List Token)
    (hbody : ∀ token ∈ body, token ≠ Token.keyword "END-EXEC") :
    queryTexts (body ++ Token.keyword "END-EXEC" :: rest) = .ok (body.map Token.text, rest) := by
  induction body with
  | nil => rfl
  | cons token body ih =>
      have hgo : ¬ token.is .keyword "END-EXEC".toList := by
        intro hend
        exact hbody token List.mem_cons_self (Token.is_iff.1 hend)
      rw [List.cons_append, queryTexts, if_neg hgo,
        ih (fun other hother => hbody other (List.mem_cons_of_mem _ hother))]
      rfl

/-! ### Reading a statement

One lemma for each form, about the tokens behind its first word. -/

/-- With its keyword in front, what a tail takes are the words of a sentence. The same holds for the
other tails below. -/
theorem displayTail_eq_ok_iff {tokens rest : List Token} {found : Statement} :
    displayTail tokens = .ok (found, rest) ↔
      ∃ literal, found = .display literal ∧
        Token.keyword "DISPLAY" :: tokens = (Sentence.display literal).words ++ rest := by
  constructor
  · intro h
    obtain ⟨⟨literal, _⟩, hliteral, h⟩ := bind_eq_ok_iff.1 h
    obtain ⟨_, hperiod, h⟩ := bind_eq_ok_iff.1 h
    cases h
    rw [expect_eq_ok_iff.1 hliteral, expectPeriod_eq_ok_iff.1 hperiod]
    exact ⟨literal, rfl, rfl⟩
  · rintro ⟨literal, rfl, htokens⟩
    cases htokens
    rfl

theorem moveTail_eq_ok_iff {tokens rest : List Token} {found : Statement} :
    moveTail tokens = .ok (found, rest) ↔
      ∃ value name, found = .move value name ∧
        Token.keyword "MOVE" :: tokens = (Sentence.move value name).words ++ rest := by
  constructor
  · intro h
    obtain ⟨⟨value, _⟩, hvalue, h⟩ := bind_eq_ok_iff.1 h
    obtain ⟨_, hto, h⟩ := bind_eq_ok_iff.1 h
    obtain ⟨⟨name, _⟩, hname, h⟩ := bind_eq_ok_iff.1 h
    obtain ⟨_, hperiod, h⟩ := bind_eq_ok_iff.1 h
    cases h
    rw [expect_eq_ok_iff.1 hvalue, expectKeyword_eq_ok_iff.1 hto, expect_eq_ok_iff.1 hname,
      expectPeriod_eq_ok_iff.1 hperiod]
    exact ⟨value, name, rfl, rfl⟩
  · rintro ⟨value, name, rfl, htokens⟩
    cases htokens
    rfl

theorem stopTail_eq_ok_iff {tokens rest : List Token} {found : Statement} :
    stopTail tokens = .ok (found, rest) ↔
      found = .stopRun ∧ Token.keyword "STOP" :: tokens = Sentence.stopRun.words ++ rest := by
  constructor
  · intro h
    obtain ⟨_, hrun, h⟩ := bind_eq_ok_iff.1 h
    obtain ⟨_, hperiod, h⟩ := bind_eq_ok_iff.1 h
    cases h
    rw [expectKeyword_eq_ok_iff.1 hrun, expectPeriod_eq_ok_iff.1 hperiod]
    exact ⟨rfl, rfl⟩
  · rintro ⟨rfl, htokens⟩
    cases htokens
    rfl

theorem callTail_eq_ok_iff {tokens rest : List Token} {found : Statement} :
    callTail tokens = .ok (found, rest) ↔
      ∃ subroutine names, found = .call subroutine names ∧
        Token.keyword "CALL" :: tokens = (Sentence.call subroutine names).words ++ rest := by
  constructor
  · intro h
    obtain ⟨⟨subroutine, _⟩, hsubroutine, h⟩ := bind_eq_ok_iff.1 h
    obtain ⟨⟨names, _⟩, hnames, h⟩ := bind_eq_ok_iff.1 h
    obtain ⟨_, hperiod, h⟩ := bind_eq_ok_iff.1 h
    cases h
    rw [expect_eq_ok_iff.1 hsubroutine, usingClause_sound hnames,
      expectPeriod_eq_ok_iff.1 hperiod]
    exact ⟨subroutine, names, rfl, by simp [Sentence.words]⟩
  · rintro ⟨subroutine, names, rfl, htokens⟩
    have htail : tokens = ⟨.string, subroutine⟩ ::
        (Sentence.usingWords names ++ Token.period :: rest) := by
      simpa [Sentence.words] using htokens
    rw [htail, callTail, expect_eq_ok_iff.2 rfl]
    refine bind_eq_ok_iff.2 ⟨_, rfl, bind_eq_ok_iff.2 ⟨_, usingClause_complete names rest, ?_⟩⟩
    exact bind_eq_ok_iff.2 ⟨_, expectPeriod_eq_ok_iff.2 rfl, rfl⟩

/-- The query of the statement is the text of its tokens, so the sentence keeps more than the
statement. -/
theorem execTail_eq_ok_iff {tokens rest : List Token} {found : Statement} :
    execTail tokens = .ok (found, rest) ↔
      ∃ body unended, found = (Sentence.execSql body unended).statement ∧
        Token.keyword "EXEC" :: tokens = (Sentence.execSql body unended).words ++ rest := by
  constructor
  · intro h
    obtain ⟨_, hsql, h⟩ := bind_eq_ok_iff.1 h
    obtain ⟨⟨texts, _⟩, hquery, h⟩ := bind_eq_ok_iff.1 h
    obtain ⟨_, hperiod, h⟩ := bind_eq_ok_iff.1 h
    cases h
    obtain ⟨body, unended, rfl, hbody⟩ := queryTexts_sound hquery
    rw [expectKeyword_eq_ok_iff.1 hsql, hbody, expectPeriod_eq_ok_iff.1 hperiod]
    exact ⟨body, unended, rfl, by simp [Sentence.words]⟩
  · rintro ⟨body, unended, rfl, htokens⟩
    have htail : tokens = Token.keyword "SQL" ::
        (body ++ Token.keyword "END-EXEC" :: Token.period :: rest) := by
      simpa [Sentence.words] using htokens
    rw [htail, execTail, expectKeyword_eq_ok_iff.2 rfl]
    refine bind_eq_ok_iff.2 ⟨_, rfl, bind_eq_ok_iff.2 ⟨_, queryTexts_complete _ unended, ?_⟩⟩
    exact bind_eq_ok_iff.2 ⟨_, expectPeriod_eq_ok_iff.2 rfl, rfl⟩

/-- A statement is read from the words of a sentence. -/
theorem statement_sound {tokens rest : List Token} {found : Statement}
    (h : statement tokens = .ok (found, rest)) :
    ∃ sentence : Sentence, sentence.statement = found ∧ tokens = sentence.words ++ rest := by
  cases tokens with
  | nil => cases h
  | cons token tail =>
      rw [statement] at h
      split at h
      · next hfirst =>
        obtain ⟨literal, rfl, htokens⟩ := displayTail_eq_ok_iff.1 h
        exact ⟨.display literal, rfl, Token.is_iff.1 hfirst ▸ htokens⟩
      split at h
      · next hfirst =>
        obtain ⟨value, name, rfl, htokens⟩ := moveTail_eq_ok_iff.1 h
        exact ⟨.move value name, rfl, Token.is_iff.1 hfirst ▸ htokens⟩
      split at h
      · next hfirst =>
        obtain ⟨rfl, htokens⟩ := stopTail_eq_ok_iff.1 h
        exact ⟨.stopRun, rfl, Token.is_iff.1 hfirst ▸ htokens⟩
      split at h
      · next hfirst =>
        obtain ⟨subroutine, names, rfl, htokens⟩ := callTail_eq_ok_iff.1 h
        exact ⟨.call subroutine names, rfl, Token.is_iff.1 hfirst ▸ htokens⟩
      split at h
      · next hfirst =>
        obtain ⟨body, unended, rfl, htokens⟩ := execTail_eq_ok_iff.1 h
        exact ⟨.execSql body unended, rfl, Token.is_iff.1 hfirst ▸ htokens⟩
      · cases h

/-- The words of a sentence are read as its statement, whatever follows them. -/
theorem statement_complete (sentence : Sentence) (rest : List Token) :
    statement (sentence.words ++ rest) = .ok (sentence.statement, rest) := by
  cases sentence with
  | display literal => exact displayTail_eq_ok_iff.2 ⟨literal, rfl, rfl⟩
  | move value name => exact moveTail_eq_ok_iff.2 ⟨value, name, rfl, rfl⟩
  | stopRun => exact stopTail_eq_ok_iff.2 ⟨rfl, rfl⟩
  | call subroutine names => exact callTail_eq_ok_iff.2 ⟨subroutine, names, rfl, rfl⟩
  | execSql body unended => exact execTail_eq_ok_iff.2 ⟨body, unended, rfl, rfl⟩

/-! ### Reading all statements -/

/-- A statement at the front comes first in the result, and reading goes on behind it. -/
theorem statements_eq_of_statement {tokens rest : List Token} {first : Statement}
    (h : statement tokens = .ok (first, rest)) :
    statements tokens = (statements rest).map (first :: ·) := by
  cases tokens with
  | nil => cases h
  | cons token tail =>
      rw [statements]
      split
      · next _ herror => rw [h] at herror; cases herror
      · next _ _ hfound =>
        rw [h] at hfound
        cases hfound
        cases statements rest <;> rfl

/-- Statements are read from sentences, one after the other. The induction is that of the reader. -/
theorem statements_sound {tokens : List Token} {found : List Statement}
    (h : statements tokens = .ok found) :
    ∃ sentences : List Sentence, sentences.map Sentence.statement = found ∧
      tokens = sentences.flatMap Sentence.words := by
  fun_induction statements tokens generalizing found with
  | case1 => cases h; exact ⟨[], rfl, rfl⟩
  | case2 => cases h
  | case3 => cases h
  | case4 token tail first rest hfirst more hmore ih =>
      cases h
      obtain ⟨sentence, rfl, hsentence⟩ := statement_sound hfirst
      obtain ⟨sentences, rfl, rfl⟩ := ih hmore
      exact ⟨sentence :: sentences, rfl, hsentence⟩

/-- Sentences at the front come first in the result, and reading goes on behind them. -/
theorem statements_append (sentences : List Sentence) (rest : List Token) :
    statements (sentences.flatMap Sentence.words ++ rest) =
      (statements rest).map (sentences.map Sentence.statement ++ ·) := by
  induction sentences with
  | nil =>
      show statements rest = (statements rest).map fun more => more
      cases statements rest <;> rfl
  | cons sentence sentences ih =>
      rw [List.flatMap_cons, List.append_assoc,
        statements_eq_of_statement (statement_complete sentence _), ih]
      cases statements rest <;> rfl

/-- Sentences are read to the end. -/
theorem statements_complete (sentences : List Sentence) :
    statements (sentences.flatMap Sentence.words) = .ok (sentences.map Sentence.statement) := by
  have happend := statements_append sentences []
  rw [List.append_nil, statements] at happend
  exact happend.trans (congrArg Except.ok (List.append_nil _))

/-! ### Reading divisions -/

theorem divisionTail_eq_ok_iff {tokens rest : List Token} :
    divisionTail tokens = .ok rest ↔
      tokens = Token.keyword "DIVISION" :: Token.period :: rest := by
  constructor
  · intro h
    obtain ⟨_, hdivision, hperiod⟩ := bind_eq_ok_iff.1 h
    rw [expectKeyword_eq_ok_iff.1 hdivision, expectPeriod_eq_ok_iff.1 hperiod]
  · rintro rfl
    rfl

/-- What is skipped are whole divisions. -/
theorem skipDivisions_sound {tokens rest : List Token} (h : skipDivisions tokens = .ok rest) :
    ∃ names : List Text, tokens = names.flatMap divisionWords ++ rest := by
  fun_induction skipDivisions tokens with
  | case1 => cases h; exact ⟨[], rfl⟩
  | case2 => cases h
  | case3 token tail hheader behind hbehind ih =>
      obtain ⟨names, rfl⟩ := ih h
      obtain ⟨category, name⟩ := token
      cases hheader
      exact ⟨name :: names, by rw [divisionTail_eq_ok_iff.1 hbehind]; rfl⟩
  | case4 => cases h; exact ⟨[], rfl⟩

theorem skipDivisions_header {token : Token} (htoken : token.category = .divisionHeader)
    (rest : List Token) : skipDivisions (token :: rest) = divisionTail rest >>= skipDivisions := by
  rw [skipDivisions, if_pos htoken]
  split
  · next _ hstuck => rw [hstuck]; rfl
  · next _ hbehind => rw [hbehind]; rfl

/-- Nothing is skipped where no division starts. -/
theorem skipDivisions_of_head? {rest : List Token}
    (hrest : ∀ token ∈ rest.head?, token.category ≠ .divisionHeader) :
    skipDivisions rest = .ok rest := by
  cases rest with
  | nil => rw [skipDivisions]
  | cons token tail => rw [skipDivisions, if_neg (hrest token rfl)]

theorem skipDivisions_append (names : List Text) (rest : List Token) :
    skipDivisions (names.flatMap divisionWords ++ rest) = skipDivisions rest := by
  induction names with
  | nil => rfl
  | cons name names ih =>
      show skipDivisions (⟨.divisionHeader, name⟩ :: Token.keyword "DIVISION" :: Token.period ::
        (names.flatMap divisionWords ++ rest)) = _
      rw [skipDivisions_header rfl, divisionTail_eq_ok_iff.2 rfl]
      exact ih

/-- All divisions in front are skipped. -/
theorem skipDivisions_complete (names : List Text) {rest : List Token}
    (hrest : ∀ token ∈ rest.head?, token.category ≠ .divisionHeader) :
    skipDivisions (names.flatMap divisionWords ++ rest) = .ok rest := by
  rw [skipDivisions_append, skipDivisions_of_head? hrest]

/-- Sentences start with a reserved word, so reading the divisions stops before them. -/
theorem head?_flatMap_words (sentences : List Sentence) :
    ∀ token ∈ (sentences.flatMap Sentence.words).head?, token.category ≠ .divisionHeader := by
  intro token htoken
  cases sentences with
  | nil => cases htoken
  | cons sentence sentences =>
      cases sentence <;> cases htoken <;> exact Category.noConfusion

/-! ### Reading a program -/

/-- Divisions, then statements, up to the end. -/
def program (tokens : List Token) : Except Stuck (List Statement) :=
  skipDivisions tokens >>= statements

/-- A program is read from the words of a derivation, and from nothing else. -/
theorem program_eq_ok_iff {tokens : List Token} {found : List Statement} :
    program tokens = .ok found ↔
      ∃ derivation : Derivation, derivation.words = tokens ∧
        derivation.sentences.map Sentence.statement = found := by
  rw [program, bind_eq_ok_iff]
  constructor
  · rintro ⟨rest, hrest, hfound⟩
    obtain ⟨names, hnames⟩ := skipDivisions_sound hrest
    obtain ⟨sentences, rfl, rfl⟩ := statements_sound hfound
    exact ⟨⟨names, sentences⟩, hnames.symm, rfl⟩
  · rintro ⟨⟨names, sentences⟩, rfl, rfl⟩
    exact ⟨sentences.flatMap Sentence.words,
      skipDivisions_complete names (head?_flatMap_words sentences), statements_complete sentences⟩

/-- Comments are taken out before anything is read. -/
theorem ofTokens_eq_program (tokens : List Token) :
    ofTokens tokens =
      (program (withoutComments tokens)).mapError
        (Stuck.toError (withoutComments tokens).length) := rfl

/-- Statements are read from tokens that are those of a derivation, comments aside. -/
theorem ofTokens_eq_ok_iff {tokens : List Token} {found : List Statement} :
    ofTokens tokens = .ok found ↔
      ∃ derivation : Derivation, derivation.words = withoutComments tokens ∧
        derivation.sentences.map Sentence.statement = found := by
  rw [ofTokens_eq_program, mapError_eq_ok_iff, program_eq_ok_iff]

end Statement

/-! ### Unambiguity

Reading is a function, so two derivations of the same tokens have the same statements. What reading
forgets are the tokens of a query and the names of the divisions, and these stand in the tokens. -/

/-- No sentence is the beginning of another one, so a sentence can be told from whatever follows
it. -/
theorem Sentence.words_append_inj {a b : Sentence} {rest rest' : List Token}
    (h : a.words ++ rest = b.words ++ rest') : a = b ∧ rest = rest' := by
  -- Both sentences are read from the front of one list, so what is read is the same.
  have hread := Statement.statement_complete a rest
  rw [h, Statement.statement_complete b rest'] at hread
  obtain ⟨hstatement, rfl⟩ := Prod.mk.inj (Except.ok.inj hread)
  -- The statements may agree for two queries; their tokens tell them apart.
  have hwords : a.words = b.words := List.append_cancel_right h
  refine ⟨?_, rfl⟩
  cases a <;> cases b <;> simp_all [Sentence.statement, Sentence.words]

/-- A list of sentences can be told from its words. -/
theorem Sentence.flatMap_words_injective :
    Function.Injective (List.flatMap Sentence.words) := by
  intro as bs h
  induction as generalizing bs with
  | nil =>
      cases bs with
      | nil => rfl
      | cons b bs => cases b <;> cases h
  | cons a as ih =>
      cases bs with
      | nil => cases a <;> cases h
      | cons b bs =>
          obtain ⟨rfl, hrest⟩ := Sentence.words_append_inj h
          rw [ih hrest]

/-- The same for divisions, each of which has three words. -/
theorem flatMap_divisionWords_injective : Function.Injective (List.flatMap divisionWords) := by
  intro as bs h
  induction as generalizing bs with
  | nil =>
      cases bs with
      | nil => rfl
      | cons b bs => cases h
  | cons a as ih =>
      cases bs with
      | nil => cases h
      | cons b bs =>
          have hcons : a = b ∧ as.flatMap divisionWords = bs.flatMap divisionWords := by
            simpa [divisionWords] using h
          rw [hcons.1, ih hcons.2]

/-- **Unambiguity**: the tokens of a program determine its derivation. -/
theorem Derivation.words_injective : Function.Injective Derivation.words := by
  rintro ⟨names, sentences⟩ ⟨names', sentences'⟩ h
  have hread := Statement.skipDivisions_complete names (Statement.head?_flatMap_words sentences)
  have hwords : names.flatMap divisionWords ++ sentences.flatMap Sentence.words =
      names'.flatMap divisionWords ++ sentences'.flatMap Sentence.words := h
  rw [hwords, Statement.skipDivisions_complete names' (Statement.head?_flatMap_words sentences')]
    at hread
  have hrest := Except.ok.inj hread
  rw [hrest] at hwords
  rw [Sentence.flatMap_words_injective hrest,
    flatMap_divisionWords_injective (List.append_cancel_right hwords)]

/-! ### The two sides -/

/-- The tree of the statements is the tree of the sentences they were written as. -/
theorem Derivation.ofStatements_sentences (derivation : Derivation) :
    Node.ofStatements (derivation.sentences.map Sentence.statement) = derivation.tree := by
  unfold Node.ofStatements Derivation.tree
  rw [List.map_map]
  exact congrArg Node.program (List.map_congr_left fun sentence _ => sentence.toNode_statement)

/-- **Reading is the grammar**: a tree is read from the tokens exactly if the tokens without
comments have a derivation, which is then the only one, and the tree is its tree. -/
theorem Node.ofTokens_eq_ok_iff_derivation (tokens : List Token) (node : Node) :
    Node.ofTokens tokens = .ok node ↔
      ∃ derivation : Derivation, derivation.words = withoutComments tokens ∧
        (∀ other : Derivation, other.words = withoutComments tokens → other = derivation) ∧
        derivation.tree = node := by
  unfold Node.ofTokens
  rw [map_eq_ok_iff]
  constructor
  · rintro ⟨_, hread, rfl⟩
    obtain ⟨derivation, hwords, rfl⟩ := Statement.ofTokens_eq_ok_iff.1 hread
    refine ⟨derivation, hwords, ?_, derivation.ofStatements_sentences.symm⟩
    intro other hother
    exact Derivation.words_injective (hother.trans hwords.symm)
  · rintro ⟨derivation, hwords, -, rfl⟩
    exact ⟨_, Statement.ofTokens_eq_ok_iff.2 ⟨derivation, hwords, rfl⟩,
      derivation.ofStatements_sentences⟩

end CobolSubset
