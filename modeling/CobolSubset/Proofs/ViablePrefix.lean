import CobolSubset.Proofs.Grammar

/-!
# Errors point at the first wrong token

Reading a program stops at the first token that cannot stand where it stands: what comes before it
starts some program, and with it no program starts like that. If the tokens end too early, all of
them start some program.

The readers hand the tokens behind what they took to the next reader. `Pinpoints` says for a reader,
with all that follows it, that it gets stuck at the first wrong token, and one lemma for each way of
reading says that this is kept:

* `Pinpoints.of_first`: the first token is taken and what follows pinpoints, or it is wrong and some
  other one would have been right;
* `Pinpoints.go`: the first tokens are taken, and what follows pinpoints;
* `Pinpoints.of_passesOn`: a token ahead decides that an optional part is not there.

The loops over parameters, queries, statements and divisions are inductions with these three as
their cases.
-/

namespace CobolSubset

namespace Statement

variable {γ : Type} {left : γ → List Token} {read next : List Token → Except Stuck γ}
  {tokens : List Token}

/-! ### Getting stuck at the first wrong token -/

/-- The tokens of `front` can be completed, to be read with nothing left. -/
def Completable (left : γ → List Token) (read : List Token → Except Stuck γ) (front : List Token) :
    Prop :=
  ∃ more found, read (front ++ more) = .ok found ∧ left found = []

/-- If `read` gets stuck, then what it took before can be completed, and nothing that goes on with
the token it is stuck at can be read. -/
def Pinpoints (left : γ → List Token) (read : List Token → Except Stuck γ) (tokens : List Token) :
    Prop :=
  ∀ stuck, read tokens = .error stuck →
    ∃ taken, tokens = taken ++ stuck.rest ∧ Completable left read taken ∧
      ∀ token ∈ stuck.rest.head?, ∀ other found, read (taken ++ token :: other) ≠ .ok found

/-- A reader that can succeed and always pinpoints. -/
structure Exact (left : γ → List Token) (read : List Token → Except Stuck γ) : Prop where
  completable : Completable left read []
  pinpoints : ∀ tokens, Pinpoints left read tokens

/-- What can be completed behind `front` can be completed with it. -/
theorem Completable.go {front taken : List Token} (hgo : ∀ rest, read (front ++ rest) = next rest)
    (h : Completable left next taken) : Completable left read (front ++ taken) := by
  obtain ⟨more, found, hfound, hleft⟩ := h
  refine ⟨more, found, ?_, hleft⟩
  rw [List.append_assoc, hgo]
  exact hfound

/-- A reader that can be started can be completed from nothing. -/
theorem Completable.of_first (token : Token) (hgo : ∀ rest, read (token :: rest) = next rest)
    (h : Completable left next []) : Completable left read [] := by
  obtain ⟨more, found, hfound, hleft⟩ := h
  exact ⟨token :: more, found, (hgo more).trans hfound, hleft⟩

theorem Pinpoints.of_ok {found : γ} (h : read tokens = .ok found) : Pinpoints left read tokens := by
  intro stuck hstuck
  rw [h] at hstuck
  cases hstuck

/-- A reader that first takes `front` pinpoints behind it as the next reader does. -/
theorem Pinpoints.go (front : List Token) (hgo : ∀ rest, read (front ++ rest) = next rest)
    (h : Pinpoints left next tokens) : Pinpoints left read (front ++ tokens) := by
  intro stuck hstuck
  rw [hgo] at hstuck
  obtain ⟨taken, rfl, hcompletable, hwrong⟩ := h stuck hstuck
  refine ⟨front ++ taken, (List.append_assoc _ _ _).symm, hcompletable.go hgo, ?_⟩
  intro token htoken other found
  rw [List.append_assoc, hgo]
  exact hwrong token htoken other found

/-- Lists that start with a `special` token are what `read` is for. All others it passes on to
`next`, which in turn takes none of the special ones. -/
structure PassesOn (special : Token → Prop) (read next : List Token → Except Stuck γ) : Prop where
  pass : ∀ list : List Token, (∀ token ∈ list.head?, ¬ special token) → read list = next list
  refuse : ∀ token rest found, special token → next (token :: rest) ≠ .ok found

/-- What the next reader takes is taken. -/
theorem PassesOn.of_ok {special : Token → Prop} (hpass : PassesOn special read next) {found : γ}
    (h : next tokens = .ok found) : read tokens = .ok found := by
  rw [hpass.pass, h]
  intro token htoken hspecial
  obtain ⟨rest, rfl⟩ := List.head?_eq_some_iff.1 htoken
  exact hpass.refuse token rest found hspecial h

theorem Completable.of_passesOn {special : Token → Prop} (hpass : PassesOn special read next)
    {front : List Token} (h : Completable left next front) : Completable left read front := by
  obtain ⟨more, found, hfound, hleft⟩ := h
  exact ⟨more, found, hpass.of_ok hfound, hleft⟩

/-- Where no special token comes first, the next reader does the pinpointing. -/
theorem Pinpoints.of_passesOn {special : Token → Prop} (hpass : PassesOn special read next)
    (htokens : ∀ token ∈ tokens.head?, ¬ special token) (h : Pinpoints left next tokens) :
    Pinpoints left read tokens := by
  intro stuck hstuck
  rw [hpass.pass tokens htokens] at hstuck
  obtain ⟨taken, rfl, hcompletable, hwrong⟩ := h stuck hstuck
  refine ⟨taken, rfl, hcompletable.of_passesOn hpass, ?_⟩
  intro token htoken other found
  rw [hpass.pass]
  · exact hwrong token htoken other found
  · -- The list starts as before: with what was taken, or else with the token it is stuck at.
    cases taken with
    | nil =>
        intro first hfirst
        cases hfirst
        exact htokens token htoken
    | cons first taken => exact htokens

/-- To be stuck at the end of the tokens is to have nothing but a beginning. -/
theorem Pinpoints.of_end {expected : Text} (hcompletable : Completable left read [])
    (h : read [] = .error ⟨expected, []⟩) : Pinpoints left read [] := by
  intro stuck hstuck
  rw [h] at hstuck
  cases hstuck
  exact ⟨[], rfl, hcompletable, by simp⟩

/-- The first token decides: either the reader goes on behind it, or it is stuck there. -/
theorem Pinpoints.of_first {right : Token → Prop} {follow : Token → List Token → Except Stuck γ}
    {expected : Text} (hcompletable : Completable left read [])
    (hnil : read [] = .error ⟨expected, []⟩)
    (hgo : ∀ token, right token → ∀ rest, read (token :: rest) = follow token rest)
    (hstop : ∀ token, ¬ right token → ∀ rest,
      read (token :: rest) = .error ⟨expected, token :: rest⟩)
    (hfollow : ∀ token rest, tokens = token :: rest → right token →
      Pinpoints left (follow token) rest) :
    Pinpoints left read tokens := by
  cases tokens with
  | nil => exact .of_end hcompletable hnil
  | cons token rest =>
      by_cases htoken : right token
      · exact .go [token] (hgo token htoken) (hfollow token rest rfl htoken)
      · intro stuck hstuck
        rw [hstop token htoken] at hstuck
        cases hstuck
        refine ⟨[], rfl, hcompletable, ?_⟩
        intro first hfirst other found hfound
        cases hfirst
        have herror := (hstop token htoken other).symm.trans hfound
        cases herror

/-- What is made of the outcome does not matter, only what is left of the tokens. -/
theorem Pinpoints.map {δ : Type} {left' : δ → List Token} {f : γ → δ}
    (hleft : ∀ found, left' (f found) = left found) (h : Pinpoints left read tokens) :
    Pinpoints left' (fun tokens => (read tokens).map f) tokens := by
  intro stuck hstuck
  have hread : read tokens = .error stuck := by
    cases hcase : read tokens with
    | error e => simpa [hcase, Except.map] using hstuck
    | ok found => simp [hcase, Except.map] at hstuck
  obtain ⟨taken, rfl, ⟨more, found, hfound, hnone⟩, hwrong⟩ := h stuck hread
  refine ⟨taken, rfl, ⟨more, f found, map_eq_ok_iff.2 ⟨found, hfound, rfl⟩, ?_⟩, ?_⟩
  · rw [hleft, hnone]
  · intro token htoken other value hvalue
    obtain ⟨found, hfound, -⟩ := map_eq_ok_iff.1 hvalue
    exact hwrong token htoken other found hfound

/-! ### Single tokens -/

theorem exact_return {α : Type} (value : α) :
    Exact Prod.snd fun tokens => (.ok (value, tokens) : Except Stuck (α × List Token)) :=
  ⟨⟨[], _, rfl, rfl⟩, fun _ => .of_ok rfl⟩

/-- To expect a category and go on exactly is exact. -/
theorem exact_expect (category : Category) {next : Text × List Token → Except Stuck γ}
    (h : ∀ text, Exact left fun rest => next (text, rest)) :
    Exact left fun tokens => expect category tokens >>= next := by
  have hgo : ∀ token : Token, token.category = category →
      ∀ rest, expect category (token :: rest) >>= next = next (token.text, rest) := by
    intro token htoken rest
    rw [expect, if_pos htoken]
    rfl
  have hstop : ∀ token : Token, token.category ≠ category →
      ∀ rest, expect category (token :: rest) >>= next =
        .error ⟨category.name, token :: rest⟩ := by
    intro token htoken rest
    rw [expect, if_neg htoken]
    rfl
  have hcompletable : Completable left (fun tokens => expect category tokens >>= next) [] :=
    .of_first ⟨category, []⟩ (hgo ⟨category, []⟩ rfl) (h []).completable
  exact ⟨hcompletable, fun tokens =>
    .of_first hcompletable rfl hgo hstop fun token rest _ _ => (h token.text).pinpoints rest⟩

theorem expectText_bind_cons (category : Category) (text : Text)
    (next : List Token → Except Stuck γ) (rest : List Token) :
    expectText category text (⟨category, text⟩ :: rest) >>= next = next rest := by
  rw [expectText_eq_ok_iff.2 rfl]
  rfl

theorem Completable.expectText (category : Category) (text : Text)
    (h : Completable left next []) :
    Completable left (fun tokens => expectText category text tokens >>= next) [] :=
  .of_first ⟨category, text⟩ (expectText_bind_cons category text next) h

/-- To expect a text pinpoints at another token, and behind the right one as the rest does. -/
theorem Pinpoints.expectText {category : Category} {text : Text}
    (hcompletable : Completable left next [])
    (h : ∀ rest, tokens = ⟨category, text⟩ :: rest → Pinpoints left next rest) :
    Pinpoints left (fun tokens => expectText category text tokens >>= next) tokens := by
  have hgo : ∀ token : Token, token = ⟨category, text⟩ →
      ∀ rest, Statement.expectText category text (token :: rest) >>= next = next rest := by
    rintro _ rfl rest
    exact expectText_bind_cons category text next rest
  have hstop : ∀ token : Token, token ≠ ⟨category, text⟩ →
      ∀ rest, Statement.expectText category text (token :: rest) >>= next =
        .error ⟨text, token :: rest⟩ := by
    intro token htoken rest
    rw [Statement.expectText, if_neg (fun his => htoken (Token.is_iff.1 his))]
    rfl
  exact .of_first (hcompletable.expectText category text) rfl hgo hstop
    fun token rest htokens htoken => h rest (htoken ▸ htokens)

/-- To expect a text and go on exactly is exact. -/
theorem exact_expectText (category : Category) (text : Text) (h : Exact left next) :
    Exact left fun tokens => expectText category text tokens >>= next :=
  ⟨h.completable.expectText category text,
    fun _ => .expectText h.completable fun rest _ => h.pinpoints rest⟩

/-! ### Parameters -/

/-- A name that no comma follows is the last one. -/
theorem passesOn_parameters {next : List Text × List Token → Except Stuck γ}
    (hcomma : ∀ names rest found, next (names, Token.comma :: rest) ≠ .ok found) {token : Token}
    (hname : token.category = .identifier) :
    PassesOn (· = Token.comma) (fun rest => parameters (token :: rest) >>= next)
      fun rest => next ([token.text], rest) where
  pass := by
    obtain ⟨category, name⟩ := token
    cases hname
    intro rest hrest
    have hlast : parameters (⟨.identifier, name⟩ :: rest) = .ok ([name], rest) :=
      parameters_complete name [] fun hfirst => hrest Token.comma hfirst rfl
    rw [hlast]
    rfl
  refuse := by
    rintro _ rest found rfl
    exact hcomma _ rest found

theorem parameters_comma {token : Token} (hname : token.category = .identifier)
    (next : List Text × List Token → Except Stuck γ) (rest : List Token) :
    parameters (token :: Token.comma :: rest) >>= next =
      parameters rest >>= fun found => next (token.text :: found.1, found.2) := by
  have hcomma : Token.comma.is .punctuation [','] := Token.is_iff.2 rfl
  rw [parameters, if_pos hname, if_pos hcomma]
  cases parameters rest <;> rfl

/-- Behind a name the parameters go on with a comma or end, so what follows may not start with
one. -/
theorem pinpoints_parameters {next : List Text × List Token → Except Stuck γ}
    (h : ∀ names, Exact left fun rest => next (names, rest))
    (hcomma : ∀ names rest found, next (names, Token.comma :: rest) ≠ .ok found)
    (tokens : List Token) : Pinpoints left (fun tokens => parameters tokens >>= next) tokens := by
  have hcompletable : Completable left (fun tokens => parameters tokens >>= next) [] :=
    .of_first ⟨.identifier, []⟩ (fun rest => rfl)
      ((h [[]]).completable.of_passesOn (passesOn_parameters hcomma rfl))
  have hstop : ∀ token : Token, token.category ≠ .identifier →
      ∀ rest, parameters (token :: rest) >>= next =
        .error ⟨Category.identifier.name, token :: rest⟩ := by
    intro token htoken rest
    cases rest <;> rw [parameters, if_neg htoken] <;> rfl
  refine .of_first hcompletable rfl (fun token _ rest => rfl) hstop ?_
  rintro token rest rfl hname
  by_cases hfirst : rest.head? = some Token.comma
  · obtain ⟨rest, rfl⟩ := List.head?_eq_some_iff.1 hfirst
    refine .go [Token.comma] (parameters_comma hname next) ?_
    exact pinpoints_parameters (fun names => h (token.text :: names))
      (fun names => hcomma (token.text :: names)) rest
  · refine .of_passesOn (passesOn_parameters hcomma hname) ?_ ((h [token.text]).pinpoints rest)
    rintro _ hother rfl
    exact hfirst hother
termination_by tokens.length

/-- A clause that does not start with its reserved word is not there. -/
theorem passesOn_usingClause {next : List Text × List Token → Except Stuck γ}
    (husing : ∀ names rest found, next (names, Token.keyword "USING" :: rest) ≠ .ok found) :
    PassesOn (· = Token.keyword "USING") (fun tokens => usingClause tokens >>= next)
      fun tokens => next ([], tokens) where
  pass := by
    intro tokens htokens
    cases tokens with
    | nil => rfl
    | cons token rest =>
        rw [usingClause, if_neg (fun his => htokens token rfl (Token.is_iff.1 his))]
        rfl
  refuse := by
    rintro _ rest found rfl
    exact husing _ rest found

theorem exact_usingClause {next : List Text × List Token → Except Stuck γ}
    (h : ∀ names, Exact left fun rest => next (names, rest))
    (hcomma : ∀ names rest found, next (names, Token.comma :: rest) ≠ .ok found)
    (husing : ∀ names rest found, next (names, Token.keyword "USING" :: rest) ≠ .ok found) :
    Exact left fun tokens => usingClause tokens >>= next := by
  refine ⟨(h []).completable.of_passesOn (passesOn_usingClause husing), fun tokens => ?_⟩
  by_cases hfirst : tokens.head? = some (Token.keyword "USING")
  · obtain ⟨rest, rfl⟩ := List.head?_eq_some_iff.1 hfirst
    exact .go [Token.keyword "USING"] (fun _ => rfl) (pinpoints_parameters h hcomma rest)
  · refine .of_passesOn (passesOn_usingClause husing) ?_ ((h []).pinpoints tokens)
    rintro _ hother rfl
    exact hfirst hother

/-! ### Queries -/

/-- A query takes every token up to its end, and so it is only ever stuck at the end of the
program. -/
theorem exact_queryTexts {next : List Text × List Token → Except Stuck γ}
    (h : ∀ texts, Exact left fun rest => next (texts, rest)) :
    Exact left fun tokens => queryTexts tokens >>= next := by
  -- Whatever stands in a query, it can still be ended.
  have hcompletable : Completable left (fun tokens => queryTexts tokens >>= next) [] :=
    .of_first (Token.keyword "END-EXEC") (fun _ => rfl) (h []).completable
  refine ⟨hcompletable, fun tokens => ?_⟩
  induction tokens generalizing next with
  | nil => exact .of_end hcompletable rfl
  | cons token rest ih =>
      by_cases hend : token = Token.keyword "END-EXEC"
      · subst hend
        exact .go [Token.keyword "END-EXEC"] (fun _ => rfl) ((h []).pinpoints rest)
      · have hgo : ∀ rest, queryTexts ([token] ++ rest) >>= next =
            queryTexts rest >>= fun found => next (token.text :: found.1, found.2) := by
          intro rest
          rw [List.singleton_append, queryTexts, if_neg (fun his => hend (Token.is_iff.1 his))]
          cases queryTexts rest <;> rfl
        refine .go [token] hgo (ih (fun texts => h (token.text :: texts)) ?_)
        exact .of_first (Token.keyword "END-EXEC") (fun _ => rfl) (h [token.text]).completable

/-! ### Statements -/

/-- The tails are exact because each is a chain of expectations. -/
theorem exact_displayTail : Exact Prod.snd displayTail :=
  exact_expect .string fun literal =>
    exact_expectText .punctuation ['.'] (exact_return (display literal))

theorem exact_moveTail : Exact Prod.snd moveTail :=
  exact_expect .number fun value =>
    exact_expectText .keyword "TO".toList <|
      exact_expect .identifier fun name =>
        exact_expectText .punctuation ['.'] (exact_return (move value name))

theorem exact_stopTail : Exact Prod.snd stopTail :=
  exact_expectText .keyword "RUN".toList <|
    exact_expectText .punctuation ['.'] (exact_return stopRun)

theorem exact_callTail : Exact Prod.snd callTail :=
  exact_expect .string fun subroutine =>
    exact_usingClause
      (fun names => exact_expectText .punctuation ['.'] (exact_return (call subroutine names)))
      (fun _ _ _ h => nomatch h) (fun _ _ _ h => nomatch h)

theorem exact_execTail : Exact Prod.snd execTail :=
  exact_expectText .keyword "SQL".toList <|
    exact_queryTexts fun texts =>
      exact_expectText .punctuation ['.'] (exact_return (execSql (Text.join [' '] texts)))

/-- The words that statements start with. -/
def firstWords : List String := ["DISPLAY", "MOVE", "STOP", "CALL", "EXEC"]

/-- The first word decides which tail is read, and five words can be the first. -/
theorem exact_statement : Exact Prod.snd statement := by
  have hcompletable : Completable Prod.snd statement [] :=
    .of_first (Token.keyword "STOP") (fun _ => rfl) exact_stopTail.completable
  have hstop : ∀ token : Token, (¬ ∃ word ∈ firstWords, token = Token.keyword word) →
      ∀ rest, statement (token :: rest) = .error ⟨"statement".toList, token :: rest⟩ := by
    intro token htoken rest
    have hno : ∀ word ∈ firstWords, ¬ token.is .keyword word.toList :=
      fun word hword his => htoken ⟨word, hword, Token.is_iff.1 his⟩
    simp only [firstWords, List.forall_mem_cons] at hno
    obtain ⟨hdisplay, hmove, hstop, hcall, hexec, -⟩ := hno
    rw [statement, if_neg hdisplay, if_neg hmove, if_neg hstop, if_neg hcall, if_neg hexec]
  refine ⟨hcompletable, fun tokens =>
    .of_first hcompletable rfl (fun token _ rest => rfl) hstop ?_⟩
  rintro token rest rfl ⟨word, hword, rfl⟩
  simp only [firstWords, List.mem_cons, List.not_mem_nil, or_false] at hword
  rcases hword with rfl | rfl | rfl | rfl | rfl
  · exact exact_displayTail.pinpoints rest
  · exact exact_moveTail.pinpoints rest
  · exact exact_stopTail.pinpoints rest
  · exact exact_callTail.pinpoints rest
  · exact exact_execTail.pinpoints rest

/-- The statements are read one by one, so the first one can be read if all can. -/
theorem exists_statement_of_statements {found : List Statement} (hne : tokens ≠ [])
    (h : statements tokens = .ok found) : ∃ first rest, statement tokens = .ok (first, rest) := by
  obtain ⟨sentences, -, rfl⟩ := statements_sound h
  cases sentences with
  | nil => exact absurd rfl hne
  | cons sentence sentences => exact ⟨_, _, statement_complete sentence _⟩

/-- Statements in a row pinpoint as a single one does: the first one that gets stuck, or the rest. -/
theorem pinpoints_statements (tokens : List Token) :
    Pinpoints (fun _ => []) statements tokens := by
  cases tokens with
  | nil => exact .of_ok (by rw [statements])
  | cons token tail =>
      cases hfirst : statement (token :: tail) with
      | error stuck =>
          have herror : statements (token :: tail) = .error stuck := by
            rw [statements]
            split
            · next _ hstuck => rw [hfirst] at hstuck; cases hstuck; rfl
            · next _ _ hfound => rw [hfirst] at hfound; cases hfound
          intro other hother
          cases herror.symm.trans hother
          obtain ⟨taken, htaken, ⟨more, ⟨first, rest⟩, hfound, hleft⟩, hwrong⟩ :=
            exact_statement.pinpoints _ stuck hfirst
          refine ⟨taken, htaken, ⟨more, [first], ?_, rfl⟩, ?_⟩
          · cases hleft
            rw [statements_eq_of_statement hfound, statements]
            rfl
          · intro wrong hwrongToken behind found hstatements
            obtain ⟨first, rest, hstatement⟩ :=
              exists_statement_of_statements (by simp) hstatements
            exact hwrong wrong hwrongToken behind (first, rest) hstatement
      | ok found =>
          obtain ⟨first, rest⟩ := found
          obtain ⟨sentence, rfl, hwords⟩ := statement_sound hfirst
          have hgo : ∀ rest, statements (sentence.words ++ rest) =
              (statements rest).map (sentence.statement :: ·) :=
            fun rest => statements_eq_of_statement (statement_complete sentence rest)
          rw [hwords]
          exact .go sentence.words hgo ((pinpoints_statements rest).map fun _ => rfl)
termination_by tokens.length
decreasing_by exact length_of_statement hfirst

/-! ### Programs -/

/-- A division is read before the rest of the program. -/
theorem program_header {token : Token} (htoken : token.category = .divisionHeader)
    (rest : List Token) :
    program (token :: rest) =
      expectKeyword "DIVISION" rest >>= fun rest => expectPeriod rest >>= program := by
  unfold program
  rw [skipDivisions_header htoken, divisionTail]
  simp only [bind_assoc]

/-- Without a division in front a program is its statements. -/
theorem passesOn_program :
    PassesOn (fun token => token.category = .divisionHeader) program statements where
  pass := by
    intro tokens htokens
    rw [program, skipDivisions_of_head? htokens]
    rfl
  refuse := by
    intro token rest found htoken hfound
    obtain ⟨sentences, -, hsentences⟩ := statements_sound hfound
    exact head?_flatMap_words sentences token (by rw [← hsentences]; rfl) htoken

/-- A program pinpoints the token at which it cannot be read on. -/
theorem pinpoints_program (tokens : List Token) : Pinpoints (fun _ => []) program tokens := by
  have hcompletable : Completable (fun _ => []) program [] :=
    ⟨[], [], passesOn_program.of_ok (by rw [List.nil_append, statements]), rfl⟩
  by_cases hheader : ∃ token ∈ tokens.head?, token.category = .divisionHeader
  · obtain ⟨token, hfirst, htoken⟩ := hheader
    obtain ⟨rest, rfl⟩ := List.head?_eq_some_iff.1 hfirst
    refine .go [token] (program_header htoken) ?_
    refine .expectText (hcompletable.expectText .punctuation ['.']) fun behind hbehind => ?_
    refine .expectText hcompletable fun others hothers => ?_
    exact pinpoints_program others
  · exact .of_passesOn passesOn_program (fun token hfirst htoken => hheader ⟨token, hfirst, htoken⟩)
      (pinpoints_statements tokens)
termination_by tokens.length

end Statement

/-! ### Comments

Programs are read without their comments, but a query that was made up to complete a program could
hold some. They may be left out. -/

/-- The sentence without the comments in its query. -/
def Sentence.dropComments : Sentence → Sentence
  | execSql body unended =>
    execSql (withoutComments body) fun token htoken => unended token (List.mem_of_mem_filter htoken)
  | sentence => sentence

theorem withoutComments_append (tokens more : List Token) :
    withoutComments (tokens ++ more) = withoutComments tokens ++ withoutComments more :=
  List.filter_append tokens more

theorem withoutComments_withoutComments (tokens : List Token) :
    withoutComments (withoutComments tokens) = withoutComments tokens := by
  simp [withoutComments]

theorem withoutComments_usingWords (names : List Text) :
    withoutComments (Sentence.usingWords names) = Sentence.usingWords names := by
  refine List.filter_eq_self.2 fun token htoken => ?_
  rcases Sentence.mem_usingWords htoken with rfl | rfl | ⟨name, -, rfl⟩ <;> rfl

/-- A sentence can lose comments only in its query. -/
theorem Sentence.words_dropComments (sentence : Sentence) :
    sentence.dropComments.words = withoutComments sentence.words := by
  cases sentence with
  | call subroutine parameters =>
      show Sentence.words _ = Token.keyword "CALL" :: ⟨.string, subroutine⟩ ::
        withoutComments (usingWords parameters ++ [Token.period])
      rw [withoutComments_append, withoutComments_usingWords]
      rfl
  | execSql body unended =>
      show Sentence.words _ = Token.keyword "EXEC" :: Token.keyword "SQL" ::
        withoutComments (body ++ [Token.keyword "END-EXEC", Token.period])
      rw [withoutComments_append]
      rfl
  | display | move | stopRun => rfl

/-- Without its comments the program is still one. -/
theorem Derivation.exists_words_withoutComments (derivation : Derivation) :
    ∃ other : Derivation, other.words = withoutComments derivation.words := by
  refine ⟨⟨derivation.divisions, derivation.sentences.map Sentence.dropComments⟩, ?_⟩
  have hdivisions : withoutComments (derivation.divisions.flatMap divisionWords) =
      derivation.divisions.flatMap divisionWords := List.filter_flatMap
  have hsentences : withoutComments (derivation.sentences.flatMap Sentence.words) =
      (derivation.sentences.map Sentence.dropComments).flatMap Sentence.words := by
    rw [List.flatMap_map, withoutComments, List.filter_flatMap]
    exact List.flatMap_congr fun sentence _ => sentence.words_dropComments.symm
  rw [Derivation.words, Derivation.words, withoutComments_append, hdivisions, hsentences]

/-- Whether a tree can be read from the tokens. -/
def Accepted (tokens : List Token) : Prop := ∃ node, Node.ofTokens tokens = .ok node

/-- Whether the tokens are the beginning of some that a tree can be read from. -/
def Viable (tokens : List Token) : Prop := ∃ more, Accepted more ∧ tokens <+: more

/-- To accept tokens is to read them without their comments. -/
theorem accepted_iff {tokens : List Token} :
    Accepted tokens ↔ ∃ found, Statement.program (withoutComments tokens) = .ok found := by
  simp only [Accepted, Node.ofTokens, Statement.ofTokens_eq_program, map_eq_ok_iff,
    mapError_eq_ok_iff]
  constructor
  · rintro ⟨_, found, hfound, -⟩
    exact ⟨found, hfound⟩
  · rintro ⟨found, hfound⟩
    exact ⟨_, found, hfound, rfl⟩

theorem accepted_of_program {tokens : List Token} {found : List Statement}
    (h : Statement.program tokens = .ok found) : Accepted tokens := by
  obtain ⟨derivation, rfl, -⟩ := Statement.program_eq_ok_iff.1 h
  obtain ⟨other, hother⟩ := derivation.exists_words_withoutComments
  exact accepted_iff.2 ⟨_, Statement.program_eq_ok_iff.2 ⟨other, hother, rfl⟩⟩

/-! ### Errors of programs -/

/-- What was taken when the reader got stuck is viable, and no longer so with the next token. -/
theorem exists_viable_of_stuck {tokens : List Token} {stuck : Statement.Stuck}
    (h : Statement.program (withoutComments tokens) = .error stuck) :
    ∃ taken, withoutComments tokens = taken ++ stuck.rest ∧ Viable taken ∧
      ∀ token ∈ stuck.rest.head?, ¬ Viable (taken ++ [token]) := by
  obtain ⟨taken, htaken, ⟨more, found, hfound, -⟩, hwrong⟩ :=
    Statement.pinpoints_program _ stuck h
  refine ⟨taken, htaken, ⟨taken ++ more, accepted_of_program hfound, List.prefix_append _ _⟩, ?_⟩
  rintro token htoken ⟨_, haccepted, other, rfl⟩
  obtain ⟨found, hfound⟩ := accepted_iff.1 haccepted
  -- Neither what was taken nor the wrong token is a comment.
  have hclean : withoutComments (taken ++ [token]) = taken ++ [token] := by
    refine List.filter_eq_self.2 fun one hone => ?_
    obtain ⟨rest, hrest⟩ := List.head?_eq_some_iff.1 htoken
    have hmem : one ∈ withoutComments tokens := by
      rw [htaken, hrest, List.append_cons]
      exact List.mem_append_left rest hone
    exact (List.mem_filter.1 hmem).2
  rw [withoutComments_append, hclean, List.append_assoc] at hfound
  exact hwrong token htoken _ found hfound

namespace Node

/-- The error is that of reading, with its place counted among the tokens that are no comments. -/
theorem ofTokens_eq_error_iff {tokens : List Token} {error : ParseError} :
    ofTokens tokens = .error error ↔
      ∃ stuck, Statement.program (withoutComments tokens) = .error stuck ∧
        stuck.toError (withoutComments tokens).length = error := by
  rw [ofTokens, Statement.ofTokens_eq_program]
  cases Statement.program (withoutComments tokens) with
  | error stuck => simp [Except.map, Except.mapError]
  | ok found => simp [Except.map, Except.mapError]

/-- **Errors point at the first wrong token**: what stands before the token that an error names is
the beginning of a program, and with that token it is not. If instead the tokens end too early, they
are no program but the beginning of one. -/
theorem ofTokens_error_earliest (tokens : List Token) :
    (∀ expected found position,
      ofTokens tokens = .error (.unexpectedToken expected found position) →
        ∃ h : position < (withoutComments tokens).length,
          (withoutComments tokens)[position].text = found ∧
            Viable ((withoutComments tokens).take position) ∧
            ¬ Viable ((withoutComments tokens).take (position + 1))) ∧
      ∀ expected, ofTokens tokens = .error (.unexpectedEnd expected) →
        ¬ Accepted (withoutComments tokens) ∧ Viable (withoutComments tokens) := by
  constructor
  · intro expected found position herror
    obtain ⟨stuck, hstuck, hto⟩ := ofTokens_eq_error_iff.1 herror
    obtain ⟨taken, htaken, hviable, hwrong⟩ := exists_viable_of_stuck hstuck
    cases hrest : stuck.rest with
    | nil => simp [Statement.Stuck.toError, hrest] at hto
    | cons token rest =>
        rw [hrest] at htaken hwrong
        simp only [Statement.Stuck.toError, hrest, ParseError.unexpectedToken.injEq] at hto
        obtain ⟨-, rfl, hposition⟩ := hto
        obtain rfl : taken.length = position := by
          rw [← hposition, htaken, List.length_append]
          omega
        rw [htaken]
        refine ⟨by simp, by simp, ?_, ?_⟩
        · rwa [List.take_left]
        · rw [List.take_length_add_append]
          exact hwrong token rfl
  · intro expected herror
    obtain ⟨stuck, hstuck, hto⟩ := ofTokens_eq_error_iff.1 herror
    obtain ⟨taken, htaken, hviable, -⟩ := exists_viable_of_stuck hstuck
    cases hrest : stuck.rest with
    | nil =>
        rw [hrest, List.append_nil] at htaken
        refine ⟨fun haccepted => ?_, htaken ▸ hviable⟩
        obtain ⟨found, hfound⟩ := accepted_iff.1 haccepted
        rw [withoutComments_withoutComments, hstuck] at hfound
        cases hfound
    | cons token rest => simp [Statement.Stuck.toError, hrest] at hto

/-- A number where a second parameter belongs, behind a comment that does not count; and the same
call cut off before it. -/
theorem ofTokens_error_earliest_call :
    ∃ front behind : List Token,
      ofTokens (front ++ behind) =
          .error (.unexpectedToken "IDENTIFIER".toList "5".toList 5) ∧
        Viable ((withoutComments (front ++ behind)).take 5) ∧
        ¬ Viable ((withoutComments (front ++ behind)).take 6) ∧
        ofTokens front = .error (.unexpectedEnd "IDENTIFIER".toList) ∧
        Viable (withoutComments front) := by
  obtain ⟨front, behind, hwrong, hend⟩ : ∃ front behind : List Token,
      ofTokens (front ++ behind) =
          .error (.unexpectedToken "IDENTIFIER".toList "5".toList 5) ∧
        ofTokens front = .error (.unexpectedEnd "IDENTIFIER".toList) :=
    ⟨[.keyword "CALL", ⟨.string, "\"S\"".toList⟩, .keyword "USING", ⟨.identifier, "A".toList⟩,
      ⟨.comment, "*> B".toList⟩, .comma], [⟨.number, "5".toList⟩, .period], by decide +kernel⟩
  obtain ⟨-, -, hviable, hnot⟩ :=
    (ofTokens_error_earliest (front ++ behind)).1 _ _ _ hwrong
  exact ⟨front, behind, hwrong, hviable, hnot, hend,
    ((ofTokens_error_earliest front).2 _ hend).2⟩

end Node

end CobolSubset
