import CobolSubset.Proofs.Cutting
import CobolSubset.Proofs.Lexeme
import CobolSubset.Proofs.ShapeContract
import CobolSubset.Proofs.ViablePrefix

/-!
# Sources one after the other

A source may be continued by another one on a new line, and every stage then does with the whole what
it does with the parts:

* **Cutting** (`RuleSet.Cut.append_line`) — no token of the first source looks past the line feed,
  with one exception: a lone quotation mark would find its partner in the second source.
* **Reading** (`Statement.program_append`) — once the first source is read, reading goes on as if it
  started there, except that divisions are over after the first statement. Positions in errors are
  counted from the start of the whole.
* **Generating** — the lines of the statements stand one after the other between the same beginning
  and the same end.
-/

namespace CobolSubset

open Scanner

/-! ### Tokens before a line feed -/

section Line

variable {p : Char → Bool}

/-- A line feed ends a run just as the end of the text does. -/
theorem Text.stops_append_line (hp : p '\n' = false) (text more : Text) :
    Text.stops p (text ++ '\n' :: more) = Text.stops p text := by
  cases text with
  | nil => simp [hp]
  | cons c rest => rfl

theorem Text.takeWhile_append_line (hp : p '\n' = false) (text more : Text) :
    (text ++ '\n' :: more).takeWhile p = text.takeWhile p := by
  induction text with
  | nil => simp [hp]
  | cons c rest ih => simp only [List.cons_append, List.takeWhile_cons, ih]

theorem Text.dropWhile_append_line (hp : p '\n' = false) (text more : Text) :
    (text ++ '\n' :: more).dropWhile p = text.dropWhile p ++ '\n' :: more := by
  induction text with
  | nil => simp [hp]
  | cons c rest ih =>
      rw [List.cons_append, List.dropWhile_cons, List.dropWhile_cons]
      split
      · exact ih
      · rfl

end Line

theorem decimals?_append_line (text more : Text) :
    decimals? (text ++ '\n' :: more) = decimals? text := by
  have hdigit : Char.isDigit '\n' = false := rfl
  have hword : isWordChar '\n' = false := by decide
  cases text with
  | nil => rfl
  | cons c rest =>
      simp only [List.cons_append, decimals?, Text.takeWhile_append_line hdigit,
        Text.dropWhile_append_line hdigit, Text.stops_append_line hword]

/-- A token that is no lone quotation mark ends before a further line as it does without it. -/
theorem replaces_append_line {token : Token} (htoken : token ≠ Token.quotationMark)
    (behind more : Text) : Replaces token behind (behind ++ '\n' :: more) where
  word := by rw [Text.stops_append_line rfl]; exact id
  number := by rw [Text.stops_append_line (by decide)]; exact id
  decimals := by rw [decimals?_append_line]; exact id
  sign := by
    intro sign hsign
    have hline : '\n' ∉ sign.2 := fun hmem =>
      absurd (mem_signs_of_openSigns sign hsign '\n' hmem) (by decide)
    rw [Text.stops_append_line (by simpa using hline)]
    exact id
  line := by
    intro _
    rw [Text.stops_append_line rfl]
    exact id
  quote := fun hquote => absurd hquote htoken

namespace RuleSet

/-- All tokens are cut off before the line feed, if none of them is a lone quotation mark. -/
theorem Cut.append_line {source : Text} {tokens : List Token} (h : Cut standard source tokens [])
    (hclosed : Token.quotationMark ∉ tokens) (more : Text) :
    Cut standard (source ++ '\n' :: more) tokens more := by
  -- The induction needs the end of the source as a variable.
  generalize hend : ([] : Text) = rest at h
  induction h with
  | @stop blanks rest hblanks =>
      subst hend
      have hline : Text.AllBlank ['\n'] := by decide
      have hcut : Cut standard (blanks ++ ['\n'] ++ more) [] more :=
        .stop more (hblanks.append hline)
      simpa using hcut
  | @take blanks behind rest token tokens hblanks hsolid hfound hcut ih =>
      rw [List.mem_cons, not_or] at hclosed
      have hlexeme := matchStart?_append_eq_some_iff.1 hfound
      have hline := hlexeme.replace (replaces_append_line (Ne.symm hclosed.1) behind more)
      rw [List.append_assoc, List.append_assoc]
      exact .take hblanks hsolid (matchStart?_append_eq_some_iff.2 hline) (ih hclosed.2 hend)

end RuleSet

/-! ### Reading on -/

/-- The error for a program that stands behind `n` further tokens. -/
def ParseError.moveBy (n : Nat) : ParseError → ParseError
  | unexpectedToken expected found position => unexpectedToken expected found (position + n)
  | unexpectedEnd expected => unexpectedEnd expected

namespace Statement

theorem Stuck.toError_add {stuck : Stuck} {total : Nat} (h : stuck.rest.length ≤ total) (n : Nat) :
    stuck.toError (n + total) = (stuck.toError total).moveBy n := by
  unfold toError
  split
  · rfl
  · next token rest hrest =>
    rw [hrest] at h
    rw [hrest, ParseError.moveBy]
    congr 1
    omega

/-- Reading does not get stuck with more tokens than there were. -/
theorem length_of_program_stuck {tokens : List Token} {stuck : Stuck}
    (h : program tokens = .error stuck) : stuck.rest.length ≤ tokens.length := by
  obtain ⟨taken, rfl, -⟩ := pinpoints_program tokens stuck h
  simp

/-- Behind a program reading goes on as from the start, but no division may follow a statement. -/
theorem program_append (derivation : Derivation) {rest : List Token}
    (hrest : derivation.sentences = [] ∨
      ∀ token ∈ rest.head?, token.category ≠ .divisionHeader) :
    program (derivation.words ++ rest) =
      (program rest).map (derivation.sentences.map Sentence.statement ++ ·) := by
  obtain ⟨names, sentences⟩ := derivation
  have hskip : program (names.flatMap divisionWords ++ sentences.flatMap Sentence.words ++ rest) =
      program (sentences.flatMap Sentence.words ++ rest) := by
    rw [List.append_assoc, program, skipDivisions_append, program]
  rw [Derivation.words, hskip]
  rcases hrest with hnone | hhead
  · -- Without sentences the divisions may go on.
    cases hnone
    show program rest = (program rest).map fun more => more
    cases program rest <;> rfl
  · -- Otherwise the divisions are over on both sides, and only statements are read.
    have hfirst : ∀ token ∈ (sentences.flatMap Sentence.words ++ rest).head?,
        token.category ≠ .divisionHeader := by
      intro token htoken
      rw [List.head?_append, Option.mem_def, Option.or_eq_some_iff] at htoken
      rcases htoken with htoken | ⟨-, htoken⟩
      · exact head?_flatMap_words sentences token htoken
      · exact hhead token htoken
    rw [passesOn_program.pass _ hfirst, passesOn_program.pass rest hhead]
    exact statements_append sentences rest

theorem ofTokens_append {tokens more : List Token} {found : List Statement}
    (h : ofTokens tokens = .ok found)
    (hmore : found = [] ∨
      ∀ token ∈ (withoutComments more).head?, token.category ≠ .divisionHeader) :
    ofTokens (tokens ++ more) =
      ((ofTokens more).map (found ++ ·)).mapError (.moveBy (withoutComments tokens).length) := by
  obtain ⟨derivation, hwords, rfl⟩ := ofTokens_eq_ok_iff.1 h
  have hread := program_append derivation (hmore.imp_left List.map_eq_nil_iff.1)
  rw [ofTokens_eq_program, ofTokens_eq_program, withoutComments_append, ← hwords, hread]
  cases hprogram : program (withoutComments more) with
  | ok rest => rfl
  | error stuck =>
      have hlength := length_of_program_stuck hprogram
      have hmoved := Stuck.toError_add hlength derivation.words.length
      rw [← List.length_append] at hmoved
      exact congrArg Except.error hmoved

end Statement

/-- Tokens that follow those of a program add their statements to it, unless a division comes behind
a statement. -/
theorem Node.ofTokens_append {tokens more : List Token} {program : Node}
    (h : Node.ofTokens tokens = .ok program)
    (hmore : program.children = [] ∨
      ∀ token ∈ (withoutComments more).head?, token.category ≠ .divisionHeader) :
    Node.ofTokens (tokens ++ more) =
      ((Node.ofTokens more).map fun other => .program (program.children ++ other.children)).mapError
        (.moveBy (withoutComments tokens).length) := by
  obtain ⟨found, hfound, rfl⟩ := map_eq_ok_iff.1 h
  have hread := Statement.ofTokens_append hfound (hmore.imp_left List.map_eq_nil_iff.1)
  rw [Node.ofTokens, hread, Node.ofTokens]
  cases Statement.ofTokens more with
  | error error => rfl
  | ok others =>
      show Except.ok (Node.ofStatements (found ++ others)) = _
      rw [Node.ofStatements, List.map_append]
      rfl

/-! ### From source to code -/

/-- The Java text of a source under the standard rules, with all options at their defaults. -/
def javaText (source : Text) : Except ConversionError Text :=
  RuleSet.standard.convert {} {} source

def javaProgram (body : Text) : Text :=
  Java.preamble "Program".toList ++ body ++ Java.closing

/-- The text of a program, told from its statements. -/
theorem javaText_of_ofTokens {source : Text} {tokens : List Token} {found : List Statement}
    (htokens : RuleSet.standard.tokenize source = .ok tokens)
    (hfound : Statement.ofTokens tokens = .ok found) :
    javaText source = .ok (javaProgram (found.flatMap (Java.statementText {} {}))) := by
  have hnode : Node.ofTokens tokens = .ok (Node.ofStatements found) :=
    map_eq_ok_iff.2 ⟨found, hfound, rfl⟩
  rw [javaText, RuleSet.convert_of_parse (RuleSet.parse_eq_ok_iff.2 ⟨tokens, htokens, hnode⟩)]
  exact mapError_eq_ok_iff.2 (Java.generate_ofStatements {} {} found)

namespace RuleSet

/-- **Every stage is compositional**: behind a source with no lone quotation mark another one may
follow on a new line. -/
theorem convert_append_line {first second : Text} {tokens : List Token}
    (hfirst : standard.tokenize first = .ok tokens)
    (hclosed : Token.quotationMark ∉ tokens) :
    standard.tokenize (first ++ '\n' :: second) = (standard.tokenize second).map (tokens ++ ·) ∧
      ∀ program more, Node.ofTokens tokens = .ok program → standard.tokenize second = .ok more →
        (program.children = [] ∨
          ∀ token ∈ (withoutComments more).head?, token.category ≠ .divisionHeader) →
        (∀ error, Node.ofTokens more = .error error →
          Node.ofTokens (tokens ++ more) =
            .error (error.moveBy (withoutComments tokens).length)) ∧
        ∀ other, Node.ofTokens more = .ok other →
          Node.ofTokens (tokens ++ more) =
              .ok (.program (program.children ++ other.children)) ∧
            ∃ body body', javaText first = .ok (javaProgram body) ∧
              javaText second = .ok (javaProgram body') ∧
              javaText (first ++ '\n' :: second) = .ok (javaProgram (body ++ body')) := by
  have htokens : standard.tokenize (first ++ '\n' :: second) =
      (standard.tokenize second).map (tokens ++ ·) :=
    ((tokenize_eq_ok_iff.1 hfirst).append_line hclosed second).tokenize
  refine ⟨htokens, fun program more hprogram hmore hdivision => ⟨?_, ?_⟩⟩
  · intro error herror
    rw [Node.ofTokens_append hprogram hdivision, herror]
    rfl
  · intro other hother
    refine ⟨by rw [Node.ofTokens_append hprogram hdivision, hother]; rfl, ?_⟩
    obtain ⟨found, hfound, rfl⟩ := map_eq_ok_iff.1 hprogram
    obtain ⟨others, hothers, rfl⟩ := map_eq_ok_iff.1 hother
    have hboth : Statement.ofTokens (tokens ++ more) = .ok (found ++ others) := by
      rw [Statement.ofTokens_append hfound (hdivision.imp_left List.map_eq_nil_iff.1), hothers]
      rfl
    refine ⟨_, _, javaText_of_ofTokens hfirst hfound, javaText_of_ofTokens hmore hothers, ?_⟩
    rw [hmore] at htokens
    rw [javaText_of_ofTokens htokens hboth, List.flatMap_append]

/-- A first source that ends in a comment with a quotation mark, and a second one with a string. -/
theorem convert_append_line_comment :
    ∃ tokens more program other body body',
      standard.tokenize "DATA DIVISION.MOVE 1 TO A.*> \"".toList = .ok tokens ∧
        standard.tokenize "DISPLAY \"B\".".toList = .ok more ∧
        Node.ofTokens tokens = .ok program ∧ Node.ofTokens more = .ok other ∧
        Node.ofTokens (tokens ++ more) = .ok (.program (program.children ++ other.children)) ∧
        javaText "DATA DIVISION.MOVE 1 TO A.*> \"\nDISPLAY \"B\".".toList =
          .ok (javaProgram (body ++ body')) := by
  obtain ⟨tokens, more, program, other, hfirst, hsecond, hprogram, hother, hclosed, hdivision⟩ :
      ∃ tokens more program other,
        standard.tokenize "DATA DIVISION.MOVE 1 TO A.*> \"".toList = .ok tokens ∧
          standard.tokenize "DISPLAY \"B\".".toList = .ok more ∧
          Node.ofTokens tokens = .ok program ∧ Node.ofTokens more = .ok other ∧
          Token.quotationMark ∉ tokens ∧
          ∀ token ∈ (withoutComments more).head?, token.category ≠ .divisionHeader := by
    refine ⟨[⟨.divisionHeader, "DATA".toList⟩, .keyword "DIVISION", .period, .keyword "MOVE",
        ⟨.number, "1".toList⟩, .keyword "TO", ⟨.identifier, "A".toList⟩, .period,
        ⟨.comment, "*> \"".toList⟩],
      [.keyword "DISPLAY", ⟨.string, "\"B\"".toList⟩, .period],
      .ofStatements [.move "1".toList "A".toList], .ofStatements [.display "\"B\"".toList], ?_⟩
    rw [standard_eq_spelled]
    unfold Token.keyword
    repeat rw [String.toList_ofList]
    decide +kernel
  obtain ⟨-, hparts⟩ := convert_append_line hfirst hclosed
  obtain ⟨-, hok⟩ := hparts program more hprogram hsecond (.inr hdivision)
  obtain ⟨hboth, body, body', -, -, hjava⟩ := hok other hother
  exact ⟨tokens, more, program, other, body, body', hfirst, hsecond, hprogram, hother, hboth, hjava⟩

end RuleSet

end CobolSubset
