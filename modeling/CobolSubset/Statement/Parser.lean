import CobolSubset.Outcome
import CobolSubset.Statement.Basic
import CobolSubset.Token.Basic

/-!
# Reading statements from tokens

A program is a sequence of divisions followed by a sequence of statements:

    division  ::= HEADER "DIVISION" "."
    statement ::= "DISPLAY" STRING "."
                | "MOVE" NUMBER "TO" IDENTIFIER "."
                | "STOP" "RUN" "."
                | "CALL" STRING ["USING" IDENTIFIER ("," IDENTIFIER)*] "."
                | "EXEC" "SQL" token* "END-EXEC" "."

Comments are dropped before reading. Each step returns the tokens behind what it read. A step that
cannot go on says what it expected and hands over the tokens from there on, from which the position
of the fault is known.
-/

namespace CobolSubset

/-- Why the tokens are no program. -/
inductive ParseError where
  /-- Another token stands at this position, counted without comments. -/
  | unexpectedToken (expected found : Text) (position : Nat)
  /-- The tokens end too early. -/
  | unexpectedEnd (expected : Text)
deriving DecidableEq, Repr

def ParseError.message : ParseError → Text
  | unexpectedToken expected found position =>
    "Expected ".toList ++ expected ++ " but found ".toList ++ found ++ " (token ".toList
      ++ Text.ofNat position ++ ")".toList
  | unexpectedEnd expected => "Unexpected end of input: expected ".toList ++ expected

namespace Statement

/-- Where reading cannot go on: what was expected, and the tokens from there on. -/
structure Stuck where
  expected : Text
  rest : List Token
deriving DecidableEq, Repr

/-- The error of being stuck while reading `total` tokens. -/
def Stuck.toError (total : Nat) (stuck : Stuck) : ParseError :=
  match stuck.rest with
  | [] => .unexpectedEnd stuck.expected
  | token :: _ => .unexpectedToken stuck.expected token.text (total - stuck.rest.length)

/-! ### Single tokens -/

def expect (category : Category) : List Token → Except Stuck (Text × List Token)
  | [] => .error ⟨category.name, []⟩
  | token :: rest =>
    if token.category = category then .ok (token.text, rest) else .error ⟨category.name, token :: rest⟩

def expectText (category : Category) (text : Text) : List Token → Except Stuck (List Token)
  | [] => .error ⟨text, []⟩
  | token :: rest => if token.is category text then .ok rest else .error ⟨text, token :: rest⟩

def expectKeyword (word : String) : List Token → Except Stuck (List Token) :=
  expectText .keyword word.toList

def expectPeriod : List Token → Except Stuck (List Token) :=
  expectText .punctuation ['.']

/-- What is behind a token is shorter. -/
theorem length_of_expect {category : Category} {tokens rest : List Token} {text : Text}
    (h : expect category tokens = .ok (text, rest)) : rest.length < tokens.length := by
  unfold expect at h
  split at h
  · cases h
  · split at h
    · cases h; exact Nat.lt_succ_self _
    · cases h

/-- What is behind a token is shorter. -/
theorem length_of_expectText {category : Category} {text : Text} {tokens rest : List Token}
    (h : expectText category text tokens = .ok rest) : rest.length < tokens.length := by
  unfold expectText at h
  split at h
  · cases h
  · split at h
    · cases h; exact Nat.lt_succ_self _
    · cases h

/-! ### Parts of statements -/

/-- The parameters of a call, with commas between them. -/
def parameters : List Token → Except Stuck (List Text × List Token)
  | [] => .error ⟨Category.identifier.name, []⟩
  | [token] =>
    if token.category = .identifier then .ok ([token.text], [])
    else .error ⟨Category.identifier.name, [token]⟩
  | token :: next :: rest =>
    if token.category = .identifier then
      if next.is .punctuation [','] then do
        let (more, rest) ← parameters rest
        return (token.text :: more, rest)
      else .ok ([token.text], next :: rest)
    else .error ⟨Category.identifier.name, token :: next :: rest⟩

/-- The parameters of a call, if there are any. -/
def usingClause : List Token → Except Stuck (List Text × List Token)
  | [] => .ok ([], [])
  | token :: rest =>
    if token.is .keyword "USING".toList then parameters rest else .ok ([], token :: rest)

/-- The texts of all tokens up to the end of an embedded query, and the tokens behind it. -/
def queryTexts : List Token → Except Stuck (List Text × List Token)
  | [] => .error ⟨"END-EXEC".toList, []⟩
  | token :: rest =>
    if token.is .keyword "END-EXEC".toList then .ok ([], rest)
    else do
      let (texts, rest) ← queryTexts rest
      return (token.text :: texts, rest)

/-- Parameters are taken from the front. -/
theorem length_of_parameters {tokens rest : List Token} {names : List Text}
    (h : parameters tokens = .ok (names, rest)) : rest.length ≤ tokens.length := by
  fun_induction parameters tokens generalizing names rest with
  | case1 => cases h
  | case2 => cases h; exact Nat.zero_le _
  | case3 => cases h
  | case4 token next tail _ _ ih =>
    cases hmore : parameters tail with
    | error e => rw [hmore] at h; cases h
    | ok found =>
      obtain ⟨more, behind⟩ := found
      rw [hmore] at h
      cases h
      have := ih hmore
      simp only [List.length_cons]
      omega
  | case5 => cases h; exact Nat.le_succ _
  | case6 => cases h

/-- A clause is taken from the front. -/
theorem length_of_usingClause {tokens rest : List Token} {names : List Text}
    (h : usingClause tokens = .ok (names, rest)) : rest.length ≤ tokens.length := by
  unfold usingClause at h
  split at h
  · cases h; exact Nat.le_refl _
  · split at h
    · exact Nat.le_succ_of_le (length_of_parameters h)
    · cases h; exact Nat.le_refl _

/-- A query is taken from the front. -/
theorem length_of_queryTexts {tokens rest : List Token} {texts : List Text}
    (h : queryTexts tokens = .ok (texts, rest)) : rest.length < tokens.length := by
  fun_induction queryTexts tokens generalizing texts rest with
  | case1 => cases h
  | case2 => cases h; exact Nat.lt_succ_self _
  | case3 token tail _ ih =>
    cases hmore : queryTexts tail with
    | error e => rw [hmore] at h; cases h
    | ok found =>
      obtain ⟨more, behind⟩ := found
      rw [hmore] at h
      cases h
      exact Nat.lt_succ_of_lt (ih hmore)

/-! ### Statements -/

def displayTail (tokens : List Token) : Except Stuck (Statement × List Token) := do
  let (literal, tokens) ← expect .string tokens
  let tokens ← expectPeriod tokens
  return (display literal, tokens)

def moveTail (tokens : List Token) : Except Stuck (Statement × List Token) := do
  let (value, tokens) ← expect .number tokens
  let tokens ← expectKeyword "TO" tokens
  let (name, tokens) ← expect .identifier tokens
  let tokens ← expectPeriod tokens
  return (move value name, tokens)

def stopTail (tokens : List Token) : Except Stuck (Statement × List Token) := do
  let tokens ← expectKeyword "RUN" tokens
  let tokens ← expectPeriod tokens
  return (stopRun, tokens)

def callTail (tokens : List Token) : Except Stuck (Statement × List Token) := do
  let (subroutine, tokens) ← expect .string tokens
  let (names, tokens) ← usingClause tokens
  let tokens ← expectPeriod tokens
  return (call subroutine names, tokens)

def execTail (tokens : List Token) : Except Stuck (Statement × List Token) := do
  let tokens ← expectKeyword "SQL" tokens
  let (texts, tokens) ← queryTexts tokens
  let tokens ← expectPeriod tokens
  return (execSql (Text.join [' '] texts), tokens)

/-- A statement, by its first keyword. -/
def statement : List Token → Except Stuck (Statement × List Token)
  | [] => .error ⟨"statement".toList, []⟩
  | token :: rest =>
    if token.is .keyword "DISPLAY".toList then displayTail rest
    else if token.is .keyword "MOVE".toList then moveTail rest
    else if token.is .keyword "STOP".toList then stopTail rest
    else if token.is .keyword "CALL".toList then callTail rest
    else if token.is .keyword "EXEC".toList then execTail rest
    else .error ⟨"statement".toList, token :: rest⟩

/-- A statement is taken from the front. -/
theorem length_of_statement {tokens rest : List Token} {found : Statement}
    (h : statement tokens = .ok (found, rest)) : rest.length < tokens.length := by
  unfold statement at h
  split at h
  · cases h
  · next token tail =>
    have tailShorter : rest.length < tail.length := by
      split at h
      · obtain ⟨⟨_, _⟩, h₁, h⟩ := bind_eq_ok_iff.1 h
        obtain ⟨_, h₂, h⟩ := bind_eq_ok_iff.1 h
        cases h
        exact Nat.lt_trans (length_of_expectText h₂) (length_of_expect h₁)
      split at h
      · obtain ⟨⟨_, _⟩, h₁, h⟩ := bind_eq_ok_iff.1 h
        obtain ⟨_, h₂, h⟩ := bind_eq_ok_iff.1 h
        obtain ⟨⟨_, _⟩, h₃, h⟩ := bind_eq_ok_iff.1 h
        obtain ⟨_, h₄, h⟩ := bind_eq_ok_iff.1 h
        cases h
        exact Nat.lt_trans (length_of_expectText h₄) (Nat.lt_trans (length_of_expect h₃)
          (Nat.lt_trans (length_of_expectText h₂) (length_of_expect h₁)))
      split at h
      · obtain ⟨_, h₁, h⟩ := bind_eq_ok_iff.1 h
        obtain ⟨_, h₂, h⟩ := bind_eq_ok_iff.1 h
        cases h
        exact Nat.lt_trans (length_of_expectText h₂) (length_of_expectText h₁)
      split at h
      · obtain ⟨⟨_, _⟩, h₁, h⟩ := bind_eq_ok_iff.1 h
        obtain ⟨⟨_, _⟩, h₂, h⟩ := bind_eq_ok_iff.1 h
        obtain ⟨_, h₃, h⟩ := bind_eq_ok_iff.1 h
        cases h
        exact Nat.lt_trans (length_of_expectText h₃)
          (Nat.lt_of_le_of_lt (length_of_usingClause h₂) (length_of_expect h₁))
      split at h
      · obtain ⟨_, h₁, h⟩ := bind_eq_ok_iff.1 h
        obtain ⟨⟨_, _⟩, h₂, h⟩ := bind_eq_ok_iff.1 h
        obtain ⟨_, h₃, h⟩ := bind_eq_ok_iff.1 h
        cases h
        exact Nat.lt_trans (length_of_expectText h₃)
          (Nat.lt_trans (length_of_queryTexts h₂) (length_of_expectText h₁))
      · cases h
    exact Nat.lt_succ_of_lt tailShorter

/-- All statements up to the end. -/
def statements (tokens : List Token) : Except Stuck (List Statement) :=
  match tokens with
  | [] => .ok []
  | token :: tail =>
    match _found : statement (token :: tail) with
    | .error stuck => .error stuck
    | .ok (first, rest) =>
      match statements rest with
      | .error stuck => .error stuck
      | .ok more => .ok (first :: more)
termination_by tokens.length
decreasing_by exact length_of_statement _found

/-! ### Divisions -/

/-- What follows the name of a division. -/
def divisionTail (tokens : List Token) : Except Stuck (List Token) := do
  let tokens ← expectKeyword "DIVISION" tokens
  expectPeriod tokens

/-- What is behind a division is shorter. -/
theorem length_of_divisionTail {tokens rest : List Token} (h : divisionTail tokens = .ok rest) :
    rest.length < tokens.length := by
  obtain ⟨_, h₁, h₂⟩ := bind_eq_ok_iff.1 h
  exact Nat.lt_trans (length_of_expectText h₂) (length_of_expectText h₁)

/-- Takes the divisions and leaves the statements. -/
def skipDivisions (tokens : List Token) : Except Stuck (List Token) :=
  match tokens with
  | [] => .ok []
  | token :: tail =>
    if token.category = .divisionHeader then
      match _behind : divisionTail tail with
      | .error stuck => .error stuck
      | .ok rest => skipDivisions rest
    else .ok (token :: tail)
termination_by tokens.length
decreasing_by exact Nat.lt_succ_of_lt (length_of_divisionTail _behind)

/-! ### Programs -/

def ofTokens (tokens : List Token) : Except ParseError (List Statement) :=
  let words := tokens.filter fun token => !token.isComment
  (skipDivisions words >>= statements).mapError (Stuck.toError words.length)

end Statement

def Node.ofTokens (tokens : List Token) : Except ParseError Node :=
  (Statement.ofTokens tokens).map Node.ofStatements

end CobolSubset
