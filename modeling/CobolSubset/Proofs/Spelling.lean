import CobolSubset.Proofs.Cutting
import CobolSubset.Proofs.Lexeme
import CobolSubset.Proofs.ShapeContract

/-!
# How operands are spelled

A tree may hold any text as a value. The operands of a tree that was read from a source are tokens,
and what a token of a category looks like is decided by the rules: `IsName`, `IsNumeral` and
`IsString` say it for the three categories that operands have, and `Statement.Spelled` for a whole
statement.

The main statement is `RuleSet.exists_spelled_of_parse`: a source has the tree of statements whose
operands are all spelled like this. Whatever generated code needs to know about operands follows
from it, and no later proof has to look at a source or a token again.
-/

namespace CobolSubset

open Scanner

/-! ### Operands -/

/-- A name: a capital letter, then capital letters, digits and hyphens. -/
structure IsName (text : Text) : Prop where
  capital : text.head?.any Char.isUpper = true
  parts : text.all isNamePart = true

/-- A number: digits, perhaps with a point and further digits behind them. -/
inductive IsNumeral : Text → Prop
  | integer {digits : Text} : digits ≠ [] → digits.all Char.isDigit = true → IsNumeral digits
  | decimal {digits decimals : Text} :
      digits ≠ [] → digits.all Char.isDigit = true →
      decimals ≠ [] → decimals.all Char.isDigit = true → IsNumeral (digits ++ '.' :: decimals)

/-- A string: two quotation marks with none between them. -/
inductive IsString : Text → Prop
  | mk {inner : Text} : '"' ∉ inner → IsString ('"' :: (inner ++ ['"']))

theorem IsName.ne_nil {text : Text} (h : IsName text) : text ≠ [] := by
  rintro rfl
  cases h.capital

theorem IsName.part {text : Text} (h : IsName text) {c : Char} (hc : c ∈ text) :
    isNamePart c = true :=
  List.all_eq_true.1 h.parts c hc

/-- Without its quotation marks a string is what stood between them. -/
theorem stripQuotes_quoted (inner : Text) : stripQuotes ('"' :: (inner ++ ['"'])) = inner := by
  simp [stripQuotes]

/-- Only its own quotation marks are missing from a stripped string. -/
theorem IsString.eq_quoted {text : Text} (h : IsString text) :
    text = '"' :: (stripQuotes text ++ ['"']) ∧ '"' ∉ stripQuotes text := by
  cases h with
  | mk hinner =>
      rw [stripQuotes_quoted]
      exact ⟨rfl, hinner⟩

theorem IsName.not_mem {name : Text} (h : IsName name) {c : Char} (hc : isNamePart c = false) :
    c ∉ name := by
  intro hmem
  rw [h.part hmem] at hc
  cases hc

theorem IsNumeral.not_mem {text : Text} (h : IsNumeral text) {c : Char} (hc : c.isDigit = false)
    (hpoint : c ≠ '.') : c ∉ text := by
  have hdigits : ∀ {digits : Text}, digits.all Char.isDigit = true → c ∉ digits := by
    intro digits hall hmem
    rw [List.all_eq_true.1 hall c hmem] at hc
    cases hc
  cases h with
  | integer _ hall => exact hdigits hall
  | decimal _ hall _ hdecimals =>
      simp [hdigits hall, hdigits hdecimals, hpoint]

/-- The marks that are taken away are always the same. -/
theorem IsString.stripQuotes_injOn {text text' : Text} (h : IsString text) (h' : IsString text')
    (heq : stripQuotes text = stripQuotes text') : text = text' := by
  rw [h.eq_quoted.1, h'.eq_quoted.1, heq]

/-! ### Tokens of a category -/

namespace Lexeme

variable {text behind : Text}

/-- The categories of words, and what is known of a name. -/
theorem of_wordCategory? {word : Text} {category : Category}
    (h : wordCategory? word = some category) :
    category = .divisionHeader ∨ category = .keyword ∨
      category = .identifier ∧ word.all isNamePart = true := by
  unfold wordCategory? at h
  split at h
  · cases h; exact .inl rfl
  split at h
  · cases h; exact .inr (.inl rfl)
  split at h
  · next hparts => cases h; exact .inr (.inr ⟨rfl, hparts⟩)
  · cases h

theorem isName (h : Lexeme ⟨.identifier, text⟩ behind) : IsName text := by
  cases h with
  | word hcapital _ hcategory _ =>
      rcases of_wordCategory? hcategory with hheader | hkeyword | ⟨-, hparts⟩
      · cases hheader
      · cases hkeyword
      · exact ⟨hcapital, hparts⟩
  | plainSign hsign => simp [plainSigns] at hsign

theorem isNumeral (h : Lexeme ⟨.number, text⟩ behind) : IsNumeral text := by
  cases h with
  | word _ _ hcategory _ => simpa using of_wordCategory? hcategory
  | integer hne hdigits _ _ => exact .integer hne hdigits
  | decimal hne hdigits hdecimals hall _ => exact .decimal hne hdigits hdecimals hall
  | plainSign hsign => simp [plainSigns] at hsign

theorem isString (h : Lexeme ⟨.string, text⟩ behind) : IsString text := by
  cases h with
  | word _ _ hcategory _ => simpa using of_wordCategory? hcategory
  | string hinner => exact .mk hinner
  | plainSign hsign => simp [plainSigns] at hsign

end Lexeme

/-! ### Statements -/

/-- The operands are spelled like tokens of their categories. A query may be any text. -/
def Statement.Spelled : Statement → Prop
  | .display literal => IsString literal
  | .move value name => IsNumeral value ∧ IsName name
  | .stopRun => True
  | .call subroutine parameters => IsString subroutine ∧ ∀ name ∈ parameters, IsName name
  | .execSql _ => True

theorem Statement.toNode_injective : Function.Injective Statement.toNode := by
  intro a b h
  have hread := ofNode_toNode a
  rw [h, ofNode_toNode] at hread
  exact (Except.ok.inj hread).symm

theorem Statement.call_mem_map_toNode {statements : List Statement} {subroutine : Text}
    {parameters : List Text} :
    Node.call subroutine parameters ∈ statements.map toNode ↔
      .call subroutine parameters ∈ statements := by
  show toNode (.call subroutine parameters) ∈ statements.map toNode ↔ _
  exact List.mem_map_of_injective toNode_injective

theorem Sentence.mem_usingWords_of_mem {names : List Text} {name : Text} (h : name ∈ names) :
    (⟨.identifier, name⟩ : Token) ∈ usingWords names := by
  cases names with
  | nil => cases h
  | cons first more =>
      simp only [usingWords, furtherNames, List.mem_cons, List.mem_flatMap]
      rcases List.mem_cons.1 h with rfl | hmore
      · exact .inr (.inl rfl)
      · exact .inr (.inr ⟨name, hmore, .inr (.inl rfl)⟩)

/-- If the words of a sentence may stand before something, its operands are spelled well. -/
theorem Sentence.spelled_statement (sentence : Sentence)
    (h : ∀ token ∈ sentence.words, ∃ behind, Lexeme token behind) : sentence.statement.Spelled := by
  cases sentence with
  | display literal =>
      obtain ⟨_, hliteral⟩ := h ⟨.string, literal⟩ (by simp [words])
      exact hliteral.isString
  | move value name =>
      obtain ⟨_, hvalue⟩ := h ⟨.number, value⟩ (by simp [words])
      obtain ⟨_, hname⟩ := h ⟨.identifier, name⟩ (by simp [words])
      exact ⟨hvalue.isNumeral, hname.isName⟩
  | stopRun => trivial
  | call subroutine parameters =>
      obtain ⟨_, hsubroutine⟩ := h ⟨.string, subroutine⟩ (by simp [words])
      refine ⟨hsubroutine.isString, ?_⟩
      intro name hname
      obtain ⟨_, hparameter⟩ := h ⟨.identifier, name⟩
        (by simp [words, mem_usingWords_of_mem hname])
      exact hparameter.isName
  | execSql body unended => trivial

namespace RuleSet

/-- Every token of a source may stand before what is behind it there. -/
theorem Cut.exists_lexeme {source rest : Text} {tokens : List Token}
    (h : Cut standard source tokens rest) :
    ∀ token ∈ tokens, ∃ behind, Lexeme token behind := by
  induction h with
  | stop => intro token htoken; cases htoken
  | @take _ behind _ first _ _ _ hfound _ ih =>
      intro token htoken
      rcases List.mem_cons.1 htoken with rfl | hmore
      · exact ⟨behind, matchStart?_append_eq_some_iff.1 hfound⟩
      · exact ih token hmore

/-- **Operands of a source are spelled well**: a tree that is read from a source is the tree of
statements whose operands look as the rules for tokens say. -/
theorem exists_spelled_of_parse {source : Text} {node : Node}
    (h : standard.parse source = .ok node) :
    ∃ statements : List Statement, node = Node.ofStatements statements ∧
      ∀ statement ∈ statements, statement.Spelled := by
  obtain ⟨tokens, htokens, hnode⟩ := parse_eq_ok_iff.1 h
  obtain ⟨statements, hread, rfl⟩ := map_eq_ok_iff.1 hnode
  obtain ⟨derivation, hwords, rfl⟩ := Statement.ofTokens_eq_ok_iff.1 hread
  refine ⟨_, rfl, ?_⟩
  intro statement hstatement
  obtain ⟨sentence, hsentence, rfl⟩ := List.mem_map.1 hstatement
  apply sentence.spelled_statement
  intro token htoken
  -- The words of the sentence are tokens of the source, since reading only drops comments.
  have hmem : token ∈ withoutComments tokens := by
    rw [← hwords, Derivation.words, List.mem_append]
    exact .inr (List.mem_flatMap.2 ⟨sentence, hsentence, htoken⟩)
  exact (tokenize_eq_ok_iff.1 htokens).exists_lexeme token (List.mem_filter.1 hmem).1

end RuleSet

end CobolSubset
