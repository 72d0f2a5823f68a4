import CobolSubset.Command.Inspect
import CobolSubset.Proofs.QueryTokens
import CobolSubset.Proofs.ShapeContract

/-!
# The figures of a source

The lines of code are not counted. They are what is left of all lines after those with nothing but
blanks and those that start with a comment. For that to be a number of lines, no line may be of both
sorts (`Inspect.count_sorts`), although the one test takes blanks off both ends of the line and the
other only off its start.

The other figures come from the tree and from the tokens. The counts of the statements make up the
program because a program has no other children (`Node.sum_count`), and there are at least three
tokens for each of them because no sentence is shorter (`Sentence.three_le_length_words`).
`Inspect.figures_consistent` puts all of this together.
-/

namespace CobolSubset

/-! ### Lines -/

/-- A text of which nothing is left without the blanks at its ends has nothing but blanks. -/
theorem Text.trimStart_eq_nil_of_trim {text : Text} (h : text.trim = []) : text.trimStart = [] := by
  have hblank : ∀ c ∈ text.trimStart, isBlank c = true := by
    simpa [trim, trimEnd, List.dropWhile_eq_nil_iff] using h
  have hstops : stops isBlank text.trimStart = true := stops_dropWhile text
  cases hstart : text.trimStart with
  | nil => rfl
  | cons c rest =>
      -- The first character that is left would have to be a blank and none.
      rw [hstart] at hblank hstops
      simp [hblank c List.mem_cons_self] at hstops

namespace Inspect

def isCodeLine (line : Text) : Bool := !isBlankLine line && !isCommentLine line

theorem isCommentLine_of_isBlankLine {line : Text} (h : isBlankLine line = true) :
    isCommentLine line = false := by
  have hnil : line.trimStart = [] := Text.trimStart_eq_nil_of_trim (List.isEmpty_iff.1 h)
  unfold isCommentLine
  rw [hnil]
  rfl

/-- Every line is of exactly one sort. -/
theorem count_sorts (line : Text) :
    [isCodeLine line, isBlankLine line, isCommentLine line].count true = 1 := by
  unfold isCodeLine
  cases hblank : isBlankLine line with
  | true =>
      rw [isCommentLine_of_isBlankLine hblank]
      rfl
  | false => cases isCommentLine line <;> rfl

/-- Each line is of one of three sorts. -/
theorem length_eq_sorts (lines : List Text) :
    lines.length =
      lines.countP isCodeLine + lines.countP isBlankLine + lines.countP isCommentLine := by
  induction lines with
  | nil => rfl
  | cons line lines ih =>
      have hone := count_sorts line
      simp only [List.count_cons, List.count_nil, beq_true] at hone
      rw [List.length_cons, List.countP_cons, List.countP_cons, List.countP_cons, ih]
      omega

end Inspect

/-! ### Statements -/

/-- A statement is of one of the kinds that are reported. -/
theorem Kind.sum_statements {kind : Kind} (h : kind.isStatement = true) :
    (statements.map fun other => if (kind == other) = true then 1 else 0).sum = 1 := by
  cases kind with
  | displayStatement | moveStatement | stopRun | callStatement | execSql => rfl
  | program | value | variableName | subroutine | parameter => cases h

/-- The counts of all kinds of statements make up the whole. -/
theorem Node.sum_count {root : Node} (h : ∀ child ∈ root.children, child.kind.isStatement = true) :
    (Kind.statements.map root.count).sum = root.children.length := by
  unfold count
  generalize root.children = children at h
  induction children with
  | nil => rfl
  | cons child children ih =>
      rw [List.forall_mem_cons] at h
      simp only [List.countP_cons, List.sum_map_add, Kind.sum_statements h.1, ih h.2,
        List.length_cons]

/-! ### Tokens -/

/-- Every sentence has a first word, something behind it, and a period. -/
theorem Sentence.three_le_length_words (sentence : Sentence) : 3 ≤ sentence.words.length := by
  cases sentence with
  | display | move | stopRun => simp [words]
  | call | execSql =>
      simp only [words, List.length_cons, List.length_append, List.length_nil]
      omega

/-- Every sentence has three words or more. -/
theorem Sentence.three_mul_length_le (sentences : List Sentence) :
    3 * sentences.length ≤ (sentences.flatMap words).length := by
  induction sentences with
  | nil => exact Nat.le_refl 0
  | cons sentence sentences ih =>
      have hfirst := sentence.three_le_length_words
      rw [List.length_cons, List.flatMap_cons, List.length_append]
      omega

namespace Derivation

theorem length_children_tree (derivation : Derivation) :
    derivation.tree.children.length = derivation.sentences.length :=
  List.length_map _

/-- The tree of a derivation has nothing but statements below its top. -/
theorem isStatement_of_mem_tree {derivation : Derivation} {child : Node}
    (h : child ∈ derivation.tree.children) : child.kind.isStatement = true := by
  obtain ⟨sentence, -, rfl⟩ := List.mem_map.1 h
  rw [← sentence.toNode_statement]
  exact sentence.statement.isStatement_toNode

theorem three_mul_length_le (derivation : Derivation) :
    3 * derivation.sentences.length ≤ derivation.words.length := by
  have hsentences := Sentence.three_mul_length_le derivation.sentences
  rw [words, List.length_append]
  omega

end Derivation

/-! ### All figures -/

namespace Inspect

theorem Info.tokens_eq (source : Text) (tokens : List Token) (root : Node) :
    (Info.ofSource source tokens root).tokens = (withoutComments tokens).length :=
  List.countP_eq_length_filter

/-- For a source that can be read the output is that of its figures. -/
theorem infoOf_of_parse {source : Text} {tokens : List Token} {root : Node}
    (htokens : RuleSet.standard.tokenize source = .ok tokens)
    (hparse : RuleSet.standard.parse source = .ok root) (format : Format) (path : Path) :
    infoOf format path source =
      .ok (present format ((Info.ofSource source tokens root).text path)
        ((Info.ofSource source tokens root).toJson path)) := by
  unfold infoOf tokenize parse
  rw [htokens, hparse]
  rfl

/-- **The figures fit together**: for every source that can be read there are figures. The lines of
code, the blank lines and the comments, of which every line is exactly one, make up all lines, and
nothing is cut off where the lines of code are computed. The statements make up the program. The
tokens are those that the program is read from, and at least three for each statement. -/
theorem figures_consistent {source : Text} {root : Node}
    (h : RuleSet.standard.parse source = .ok root) (format : Format) (path : Path) :
    ∃ (tokens : List Token) (derivation : Derivation),
      RuleSet.standard.tokenize source = .ok tokens ∧
      derivation.words = withoutComments tokens ∧ derivation.tree = root ∧
      let info := Info.ofSource source tokens root
      infoOf format path source = .ok (present format (info.text path) (info.toJson path)) ∧
      info.blankLines + info.commentLines ≤ info.totalLines ∧
      info.totalLines = info.codeLines + info.blankLines + info.commentLines ∧
      info.codeLines = source.lines.countP isCodeLine ∧
      (∀ line ∈ source.lines,
        [isCodeLine line, isBlankLine line, isCommentLine line].count true = 1) ∧
      (info.statements.map Prod.snd).sum = root.children.length ∧
      info.tokens = derivation.words.length ∧ 3 * root.children.length ≤ info.tokens := by
  obtain ⟨tokens, derivation, htokens, hwords, rfl⟩ := RuleSet.parse_eq_ok_iff_derivation.1 h
  refine ⟨tokens, derivation, htokens, hwords, rfl, ?_⟩
  intro info
  have hlines := length_eq_sorts source.lines
  have hcode : info.codeLines = source.lines.countP isCodeLine := by
    show source.lines.length - source.lines.countP isBlankLine -
      source.lines.countP isCommentLine = _
    omega
  have hsum : (info.statements.map Prod.snd).sum = derivation.tree.children.length := by
    rw [← Node.sum_count fun child hchild => derivation.isStatement_of_mem_tree hchild]
    show ((Kind.statements.map fun kind => (kind, derivation.tree.count kind)).map Prod.snd).sum = _
    rw [List.map_map]
    rfl
  have hcount : info.tokens = derivation.words.length := by
    rw [hwords]
    exact Info.tokens_eq source tokens derivation.tree
  refine ⟨infoOf_of_parse htokens h format path, ?_, ?_, hcode, fun line _ => count_sorts line,
    hsum, hcount, ?_⟩
  · show source.lines.countP isBlankLine + source.lines.countP isCommentLine ≤ source.lines.length
    omega
  · rw [hcode]
    exact hlines
  · rw [hcount, derivation.length_children_tree]
    exact derivation.three_mul_length_le

/-- A blank line and what looks like a comment also stand inside of a text, and another comment
stands behind a blank that is no ASCII character. -/
theorem figures_consistent_text :
    let source : Text := "STOP RUN. *> A\n\n\u00a0*> B\nDISPLAY \"C\n \n*> D\".".toList
    let root := Node.program [.stopRun, .display "\"C\n \n*> D\"".toList]
    RuleSet.standard.parse source = .ok root ∧
      ∃ tokens, RuleSet.standard.tokenize source = .ok tokens ∧
        let info := Info.ofSource source tokens root
        infoOf .text [] source = .ok (info.text []) ∧ info.totalLines = 6 ∧ info.codeLines = 2 ∧
        info.blankLines = 2 ∧ info.commentLines = 2 ∧ (info.statements.map Prod.snd).sum = 2 ∧
        6 ≤ info.tokens := by
  intro source root
  have hparse : RuleSet.standard.parse source = .ok root := by
    simp only [source]
    rw [RuleSet.standard_eq_spelled, String.toList_ofList]
    decide +kernel
  obtain ⟨tokens, _, htokens, -, -, hinfo, -, -, -, -, hsum, -, htimes⟩ :=
    figures_consistent hparse .text []
  obtain ⟨htotal, hblank, hcomment⟩ : source.lines.length = 6 ∧
      source.lines.countP isBlankLine = 2 ∧ source.lines.countP isCommentLine = 2 := by
    decide
  refine ⟨hparse, tokens, htokens, ?_⟩
  intro info
  refine ⟨hinfo, htotal, ?_, hblank, hcomment, hsum, htimes⟩
  show source.lines.length - _ - _ = 2
  rw [htotal, hblank, hcomment]

end Inspect

end CobolSubset
