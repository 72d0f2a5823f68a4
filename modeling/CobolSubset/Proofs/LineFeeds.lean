import CobolSubset.Proofs.Decoding

/-!
# Lines of Java code

How many lines the Java code of a program has can be told from its statements: a line for each of
them, seven for a query, and six for the class around them. Texts do not matter, since line feeds in
what is shown or sent to the database are escaped.

There is one exception. The name of a subroutine is taken over as it stands between its quotation
marks, so a line feed in it becomes a line feed of the code. `RuleSet.count_newline_convert` counts
those as well, and `RuleSet.newline_in_call` is a source whose code has one line too many.
-/

namespace CobolSubset

/-! ### Counting in a tree -/

namespace Node

def calledName (node : Node) : Text :=
  if node.kind = .callStatement then (node.children.head?.map Node.value).getD [] else []

/-- The names of the subroutines that a program calls, one behind the other. -/
def calledNames (root : Node) : Text := root.children.flatMap calledName

theorem count_ofStatements_cons (statement : Statement) (statements : List Statement) (kind : Kind) :
    (ofStatements (statement :: statements)).count kind =
      (ofStatements statements).count kind + if statement.toNode.kind = kind then 1 else 0 := by
  show List.countP _ (statement.toNode :: statements.map Statement.toNode) = _
  rw [List.countP_cons]
  simp only [beq_iff_eq]
  rfl

theorem calledNames_ofStatements_cons (statement : Statement) (statements : List Statement) :
    (ofStatements (statement :: statements)).calledNames =
      statement.toNode.calledName ++ (ofStatements statements).calledNames :=
  List.flatMap_cons

end Node

namespace Java

/-! ### Counting in the code of a statement -/

/-- The line feed at its end is the only one that a line adds. -/
theorem count_bodyLine (text : Text) : (bodyLine text).count '\n' = text.count '\n' + 1 := by
  simp [bodyLine, indent]

/-- Only the name of a subroutine can bring line feeds into the first line of a statement. -/
theorem count_firstLine (db : Database) {statement : Statement} (h : statement.Spelled) :
    (firstLine db statement).count '\n' = statement.toNode.calledName.count '\n' := by
  cases statement with
  | call subroutine parameters =>
      have hparameters : (Text.join [',', ' '] parameters).count '\n' = 0 :=
        List.count_eq_zero.2
          (Text.not_mem_join (by decide) fun name hname => (h.2 name hname).not_mem rfl)
      have hquotes : (stripQuotes subroutine).count '\n' = subroutine.count '\n' := by
        conv_rhs => rw [h.1.eq_quoted.1]
        simp
      show (callLine (stripQuotes subroutine) parameters).count '\n' = subroutine.count '\n'
      simp [callLine, hparameters, hquotes]
  | display raw =>
      exact List.count_eq_zero.2 (newline_not_mem_firstLine db ⟨h, fun heq => by cases heq⟩)
  | move value name =>
      exact List.count_eq_zero.2 (newline_not_mem_firstLine db ⟨h, fun heq => by cases heq⟩)
  | stopRun => rfl
  | execSql query =>
      exact List.count_eq_zero.2 (newline_not_mem_firstLine db ⟨h, fun heq => by cases heq⟩)

/-- A query has six more lines, the other statements none. -/
theorem count_furtherLines (statement : Statement) :
    (furtherLines statement).count '\n' = if statement.toNode.kind = .execSql then 6 else 0 := by
  cases statement with
  | execSql query =>
      have hend : queryEnd.count '\n' = 5 := by
        unfold queryEnd
        repeat rw [String.toList_ofList]
        simp only [List.count_append, count_bodyLine]
        rfl
      have hprepare : (prepareLine query).count '\n' = 0 :=
        List.count_eq_zero.2 (newline_not_mem_prepareLine query)
      show (bodyLine (prepareLine query) ++ queryEnd).count '\n' = 6
      rw [List.count_append, count_bodyLine, hprepare, hend]
  | display | move | stopRun | call => rfl

theorem count_statementText {statement : Statement} (h : statement.Spelled) :
    (statementText {} {} statement).count '\n' =
      1 + statement.toNode.calledName.count '\n' +
        if statement.toNode.kind = .execSql then 6 else 0 := by
  rw [statementText_eq_lines rfl, List.count_append, count_bodyLine, count_firstLine _ h,
    count_furtherLines]
  omega

/-! ### Counting in the code of a program -/

/-- The lines of a program's statements: seven for each query, one for each other statement. -/
def statementLines (root : Node) : Nat :=
  root.count .displayStatement + root.count .moveStatement + root.count .stopRun +
    root.count .callStatement + 7 * root.count .execSql

/-- The statements add up, whatever their order. -/
theorem count_flatMap_statementText {statements : List Statement}
    (h : ∀ statement ∈ statements, statement.Spelled) :
    (statements.flatMap (statementText {} {})).count '\n' =
      statementLines (Node.ofStatements statements) +
        (Node.ofStatements statements).calledNames.count '\n' := by
  induction statements with
  | nil => rfl
  | cons statement statements ih =>
      rw [List.forall_mem_cons] at h
      rw [List.flatMap_cons, List.count_append, ih h.2, count_statementText h.1,
        Node.calledNames_ofStatements_cons, List.count_append]
      simp only [statementLines, Node.count_ofStatements_cons]
      -- Each kind is counted once, a query with seven.
      cases statement with
      | _ =>
          simp only [Statement.toNode, Node.display, Node.move, Node.stopRun, Node.call, Node.execSql,
            Node.leaf, Node.ofKind, reduceCtorEq, if_true, if_false]
          omega

theorem count_classText {statements : List Statement}
    (h : ∀ statement ∈ statements, statement.Spelled) :
    (classText {} {} statements).count '\n' =
      6 + statementLines (Node.ofStatements statements) +
        (Node.ofStatements statements).calledNames.count '\n' := by
  have hpreamble : (preamble "Program".toList).count '\n' = 4 := by
    unfold preamble
    repeat rw [String.toList_ofList]
    rfl
  have hclosing : closing.count '\n' = 2 := by decide
  rw [classText, List.count_append, List.count_append, count_flatMap_statementText h, hclosing]
  show (preamble "Program".toList).count '\n' + _ + 2 = _
  rw [hpreamble]
  omega

end Java

namespace RuleSet

/-- **Lines of the code**: with the default options there is Java code for every source that can be
read. It has six line feeds, one more for each `DISPLAY`, `MOVE`, `STOP RUN` and `CALL`, seven for
each query, and those that stand in the names of called subroutines. No other text has an influence
on them. -/
theorem count_newline_convert {source : Text} {node : Node} (h : standard.parse source = .ok node) :
    ∃ code, standard.convert {} {} source = .ok code ∧
      code.count '\n' =
        6 + (node.count .displayStatement + node.count .moveStatement + node.count .stopRun +
          node.count .callStatement) + 7 * node.count .execSql + node.calledNames.count '\n' := by
  obtain ⟨statements, rfl, hspelled⟩ := exists_spelled_of_parse h
  refine ⟨Java.classText {} {} statements, ?_, ?_⟩
  · rw [convert_of_parse h, Node.generate, Java.generate_ofStatements]
    rfl
  · rw [Java.count_classText hspelled, Java.statementLines]
    omega

/-- Texts over several lines in a `DISPLAY` and in a query, and a call on one line. -/
theorem count_newline_convert_texts :
    ∃ source node code, standard.parse source = .ok node ∧ source.count '\n' = 2 ∧
      standard.convert {} {} source = .ok code ∧ code.count '\n' = 6 + 2 + 7 := by
  have hparse : standard.parse
      "DISPLAY \"A\nB\". CALL \"S\". EXEC SQL SELECT \"A\nB\" END-EXEC.".toList =
        .ok (.ofStatements [.display "\"A\nB\"".toList, .call "\"S\"".toList [],
          .execSql "SELECT \"A\nB\"".toList]) := by
    rw [standard_eq_spelled, String.toList_ofList]
    decide +kernel
  obtain ⟨code, hcode, hcount⟩ := count_newline_convert hparse
  refine ⟨_, _, code, hparse, ?_, hcode, hcount⟩
  rw [String.toList_ofList]
  rfl

/-- A line feed in the name of a called subroutine is not escaped: the code for a single `CALL` has
eight line feeds instead of seven. -/
theorem newline_in_call :
    ∃ source node code, standard.parse source = .ok node ∧ node.count .callStatement = 1 ∧
      node.children.length = 1 ∧ standard.convert {} {} source = .ok code ∧
      code.count '\n' = 8 := by
  have hparse : standard.parse "CALL \"A\nB\".".toList =
      .ok (.ofStatements [.call "\"A\nB\"".toList []]) := by
    rw [standard_eq_spelled, String.toList_ofList]
    decide +kernel
  obtain ⟨statements, hnode, hspelled⟩ := exists_spelled_of_parse hparse
  refine ⟨_, _, Java.classText {} {} statements, hparse, rfl, rfl, ?_, ?_⟩
  · rw [convert_of_parse hparse, hnode, Node.generate, Java.generate_ofStatements]
    rfl
  · rw [Java.count_classText hspelled, ← hnode]
    rfl

end RuleSet

end CobolSubset
