import CobolSubset.Proofs.Layout
import CobolSubset.Proofs.Reprint
import CobolSubset.Proofs.TreeText

/-!
# Queries keep their tokens

An embedded query is not understood, only passed on: its tokens are put one after the other with one
blank between neighbours. The text that comes of this is cut into the same tokens as the query in
the source, whatever stood between them there (`tokenize_query`). So it is a normal form: a program
that consists of the query in this form has the query itself in its tree (`parse_query`).

Blanks must not bring in anything new. This is the case of `Cut.printed_append` where the tokens are
some of those of a source, namely the ones between two reserved words, comments left out.
-/

namespace CobolSubset

/-! ### Tokens joined by blanks -/

theorem printed_join {tokens : List Token} (h : ∀ token ∈ tokens, token.isComment = false) :
    Printed tokens (Text.join [' '] (tokens.map Token.text)) := by
  induction tokens with
  | nil => exact .nil
  | cons first more ih =>
      obtain ⟨hfirst, hmore⟩ := List.forall_mem_cons.1 h
      cases more with
      | nil => simpa [Text.join] using Printed.last first
      | cons second more =>
          rw [List.map_cons, List.map_cons, Text.join_cons_cons, List.append_assoc, ← List.map_cons]
          exact .cons [' '] (by decide) (by decide) (by simp [hfirst]) (ih hmore)

theorem isComment_of_mem_withoutComments {tokens : List Token} {token : Token}
    (h : token ∈ withoutComments tokens) : token.isComment = false := by
  simpa using (List.mem_filter.1 h).2

namespace RuleSet

/-- Before a text that a blank starts, tokens of a source that are joined by blanks are cut into
themselves. -/
theorem cut_join_append {source rest : Text} {tokens chosen more : List Token}
    (htokens : standard.tokenize source = .ok tokens)
    (hchosen : chosen.Sublist (withoutComments tokens))
    (hblank : ∀ c ∈ rest.head?, isBlank c = true) (hquote : '"' ∉ rest)
    (hmore : Cut standard rest more []) :
    Cut standard (Text.join [' '] (chosen.map Token.text) ++ rest) (chosen ++ more) [] := by
  have hcomment : ∀ token ∈ chosen, token.isComment = false := fun token htoken =>
    isComment_of_mem_withoutComments (hchosen.subset htoken)
  have hcut := tokenize_eq_ok_iff.1 htokens
  refine hcut.printed_append (hchosen.trans List.filter_sublist) (printed_join hcomment) ?_ hquote
    hmore
  intro token htoken c hc
  refine ⟨hblank c hc, ?_⟩
  rw [hcomment token (List.mem_of_getLast? htoken)]
  simp

theorem tokenize_query {source : Text} {tokens body : List Token}
    (htokens : standard.tokenize source = .ok tokens)
    (hbody : body.Sublist (withoutComments tokens)) :
    standard.tokenize (Text.join [' '] (body.map Token.text)) = .ok body := by
  have hcut := cut_join_append htokens hbody (by simp) (by simp) (.done [])
  rw [List.append_nil, List.append_nil] at hcut
  exact tokenize_eq_ok_iff.2 hcut

/-- A token that the grammar itself brings in is cut off before what closes it. -/
theorem Cut.fixedWord (token : Token) {behind : Text} {tokens : List Token}
    (htoken : token ∈ fixedWords) (hcloses : Closes behind)
    (hbehind : Cut standard behind tokens []) :
    Cut standard (token.text ++ behind) (token :: tokens) [] := by
  have hsteady := steady_of_mem_fixedWords token htoken
  have hfound := matchStart?_append_eq_some_iff.2 (hsteady.lexeme hcloses)
  exact .token hsteady.valid.lexeme.1 hfound hbehind

theorem tokenize_queryStatement {source : Text} {tokens body : List Token}
    (htokens : standard.tokenize source = .ok tokens)
    (hbody : body.Sublist (withoutComments tokens))
    (unended : ∀ token ∈ body, token ≠ Token.keyword "END-EXEC") :
    standard.tokenize ("EXEC SQL ".toList ++ Text.join [' '] (body.map Token.text) ++
        " END-EXEC.".toList) = .ok (Sentence.execSql body unended).words := by
  -- From the end of the statement to its front.
  have hblank : Text.AllBlank [' '] := by decide
  have hcloses : ∀ rest, Closes (' ' :: rest) := closes_cons rfl (by decide)
  have hperiod := Cut.fixedWord Token.period (by simp [fixedWords]) closes_nil (.done [])
  have hend := Cut.fixedWord (Token.keyword "END-EXEC") (by simp [fixedWords]) closes_nil.point
    hperiod
  have hquery := cut_join_append htokens hbody (by intro c hc; cases hc; rfl) (by decide)
    (hend.skip hblank)
  have hsql := Cut.fixedWord (Token.keyword "SQL") (by simp [fixedWords]) (hcloses _)
    (hquery.skip hblank)
  have hexec := Cut.fixedWord (Token.keyword "EXEC") (by simp [fixedWords]) (hcloses _)
    (hsql.skip hblank)
  rw [List.append_assoc]
  exact tokenize_eq_ok_iff.2 hexec

/-- A source has a tree exactly if its tokens have a derivation, which gives the tree. -/
theorem parse_eq_ok_iff_derivation {source : Text} {root : Node} :
    standard.parse source = .ok root ↔
      ∃ (tokens : List Token) (derivation : Derivation), standard.tokenize source = .ok tokens ∧
        derivation.words = withoutComments tokens ∧ derivation.tree = root := by
  rw [parse_eq_ok_iff]
  constructor
  · rintro ⟨tokens, htokens, hroot⟩
    obtain ⟨_, hread, rfl⟩ := map_eq_ok_iff.1 hroot
    obtain ⟨derivation, hwords, rfl⟩ := Statement.ofTokens_eq_ok_iff.1 hread
    exact ⟨tokens, derivation, htokens, hwords, derivation.ofStatements_sentences.symm⟩
  · rintro ⟨tokens, derivation, htokens, hwords, rfl⟩
    have hread := Statement.ofTokens_eq_ok_iff.2 ⟨derivation, hwords, rfl⟩
    exact ⟨tokens, htokens, map_eq_ok_iff.2 ⟨_, hread, derivation.ofStatements_sentences⟩⟩

/-- A query in normal form is the same query again. -/
theorem parse_query {source : Text} {tokens body : List Token}
    (htokens : standard.tokenize source = .ok tokens)
    (hbody : body.Sublist (withoutComments tokens))
    (unended : ∀ token ∈ body, token ≠ Token.keyword "END-EXEC") :
    standard.parse ("EXEC SQL ".toList ++ Text.join [' '] (body.map Token.text) ++
        " END-EXEC.".toList) = .ok (.program [(Sentence.execSql body unended).node]) := by
  refine parse_eq_ok_iff_derivation.2 ⟨_, ⟨[], [.execSql body unended]⟩,
    tokenize_queryStatement htokens hbody unended, ?_, rfl⟩
  have hcomments : withoutComments (Sentence.execSql body unended).words =
      (Sentence.execSql body unended).words := by
    refine List.filter_eq_self.2 ?_
    intro token htoken
    rcases Sentence.mem_words htoken with hfixed | hoperand
    · simp [(steady_of_mem_fixedWords token hfixed).notComment]
    · simp [isComment_of_mem_withoutComments (hbody.subset hoperand)]
  rw [hcomments]
  simp [Derivation.words]

end RuleSet

/-! ### Queries in a tree -/

theorem Node.mem_forestNodes {node : Node} {forest : List Node} :
    node ∈ forestNodes forest ↔ ∃ tree ∈ forest, node ∈ tree.nodes := by
  induction forest with
  | nil => simp [forestNodes]
  | cons tree more ih => simp [forestNodes, ih]

@[simp] theorem Node.nodes_leaf (kind : Kind) (value : Text) :
    (leaf kind value).nodes = [leaf kind value] := by
  simp [leaf, nodes, forestNodes]

/-- Nothing below the node of a sentence is a query. -/
theorem Sentence.eq_node_of_mem_nodes {sentence : Sentence} {node : Node}
    (h : node ∈ sentence.node.nodes) (hkind : node.kind = .execSql) : node = sentence.node := by
  -- Only a move and a call have nodes below them, and these are of other kinds.
  cases sentence with
  | move value name =>
      simp only [Sentence.node, Node.move, Node.nodes, Node.forestNodes, Node.nodes_leaf,
        List.mem_cons, List.mem_append, List.not_mem_nil, or_false] at h
      rcases h with rfl | rfl | rfl
      · rfl
      · cases hkind
      · cases hkind
  | call subroutine parameters =>
      simp only [Sentence.node, Node.call, Node.nodes, List.mem_cons, Node.mem_forestNodes,
        List.mem_map] at h
      rcases h with rfl | ⟨_, rfl | ⟨name, -, rfl⟩, hnode⟩
      · rfl
      · rw [Node.nodes_leaf, List.mem_singleton] at hnode
        subst hnode
        cases hkind
      · rw [Node.nodes_leaf, List.mem_singleton] at hnode
        subst hnode
        cases hkind
  | _ =>
      simpa [Sentence.node, Node.display, Node.stopRun, Node.ofKind, Node.execSql, Node.nodes,
        Node.forestNodes] using h

namespace Derivation

variable {derivation : Derivation}

/-- All queries of a program are statements of it. -/
theorem mem_children_of_mem_nodes {node : Node} (h : node ∈ derivation.tree.nodes)
    (hkind : node.kind = .execSql) : node ∈ derivation.tree.children := by
  simp only [tree, Node.program, Node.nodes, List.mem_cons, Node.mem_forestNodes,
    List.mem_map] at h ⊢
  rcases h with rfl | ⟨_, ⟨sentence, hsentence, rfl⟩, hnode⟩
  · cases hkind
  · exact ⟨sentence, hsentence, (Sentence.eq_node_of_mem_nodes hnode hkind).symm⟩

theorem body_sublist_words {body : List Token}
    {unended : ∀ token ∈ body, token ≠ Token.keyword "END-EXEC"}
    (h : .execSql body unended ∈ derivation.sentences) : body.Sublist derivation.words := by
  have hwords : (Sentence.execSql body unended).words.Sublist
      (derivation.sentences.flatMap Sentence.words) := by
    rw [List.flatMap_def]
    exact List.sublist_flatten_of_mem (List.mem_map_of_mem h)
  have hbody : body.Sublist (Sentence.execSql body unended).words :=
    ((List.sublist_append_left body _).cons _).cons _
  exact hbody.trans (hwords.trans (List.sublist_append_right _ _))

end Derivation

/-- **Queries keep their tokens**: the query at a place in the tree of a source is cut into the
tokens that stand between `EXEC SQL` and `END-EXEC` in the sentence at this place of the source,
comments left out. A statement made of it has the same query again, in the only node of its tree.
There are no other queries in the tree than those that are statements. -/
theorem RuleSet.queries_keep_tokens {source : Text} {root : Node}
    (h : standard.parse source = .ok root) :
    ∃ (tokens : List Token) (derivation : Derivation), standard.tokenize source = .ok tokens ∧
      derivation.words = withoutComments tokens ∧ derivation.tree = root ∧
      (∀ node ∈ root.nodes, node.kind = .execSql → ∃ i : Nat, root.children[i]? = some node) ∧
      ∀ (i : Nat) (node : Node), root.children[i]? = some node → node.kind = .execSql →
        ∃ body unended, derivation.sentences[i]? = some (.execSql body unended) ∧
          standard.tokenize node.value = .ok body ∧
          standard.parse ("EXEC SQL ".toList ++ node.value ++ " END-EXEC.".toList) =
            .ok (.program [node]) := by
  obtain ⟨tokens, derivation, htokens, hwords, rfl⟩ := parse_eq_ok_iff_derivation.1 h
  refine ⟨tokens, derivation, htokens, hwords, rfl, ?_, ?_⟩
  · intro node hnode hkind
    exact List.mem_iff_getElem?.1 (derivation.mem_children_of_mem_nodes hnode hkind)
  · intro i node hnode hkind
    obtain ⟨sentence, hsentence, rfl⟩ : ∃ sentence, derivation.sentences[i]? = some sentence ∧
        sentence.node = node := by
      rwa [Derivation.tree, Node.program, List.getElem?_map, Option.map_eq_some_iff] at hnode
    cases sentence with
    | execSql body unended =>
        have hbody : body.Sublist (withoutComments tokens) :=
          hwords ▸ Derivation.body_sublist_words (List.mem_of_getElem? hsentence)
        exact ⟨body, unended, hsentence, tokenize_query htokens hbody,
          parse_query htokens hbody unended⟩
    | _ => cases hkind

/-- Signs that would make one token if they came together, a string over two lines, a comment with a
quotation mark in it and a lone quotation mark. -/
theorem RuleSet.queries_keep_tokens_close :
    let source := "STOP RUN.\nEXEC SQL A - B*> \"\n1 . 5 < = * > \"X\nY\" TO\t\" END-EXEC.".toList
    let query := "A - B 1 . 5 < = * > \"X\nY\" TO \"".toList
    standard.parse source = .ok (.program [.stopRun, .execSql query]) ∧
      (∃ (tokens : List Token) (derivation : Derivation), standard.tokenize source = .ok tokens ∧
        derivation.words = withoutComments tokens ∧
        ∃ body unended, derivation.sentences[1]? = some (.execSql body unended) ∧
          standard.tokenize query = .ok body) ∧
      standard.parse ("EXEC SQL ".toList ++ query ++ " END-EXEC.".toList) =
        .ok (.program [.execSql query]) := by
  intro source query
  have hparse : standard.parse source = .ok (.program [.stopRun, .execSql query]) := by
    simp only [source]
    rw [standard_eq_spelled, String.toList_ofList]
    decide +kernel
  obtain ⟨tokens, derivation, htokens, hwords, -, -, hqueries⟩ := queries_keep_tokens hparse
  obtain ⟨body, unended, hsentence, hbody, hagain⟩ := hqueries 1 (.execSql query) rfl rfl
  exact ⟨hparse, ⟨tokens, derivation, htokens, hwords, body, unended, hsentence, hbody⟩, hagain⟩

end CobolSubset
