import CobolSubset.Conversion
import CobolSubset.Proofs.Grammar
import CobolSubset.Proofs.Scanner

/-!
# The shape of a tree that was read

Reading makes trees and generating takes them apart. What the two agree on is a table of kinds: which
have a value, and which children may stand below them. `Kind.admits` is that table, a tree is
`Shaped` if all its nodes keep to it, and each side is tied to it on its own:

* **Reading** (`Node.shaped_ofTokens`) — a tree read from tokens is a shaped program, whatever the
  tokens are.
* **Generating** (`Java.exists_generate_of_shaped`) — Java code is generated for every shaped
  program.

In between stands `Node.shaped_program_iff`: the shaped programs are exactly the trees of statements.
-/

namespace CobolSubset

/-! ### The table -/

/-- Whether a node of the kind may have this text as its value and children of these kinds. -/
def Kind.admits : Kind → Text → List Kind → Bool
  | .program, text, children => text.isEmpty && children.all Kind.isStatement
  | .moveStatement, text, children => text.isEmpty && children == [.value, .variableName]
  | .stopRun, text, children => text.isEmpty && children.isEmpty
  | .callStatement, text, children =>
    text.isEmpty && children.head? == some .subroutine && children.tail.all (· == .parameter)
  | .displayStatement, _, children => children.isEmpty
  | .execSql, _, children => children.isEmpty
  | .value, _, children => children.isEmpty
  | .variableName, _, children => children.isEmpty
  | .subroutine, _, children => children.isEmpty
  | .parameter, _, children => children.isEmpty

/-- The kinds of nodes that other nodes stand below. -/
def Kind.inner : List Kind := [.program, .moveStatement, .callStatement]

theorem Kind.eq_nil_of_admits {kind : Kind} (hkind : kind ∉ Kind.inner) {text : Text}
    {children : List Kind} (h : kind.admits text children = true) : children = [] := by
  cases kind <;> simp_all [Kind.inner, Kind.admits]

namespace Node

/-- Every node of the tree is as the table says. -/
inductive Shaped : Node → Prop
  | mk {kind : Kind} {text : Text} {children : List Node} :
      kind.admits text (children.map Node.kind) = true → (∀ child ∈ children, Shaped child) →
      Shaped ⟨kind, text, children⟩

theorem shaped_leaf {kind : Kind} {text : Text} (h : kind.admits text [] = true) :
    (leaf kind text).Shaped :=
  .mk h fun _ hchild => nomatch hchild

end Node

/-! ### Trees of statements are shaped -/

theorem Statement.isStatement_toNode (statement : Statement) :
    statement.toNode.kind.isStatement = true := by
  cases statement <;> rfl

theorem Statement.shaped_toNode (statement : Statement) : statement.toNode.Shaped := by
  cases statement with
  | display literal => exact Node.shaped_leaf rfl
  | move value name =>
      refine .mk rfl ?_
      intro child hchild
      simp only [List.mem_cons, List.not_mem_nil, or_false] at hchild
      rcases hchild with rfl | rfl
      · exact Node.shaped_leaf rfl
      · exact Node.shaped_leaf rfl
  | stopRun => exact Node.shaped_leaf rfl
  | call subroutine parameters =>
      refine .mk ?_ ?_
      · simp [Kind.admits, Node.leaf]
      · intro child hchild
        rcases List.mem_cons.1 hchild with rfl | hchild
        · exact Node.shaped_leaf rfl
        · obtain ⟨name, -, rfl⟩ := List.mem_map.1 hchild
          exact Node.shaped_leaf rfl
  | execSql query => exact Node.shaped_leaf rfl

namespace Node

theorem shaped_ofStatements (statements : List Statement) : (ofStatements statements).Shaped := by
  refine .mk ?_ ?_
  · simp [Kind.admits, Statement.isStatement_toNode]
  · intro child hchild
    obtain ⟨statement, -, rfl⟩ := List.mem_map.1 hchild
    exact statement.shaped_toNode

/-! ### Shaped trees are trees of statements -/

/-- A node whose kind admits no children is a leaf. -/
theorem Shaped.eq_leaf {node : Node} (h : node.Shaped) (kind : Kind) (hkind : node.kind = kind)
    (hleaf : kind ∉ Kind.inner) : node = leaf kind node.value := by
  cases h with
  | mk hadmits _ =>
      cases hkind
      rw [List.map_eq_nil_iff.1 (Kind.eq_nil_of_admits hleaf hadmits)]
      rfl

theorem Shaped.eq_map_leaf {nodes : List Node} (h : ∀ node ∈ nodes, node.Shaped) {kind : Kind}
    (hkinds : ∀ node ∈ nodes, node.kind = kind) (hleaf : kind ∉ Kind.inner) :
    nodes = (nodes.map Node.value).map (leaf kind) := by
  rw [List.map_map]
  refine (List.map_id nodes).symm.trans (List.map_congr_left fun node hnode => ?_)
  exact (h node hnode).eq_leaf kind (hkinds node hnode) hleaf

theorem Shaped.exists_move {text : Text} {children : List Node}
    (h : Shaped ⟨.moveStatement, text, children⟩) :
    ∃ value name, Node.move value name = ⟨.moveStatement, text, children⟩ := by
  cases h with
  | mk hadmits hchildren =>
      simp only [Kind.admits, Bool.and_eq_true, List.isEmpty_iff, beq_iff_eq] at hadmits
      obtain ⟨rfl, hkinds⟩ := hadmits
      obtain ⟨value, _, rfl, hvalue, hkinds⟩ := List.map_eq_cons_iff.1 hkinds
      obtain ⟨name, _, rfl, hname, hkinds⟩ := List.map_eq_cons_iff.1 hkinds
      obtain rfl := List.map_eq_nil_iff.1 hkinds
      refine ⟨value.value, name.value, ?_⟩
      rw [Node.move, ← (hchildren value (by simp)).eq_leaf .value hvalue (by decide),
        ← (hchildren name (by simp)).eq_leaf .variableName hname (by decide)]

theorem Shaped.exists_call {text : Text} {children : List Node}
    (h : Shaped ⟨.callStatement, text, children⟩) :
    ∃ subroutine parameters,
      Node.call subroutine parameters = ⟨.callStatement, text, children⟩ := by
  cases h with
  | mk hadmits hchildren =>
      cases children with
      | nil => simp [Kind.admits] at hadmits
      | cons subroutine parameters =>
          simp only [Kind.admits, List.map_cons, List.head?_cons, List.tail_cons, List.all_map,
            Bool.and_eq_true, List.isEmpty_iff, beq_iff_eq, Option.some.injEq, List.all_eq_true,
            Function.comp_apply] at hadmits
          obtain ⟨⟨rfl, hsubroutine⟩, hparameters⟩ := hadmits
          have hfirst : subroutine.Shaped := hchildren subroutine List.mem_cons_self
          have hmore : ∀ node ∈ parameters, node.Shaped :=
            fun node hnode => hchildren node (List.mem_cons_of_mem _ hnode)
          refine ⟨subroutine.value, parameters.map Node.value, ?_⟩
          rw [Node.call, ← hfirst.eq_leaf .subroutine hsubroutine (by decide),
            ← eq_map_leaf hmore hparameters (by decide)]

/-- A statement's node that is as the table says is the node of a statement. -/
theorem Shaped.exists_statement {node : Node} (h : node.Shaped)
    (hkind : node.kind.isStatement = true) : ∃ statement : Statement, statement.toNode = node := by
  obtain ⟨kind, text, children⟩ := node
  cases kind with
  | displayStatement =>
      exact ⟨.display text, (h.eq_leaf .displayStatement rfl (by decide)).symm⟩
  | moveStatement =>
      obtain ⟨value, name, heq⟩ := h.exists_move
      exact ⟨.move value name, heq⟩
  | stopRun =>
      cases h with
      | mk hadmits _ =>
          have hempty : text = [] ∧ children = [] := by simpa [Kind.admits] using hadmits
          rw [hempty.1, hempty.2]
          exact ⟨.stopRun, rfl⟩
  | callStatement =>
      obtain ⟨subroutine, parameters, heq⟩ := h.exists_call
      exact ⟨.call subroutine parameters, heq⟩
  | execSql => exact ⟨.execSql text, (h.eq_leaf .execSql rfl (by decide)).symm⟩
  | program | value | variableName | subroutine | parameter => cases hkind

/-- The shaped programs are exactly the trees of statements. -/
theorem shaped_program_iff {node : Node} :
    node.kind = .program ∧ node.Shaped ↔ ∃ statements, ofStatements statements = node := by
  constructor
  · rintro ⟨hkind, hshaped⟩
    cases hshaped with
    | @mk _ text children hadmits hchildren =>
        cases hkind
        simp only [Kind.admits, List.all_map, Bool.and_eq_true, List.isEmpty_iff,
          List.all_eq_true, Function.comp_apply] at hadmits
        obtain ⟨rfl, hkinds⟩ := hadmits
        have hrange : children ∈ Set.range (List.map Statement.toNode) := by
          rw [Set.range_list_map]
          exact fun child hchild => (hchildren child hchild).exists_statement (hkinds child hchild)
        obtain ⟨statements, rfl⟩ := hrange
        exact ⟨statements, rfl⟩
  · rintro ⟨statements, rfl⟩
    exact ⟨rfl, shaped_ofStatements statements⟩

/-- **Reading keeps to the table**: a tree that is read from tokens is a shaped program. -/
theorem shaped_ofTokens {tokens : List Token} {node : Node} (h : ofTokens tokens = .ok node) :
    node.kind = .program ∧ node.Shaped := by
  obtain ⟨statements, -, rfl⟩ := map_eq_ok_iff.1 h
  exact shaped_program_iff.2 ⟨statements, rfl⟩

end Node

/-! ### Generating code for statements -/

namespace Statement

theorem parametersOf_map_leaf (node : Node) (parameters : List Text) :
    parametersOf node (parameters.map (Node.leaf .parameter)) = .ok parameters := by
  induction parameters with
  | nil => rfl
  | cons name parameters ih =>
      have hkind : (Node.leaf .parameter name).kind = .parameter := rfl
      rw [List.map_cons, parametersOf, if_pos hkind, ih]
      rfl

/-- The checks of a statement's parts let its own node pass. -/
theorem ofNode_toNode (statement : Statement) : ofNode statement.toNode = .ok statement := by
  cases statement with
  | call subroutine parameters =>
      have hparameters := parametersOf_map_leaf (Node.call subroutine parameters) parameters
      exact bind_eq_ok_iff.2 ⟨_, rfl, bind_eq_ok_iff.2 ⟨_, hparameters, rfl⟩⟩
  | display | move | stopRun | execSql => rfl

theorem mapM_ofNode_map_toNode (statements : List Statement) :
    (statements.map toNode).mapM ofNode = .ok statements := by
  induction statements with
  | nil => rfl
  | cons statement statements ih =>
      rw [List.map_cons, List.mapM_cons, ofNode_toNode, ih]
      rfl

end Statement

theorem Node.statements_ofStatements (statements : List Statement) :
    (Node.ofStatements statements).statements = .ok (statements.map Statement.toNode) := by
  have hall : (statements.map Statement.toNode).find? (fun child => !child.kind.isStatement) =
      none := by
    simp [Statement.isStatement_toNode]
  simp only [Node.statements, Node.ofStatements, Node.program, hall, if_true]

/-- The Java code for the tree of statements is the class of these statements. -/
theorem Java.generate_ofStatements (options : Options) (symbols : SymbolTable)
    (statements : List Statement) :
    Java.generate options symbols (Node.ofStatements statements) =
      .ok (Java.classText options symbols statements) :=
  bind_eq_ok_iff.2 ⟨_, Node.statements_ofStatements statements,
    bind_eq_ok_iff.2 ⟨_, Statement.mapM_ofNode_map_toNode statements, rfl⟩⟩

/-- **Generating rests on the table alone**: there is Java code for every shaped program. -/
theorem Java.exists_generate_of_shaped (options : Options) (symbols : SymbolTable) {node : Node}
    (h : node.kind = .program ∧ node.Shaped) :
    ∃ code, Java.generate options symbols node = .ok code := by
  obtain ⟨statements, rfl⟩ := Node.shaped_program_iff.1 h
  exact ⟨_, Java.generate_ofStatements options symbols statements⟩

namespace RuleSet

/-- A source has a tree if its tokens have one. -/
theorem parse_eq_ok_iff {rules : RuleSet} {source : Text} {node : Node} :
    rules.parse source = .ok node ↔
      ∃ tokens, rules.tokenize source = .ok tokens ∧ Node.ofTokens tokens = .ok node := by
  simp only [parse, bind_eq_ok_iff, mapError_eq_ok_iff]

/-- Once there is a tree, only generating is left. -/
theorem convert_of_parse {rules : RuleSet} {source : Text} {node : Node}
    (h : rules.parse source = .ok node) (options : Options) (symbols : SymbolTable) :
    rules.convert options symbols source = (node.generate options symbols).mapError .generate := by
  rw [convert, h]
  rfl

/-- Without a tree, the error is that of cutting or of reading. -/
theorem parse_ne_generate (rules : RuleSet) (source : Text) (error : GenerateError) :
    rules.parse source ≠ .error (.generate error) := by
  rw [parse]
  cases rules.tokenize source with
  | error e => exact fun h => nomatch h
  | ok tokens =>
      show (Node.ofTokens tokens).mapError ConversionError.parse ≠ _
      cases Node.ofTokens tokens with
      | error e => exact fun h => nomatch h
      | ok node => exact fun h => nomatch h

/-- There is Java code for every source that has a tree. -/
theorem exists_convert_of_parse {rules : RuleSet} {source : Text} {node : Node} {options : Options}
    (hjava : options.target = .java) (h : rules.parse source = .ok node) (symbols : SymbolTable) :
    ∃ code, rules.convert options symbols source = .ok code := by
  obtain ⟨tokens, -, hnode⟩ := parse_eq_ok_iff.1 h
  obtain ⟨code, hcode⟩ := Java.exists_generate_of_shaped options symbols (Node.shaped_ofTokens hnode)
  refine ⟨code, ?_⟩
  rw [convert_of_parse h, Node.generate, hjava]
  exact mapError_eq_ok_iff.2 hcode

/-- **The contract between the stages**: a tree that is read is a program whose nodes are all as the
table says, so generating Java code never fails. There is code for a source exactly if it can be cut
into tokens and a tree can be read from them, whatever the rules, the options and the declared types
are. -/
theorem shape_contract (rules : RuleSet) (options : Options) (symbols : SymbolTable) (source : Text)
    (hjava : options.target = .java) :
    (∀ tokens node, Node.ofTokens tokens = .ok node → node.kind = .program ∧ node.Shaped) ∧
      (∀ error, rules.convert options symbols source ≠ .error (.generate error)) ∧
      ((∃ code, rules.convert options symbols source = .ok code) ↔
        ∃ tokens node, rules.tokenize source = .ok tokens ∧ Node.ofTokens tokens = .ok node) := by
  refine ⟨fun tokens node h => Node.shaped_ofTokens h, fun error herror => ?_, ?_⟩
  · cases hparse : rules.parse source with
    | error e =>
        rw [convert, hparse] at herror
        cases herror
        exact parse_ne_generate rules source error hparse
    | ok node =>
        obtain ⟨code, hcode⟩ := exists_convert_of_parse hjava hparse symbols
        rw [hcode] at herror
        cases herror
  · constructor
    · rintro ⟨code, hcode⟩
      obtain ⟨node, hnode, -⟩ := bind_eq_ok_iff.1 hcode
      obtain ⟨tokens, htokens, htree⟩ := parse_eq_ok_iff.1 hnode
      exact ⟨tokens, node, htokens, htree⟩
    · rintro ⟨tokens, node, htokens, hnode⟩
      exact exists_convert_of_parse hjava (parse_eq_ok_iff.2 ⟨tokens, htokens, hnode⟩) symbols

/-- A declared variable, a call with two parameters and a query, with no option at its default. -/
theorem shape_contract_payroll :
    ∃ source node code, standard.parse source = .ok node ∧ node.children.length = 3 ∧ node.Shaped ∧
      standard.convert ⟨.java, false, "Payroll".toList, false, ⟨[], 0, [], [], []⟩⟩
        (.ofList [("A".toList, "PIC 9".toList)]) source = .ok code := by
  have hparse : standard.parse
      "MOVE 1 TO A. CALL \"S\" USING A, B. EXEC SQL SELECT 1 END-EXEC.".toList =
        .ok (.ofStatements [.move ['1'] ['A'], .call "\"S\"".toList [['A'], ['B']],
          .execSql "SELECT 1".toList]) := by
    rw [standard_eq_spelled, String.toList_ofList]
    decide +kernel
  obtain ⟨tokens, htokens, hnode⟩ := parse_eq_ok_iff.1 hparse
  obtain ⟨hshaped, -, hcode⟩ := shape_contract standard
    ⟨.java, false, "Payroll".toList, false, ⟨[], 0, [], [], []⟩⟩
    (.ofList [("A".toList, "PIC 9".toList)]) _ rfl
  obtain ⟨code, hcode⟩ := hcode.2 ⟨tokens, _, htokens, hnode⟩
  exact ⟨_, _, code, hparse, rfl, (hshaped tokens _ hnode).2, hcode⟩

end RuleSet

end CobolSubset
