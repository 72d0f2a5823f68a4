import CobolSubset.Proofs.Refusal

/-!
# Faults of trees

A tree that was built by hand can be wrong in several places at once, and generating code tells only
one of them. Which one is said here without generating anything: `Node.Malformed` lists what can be
wrong below one statement, and `Node.Fault` which fault of a tree comes first. Both languages look
for these faults in the same order, but Rust refuses statements of its own on the way
(`Rust.RefusedEarlier`), so the error may be another one.

Each direction is shown by running the checks: a fault stops them with its error
(`Java.generate_of_fault`), and a tree without fault passes them (`Java.exists_generate_of_sound`).
-/

namespace CobolSubset

/-! ### Faults -/

namespace Node

/-- Whether the children are of the kinds that the table asks for. What the value is does not
matter here. -/
def childrenFit (node : Node) : Bool :=
  node.kind.admits [] (node.children.map Node.kind)

/-- `Malformed node detail`: a statement does not have the children that its kind asks for, and
`detail` says what is wrong with them. The constructors of a kind stand in the order in which they
are looked for. -/
inductive Malformed : Node → Text → Prop
  | leaf {kind : Kind} {text : Text} {children : List Node} :
      kind ∈ [.displayStatement, .stopRun, .execSql] → children ≠ [] →
      Malformed ⟨kind, text, children⟩
        ("expected 0 children, found ".toList ++ Text.ofNat children.length)
  | operands {text : Text} {children : List Node} :
      children.length ≠ 2 →
      Malformed ⟨.moveStatement, text, children⟩
        ("expected 2 children, found ".toList ++ Text.ofNat children.length)
  | value {text : Text} {a b : Node} :
      a.kind ≠ .value →
      Malformed ⟨.moveStatement, text, [a, b]⟩
        ("child 0 is ".toList ++ a.kind.name ++ ", expected Value".toList)
  | target {text : Text} {a b : Node} :
      a.kind = .value → b.kind ≠ .variableName →
      Malformed ⟨.moveStatement, text, [a, b]⟩
        ("child 1 is ".toList ++ b.kind.name ++ ", expected Variable".toList)
  | noSubroutine {text : Text} :
      Malformed ⟨.callStatement, text, []⟩ "missing Subroutine child at position 0".toList
  | subroutine {text : Text} {a : Node} {rest : List Node} :
      a.kind ≠ .subroutine →
      Malformed ⟨.callStatement, text, a :: rest⟩
        ("child 0 is ".toList ++ a.kind.name ++ ", expected Subroutine".toList)
  | parameter {text : Text} {a b : Node} {before after : List Node} :
      a.kind = .subroutine → (∀ c ∈ before, c.kind = .parameter) → b.kind ≠ .parameter →
      Malformed ⟨.callStatement, text, a :: (before ++ b :: after)⟩
        ("unexpected ".toList ++ b.kind.name ++ " child".toList)

/-- The tree is a program of statements with the children that their kinds ask for. -/
structure Sound (root : Node) : Prop where
  program : root.kind = .program
  statements : ∀ child ∈ root.children, child.kind.isStatement = true
  fit : ∀ child ∈ root.children, child.childrenFit = true

/-- `Fault root error`: there is no code for the tree in either language, for the reason that
`error` gives. All children are known to be statements before the first statement is looked into. -/
inductive Fault (root : Node) : GenerateError → Prop
  | root : root.kind ≠ .program → Fault root (.unexpectedNode root.kind.name)
  | stranger {before after : List Node} {child : Node} :
      root.kind = .program → root.children = before ++ child :: after →
      (∀ other ∈ before, other.kind.isStatement = true) → child.kind.isStatement = false →
      Fault root (.unexpectedNode child.kind.name)
  | malformed {before after : List Node} {child : Node} {detail : Text} :
      root.kind = .program → (∀ other ∈ root.children, other.kind.isStatement = true) →
      root.children = before ++ child :: after → (∀ other ∈ before, other.childrenFit = true) →
      child.Malformed detail → Fault root (.malformedNode child.kind.name detail)

end Node

/-- Where something is found, there is a first place where it is. -/
theorem exists_first {α : Type} {p : α → Prop} {list : List α} (h : ∃ a ∈ list, p a) :
    ∃ before a after, list = before ++ a :: after ∧ p a ∧ ∀ b ∈ before, ¬ p b := by
  classical
  obtain ⟨a, ha⟩ : ∃ a, list.find? (p ·) = some a := by
    rw [← Option.isSome_iff_exists, List.find?_isSome]
    simpa using h
  obtain ⟨hpa, before, after, hlist, hbefore⟩ := List.find?_eq_some_iff_append.1 ha
  exact ⟨before, a, after, hlist, by simpa using hpa, fun b hb => by simpa using hbefore b hb⟩

namespace Node

/-! ### Single checks -/

theorem expectChildren_of_length {node : Node} {count : Nat} (h : node.children.length = count) :
    node.expectChildren count = .ok node.children :=
  if_pos h

theorem expectChildren_error {node : Node} {count : Nat} (h : node.children.length ≠ count) :
    node.expectChildren count = .error (node.malformed
      ("expected ".toList ++ Text.ofNat count ++ " children, found ".toList
        ++ Text.ofNat node.children.length)) :=
  if_neg h

theorem expectChild_of_kind {node child : Node} {index : Nat} {kind : Kind}
    (h : node.children[index]? = some child) (hkind : child.kind = kind) :
    node.expectChild index kind = .ok child := by
  simp only [expectChild, h, if_pos hkind]

theorem expectChild_error {node child : Node} {index : Nat} {kind : Kind}
    (h : node.children[index]? = some child) (hkind : child.kind ≠ kind) :
    node.expectChild index kind = .error (node.malformed
      ("child ".toList ++ Text.ofNat index ++ " is ".toList ++ child.kind.name
        ++ (", expected ".toList ++ kind.name))) := by
  simp only [expectChild, h, if_neg hkind, List.append_assoc]

end Node

namespace Statement

/-- Parameters in front are read first, and then the rest. -/
theorem parametersOf_append {node : Node} {before : List Node}
    (h : ∀ child ∈ before, child.kind = .parameter) (rest : List Node) :
    parametersOf node (before ++ rest) =
      (parametersOf node rest).map (before.map Node.value ++ ·) := by
  induction before with
  | nil =>
      show parametersOf node rest = (parametersOf node rest).map id
      cases parametersOf node rest <;> rfl
  | cons child before ih =>
      have hkind := h child List.mem_cons_self
      rw [List.cons_append, parametersOf, if_pos hkind,
        ih fun c hc => h c (List.mem_cons_of_mem _ hc)]
      cases parametersOf node rest <;> rfl

/-! ### The statement of a node -/

/-- A malformed statement is refused with what is wrong with it. -/
theorem ofNode_of_malformed {node : Node} {detail : Text} (h : node.Malformed detail) :
    ofNode node = .error (.malformedNode node.kind.name detail) := by
  cases h with
  | @leaf kind text children hkind hchildren =>
      have hcheck := @Node.expectChildren_error ⟨kind, text, children⟩ 0 (by simpa using hchildren)
      simp only [List.mem_cons, List.not_mem_nil, or_false] at hkind
      rcases hkind with rfl | rfl | rfl <;> exact bind_eq_error_iff.2 (.inl hcheck)
  | @operands text children hchildren =>
      exact bind_eq_error_iff.2 (.inl (Node.expectChildren_error hchildren))
  | @value text a b ha =>
      have hcheck := @Node.expectChild_error ⟨.moveStatement, text, [a, b]⟩ a 0 .value rfl ha
      exact bind_eq_error_iff.2 (.inr ⟨_, Node.expectChildren_of_length rfl,
        bind_eq_error_iff.2 (.inl hcheck)⟩)
  | @target text a b ha hb =>
      have hcheck := @Node.expectChild_error ⟨.moveStatement, text, [a, b]⟩ b 1 .variableName rfl hb
      refine bind_eq_error_iff.2 (.inr ⟨_, Node.expectChildren_of_length rfl, ?_⟩)
      exact bind_eq_error_iff.2 (.inr ⟨a, Node.expectChild_of_kind rfl ha,
        bind_eq_error_iff.2 (.inl hcheck)⟩)
  | noSubroutine => rfl
  | @subroutine text a rest ha =>
      have hcheck :=
        @Node.expectChild_error ⟨.callStatement, text, a :: rest⟩ a 0 .subroutine rfl ha
      exact bind_eq_error_iff.2 (.inl hcheck)
  | @parameter text a b before after ha hbefore hb =>
      refine bind_eq_error_iff.2 (.inr ⟨a, Node.expectChild_of_kind rfl ha,
        bind_eq_error_iff.2 (.inl ?_)⟩)
      show parametersOf _ (before ++ b :: after) = _
      rw [parametersOf_append hbefore, parametersOf, if_neg hb]
      rfl

/-- What fits is the node of a statement. -/
theorem exists_ofNode_of_fit {node : Node} (hstatement : node.kind.isStatement = true)
    (h : node.childrenFit = true) : ∃ statement, ofNode node = .ok statement := by
  obtain ⟨kind, text, children⟩ := node
  cases kind with
  | displayStatement | stopRun | execSql =>
      obtain rfl : children = [] := by simpa [Node.childrenFit, Kind.admits] using h
      exact ⟨_, rfl⟩
  | moveStatement =>
      have hkinds : children.map Node.kind = [.value, .variableName] := by
        simpa [Node.childrenFit, Kind.admits] using h
      obtain ⟨a, rest, rfl, ha, hrest⟩ := List.map_eq_cons_iff.1 hkinds
      obtain ⟨b, last, rfl, hb, hlast⟩ := List.map_eq_cons_iff.1 hrest
      obtain rfl := List.map_eq_nil_iff.1 hlast
      refine ⟨.move a.value b.value, bind_eq_ok_iff.2 ⟨_, Node.expectChildren_of_length rfl, ?_⟩⟩
      exact bind_eq_ok_iff.2 ⟨a, Node.expectChild_of_kind rfl ha,
        bind_eq_ok_iff.2 ⟨b, Node.expectChild_of_kind rfl hb, rfl⟩⟩
  | callStatement =>
      cases children with
      | nil => cases h
      | cons a rest =>
          have hkinds : a.kind = .subroutine ∧ ∀ child ∈ rest, child.kind = .parameter := by
            simpa [Node.childrenFit, Kind.admits] using h
          have hparameters : parametersOf ⟨.callStatement, text, a :: rest⟩ rest =
              .ok (rest.map Node.value) := by
            have happend := @parametersOf_append ⟨.callStatement, text, a :: rest⟩ rest hkinds.2 []
            simpa [parametersOf, Except.map] using happend
          exact ⟨.call a.value (rest.map Node.value), bind_eq_ok_iff.2
            ⟨a, Node.expectChild_of_kind rfl hkinds.1, bind_eq_ok_iff.2 ⟨_, hparameters, rfl⟩⟩⟩
  | program | value | variableName | subroutine | parameter => cases hstatement

end Statement

namespace Node

/-- A statement that does not fit is malformed in one of the ways there are. -/
theorem exists_malformed {node : Node} (hstatement : node.kind.isStatement = true)
    (h : node.childrenFit = false) : ∃ detail, node.Malformed detail := by
  obtain ⟨kind, text, children⟩ := node
  cases kind with
  | displayStatement | stopRun | execSql =>
      exact ⟨_, .leaf (by simp) (by simpa [childrenFit, Kind.admits] using h)⟩
  | moveStatement =>
      by_cases hlength : children.length = 2
      · obtain ⟨a, b, rfl⟩ := List.length_eq_two.1 hlength
        by_cases ha : a.kind = .value
        · have hb : b.kind ≠ .variableName := by simpa [childrenFit, Kind.admits, ha] using h
          exact ⟨_, .target ha hb⟩
        · exact ⟨_, .value ha⟩
      · exact ⟨_, .operands hlength⟩
  | callStatement =>
      cases children with
      | nil => exact ⟨_, .noSubroutine⟩
      | cons a rest =>
          by_cases ha : a.kind = .subroutine
          · have hother : ∃ child ∈ rest, child.kind ≠ .parameter := by
              simpa [childrenFit, Kind.admits, ha] using h
            obtain ⟨before, b, after, rfl, hb, hbefore⟩ := exists_first hother
            exact ⟨_, .parameter ha (fun c hc => not_not.1 (hbefore c hc)) hb⟩
          · exact ⟨_, .subroutine ha⟩
  | program | value | variableName | subroutine | parameter => cases hstatement

/-- Being malformed is the same as being a statement that does not fit. -/
theorem Malformed.not_fit {node : Node} {detail : Text} (h : node.Malformed detail) :
    node.kind.isStatement = true ∧ node.childrenFit = false := by
  have hstatement : node.kind.isStatement = true := by
    cases h with
    | leaf hkind =>
        simp only [List.mem_cons, List.not_mem_nil, or_false] at hkind
        rcases hkind with rfl | rfl | rfl <;> rfl
    | _ => rfl
  refine ⟨hstatement, ?_⟩
  by_contra hfit
  obtain ⟨statement, hread⟩ := Statement.exists_ofNode_of_fit hstatement (by simpa using hfit)
  rw [Statement.ofNode_of_malformed h] at hread
  cases hread

/-! ### The children of a program -/

theorem statements_of_root {root : Node} (h : root.kind ≠ .program) :
    root.statements = .error root.unexpected :=
  if_neg h

/-- The first child that is no statement decides the error. -/
theorem statements_of_stranger {root child : Node} {before after : List Node}
    (hroot : root.kind = .program) (hsplit : root.children = before ++ child :: after)
    (hbefore : ∀ other ∈ before, other.kind.isStatement = true)
    (hchild : child.kind.isStatement = false) : root.statements = .error child.unexpected := by
  have hfind : root.children.find? (fun child => !child.kind.isStatement) = some child :=
    List.find?_eq_some_iff_append.2
      ⟨by simp [hchild], before, after, hsplit, fun other hother => by simp [hbefore other hother]⟩
  rw [statements, if_pos hroot, hfind]

theorem statements_of_all {root : Node} (hroot : root.kind = .program)
    (hall : ∀ child ∈ root.children, child.kind.isStatement = true) :
    root.statements = .ok root.children := by
  have hfind : root.children.find? (fun child => !child.kind.isStatement) = none := by
    rw [List.find?_eq_none]
    intro child hchild
    simp [hall child hchild]
  rw [statements, if_pos hroot, hfind]

/-- A tree that is not sound has a fault. -/
theorem exists_fault {root : Node} (h : ¬ root.Sound) : ∃ error, root.Fault error := by
  by_cases hroot : root.kind = .program
  · by_cases hall : ∀ child ∈ root.children, child.kind.isStatement = true
    · have hunfit : ∃ child ∈ root.children, child.childrenFit = false := by
        by_contra hnone
        exact h ⟨hroot, hall, by simpa using hnone⟩
      obtain ⟨before, child, after, hsplit, hchild, hbefore⟩ := exists_first hunfit
      obtain ⟨detail, hdetail⟩ := exists_malformed (hall child (by simp [hsplit])) hchild
      exact ⟨_, .malformed hroot hall hsplit (by simpa using hbefore) hdetail⟩
    · have hstranger : ∃ child ∈ root.children, child.kind.isStatement = false := by
        simpa using hall
      obtain ⟨before, child, after, hsplit, hchild, hbefore⟩ := exists_first hstranger
      exact ⟨_, .stranger hroot hsplit (by simpa using hbefore) hchild⟩
  · exact ⟨_, .root hroot⟩

end Node

/-! ### Java -/

namespace Java

/-- The fault decides the error, whatever the options are. -/
theorem generate_of_fault (options : Options) (symbols : SymbolTable) {root : Node}
    {error : GenerateError} (h : root.Fault error) :
    generate options symbols root = .error error := by
  unfold generate
  cases h with
  | root hroot => exact bind_eq_error_iff.2 (.inl (Node.statements_of_root hroot))
  | stranger hroot hsplit hbefore hchild =>
      exact bind_eq_error_iff.2 (.inl (Node.statements_of_stranger hroot hsplit hbefore hchild))
  | @malformed before after child detail hroot hall hsplit hbefore hdetail =>
      refine bind_eq_error_iff.2 (.inr ⟨_, Node.statements_of_all hroot hall,
        bind_eq_error_iff.2 (.inl ?_)⟩)
      refine mapM_eq_error_iff.2
        ⟨before, child, after, hsplit, ?_, Statement.ofNode_of_malformed hdetail⟩
      intro other hother
      have hstatement := hall other (by simp [hsplit, hother])
      exact Statement.exists_ofNode_of_fit hstatement (hbefore other hother)

theorem exists_generate_of_sound (options : Options) (symbols : SymbolTable) {root : Node}
    (h : root.Sound) : ∃ code, generate options symbols root = .ok code := by
  have hread : ∀ child ∈ root.children, ∃ s, Statement.ofNode child = .ok s := by
    intro child hchild
    exact Statement.exists_ofNode_of_fit (h.statements child hchild) (h.fit child hchild)
  obtain ⟨statements, hstatements⟩ := exists_mapM_eq_ok_iff.2 hread
  exact ⟨_, bind_eq_ok_iff.2 ⟨_, Node.statements_of_all h.program h.statements,
    bind_eq_ok_iff.2 ⟨statements, hstatements, rfl⟩⟩⟩

/-- There is Java code exactly for the sound trees. -/
theorem exists_generate_iff {options : Options} {symbols : SymbolTable} {root : Node} :
    (∃ code, generate options symbols root = .ok code) ↔ root.Sound := by
  constructor
  · rintro ⟨code, hcode⟩
    by_contra hnot
    obtain ⟨error, hfault⟩ := Node.exists_fault hnot
    rw [generate_of_fault options symbols hfault] at hcode
    cases hcode
  · exact exists_generate_of_sound options symbols

/-- There is no Java code just for trees with a fault. -/
theorem generate_eq_error_iff {options : Options} {symbols : SymbolTable} {root : Node}
    {error : GenerateError} :
    generate options symbols root = .error error ↔ root.Fault error := by
  constructor
  · intro herror
    have hnot : ¬ root.Sound := by
      intro hsound
      obtain ⟨code, hcode⟩ := exists_generate_of_sound options symbols hsound
      rw [hcode] at herror
      cases herror
    obtain ⟨found, hfault⟩ := Node.exists_fault hnot
    rw [generate_of_fault options symbols hfault] at herror
    cases herror
    exact hfault
  · exact generate_of_fault options symbols

end Java

/-! ### Rust -/

namespace Rust

/-- `RefusedEarlier root error`: of the statements before the first malformed one some are refused
in Rust alone, and `error` is that of the first of them. -/
def RefusedEarlier (root : Node) (error : GenerateError) : Prop :=
  root.kind = .program ∧ (∀ child ∈ root.children, child.kind.isStatement = true) ∧
    ∃ before child after statement,
      root.children.takeWhile Node.childrenFit = before ++ child :: after ∧
      (∀ other ∈ before, ∀ s, CobolSubset.Statement.ofNode other = .ok s → ∀ e, ¬ Refuses s e) ∧
      CobolSubset.Statement.ofNode child = .ok statement ∧ Refuses statement error

theorem ofNode_eq_error_iff {options : Options} {node : Node} {error : GenerateError} :
    Statement.ofNode options node = .error error ↔
      CobolSubset.Statement.ofNode node = .error error ∨
        ∃ statement, CobolSubset.Statement.ofNode node = .ok statement ∧
          Refuses statement error := by
  simp only [Statement.ofNode, bind_eq_error_iff, ofStatement_eq_error_iff]

/-- There is Rust code for a node if it is a statement's and nothing refuses the statement. -/
theorem exists_ofNode_iff {options : Options} {node : Node} :
    (∃ code, Statement.ofNode options node = .ok code) ↔
      ∃ statement, CobolSubset.Statement.ofNode node = .ok statement ∧
        ∀ error, ¬ Refuses statement error := by
  simp only [Statement.ofNode, bind_eq_ok_iff, ← @exists_ofStatement_iff options]
  constructor
  · rintro ⟨code, statement, hread, hcode⟩
    exact ⟨statement, hread, code, hcode⟩
  · rintro ⟨statement, hread, code, hcode⟩
    exact ⟨code, statement, hread, hcode⟩

theorem ofNode_of_statements_error {options : Options} {root : Node} {error : GenerateError}
    (h : root.statements = .error error) : Program.ofNode options root = .error error :=
  bind_eq_error_iff.2 (.inl h)

theorem ofNode_of_mapM_error {options : Options} {root : Node} {error : GenerateError}
    (hroot : root.kind = .program) (hall : ∀ child ∈ root.children, child.kind.isStatement = true)
    (h : root.children.mapM (Statement.ofNode options) = .error error) :
    Program.ofNode options root = .error error :=
  bind_eq_error_iff.2 (.inr ⟨_, Node.statements_of_all hroot hall, bind_eq_error_iff.2 (.inl h)⟩)

/-- A statement before the first malformed one is refused first. -/
theorem ofNode_of_refusedEarlier {options : Options} {root : Node} {error : GenerateError}
    (h : RefusedEarlier root error) : Program.ofNode options root = .error error := by
  obtain ⟨hroot, hall, before, child, after, statement, hsplit, hbefore, hread, hrefuses⟩ := h
  apply ofNode_of_mapM_error hroot hall
  obtain ⟨rest, hchildren⟩ : ∃ rest, root.children = before ++ child :: rest := by
    refine ⟨after ++ root.children.dropWhile Node.childrenFit, ?_⟩
    rw [← List.cons_append, ← List.append_assoc, ← hsplit, List.takeWhile_append_dropWhile]
  refine mapM_eq_error_iff.2 ⟨before, child, rest, hchildren, ?_,
    ofNode_eq_error_iff.2 (.inr ⟨statement, hread, hrefuses⟩)⟩
  intro other hother
  have hfit : other.childrenFit = true := by
    have hmem : other ∈ root.children.takeWhile Node.childrenFit := by simp [hsplit, hother]
    exact List.mem_takeWhile_imp hmem
  obtain ⟨s, hs⟩ := CobolSubset.Statement.exists_ofNode_of_fit
    (hall other (by simp [hchildren, hother])) hfit
  exact exists_ofNode_iff.2 ⟨s, hs, hbefore other hother s hs⟩

/-- If all that stands before the first malformed statement has Rust code, the error is that of the
malformed statement; if not, an earlier statement is refused. -/
theorem ofNode_of_fault {options : Options} {root : Node} {error : GenerateError}
    (h : root.Fault error) :
    (Program.ofNode options root = .error error ∧ ∀ e, ¬ RefusedEarlier root e) ∨
      ∃ e, RefusedEarlier root e := by
  cases h with
  | root hroot =>
      refine .inl ⟨ofNode_of_statements_error (Node.statements_of_root hroot), ?_⟩
      rintro e ⟨hprogram, -⟩
      exact hroot hprogram
  | @stranger before after child hroot hsplit hbefore hchild =>
      refine .inl ⟨ofNode_of_statements_error
        (Node.statements_of_stranger hroot hsplit hbefore hchild), ?_⟩
      rintro e ⟨-, hall, -⟩
      have hstatement := hall child (by simp [hsplit])
      rw [hchild] at hstatement
      cases hstatement
  | @malformed before after child detail hroot hall hsplit hbefore hdetail =>
      -- What fits at the start is what stands before the malformed statement, and Rust sees
      -- all of it first.
      have htake : root.children.takeWhile Node.childrenFit = before := by
        rw [hsplit, List.takeWhile_append_of_pos hbefore,
          List.takeWhile_cons_of_neg (by simp [hdetail.not_fit.2]), List.append_nil]
      cases hcode : before.mapM (Statement.ofNode options) with
      | ok code =>
          have hok := exists_mapM_eq_ok_iff.1 ⟨code, hcode⟩
          refine .inl ⟨ofNode_of_mapM_error hroot hall (mapM_eq_error_iff.2 ⟨before, child, after,
            hsplit, hok, ofNode_eq_error_iff.2
              (.inl (CobolSubset.Statement.ofNode_of_malformed hdetail))⟩), ?_⟩
          rintro e ⟨-, -, first, refused, rest, statement, hfirst, -, hread, hrefuses⟩
          obtain ⟨s, hs, hnone⟩ :=
            exists_ofNode_iff.1 (hok refused (by simp [← htake, hfirst]))
          rw [hread] at hs
          cases hs
          exact hnone e hrefuses
      | error e =>
          obtain ⟨first, refused, rest, rfl, hfirst, hrefused⟩ := mapM_eq_error_iff.1 hcode
          obtain ⟨statement, hread⟩ := CobolSubset.Statement.exists_ofNode_of_fit
            (hall refused (by simp [hsplit])) (hbefore refused (by simp))
          have hrefuses : Refuses statement e := by
            rcases ofNode_eq_error_iff.1 hrefused with hbad | ⟨s, hs, he⟩
            · rw [hread] at hbad
              cases hbad
            · rw [hread] at hs
              cases hs
              exact he
          refine .inr ⟨e, hroot, hall, first, refused, rest, statement, htake, ?_, hread, hrefuses⟩
          intro other hother s hs
          obtain ⟨s', hs', hnone⟩ := exists_ofNode_iff.1 (hfirst other hother)
          rw [hs] at hs'
          cases hs'
          exact hnone

end Rust

/-- **Both languages find the same faults**: there is Java code exactly for the sound trees, and the
error for any other tree is told by `Node.Fault`. There is no Rust code for these trees either, and
the error is the same, unless a statement before the first malformed one is refused in Rust alone;
then it is the error of the first such statement. -/
theorem Node.generate_of_any_tree (options : Options) (symbols : SymbolTable) (root : Node) :
    ((∃ code, Java.generate options symbols root = .ok code) ↔ root.Sound) ∧
      (∀ error, Java.generate options symbols root = .error error ↔ root.Fault error) ∧
      ∀ error, Java.generate options symbols root = .error error →
        (Rust.Program.ofNode options root = .error error ∧ ∀ e, ¬ Rust.RefusedEarlier root e) ∨
          ∃ e, Rust.RefusedEarlier root e ∧ Rust.Program.ofNode options root = .error e := by
  refine ⟨Java.exists_generate_iff, fun error => Java.generate_eq_error_iff, ?_⟩
  intro error herror
  refine (Rust.ofNode_of_fault (Java.generate_eq_error_iff.1 herror)).imp_right ?_
  rintro ⟨e, he⟩
  exact ⟨e, he, Rust.ofNode_of_refusedEarlier he⟩

/-- A call with two parameters of one Rust name, a call without subroutine behind it, and a query
with a child at the end: Java tells the second fault, Rust the first. -/
theorem Node.generate_of_any_tree_refused :
    let root := Node.program
      [.call "PAY".toList ["TYPE".toList, "TYPE-".toList], .ofKind .callStatement,
        (Node.execSql []).addChild .stopRun]
    Java.generate {} {} root = .error (.malformedNode "CallStatement".toList
        "missing Subroutine child at position 0".toList) ∧
      ∃ e, Rust.RefusedEarlier root e ∧ Rust.Program.ofNode {} root = .error e := by
  intro root
  have hjava : Java.generate {} {} root = .error (.malformedNode "CallStatement".toList
      "missing Subroutine child at position 0".toList) := by decide
  refine ⟨hjava, ?_⟩
  rcases (Node.generate_of_any_tree {} {} root).2.2 _ hjava with ⟨hsame, -⟩ | hearlier
  · exact absurd hsame (by decide)
  · exact hearlier

end CobolSubset
