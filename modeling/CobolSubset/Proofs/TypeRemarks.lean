import CobolSubset.Proofs.Embedding
import CobolSubset.Proofs.FaultOrder

/-!
# Declared types are remarks

The types of variables may be declared, but nothing rests on them. All that a declaration brings
about is a remark behind the assignments to its variable, with the type that was declared for it
last (`Java.declared_types_are_remarks`). No other line changes, and no tree is refused or accepted
because of it.

A table is made by declaring one name after the other. What can be asked of it in the end is said by
the list of declarations itself: `SymbolTable.lastType?` looks for the last one with the name
(`SymbolTable.type?_ofList`).
-/

namespace CobolSubset

/-! ### Tables -/

namespace SymbolTable

variable {declarations others : List (Text × Text)}

/-- The type that is declared last for a name. -/
def lastType? (declarations : List (Text × Text)) (name : Text) : Option Text :=
  (declarations.filter fun entry => entry.1 == name).getLast?.map Prod.snd

theorem ofList_concat (declarations : List (Text × Text)) (name type : Text) :
    ofList (declarations ++ [(name, type)]) = (ofList declarations).declare name type := by
  simp [ofList]

/-- The last declaration of a name counts. -/
theorem type?_ofList (declarations : List (Text × Text)) (name : Text) :
    (ofList declarations).type? name = lastType? declarations name := by
  induction declarations using List.reverseRecOn with
  | nil => rfl
  | append_singleton declarations entry ih =>
      obtain ⟨other, type⟩ := entry
      rw [ofList_concat, type?_declare, ih]
      by_cases h : name = other
      · simp [lastType?, h]
      · simp [lastType?, h, Ne.symm h]

/-- If no name is declared twice, the order of the declarations does not matter. -/
theorem lastType?_of_perm (hperm : others.Perm declarations)
    (hnodup : (declarations.map Prod.fst).Nodup) (name : Text) :
    lastType? others name = lastType? declarations name := by
  have hnames : ∀ entry ∈ declarations.filter (fun entry => entry.1 == name), entry.1 = name := by
    intro entry hentry
    simpa using (List.mem_filter.1 hentry).2
  have hkeys : ((declarations.filter fun entry => entry.1 == name).map Prod.fst).Nodup :=
    hnodup.sublist (List.filter_sublist.map Prod.fst)
  have hfilter := hperm.filter fun entry => entry.1 == name
  unfold lastType?
  -- A name has at most one declaration, and a list of one element has only one order.
  generalize declarations.filter (fun entry => entry.1 == name) = found at *
  cases found with
  | nil => rw [hfilter.eq_nil]
  | cons first more =>
      cases more with
      | nil => rw [List.perm_singleton.1 hfilter]
      | cons second more => simp [hnames first, hnames second] at hkeys

end SymbolTable

/-! ### Assignments -/

def Node.assigned? (node : Node) : Option Text :=
  if node.kind = .moveStatement then node.children[1]?.map Node.value else none

namespace Statement

theorem ofNode_move {node : Node} {statement : Statement} (h : ofNode node = .ok statement)
    (hkind : node.kind = .moveStatement) :
    ∃ value name : Node, node.children = [value, name] ∧
      statement = .move value.value name.value := by
  simp only [ofNode, hkind, bind_eq_ok_iff] at h
  obtain ⟨children, hchildren, value, hvalue, name, hname, hstatement⟩ := h
  have hlength : node.children.length = 2 := by
    by_contra hlength
    rw [Node.expectChildren_error hlength] at hchildren
    cases hchildren
  obtain ⟨first, second, hpair⟩ := List.length_eq_two.1 hlength
  simp only [Node.expectChild, hpair, List.getElem?_cons_zero, List.getElem?_cons_succ]
    at hvalue hname
  split at hvalue
  · cases hvalue
    split at hname
    · cases hname
      exact ⟨value, name, hpair, (Except.ok.inj hstatement).symm⟩
    · cases hname
  · cases hvalue

theorem ne_move_of_ofNode {node : Node} {statement : Statement} (h : ofNode node = .ok statement)
    (hkind : node.kind ≠ .moveStatement) (value name : Text) : statement ≠ .move value name := by
  rintro rfl
  exact hkind (kind_of_ofNode h).symm

end Statement

namespace Java

variable {options : Options} {symbols : SymbolTable} {root node : Node} {statement : Statement}

/-- What stands behind an assignment to a variable of the type. -/
def remark : Option Text → Text
  | some type => " // ".toList ++ type
  | none => []

theorem typeRemark_eq_remark (symbols : SymbolTable) (name : Text) :
    typeRemark symbols name = remark (symbols.type? name) := by
  unfold typeRemark
  cases symbols.type? name <;> rfl

/-- The code of a statement without declared types, up to the line feed at its end. -/
def openText (options : Options) (statement : Statement) : Text :=
  (statementText options {} statement).dropLast

theorem openText_move (options : Options) (value name : Text) :
    openText options (.move value name) =
      indent ++ name ++ " = ".toList ++ value ++ ";".toList := by
  have hplain : typeRemark {} name = [] := rfl
  rw [openText, statementText, hplain, bodyLine, List.dropLast_concat]
  simp only [List.append_assoc, List.append_nil]

theorem getLast?_bodyLine (text : Text) : (bodyLine text).getLast? = some '\n' :=
  List.getLast?_concat

theorem openText_concat (options : Options) (statement : Statement) :
    openText options statement ++ ['\n'] = statementText options {} statement := by
  apply List.dropLast_append_getLast?
  cases statement with
  | execSql query =>
      rw [statementText, queryBlock, List.getLast?_append, getLast?_bodyLine]
      rfl
  | _ => exact getLast?_bodyLine _

/-- A declared type is told at the end of an assignment, and the table reaches nothing else. -/
theorem statementText_eq_remark (h : Statement.ofNode node = .ok statement) :
    statementText options symbols statement =
      openText options statement ++ remark (node.assigned?.bind symbols.type?) ++ ['\n'] := by
  by_cases hkind : node.kind = .moveStatement
  · obtain ⟨value, name, hchildren, rfl⟩ := Statement.ofNode_move h hkind
    have hassigned : node.assigned? = some name.value := by simp [Node.assigned?, hkind, hchildren]
    rw [openText_move, hassigned, Option.bind_some, ← typeRemark_eq_remark]
    simp [statementText, bodyLine]
  · have hassigned : node.assigned? = none := if_neg hkind
    rw [hassigned, Option.bind_none, remark, List.append_nil, openText_concat]
    cases statement with
    | move value name => exact absurd rfl (Statement.ne_move_of_ofNode h hkind value name)
    | _ => rfl

/-- The code of a child, with the last type that was declared for the variable it assigns to. -/
def remarkedLine (declarations : List (Text × Text)) (child : Node) (line : Text) : Text :=
  line ++ remark (child.assigned?.bind (SymbolTable.lastType? declarations)) ++ ['\n']

/-! ### Programs -/

/-- The line of a `MOVE` is an assignment of its operands. -/
theorem openText_of_assigned? (options : Options) {name : Text}
    (h : Statement.ofNode node = .ok statement) (hname : node.assigned? = some name) :
    ∃ value, node.children.map Node.value = [value, name] ∧
      openText options statement = indent ++ name ++ " = ".toList ++ value ++ ";".toList := by
  have hkind : node.kind = .moveStatement := by
    by_contra hkind
    simp [Node.assigned?, hkind] at hname
  obtain ⟨value, target, hchildren, rfl⟩ := Statement.ofNode_move h hkind
  obtain rfl : target.value = name := by simpa [Node.assigned?, hkind, hchildren] using hname
  exact ⟨value.value, by simp [hchildren], openText_move options _ _⟩

theorem flatMap_statementText {declarations : List (Text × Text)} {children : List Node}
    {statements : List Statement} (h : children.map Statement.ofNode = statements.map .ok) :
    statements.flatMap (statementText options (.ofList declarations)) =
      (List.zipWith (remarkedLine declarations) children
        (statements.map (openText options))).flatten := by
  -- Along the statements, each with the child that it was read from.
  induction statements generalizing children with
  | nil => simp
  | cons statement statements ih =>
      obtain ⟨child, more, rfl, hchild, hmore⟩ := List.map_eq_cons_iff.1 h
      have htype : (SymbolTable.ofList declarations).type? = SymbolTable.lastType? declarations :=
        funext (SymbolTable.type?_ofList declarations)
      rw [List.flatMap_cons, statementText_eq_remark hchild, htype, ih hmore]
      rfl

/-- Tables that tell the same types make the same code. -/
theorem generate_congr {table table' : SymbolTable}
    (h : ∀ name, table.type? name = table'.type? name) (options : Options) (root : Node) :
    generate options table root = generate options table' root := by
  have htexts : statementText options table = statementText options table' := by
    funext statement
    cases statement with
    | move value name => simp only [statementText, typeRemark_eq_remark, h]
    | _ => rfl
  simp only [generate, classText, htexts]

/-- **Declared types are remarks**: a tree is accepted or refused with declarations as it is without
them. If it is accepted, the code is the same child by child, but for a remark with the last declared
type behind each assignment to a declared variable. What is there for a child without declarations is
what there would be if it were the only one. So declarations with the same last types make
the same code, as they do in any order if no name is declared twice, and none at all leave the code
as it is. -/
theorem declared_types_are_remarks (options : Options) (root : Node)
    (declarations : List (Text × Text)) :
    (∀ error, generate options (.ofList declarations) root = .error error ↔
      generate options {} root = .error error) ∧
    (∀ plain, generate options {} root = .ok plain →
      ∃ lines : List Text, lines.length = root.children.length ∧
        (∀ (i : Nat) (child : Node), root.children[i]? = some child →
          ∃ line, lines[i]? = some line ∧
            generate options {} { root with children := [child] } =
              .ok (preamble options.className ++ (line ++ ['\n']) ++ closing)) ∧
        (∀ (i : Nat) (child : Node) (name : Text), root.children[i]? = some child →
          child.assigned? = some name →
          ∃ value, child.children.map Node.value = [value, name] ∧
            lines[i]? = some (indent ++ name ++ " = ".toList ++ value ++ ";".toList)) ∧
        plain = preamble options.className ++ lines.flatMap (· ++ ['\n']) ++ closing ∧
        generate options (.ofList declarations) root =
          .ok (preamble options.className ++
            (List.zipWith (remarkedLine declarations) root.children lines).flatten ++ closing)) ∧
    (∀ others,
      (∀ name, SymbolTable.lastType? others name = SymbolTable.lastType? declarations name) →
      generate options (.ofList others) root = generate options (.ofList declarations) root) ∧
    (∀ others, others.Perm declarations → (declarations.map Prod.fst).Nodup →
      generate options (.ofList others) root = generate options (.ofList declarations) root) ∧
    generate options (.ofList []) root = generate options {} root := by
  have hsame : ∀ others,
      (∀ name, SymbolTable.lastType? others name = SymbolTable.lastType? declarations name) →
        generate options (.ofList others) root = generate options (.ofList declarations) root := by
    intro others hothers
    refine generate_congr (fun name => ?_) options root
    rw [SymbolTable.type?_ofList, SymbolTable.type?_ofList, hothers]
  refine ⟨fun error => generate_eq_error_iff.trans generate_eq_error_iff.symm, ?_, hsame, ?_, rfl⟩
  · intro plain hplain
    obtain ⟨hkind, statements, hread, rfl⟩ := generate_eq_ok_iff.1 hplain
    have hlength : statements.length = root.children.length := by
      simpa using (congrArg List.length hread).symm
    have hplace : ∀ (i : Nat) (child : Node), root.children[i]? = some child →
        ∃ statement, Statement.ofNode child = .ok statement ∧
          (statements.map (openText options))[i]? = some (openText options statement) := by
      intro i child hchild
      have hread := congrArg (·[i]?) hread
      simp only [List.getElem?_map, hchild, Option.map_some] at hread
      obtain ⟨statement, hstatement, hok⟩ := Option.map_eq_some_iff.1 hread.symm
      exact ⟨statement, hok.symm, by rw [List.getElem?_map, hstatement, Option.map_some]⟩
    refine ⟨statements.map (openText options), by simpa using hlength, ?_, ?_, ?_, ?_⟩
    · intro i child hchild
      obtain ⟨statement, hok, hline⟩ := hplace i child hchild
      refine ⟨_, hline, generate_eq_ok_iff.2 ⟨hkind, [statement], by simp [hok], ?_⟩⟩
      rw [openText_concat, classText, List.flatMap_singleton]
    · intro i child name hchild hname
      obtain ⟨statement, hok, hline⟩ := hplace i child hchild
      obtain ⟨value, hvalues, hassign⟩ := openText_of_assigned? options hok hname
      exact ⟨value, hvalues, hassign ▸ hline⟩
    · rw [classText, List.flatMap_map]
      simp only [openText_concat]
    · refine generate_eq_ok_iff.2 ⟨hkind, statements, hread, ?_⟩
      rw [classText, flatMap_statementText hread]
  · intro others hperm hnodup
    exact hsame others (SymbolTable.lastType?_of_perm hperm hnodup)

/-- A variable that is declared twice, the second time with a type that looks like none, and one
that is not declared. Leaving the first declaration out and changing the order of the others makes
no difference. -/
theorem declared_types_are_remarks_twice :
    let root : Node := .ofStatements [.move ['1'] ['A'], .display "\"A\"".toList, .move ['2'] ['B']]
    let declarations : List (Text × Text) :=
      [(['A'], "PIC 9".toList), (['C'], "PIC X".toList), (['A'], "UNKNOWN".toList)]
    ∃ plain first second third, generate {} {} root = .ok plain ∧
      plain = preamble "Program".toList ++ [first, second, third].flatMap (· ++ ['\n']) ++ closing ∧
      first = indent ++ "A = 1;".toList ∧
      generate {} (.ofList declarations) root =
        .ok (preamble "Program".toList ++ ((first ++ " // UNKNOWN".toList) ++ '\n' ::
          (second ++ '\n' :: (third ++ ['\n']))) ++ closing) ∧
      generate {} (.ofList [(['A'], "UNKNOWN".toList), (['C'], "PIC X".toList)]) root =
        generate {} (.ofList declarations) root := by
  intro root declarations
  have hplain : generate {} {} root = .ok _ := generate_ofStatements {} {} _
  obtain ⟨-, hcode, hsame, -, -⟩ := declared_types_are_remarks {} root declarations
  obtain ⟨lines, hlength, -, hmoves, hlines, hremarked⟩ := hcode _ hplain
  obtain ⟨first, second, third, rfl⟩ := List.length_eq_three.1 hlength
  obtain ⟨value, hvalue, hfirst⟩ := hmoves 0 _ ['A'] rfl rfl
  cases hvalue
  refine ⟨_, first, second, third, hplain, hlines, Option.some.inj hfirst, ?_, hsame _ ?_⟩
  · rw [hremarked]
    simp [root, declarations, remarkedLine, remark, SymbolTable.lastType?, Node.assigned?,
      Node.ofStatements, Node.program, Statement.toNode, Node.move, Node.display, Node.leaf]
  · intro name
    by_cases hname : name = ['A']
    · subst hname
      rfl
    · simp [declarations, SymbolTable.lastType?, List.filter_cons, Ne.symm hname]

end Java

end CobolSubset
