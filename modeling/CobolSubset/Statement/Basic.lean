import CobolSubset.Node.Shape
import CobolSubset.Outcome

/-!
# Statements

The statements of the COBOL subset, with their operands. A statement is written as a node by
`Statement.toNode`, and `Statement.ofNode` reads it back from any node that has the right shape.
-/

namespace CobolSubset

/-- A statement with its operands, as they stand in the source. -/
inductive Statement where
  | display (literal : Text)
  | move (value name : Text)
  | stopRun
  | call (subroutine : Text) (parameters : List Text)
  | execSql (query : Text)
deriving DecidableEq, Repr

namespace Statement

def toNode : Statement → Node
  | display literal => Node.display literal
  | move value name => Node.move value name
  | stopRun => Node.stopRun
  | call subroutine parameters => Node.call subroutine parameters
  | execSql query => Node.execSql query

def parametersOf (node : Node) : List Node → Except GenerateError (List Text)
  | [] => .ok []
  | child :: more =>
    if child.kind = .parameter then do
      let rest ← parametersOf node more
      return child.value :: rest
    else .error (node.malformed ("unexpected ".toList ++ child.kind.name ++ " child".toList))

/-- The statement of a node. A node of another kind, or with other children than the kind asks for,
is refused. -/
def ofNode (node : Node) : Except GenerateError Statement :=
  match node.kind with
  | .displayStatement => do
    let _ ← node.expectChildren 0
    return display node.value
  | .moveStatement => do
    let _ ← node.expectChildren 2
    let value ← node.expectChild 0 .value
    let name ← node.expectChild 1 .variableName
    return move value.value name.value
  | .stopRun => do
    let _ ← node.expectChildren 0
    return stopRun
  | .callStatement => do
    let subroutine ← node.expectChild 0 .subroutine
    let parameters ← parametersOf node (node.children.drop 1)
    return call subroutine.value parameters
  | .execSql => do
    let _ ← node.expectChildren 0
    return execSql node.value
  | _ => .error node.unexpected

/-- A statement is of the kind of its node. -/
theorem kind_of_ofNode {node : Node} {statement : Statement}
    (h : ofNode node = .ok statement) : statement.toNode.kind = node.kind := by
  unfold ofNode at h
  cases hkind : node.kind with
  | displayStatement | stopRun | execSql =>
      simp only [hkind, bind_eq_ok_iff] at h
      obtain ⟨-, -, hstatement⟩ := h
      cases hstatement
      rfl
  | moveStatement =>
      simp only [hkind, bind_eq_ok_iff] at h
      obtain ⟨-, -, value, -, name, -, hstatement⟩ := h
      cases hstatement
      rfl
  | callStatement =>
      simp only [hkind, bind_eq_ok_iff] at h
      obtain ⟨subroutine, -, parameters, -, hstatement⟩ := h
      cases hstatement
      rfl
  | program | value | variableName | subroutine | parameter =>
      simp only [hkind] at h
      cases h

end Statement

def Node.ofStatements (statements : List Statement) : Node :=
  Node.program (statements.map Statement.toNode)

end CobolSubset
