import CobolSubset.Text.Basic

/-!
# Trees

A program is handed around as a tree. Every node has a kind, a value that is empty where it means
nothing, and an ordered list of children:

| kind             | value          | children                      |
|------------------|----------------|-------------------------------|
| program          |                | statements                    |
| displayStatement | string literal |                               |
| moveStatement    |                | value, variable               |
| stopRun          |                |                               |
| callStatement    |                | subroutine, then parameters   |
| execSql          | query          |                               |

Trees may also be built by hand, so nothing forces this shape; `CobolSubset.Node.Shape` checks it.
-/

namespace CobolSubset

inductive Kind where
  | program
  | displayStatement
  | moveStatement
  | value
  | variableName
  | stopRun
  | callStatement
  | subroutine
  | parameter
  | execSql
deriving DecidableEq, Repr

namespace Kind

def all : List Kind :=
  [program, displayStatement, moveStatement, value, variableName, stopRun, callStatement, subroutine, parameter,
    execSql]

/-- The kinds of statements, in the order in which they are reported. -/
def statements : List Kind :=
  [displayStatement, moveStatement, stopRun, callStatement, execSql]

/-- The name of the kind, for people and in data. -/
def name : Kind → Text
  | program => "Program".toList
  | displayStatement => "DisplayStatement".toList
  | moveStatement => "MoveStatement".toList
  | value => "Value".toList
  | variableName => "Variable".toList
  | stopRun => "StopRun".toList
  | callStatement => "CallStatement".toList
  | subroutine => "Subroutine".toList
  | parameter => "Parameter".toList
  | execSql => "ExecSQL".toList

def ofName? (name : Text) : Option Kind :=
  all.find? fun kind => kind.name == name

/-- Whether nodes of this kind may stand directly under a program. -/
def isStatement (kind : Kind) : Bool := statements.contains kind

end Kind

/-- A node with all that is below it. -/
structure Node where
  kind : Kind
  value : Text
  children : List Node
deriving Repr

namespace Node

/-! ### Equality -/

mutual

/-- Equality of trees is decided from the top down. -/
def decEq : (a b : Node) → Decidable (a = b)
  | ⟨kind, value, children⟩, ⟨kind', value', children'⟩ =>
    if hkind : kind = kind' then
      if hvalue : value = value' then
        match decEqList children children' with
        | isTrue h => isTrue (by rw [hkind, hvalue, h])
        | isFalse h => isFalse (by intro e; cases e; exact h rfl)
      else isFalse (by intro e; cases e; exact hvalue rfl)
    else isFalse (by intro e; cases e; exact hkind rfl)

def decEqList : (as bs : List Node) → Decidable (as = bs)
  | [], [] => isTrue rfl
  | [], _ :: _ => isFalse (by intro e; cases e)
  | _ :: _, [] => isFalse (by intro e; cases e)
  | a :: as, b :: bs =>
    match decEq a b, decEqList as bs with
    | isTrue h, isTrue hs => isTrue (by rw [h, hs])
    | isFalse h, _ => isFalse (by intro e; cases e; exact h rfl)
    | _, isFalse hs => isFalse (by intro e; cases e; exact hs rfl)

end

instance : DecidableEq Node := decEq

/-! ### Building -/

def ofKind (kind : Kind) : Node := ⟨kind, [], []⟩

def leaf (kind : Kind) (value : Text) : Node := ⟨kind, value, []⟩

def addChild (node child : Node) : Node :=
  { node with children := node.children ++ [child] }

def program (statements : List Node) : Node := ⟨.program, [], statements⟩

def display (text : Text) : Node := leaf .displayStatement text

def move (value name : Text) : Node :=
  ⟨.moveStatement, [], [leaf .value value, leaf .variableName name]⟩

def stopRun : Node := ofKind .stopRun

def call (subroutine : Text) (parameters : List Text) : Node :=
  ⟨.callStatement, [], leaf .subroutine subroutine :: parameters.map (leaf .parameter)⟩

def execSql (query : Text) : Node := leaf .execSql query

/-! ### Looking at a tree -/

def count (node : Node) (kind : Kind) : Nat :=
  node.children.countP fun child => child.kind == kind

/-- The start of a node's line in the tree text. -/
def label (node : Node) : Text :=
  node.kind.name ++ if node.value.isEmpty then [] else " = ".toList ++ node.value

mutual

/-- The lines of a tree whose top stands at `depth`. -/
def treeAt (depth : Nat) : Node → Text
  | ⟨kind, value, children⟩ =>
    List.replicate (2 * depth) ' ' ++ label ⟨kind, value, children⟩ ++ '\n' :: forestAt (depth + 1) children

/-- The lines of trees that stand side by side. -/
def forestAt (depth : Nat) : List Node → Text
  | [] => []
  | node :: more => treeAt depth node ++ forestAt depth more

end

/-- The tree as text: one line per node, two blanks further in for each level, with the value behind
an equals sign if there is one. -/
def tree (node : Node) : Text := treeAt 0 node

end Node

end CobolSubset
