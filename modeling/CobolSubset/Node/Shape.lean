import CobolSubset.Node.Basic

/-!
# The shape of a tree

The checks that generated code rests on. Each says what it found where the shape is not the expected
one.
-/

namespace CobolSubset

/-- Why no code could be generated for a tree. -/
inductive GenerateError where
  /-- A node of this kind stands where a statement belongs. -/
  | unexpectedNode (kind : Text)
  /-- A node of this kind does not have the right parts. -/
  | malformedNode (kind : Text) (detail : Text)
  /-- A text that the target language cannot take. -/
  | invalidLiteral (text : Text)
  /-- The generated code is no program of the target language. -/
  | rejectedCode (reason : Text)
deriving DecidableEq, Repr

def GenerateError.message : GenerateError → Text
  | unexpectedNode kind => "Unexpected ".toList ++ kind ++ " node at statement level".toList
  | malformedNode kind detail => "Malformed ".toList ++ kind ++ " node: ".toList ++ detail
  | invalidLiteral text =>
    "Invalid literal `".toList ++ text ++ "` for the target language".toList
  | rejectedCode reason => "Generated code failed to parse: ".toList ++ reason

namespace Node

def unexpected (node : Node) : GenerateError := .unexpectedNode node.kind.name

def malformed (node : Node) (detail : Text) : GenerateError := .malformedNode node.kind.name detail

/-- The children, if there are exactly `count` of them. -/
def expectChildren (node : Node) (count : Nat) : Except GenerateError (List Node) :=
  if node.children.length = count then .ok node.children
  else
    .error (node.malformed
      ("expected ".toList ++ Text.ofNat count ++ " children, found ".toList
        ++ Text.ofNat node.children.length))

/-- The child at a position, if it is of the given kind. -/
def expectChild (node : Node) (index : Nat) (kind : Kind) : Except GenerateError Node :=
  match node.children[index]? with
  | some child =>
    if child.kind = kind then .ok child
    else
      .error (node.malformed
        ("child ".toList ++ Text.ofNat index ++ " is ".toList ++ child.kind.name ++ ", expected ".toList
          ++ kind.name))
  | none =>
    .error (node.malformed
      ("missing ".toList ++ kind.name ++ " child at position ".toList ++ Text.ofNat index))

/-- The children of a program, if the node is one and all of them are statements. -/
def statements (node : Node) : Except GenerateError (List Node) :=
  if node.kind = .program then
    match node.children.find? fun child => !child.kind.isStatement with
    | some child => .error child.unexpected
    | none => .ok node.children
  else .error node.unexpected

theorem eq_children_of_statements {node : Node} {nodes : List Node}
    (h : node.statements = .ok nodes) : nodes = node.children := by
  unfold statements at h
  split at h
  · split at h
    · cases h
    · exact (Except.ok.inj h).symm
  · cases h

end Node

end CobolSubset
