import CobolSubset.Json.Basic
import CobolSubset.Node.Basic

/-!
# Trees in JSON

A node is an object with the fields `kind`, `value` and `children`, the children being an array of
nodes. Reading takes other fields along without looking at them, and takes an array of the three
values for the object.
-/

namespace CobolSubset

def Kind.ofJson? (json : Json) : Option Kind := do
  let name ← json.choice?
  Kind.ofName? name

namespace Node

/-! ### Writing -/

mutual

def toJson : Node → Json
  | ⟨kind, value, children⟩ =>
    .object [("kind".toList, .string kind.name), ("value".toList, .string value),
      ("children".toList, .array (listToJson children))]

def listToJson : List Node → List Json
  | [] => []
  | node :: more => toJson node :: listToJson more

end

/-! ### Reading -/

def ofParts? (kind value : Json) (children : List Node) : Option Node := do
  let kind ← Kind.ofJson? kind
  let value ← value.text?
  return { kind, value, children }

mutual

/-- A node from its three fields. -/
def ofJson? : Json → Option Node
  | .object fields => do
    let kind ← Json.field? "kind".toList fields
    let value ← Json.field? "value".toList fields
    let children ← childrenField? fields
    ofParts? kind value children
  | .array [kind, value, children] => do
    let children ← listOfJson? children
    ofParts? kind value children
  | _ => none

/-- The nodes in the first field called `children`. -/
def childrenField? : List (Text × Json) → Option (List Node)
  | [] => none
  | (name, value) :: rest => if name = "children".toList then listOfJson? value else childrenField? rest

def listOfJson? : Json → Option (List Node)
  | .array items => itemsOfJson? items
  | _ => none

def itemsOfJson? : List Json → Option (List Node)
  | [] => some []
  | item :: more => do
    let node ← ofJson? item
    let nodes ← itemsOfJson? more
    return node :: nodes

end

end Node

end CobolSubset
