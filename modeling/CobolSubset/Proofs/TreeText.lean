import CobolSubset.Proofs.Decoding
import CobolSubset.Proofs.Paths

/-!
# Reading a tree from its text

The text of a tree has a line for each node, further in the deeper the node stands. Nothing else
tells which nodes belong together: there are no brackets, a value is written as it is, and it may
look like any part of such a text. As long as no value has a line feed in it, the tree can be told
from the text all the same (`Node.tree_faithful`).

The text is seen as a list of rows, from the top down.

* **A line tells its row** (`Row.text_injective`) — the blanks in front are counted, the name of the
  kind ends at the first blank behind it, and what follows is the value.
* **The rows tell the tree** (`Node.rows_cancel`) — what belongs to a node ends before the first row
  that does not stand further in. This goes over trees and lists of trees at once.
-/

namespace CobolSubset

/-! ### Lines of a text -/

namespace Text

variable {pieces : List Text}

theorem splitBy_flatMap (h : ∀ piece ∈ pieces, '\n' ∉ piece) :
    splitBy (· == '\n') (pieces.flatMap (· ++ ['\n'])) = pieces ++ [[]] := by
  induction pieces with
  | nil => rfl
  | cons first more ih =>
      rw [List.forall_mem_cons] at h
      have hfirst : splitBy (· == '\n') first = [first] := by
        apply splitBy_of_not
        intro c hc
        simpa using ne_of_mem_of_not_mem hc h.1
      rw [List.flatMap_cons, List.append_assoc, List.singleton_append,
        splitBy_append_cons (· == '\n') first _ rfl, hfirst, ih h.2]
      rfl

theorem length_lines_flatMap (h : ∀ piece ∈ pieces, '\n' ∉ piece) :
    (lines (pieces.flatMap (· ++ ['\n']))).length = pieces.length := by
  simp [lines, splitBy_flatMap h]

theorem count_flatMap_newline (h : ∀ piece ∈ pieces, '\n' ∉ piece) :
    (pieces.flatMap (· ++ ['\n'])).count '\n' = pieces.length := by
  induction pieces with
  | nil => rfl
  | cons first more ih =>
      rw [List.forall_mem_cons] at h
      simp [List.count_eq_zero.2 h.1, ih h.2]

end Text

/-! ### Nodes and rows -/

/-- What the line of a node tells. -/
structure Row where
  depth : Nat
  kind : Kind
  value : Text
deriving DecidableEq, Repr

namespace Node

mutual

/-- All nodes of a tree, from the top down. -/
def nodes : Node → List Node
  | ⟨kind, value, children⟩ => ⟨kind, value, children⟩ :: forestNodes children

def forestNodes : List Node → List Node
  | [] => []
  | node :: more => nodes node ++ forestNodes more

end

mutual

def rows (depth : Nat) : Node → List Row
  | ⟨kind, value, children⟩ => ⟨depth, kind, value⟩ :: forestRows (depth + 1) children

def forestRows (depth : Nat) : List Node → List Row
  | [] => []
  | node :: more => rows depth node ++ forestRows depth more

end

/-- What a node has in its row besides its depth. -/
def content (node : Node) : Kind × Text := (node.kind, node.value)

mutual

theorem map_rows (depth : Nat) (node : Node) :
    (rows depth node).map (fun row => (row.kind, row.value)) = node.nodes.map content := by
  cases node with
  | mk kind value children =>
      rw [rows, nodes, List.map_cons, List.map_cons, map_forestRows]
      rfl

theorem map_forestRows (depth : Nat) (forest : List Node) :
    (forestRows depth forest).map (fun row => (row.kind, row.value)) =
      (forestNodes forest).map content := by
  cases forest with
  | nil => rfl
  | cons node more =>
      rw [forestRows, forestNodes, List.map_append, List.map_append, map_rows, map_forestRows]

end

end Node

/-! ### Lines -/

namespace Kind

theorem ofName?_name (kind : Kind) : ofName? kind.name = some kind := by
  cases kind <;> rfl

theorem name_injective {kind kind' : Kind} (h : kind.name = kind'.name) : kind = kind' := by
  have hfound := ofName?_name kind
  rw [h, ofName?_name] at hfound
  exact (Option.some.inj hfound).symm

theorem name_ne_nil (kind : Kind) : kind.name ≠ [] := by
  cases kind <;> exact List.cons_ne_nil _ _

/-- Names of kinds are made of letters. -/
theorem not_mem_name (kind : Kind) {c : Char} (h : c.isAlpha = false) : c ∉ kind.name := by
  have hall : kind.name.all Char.isAlpha = true := by cases kind <;> rfl
  intro hc
  rw [List.all_eq_true.1 hall c hc] at h
  cases h

end Kind

namespace Row

def text (row : Row) : Text :=
  List.replicate (2 * row.depth) ' ' ++ Node.label ⟨row.kind, row.value, []⟩

def line (row : Row) : Text := row.text ++ ['\n']

/-- What stands behind the name of the kind. -/
def valueText (value : Text) : Text := if value.isEmpty then [] else " = ".toList ++ value

theorem valueText_injective {value value' : Text} (h : valueText value = valueText value') :
    value = value' := by
  cases value <;> cases value' <;> simp_all [valueText]

theorem label_eq (kind : Kind) (value : Text) (children : List Node) :
    Node.label ⟨kind, value, children⟩ = kind.name ++ valueText value := rfl

/-- The name of the kind goes up to the first blank. -/
theorem takeWhile_label (kind : Kind) (value : Text) (children : List Node) :
    (Node.label ⟨kind, value, children⟩).takeWhile (· != ' ') = kind.name := by
  rw [label_eq]
  apply Text.takeWhile_append_of_stops
  · intro c hc
    simpa using ne_of_mem_of_not_mem hc (kind.not_mem_name rfl)
  · cases value <;> rfl

/-- The name of a kind has no blank, so a label tells the kind and the value. -/
theorem label_injective {kind kind' : Kind} {value value' : Text} {children children' : List Node}
    (h : Node.label ⟨kind, value, children⟩ = Node.label ⟨kind', value', children'⟩) :
    kind = kind' ∧ value = value' := by
  have hname : kind.name = kind'.name := by
    rw [← takeWhile_label kind value children, h, takeWhile_label]
  rw [label_eq, label_eq, hname] at h
  exact ⟨Kind.name_injective hname, valueText_injective (List.append_cancel_left h)⟩

/-- The blanks in front go up to the name of the kind. -/
theorem takeWhile_text (row : Row) :
    row.text.takeWhile (· == ' ') = List.replicate (2 * row.depth) ' ' := by
  apply Text.takeWhile_append_of_stops
  · intro c hc
    simp [List.eq_of_mem_replicate hc]
  · obtain ⟨c, rest, hcons⟩ := List.exists_cons_of_ne_nil row.kind.name_ne_nil
    have hfirst : c ∈ row.kind.name := hcons ▸ List.mem_cons_self
    have hblank : c ≠ ' ' := ne_of_mem_of_not_mem hfirst (row.kind.not_mem_name rfl)
    rw [label_eq, hcons]
    simpa using hblank

/-- **A line tells its row.** -/
theorem text_injective {row row' : Row} (h : row.text = row'.text) : row = row' := by
  obtain ⟨depth, kind, value⟩ := row
  obtain ⟨depth', kind', value'⟩ := row'
  have hblanks := takeWhile_text ⟨depth, kind, value⟩
  rw [h, takeWhile_text] at hblanks
  have hdepth : depth' = depth := by simpa using hblanks
  subst hdepth
  obtain ⟨rfl, rfl⟩ := label_injective (List.append_cancel_left h)
  rfl

theorem newline_not_mem_text {row : Row} (h : '\n' ∉ row.value) : '\n' ∉ row.text := by
  have hname : '\n' ∉ row.kind.name := row.kind.not_mem_name rfl
  have hvalue : '\n' ∉ valueText row.value := by
    unfold valueText
    split <;> simp [h]
  simp [text, label_eq, hname, hvalue]

/-- A line ends at its line feed, so values without one make a prefix-free code. -/
theorem line_prefixFree : PrefixFree (fun row : Row => '\n' ∉ row.value) line where
  ne_nil _ := by simp [line]
  cancel {row row' rest rest'} hrow hrow' heq := by
    have hlines : row.text ++ '\n' :: rest = row'.text ++ '\n' :: rest' := by
      simpa [line] using heq
    obtain ⟨htext, hrest⟩ :=
      eq_of_first_mark (newline_not_mem_text hrow) (newline_not_mem_text hrow') hlines
    exact ⟨text_injective htext, hrest⟩

end Row

/-! ### From rows to trees -/

namespace Node

mutual

/-- The text of a tree is its rows, one on each line. -/
theorem treeAt_eq_rows (depth : Nat) (node : Node) :
    treeAt depth node = (rows depth node).flatMap Row.line := by
  cases node with
  | mk kind value children =>
      rw [treeAt, rows, List.flatMap_cons, forestAt_eq_rows]
      simp [Row.line, Row.text, Row.label_eq]

theorem forestAt_eq_rows (depth : Nat) (forest : List Node) :
    forestAt depth forest = (forestRows depth forest).flatMap Row.line := by
  cases forest with
  | nil => rfl
  | cons node more =>
      rw [forestAt, forestRows, List.flatMap_append, treeAt_eq_rows, forestAt_eq_rows]

end

theorem head?_rows (depth : Nat) (node : Node) (rest : List Row) :
    (rows depth node ++ rest).head? = some ⟨depth, node.kind, node.value⟩ := by
  cases node with
  | mk kind value children => rw [rows]; rfl

/-- Behind a tree come its neighbours, or what stands further out. -/
theorem depth_le_of_head?_forestRows {depth : Nat} {forest : List Node} {rest : List Row}
    (hrest : ∀ row ∈ rest.head?, row.depth < depth) :
    ∀ row ∈ (forestRows depth forest ++ rest).head?, row.depth ≤ depth := by
  intro row hrow
  cases forest with
  | nil => exact Nat.le_of_lt (hrest row hrow)
  | cons node more =>
      rw [forestRows, List.append_assoc, head?_rows] at hrow
      cases hrow
      exact Nat.le_refl depth

mutual

/-- **The rows tell the tree**, if nothing behind them stands further in than its top. -/
theorem rows_cancel {depth : Nat} {node node' : Node} {rest rest' : List Row}
    (hrest : ∀ row ∈ rest.head?, row.depth ≤ depth)
    (hrest' : ∀ row ∈ rest'.head?, row.depth ≤ depth)
    (h : rows depth node ++ rest = rows depth node' ++ rest') : node = node' ∧ rest = rest' := by
  cases node with
  | mk kind value children =>
      cases node' with
      | mk kind' value' children' =>
          rw [rows, rows, List.cons_append, List.cons_append] at h
          obtain ⟨hrow, hforest⟩ := List.cons.inj h
          cases hrow
          obtain ⟨rfl, rfl⟩ := forestRows_cancel
            (fun row hrow => Nat.lt_succ_of_le (hrest row hrow))
            (fun row hrow => Nat.lt_succ_of_le (hrest' row hrow)) hforest
          exact ⟨rfl, rfl⟩

/-- Trees side by side end where a row stands further out. -/
theorem forestRows_cancel {depth : Nat} {forest forest' : List Node} {rest rest' : List Row}
    (hrest : ∀ row ∈ rest.head?, row.depth < depth)
    (hrest' : ∀ row ∈ rest'.head?, row.depth < depth)
    (h : forestRows depth forest ++ rest = forestRows depth forest' ++ rest') :
    forest = forest' ∧ rest = rest' := by
  cases forest with
  | nil =>
      cases forest' with
      | nil => exact ⟨rfl, h⟩
      | cons node' more' =>
          -- A tree on one side only would start further out than it can.
          have hhead := congrArg List.head? h
          rw [forestRows, forestRows, List.append_assoc, head?_rows] at hhead
          exact absurd (hrest _ hhead) (Nat.lt_irrefl depth)
  | cons node more =>
      cases forest' with
      | nil =>
          have hhead := congrArg List.head? h
          rw [forestRows, forestRows, List.append_assoc, head?_rows] at hhead
          exact absurd (hrest' _ hhead.symm) (Nat.lt_irrefl depth)
      | cons node' more' =>
          rw [forestRows, forestRows, List.append_assoc, List.append_assoc] at h
          obtain ⟨rfl, hmore⟩ := rows_cancel (depth_le_of_head?_forestRows hrest)
            (depth_le_of_head?_forestRows hrest') h
          obtain ⟨rfl, rfl⟩ := forestRows_cancel hrest hrest' hmore
          exact ⟨rfl, rfl⟩

end

variable {root other : Node}

theorem length_rows (depth : Nat) (root : Node) : (rows depth root).length = root.nodes.length := by
  simpa using congrArg List.length (map_rows depth root)

/-- Values in rows are those of the nodes. -/
theorem newline_not_mem_rows (h : ∀ node ∈ root.nodes, '\n' ∉ node.value) {depth : Nat} {row : Row}
    (hrow : row ∈ rows depth root) : '\n' ∉ row.value := by
  have hmem : (row.kind, row.value) ∈ root.nodes.map content :=
    map_rows depth root ▸ List.mem_map_of_mem hrow
  obtain ⟨node, hnode, heq⟩ := List.mem_map.1 hmem
  rw [← (Prod.mk.inj heq).2]
  exact h node hnode

theorem tree_eq_lines (root : Node) :
    root.tree = ((rows 0 root).map Row.text).flatMap (· ++ ['\n']) := by
  rw [tree, treeAt_eq_rows, List.flatMap_map]
  rfl

theorem eq_of_tree_eq (h : ∀ node ∈ root.nodes, '\n' ∉ node.value)
    (hother : ∀ node ∈ other.nodes, '\n' ∉ node.value) (heq : root.tree = other.tree) :
    root = other := by
  rw [tree, tree, treeAt_eq_rows, treeAt_eq_rows] at heq
  have hrows : rows 0 root = rows 0 other :=
    Row.line_prefixFree.flatMap_injOn (fun _ hrow => newline_not_mem_rows h hrow)
      (fun _ hrow => newline_not_mem_rows hother hrow) heq
  have hend : ∀ row ∈ ([] : List Row).head?, row.depth ≤ 0 := by simp
  have hcancel : rows 0 root ++ [] = rows 0 other ++ [] := by rw [hrows]
  exact (rows_cancel hend hend hcancel).1

/-- **The text of a tree is faithful**: if no value has a line feed in it, the text has one line for
each node, and no other such tree has the same text. -/
theorem tree_faithful (h : ∀ node ∈ root.nodes, '\n' ∉ node.value) :
    root.tree.count '\n' = root.nodes.length ∧ root.tree.lines.length = root.nodes.length ∧
      ∀ other : Node, (∀ node ∈ other.nodes, '\n' ∉ node.value) → root.tree = other.tree →
        root = other := by
  have hlines : ∀ line ∈ (rows 0 root).map Row.text, '\n' ∉ line := by
    intro line hline
    obtain ⟨row, hrow, rfl⟩ := List.mem_map.1 hline
    exact Row.newline_not_mem_text (newline_not_mem_rows h hrow)
  refine ⟨?_, ?_, fun other hother heq => eq_of_tree_eq h hother heq⟩
  · rw [tree_eq_lines, Text.count_flatMap_newline hlines, List.length_map, length_rows]
  · rw [tree_eq_lines, Text.length_lines_flatMap hlines, List.length_map, length_rows]

/-- Values that look like the lines of other nodes, with blanks in front and equals signs. -/
theorem tree_faithful_disguised :
    ∃ root : Node, root.tree =
        "Value =   Value = 1\n  Program =  = \n    StopRun\n  Value\n".toList ∧
      (∀ node ∈ root.nodes, '\n' ∉ node.value) ∧ root.tree.lines.length = 4 ∧
      ∀ other : Node, (∀ node ∈ other.nodes, '\n' ∉ node.value) → root.tree = other.tree →
        root = other := by
  let root : Node := ⟨.value, "  Value = 1".toList,
    [⟨.program, " = ".toList, [.stopRun]⟩, .ofKind .value]⟩
  have hroot : ∀ node ∈ root.nodes, '\n' ∉ node.value := by decide
  obtain ⟨-, hlines, hunique⟩ := tree_faithful hroot
  exact ⟨root, by decide, hroot, hlines, hunique⟩

/-- With a line feed in a value, two trees can have the same text. -/
example : tree ⟨.value, ['1'], [.stopRun]⟩ = tree (.leaf .value "1\n  StopRun".toList) := by
  decide

end Node

end CobolSubset
