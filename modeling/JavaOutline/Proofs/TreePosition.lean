import JavaOutline.Listener

namespace JavaOutline

/-!
# Trees and positions in them

A position is the list of child numbers on the way down from the root, so
`descend?` reaches every node of a tree, named or not, and equal nodes in
different places stay apart. Reading a tree from left to right, outer nodes
first, meets its positions in lexicographic order.
-/

/-- The children of a tree are smaller than any list of trees that it heads. -/
theorem nodesSize_children_lt (node : Node) (rest : List Node) :
    nodesSize node.children < nodesSize (node :: rest) := by
  have size := Node.size_eq node
  simp only [nodesSize]
  omega

/-- The trees of a list are no larger than the list. -/
theorem Node.size_le_of_mem
    {node : Node}
    {nodes : List Node}
    (member : node ∈ nodes) :
    node.size ≤ nodesSize nodes := by
  induction nodes with
  | nil =>
      simp at member
  | cons first rest inductionHypothesis =>
      simp only [nodesSize]
      rcases List.mem_cons.mp member with isFirst | inRest
      · subst isFirst
        omega
      · have bound := inductionHypothesis inRest
        omega

/-- Induction over trees: a statement about a node may use it of the children. -/
theorem Node.childInduction
    {motive : Node → Prop}
    (step : ∀ node,
      (∀ child ∈ node.children, motive child) → motive node)
    (node : Node) :
    motive node := by
  induction size : node.size using Nat.strongRecOn generalizing node with
  | ind bound inductionHypothesis =>
      subst size
      refine step node ?_
      intro child member
      refine inductionHypothesis child.size ?_ child rfl
      have bound := Node.size_le_of_mem member
      have size := Node.size_eq node
      omega

@[simp] theorem Node.descend?_nil (node : Node) :
    node.descend? [] = some node :=
  rfl

/-- The first number of a position leads to a child. -/
theorem Node.descend?_cons_eq_some_iff
    {node found : Node}
    {index : Nat}
    {rest : List Nat} :
    node.descend? (index :: rest) = some found ↔
      ∃ child, node.children[index]? = some child ∧ child.descend? rest = some found :=
  Option.bind_eq_some_iff

/-- A position is met before another when a tree is read. -/
def ReadBefore (first second : List Nat) : Prop :=
  List.Lex (fun left right => left < right) first second

/-- A named node without an error, on the first line. -/
def spanNode
    (kind : String)
    (field : Option String)
    (start stop : Nat)
    (children : List Node) :
    Node :=
  .mk ⟨kind, true, false, false, field, start, stop, ⟨0, start⟩⟩ children

end JavaOutline
