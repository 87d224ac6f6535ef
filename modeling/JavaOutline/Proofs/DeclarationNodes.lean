import JavaOutline.Proofs.Ownership

namespace JavaOutline

open Text (Bytes)

/-!
# The nodes that classes are made from

The types of a compilation unit are listed here from its tree alone, outer types
first and in source order. The classes of an outline, walked in the same order,
are made from these nodes one by one. So whatever is said of a class can be said
of its own node, and that node lies in the tree.
-/

namespace Node

mutual

/-- The node and every node below it, outer nodes first. -/
def subtrees : Node → List Node
  | .mk info children => .mk info children :: subtreesOf children

def subtreesOf : List Node → List Node
  | [] => []
  | node :: rest => node.subtrees ++ subtreesOf rest

end

theorem subtreesOf_eq (nodes : List Node) :
    subtreesOf nodes = nodes.flatMap subtrees := by
  induction nodes with
  | nil =>
      rw [subtreesOf, List.flatMap_nil]
  | cons node rest inductionHypothesis =>
      rw [subtreesOf, inductionHypothesis, List.flatMap_cons]

theorem subtrees_eq (node : Node) :
    node.subtrees = node :: node.children.flatMap subtrees := by
  cases node
  rw [subtrees, subtreesOf_eq]
  rfl

theorem mem_subtrees_self (node : Node) :
    node ∈ node.subtrees := by
  rw [subtrees_eq]
  exact List.mem_cons_self

theorem mem_subtrees_of_child
    {node child below : Node}
    (isChild : child ∈ node.children)
    (isBelow : below ∈ child.subtrees) :
    below ∈ node.subtrees := by
  rw [subtrees_eq]
  exact List.mem_cons_of_mem _ (List.mem_flatMap.mpr ⟨child, isChild, isBelow⟩)

theorem mem_subtrees_trans
    {node middle below : Node}
    (isBelow : below ∈ middle.subtrees)
    (isMiddle : middle ∈ node.subtrees) :
    below ∈ node.subtrees := by
  induction node using childInduction with
  | step node inductionHypothesis =>
      rw [subtrees_eq] at isMiddle
      rcases List.mem_cons.mp isMiddle with isNode | further
      · subst isNode
        exact isBelow
      · obtain ⟨child, isChild, inChild⟩ := List.mem_flatMap.mp further
        exact mem_subtrees_of_child isChild (inductionHypothesis child isChild inChild)

theorem size_le_of_mem_subtrees
    {node below : Node}
    (isBelow : below ∈ node.subtrees) :
    below.size ≤ node.size := by
  induction node using childInduction with
  | step node inductionHypothesis =>
      rw [subtrees_eq] at isBelow
      rcases List.mem_cons.mp isBelow with isNode | further
      · subst isNode
        exact Nat.le_refl _
      · obtain ⟨child, isChild, inChild⟩ := List.mem_flatMap.mp further
        have childBound := size_le_of_mem isChild
        have nodeSize := size_eq node
        have bound := inductionHypothesis child isChild inChild
        omega

/-- A node is of a kind that declares a type and is recorded. -/
def isRecordedType (node : Node) : Bool :=
  recordedTypeKinds.contains node.kind

/-- The members that declare a type and are recorded. -/
def nestedTypes (node : Node) : List Node :=
  node.members.filter isRecordedType

end Node

section Members

theorem exists_child_of_mem_flatMembers
    {member : Node}
    {nodes : List Node}
    (isMember : member ∈ flatMembers nodes) :
    ∃ child ∈ nodes, member ∈ child.subtrees := by
  induction nodes using memberInduction with
  | nil =>
      rw [flatMembers] at isMember
      cases isMember
  | passedOver node rest role inductionHypothesis =>
      rw [flatMembers_passedOver role] at isMember
      obtain ⟨child, inRest, isBelow⟩ := inductionHypothesis isMember
      exact ⟨child, List.mem_cons_of_mem node inRest, isBelow⟩
  | member node rest role played notPart inductionHypothesis =>
      rw [flatMembers_member played notPart] at isMember
      rcases List.mem_cons.mp isMember with isNode | further
      · subst isNode
        exact ⟨member, List.mem_cons_self, member.mem_subtrees_self⟩
      · obtain ⟨child, inRest, isBelow⟩ := inductionHypothesis further
        exact ⟨child, List.mem_cons_of_mem node inRest, isBelow⟩
  | bodyPart node rest role inPart inductionHypothesis =>
      rw [flatMembers_bodyPart role] at isMember
      rcases List.mem_append.mp isMember with inside | further
      · obtain ⟨child, isChild, isBelow⟩ := inPart inside
        exact ⟨node, List.mem_cons_self, Node.mem_subtrees_of_child isChild isBelow⟩
      · obtain ⟨child, inRest, isBelow⟩ := inductionHypothesis further
        exact ⟨child, List.mem_cons_of_mem node inRest, isBelow⟩

theorem exists_body_of_mem_members
    {node member : Node}
    (isMember : member ∈ node.members) :
    ∃ body ∈ node.children, ∃ child ∈ body.children, member ∈ child.subtrees := by
  rw [Node.members] at isMember
  cases found : node.childByField? bodyField with
  | none =>
      rw [found] at isMember
      cases isMember
  | some body =>
      rw [found] at isMember
      exact ⟨body, List.mem_of_find?_eq_some found, exists_child_of_mem_flatMembers isMember⟩

theorem Node.mem_subtrees_of_mem_members
    {node member : Node}
    (isMember : member ∈ node.members) :
    member ∈ node.subtrees := by
  obtain ⟨body, isBody, child, isChild, isBelow⟩ := exists_body_of_mem_members isMember
  exact mem_subtrees_of_child isBody (mem_subtrees_of_child isChild isBelow)

theorem Node.size_lt_of_mem_members
    {node member : Node}
    (isMember : member ∈ node.members) :
    member.size < node.size := by
  obtain ⟨body, isBody, child, isChild, isBelow⟩ := exists_body_of_mem_members isMember
  have memberBound := size_le_of_mem_subtrees isBelow
  have childBound := size_le_of_mem isChild
  have bodyBound := size_le_of_mem isBody
  have bodySize := size_eq body
  have nodeSize := size_eq node
  omega

end Members

/-- A type declaration and every type declared in it, outer types first. -/
def Node.declaredTypes (node : Node) : List Node :=
  node :: node.nestedTypes.attach.flatMap fun inner => inner.val.declaredTypes
  termination_by node.size
  decreasing_by
    exact Node.size_lt_of_mem_members (List.mem_of_mem_filter inner.property)

theorem Node.declaredTypes_eq (node : Node) :
    node.declaredTypes = node :: node.nestedTypes.flatMap declaredTypes := by
  have plain := List.flatMap_subtype
    (l := node.nestedTypes.attach)
    (f := fun inner => inner.val.declaredTypes)
    fun inner _ => rfl
  rw [declaredTypes, plain, List.unattach_attach]

/-- The types that a compilation unit declares, outer types first. -/
def unitTypes (root : Node) : List Node :=
  (root.childrenOfKind recordedTypeKinds).flatMap Node.declaredTypes

/-- A class is the outline of a node, in whatever scope the node is read. -/
def OutlineOf (source : Bytes) (node : Node) (declared : ClassDecl) : Prop :=
  ∃ scope, (outlineType source scope node).outcome = .ok (some declared)

section Classes

variable {source : Bytes} {owner : ClassName} {scope : Scope} {node : Node}

theorem Node.isRecordedType_eq_false
    {kinds : List String}
    (kind : node.kind ∈ kinds)
    (others : ∀ other ∈ kinds, other ∉ recordedTypeKinds) :
    node.isRecordedType = false := by
  have notListed := others node.kind kind
  simp [isRecordedType, notListed]

/-- A member gives a nested class exactly if it declares a type that is recorded. -/
theorem Recorded.nested_cases
    {records : List Declaration}
    (recorded : Recorded source owner node records) :
    (node.isRecordedType = true ∧
        ∃ inner,
          (outlineType source (.body owner) node).outcome = .ok (some inner) ∧
            records.filterMap Declaration.nested? = [inner]) ∨
      node.isRecordedType = false ∧
        records.filterMap Declaration.nested? = [] := by
  cases recorded with
  | method kind read =>
      exact .inr ⟨Node.isRecordedType_eq_false kind (by decide), rfl⟩
  | fields kind each =>
      refine .inr ⟨Node.isRecordedType_eq_false kind (by decide), ?_⟩
      simp [List.filterMap_map, Function.comp_def, Declaration.nested?]
  | constant kind read =>
      have listed := List.mem_singleton.mpr kind
      exact .inr ⟨Node.isRecordedType_eq_false listed (by decide), rfl⟩
  | nested kind read =>
      exact .inl ⟨List.contains_iff_mem.mpr kind, _, read, rfl⟩
  | skipped kind =>
      have listed := List.mem_singleton.mpr kind
      exact .inr ⟨Node.isRecordedType_eq_false listed (by decide), rfl⟩

/-- The nested classes among records come from the members that declare types, in order. -/
theorem RecordedInOrder.nestedTypes
    {members : List Node}
    {declarations : List Declaration}
    (inOrder : RecordedInOrder source owner members declarations) :
    List.Forall₂
      (fun member inner => (outlineType source (.body owner) member).outcome = .ok (some inner))
      (members.filter Node.isRecordedType)
      (declarations.filterMap Declaration.nested?) := by
  obtain ⟨groups, recorded, rfl⟩ := inOrder
  induction recorded with
  | nil =>
      exact .nil
  | cons first _ inductionHypothesis =>
      rw [List.flatten_cons, List.filterMap_append]
      rcases first.nested_cases with ⟨isType, inner, outlined, records⟩ | ⟨noType, records⟩
      · rw [List.filter_cons_of_pos isType, records]
        exact .cons outlined inductionHypothesis
      · rw [List.filter_cons_of_neg (ne_true_of_eq_false noType), records]
        exact inductionHypothesis

/-- The classes in the outline of a type are made from the types declared in its node. -/
theorem outlineOf_declaredTypes
    {declared : ClassDecl}
    (ended : (outlineType source scope node).outcome = .ok (some declared)) :
    List.Forall₂ (OutlineOf source) node.declaredTypes declared.walk := by
  induction node using Node.declaredTypes.induct generalizing scope declared with
  | case1 node inductionHypothesis =>
      have members := typeMembers_eq_ok_iff.mp (outlineType_eq_ok_some ended).2
      have inner :
          ∀ member ∈ node.nestedTypes, ∀ {scope : Scope} {declared : ClassDecl},
            (outlineType source scope member).outcome = .ok (some declared) →
            List.Forall₂ (OutlineOf source) member.declaredTypes declared.walk :=
        fun member isNested => inductionHypothesis ⟨member, isNested⟩
      rw [Node.declaredTypes_eq, ClassDecl.walk_eq]
      refine .cons ⟨scope, ended⟩ ?_
      refine List.rel_flatMap
        ((List.forall₂_and_left _ _).mpr ⟨inner, members.nestedTypes⟩) ?_
      rintro member innerClass ⟨further, outlined⟩
      exact further outlined

/-- The classes of a unit, walked in order, are made from the types that it declares. -/
theorem outlineUnit_forall₂
    {root : Node}
    {file fallbackPackage : String}
    {classes : List ClassDecl}
    (ended : (outlineUnit source root file fallbackPackage).outcome = .ok classes) :
    List.Forall₂ (OutlineOf source) (unitTypes root) (classes.flatMap ClassDecl.walk) := by
  refine List.rel_flatMap (outlineTypes_eq_ok_iff.mp ended) ?_
  intro node declared outlined
  exact outlineOf_declaredTypes outlined

end Classes

section OwnNode

variable {source : Bytes} {node : Node} {declared : ClassDecl}

theorem OutlineOf.requiredName
    (outlined : OutlineOf source node declared) :
    node.requiredName source = .ok declared.name.identifier := by
  obtain ⟨scope, ended⟩ := outlined
  rw [outlineType_recorded_outcome (recorded_of_outlineType_eq_ok_some ended)] at ended
  obtain ⟨identifier, named, afterName⟩ := bind_eq_ok_iff.mp ended
  obtain ⟨children, -, same⟩ := bind_eq_ok_iff.mp afterName
  cases same
  rw [named]
  cases scope <;> rfl

theorem OutlineOf.recordedInOrder
    (outlined : OutlineOf source node declared) :
    RecordedInOrder source declared.name node.members declared.children := by
  obtain ⟨scope, ended⟩ := outlined
  exact typeMembers_eq_ok_iff.mp (outlineType_eq_ok_some ended).2

/-- The header of a class is that of its own node. -/
theorem OutlineOf.header
    (outlined : OutlineOf source node declared) :
    declared.head.header.text = headerOf source node := by
  obtain ⟨scope, ended⟩ := outlined
  obtain ⟨⟨identifier, head⟩, -⟩ := outlineType_eq_ok_some ended
  rw [head]
  rfl

end OwnNode

section Places

theorem exists_related_of_mem
    {First Second : Type}
    {related : First → Second → Prop}
    {first : List First}
    {second : List Second}
    {item : Second}
    (inOrder : List.Forall₂ related first second)
    (present : item ∈ second) :
    ∃ other ∈ first, related other item := by
  induction inOrder with
  | nil =>
      cases present
  | cons heads _ inductionHypothesis =>
      rcases List.mem_cons.mp present with isHead | inTail
      · subst isHead
        exact ⟨_, List.mem_cons_self, heads⟩
      · obtain ⟨other, inFirst, tails⟩ := inductionHypothesis inTail
        exact ⟨other, List.mem_cons_of_mem _ inFirst, tails⟩

theorem Node.mem_subtrees_of_mem_declaredTypes
    {node inner : Node}
    (declared : inner ∈ node.declaredTypes) :
    inner ∈ node.subtrees := by
  induction node using Node.declaredTypes.induct with
  | case1 node inductionHypothesis =>
      rw [declaredTypes_eq] at declared
      rcases List.mem_cons.mp declared with isNode | further
      · subst isNode
        exact inner.mem_subtrees_self
      · obtain ⟨member, isNested, inMember⟩ := List.mem_flatMap.mp further
        exact mem_subtrees_trans
          (inductionHypothesis ⟨member, isNested⟩ inMember)
          (mem_subtrees_of_mem_members (List.mem_of_mem_filter isNested))

/-- The types that a unit declares are nodes of its tree. -/
theorem mem_subtrees_of_mem_unitTypes
    {root node : Node}
    (declared : node ∈ unitTypes root) :
    node ∈ root.subtrees := by
  obtain ⟨top, isTop, inTop⟩ := List.mem_flatMap.mp declared
  exact Node.mem_subtrees_of_child (List.mem_of_mem_filter isTop)
    (Node.mem_subtrees_of_mem_declaredTypes inTop)

end Places

end JavaOutline
