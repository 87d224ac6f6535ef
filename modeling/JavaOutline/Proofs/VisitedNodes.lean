import JavaOutline.Proofs.DeclarationNodes
import JavaOutline.Proofs.RequiredSites

namespace JavaOutline

open Text (Bytes)

/-!
# Where the walk through a unit goes

The nodes that need a name are listed here once more, now with their positions
and, for types, with the scope that they are declared in. The list is in the
order in which the walk comes to the nodes. Its nodes are the required sites of
the unit, and those among them that are read as types are the types that the
unit declares.
-/

/--
A node that the walk comes to. A type comes with the scope that it is declared
in; other nodes that need a name come without one.
-/
structure Visit where
  position : List Nat
  scope? : Option Scope
  node : Node

namespace Visit

/-- The same node, seen from one step further up. -/
def below (index : Nat) (visit : Visit) : Visit :=
  { visit with position := index :: visit.position }

/-- The node is read as the declaration of a type. -/
def isType (visit : Visit) : Bool :=
  visit.scope?.isSome

/-- The node has no name, which ends the walk. -/
def isUnnamed (visit : Visit) : Bool :=
  visit.node.isUnnamed

end Visit

/-- The visits to nodes, one after the other, when the first is child number `start`. -/
def visitsFrom (visit : Node → List Visit) : Nat → List Node → List Visit
  | _, [] => []
  | start, node :: rest =>
      (visit node).map (.below start) ++ visitsFrom visit (start + 1) rest

/-- The visits to the first of the nodes that is chosen. -/
def firstVisits
    (chosen : Node → Bool)
    (visit : Node → List Visit) :
    Nat → List Node → List Visit
  | _, [] => []
  | start, node :: rest =>
      if chosen node then
        (visit node).map (.below start)
      else
        firstVisits chosen visit (start + 1) rest

/-- The visit to a node that needs a name and is no type. -/
def memberVisit (node : Node) : Visit :=
  ⟨[], none, node⟩

/-- The node that must name a parameter. -/
def parameterVisits (node : Node) : List Visit :=
  if node.info.named then
    match node.kind with
    | "formal_parameter" => [memberVisit node]
    | "spread_parameter" =>
        firstVisits (fun child => child.info.isNamedOneOf ["variable_declarator"])
          (fun declarator => [memberVisit declarator]) 0 node.children
    | _ => []
  else
    []

/-- A method or a constructor, then its parameters. -/
def callableVisits (node : Node) : List Visit :=
  memberVisit node ::
    firstVisits (fun child => child.info.field == some "parameters")
      (fun parameters => visitsFrom parameterVisits 0 parameters.children) 0 node.children

/-- The declarators of a declaration of fields. -/
def declaratorVisits (node : Node) : List Visit :=
  visitsFrom
    (fun child => if child.info.field == some "declarator" then [memberVisit child] else [])
    0 node.children

/-- The name that is written in a declaration, empty if there is none. -/
def Node.writtenName (source : Bytes) (node : Node) : String :=
  ((node.childByField? nameField).map (Node.text source)).getD ""

/-- A node is named as it is written, or it has no name. -/
theorem requiredName_cases (source : Bytes) (node : Node) :
    (node.isUnnamed = true ∧ ∃ missing, node.requiredName source = .error missing) ∨
      node.isUnnamed = false ∧ node.requiredName source = .ok (node.writtenName source) := by
  unfold Node.isUnnamed Node.requiredName Node.require Node.writtenName
  change (Option.isNone (node.childByField? nameField) = true ∧ _) ∨
    Option.isNone (node.childByField? nameField) = false ∧ _
  cases node.childByField? nameField with
  | none =>
      exact .inl ⟨rfl, _, rfl⟩
  | some name =>
      exact .inr ⟨rfl, rfl⟩

mutual

/-- The visits at and below a node in the body of `owner`. -/
def memberVisits (source : Bytes) (owner : ClassName) : Node → List Visit
  | .mk info children =>
      match info.memberRole? with
      | none => []
      | some .callable => callableVisits (.mk info children)
      | some .fields => declaratorVisits (.mk info children)
      | some .constant => [memberVisit (.mk info children)]
      | some .bodyPart => bodyVisits source owner 0 children
      | some .type =>
          if info.kind = annotationKind then
            []
          else
            ⟨[], some (.body owner), .mk info children⟩ ::
              firstBodyVisits source
                (.nested owner ((Node.mk info children).writtenName source)) 0 children

/-- The visits to the nodes in a body of `owner`. -/
def bodyVisits (source : Bytes) (owner : ClassName) : Nat → List Node → List Visit
  | _, [] => []
  | start, node :: rest =>
      (memberVisits source owner node).map (.below start) ++
        bodyVisits source owner (start + 1) rest

/-- The visits to the first body among the children of a type. -/
def firstBodyVisits (source : Bytes) (owner : ClassName) : Nat → List Node → List Visit
  | _, [] => []
  | start, .mk info children :: rest =>
      if info.field == some bodyField then
        (bodyVisits source owner 0 children).map (.below start)
      else
        firstBodyVisits source owner (start + 1) rest

end

/-- The visits in the body of a type whose class is named `owner`. -/
def typeBodyVisits (source : Bytes) (owner : ClassName) (node : Node) : List Visit :=
  firstVisits (fun child => child.info.field == some bodyField)
    (fun body => visitsFrom (memberVisits source owner) 0 body.children) 0 node.children

/-- The visits to a type declaration and in it; annotation types are passed over. -/
def typeVisits (source : Bytes) (scope : Scope) (node : Node) : List Visit :=
  if node.kind = annotationKind then
    []
  else
    ⟨[], some scope, node⟩ ::
      typeBodyVisits source (scope.className (node.writtenName source)) node

/-- The visits to the nodes of a file that may be types. -/
def topLevelVisits (source : Bytes) (scope : Scope) (node : Node) : List Visit :=
  if node.info.isNamedOneOf typeDeclarationKinds then typeVisits source scope node else []

/-- The visits in a compilation unit, in the order in which the walk comes to them. -/
def unitVisits
    (source : Bytes)
    (root : Node)
    (file fallbackPackage : String) :
    List Visit :=
  visitsFrom (topLevelVisits source (.file ⟨file, packageOf source root fallbackPackage⟩))
    0 root.children

section Steps

variable {source : Bytes} {owner : ClassName} {node : Node}

theorem bodyVisits_eq (start : Nat) (nodes : List Node) :
    bodyVisits source owner start nodes =
      visitsFrom (memberVisits source owner) start nodes := by
  induction nodes generalizing start with
  | nil =>
      rw [bodyVisits, visitsFrom]
  | cons node rest inductionHypothesis =>
      rw [bodyVisits, visitsFrom, inductionHypothesis]

theorem firstBodyVisits_eq (start : Nat) (nodes : List Node) :
    firstBodyVisits source owner start nodes =
      firstVisits (fun child => child.info.field == some bodyField)
        (fun body => visitsFrom (memberVisits source owner) 0 body.children) start nodes := by
  induction nodes generalizing start with
  | nil =>
      rw [firstBodyVisits, firstVisits]
  | cons node rest inductionHypothesis =>
      cases node with
      | mk info children =>
          rw [firstBodyVisits, firstVisits, inductionHypothesis, bodyVisits_eq]
          rfl

theorem memberVisits_passedOver
    (role : node.info.memberRole? = none) :
    memberVisits source owner node = [] := by
  cases node
  simp only [Node.info_mk] at role
  rw [memberVisits, role]

theorem memberVisits_callable
    (role : node.info.memberRole? = some .callable) :
    memberVisits source owner node = callableVisits node := by
  cases node
  simp only [Node.info_mk] at role
  rw [memberVisits, role]

theorem memberVisits_fields
    (role : node.info.memberRole? = some .fields) :
    memberVisits source owner node = declaratorVisits node := by
  cases node
  simp only [Node.info_mk] at role
  rw [memberVisits, role]

theorem memberVisits_constant
    (role : node.info.memberRole? = some .constant) :
    memberVisits source owner node = [memberVisit node] := by
  cases node
  simp only [Node.info_mk] at role
  rw [memberVisits, role]

theorem memberVisits_bodyPart
    (role : node.info.memberRole? = some .bodyPart) :
    memberVisits source owner node =
      visitsFrom (memberVisits source owner) 0 node.children := by
  cases node
  simp only [Node.info_mk] at role
  rw [memberVisits, role]
  exact bodyVisits_eq 0 _

/-- A nested type is visited as it would be at top level. -/
theorem memberVisits_type
    (role : node.info.memberRole? = some .type) :
    memberVisits source owner node = typeVisits source (.body owner) node := by
  cases node
  simp only [Node.info_mk] at role
  rw [memberVisits, role, typeVisits, typeBodyVisits]
  simp only [firstBodyVisits_eq]
  rfl

end Steps

section Lists

variable {visit : Node → List Visit} {chosen : Node → Bool}

/-- Every visit is one to some of the nodes, seen from above. -/
theorem mem_visitsFrom
    {start : Nat}
    {nodes : List Node}
    {seen : Visit} :
    seen ∈ visitsFrom visit start nodes ↔
      ∃ offset child inner,
        nodes[offset]? = some child ∧ inner ∈ visit child ∧
          seen = inner.below (start + offset) := by
  induction nodes generalizing start with
  | nil =>
      simp [visitsFrom]
  | cons node others inductionHypothesis =>
      rw [visitsFrom, List.mem_append, List.mem_map, inductionHypothesis]
      constructor
      · rintro (⟨inner, member, rfl⟩ | ⟨offset, child, inner, isChild, member, rfl⟩)
        · exact ⟨0, node, inner, rfl, member, rfl⟩
        · have sameIndex : start + 1 + offset = start + (offset + 1) := by omega
          exact ⟨offset + 1, child, inner, isChild, member, by rw [sameIndex]⟩
      · rintro ⟨offset, child, inner, isChild, member, rfl⟩
        cases offset with
        | zero =>
            obtain rfl := Option.some.inj isChild
            exact .inl ⟨inner, member, rfl⟩
        | succ offset =>
            have sameIndex : start + (offset + 1) = start + 1 + offset := by omega
            exact .inr ⟨offset, child, inner, isChild, member, by rw [sameIndex]⟩

/-- The chosen node is found, and its visits are seen from above. -/
theorem firstVisits_of_find?
    {nodes : List Node}
    {found : Node}
    (visit : Node → List Visit)
    (isFound : nodes.find? chosen = some found)
    (start : Nat) :
    ∃ offset,
      nodes[offset]? = some found ∧
        firstVisits chosen visit start nodes = (visit found).map (.below (start + offset)) := by
  induction nodes generalizing start with
  | nil =>
      cases isFound
  | cons node rest inductionHypothesis =>
      rw [firstVisits]
      by_cases isChosen : chosen node = true
      · rw [List.find?_cons_of_pos isChosen] at isFound
        obtain rfl := Option.some.inj isFound
        exact ⟨0, rfl, if_pos isChosen⟩
      · rw [List.find?_cons_of_neg isChosen] at isFound
        obtain ⟨offset, isChild, visits⟩ := inductionHypothesis isFound (start + 1)
        have sameIndex : start + 1 + offset = start + (offset + 1) := by omega
        exact ⟨offset + 1, isChild, by rw [if_neg isChosen, visits, sameIndex]⟩

theorem firstVisits_of_not_found
    {nodes : List Node}
    (notFound : nodes.find? chosen = none)
    (start : Nat) :
    firstVisits chosen visit start nodes = [] := by
  induction nodes generalizing start with
  | nil =>
      rfl
  | cons node rest inductionHypothesis =>
      have unchosen : ¬ chosen node = true := by
        simpa using List.find?_eq_none.mp notFound node List.mem_cons_self
      rw [List.find?_cons_of_neg unchosen] at notFound
      rw [firstVisits, if_neg unchosen, inductionHypothesis notFound]

end Lists

section Seen

variable {visit : Node → List Visit} {chosen : Node → Bool}
variable {look : Visit → Option Node}

theorem filterMap_map_below
    (sees : ∀ index visit, look (Visit.below index visit) = look visit)
    (index : Nat)
    (visits : List Visit) :
    (visits.map (.below index)).filterMap look = visits.filterMap look := by
  rw [List.filterMap_map]
  exact List.filterMap_congr fun seen _ => sees index seen

theorem filterMap_visitsFrom
    (sees : ∀ index visit, look (Visit.below index visit) = look visit)
    (start : Nat)
    (nodes : List Node) :
    (visitsFrom visit start nodes).filterMap look =
      nodes.flatMap fun node => (visit node).filterMap look := by
  induction nodes generalizing start with
  | nil =>
      rfl
  | cons node rest inductionHypothesis =>
      rw [visitsFrom, List.filterMap_append, filterMap_map_below sees, inductionHypothesis,
        List.flatMap_cons]

theorem filterMap_firstVisits
    (sees : ∀ index visit, look (Visit.below index visit) = look visit)
    (start : Nat)
    (nodes : List Node) :
    (firstVisits chosen visit start nodes).filterMap look =
      match nodes.find? chosen with
      | some found => (visit found).filterMap look
      | none => [] := by
  cases found : nodes.find? chosen with
  | none =>
      rw [firstVisits_of_not_found found]
      rfl
  | some child =>
      obtain ⟨offset, -, visits⟩ := firstVisits_of_find? visit found start
      rw [visits, filterMap_map_below sees]

end Seen

/-- The node of a visit, if it is read as a type. -/
def Visit.typeNode? (visit : Visit) : Option Node :=
  visit.scope?.map fun _ => visit.node

section Nodes

variable {source : Bytes} {node : Node}

theorem map_node_eq_filterMap (visits : List Visit) :
    visits.map Visit.node = visits.filterMap (fun visit => some visit.node) :=
  (congrFun List.filterMap_eq_map visits).symm

theorem map_node_visitsFrom
    (visit : Node → List Visit)
    (start : Nat)
    (nodes : List Node) :
    (visitsFrom visit start nodes).map Visit.node =
      nodes.flatMap fun node => (visit node).map Visit.node := by
  simp only [map_node_eq_filterMap]
  exact filterMap_visitsFrom (fun _ _ => rfl) start nodes

theorem map_node_firstVisits
    (chosen : Node → Bool)
    (visit : Node → List Visit)
    (start : Nat)
    (nodes : List Node) :
    (firstVisits chosen visit start nodes).map Visit.node =
      match nodes.find? chosen with
      | some found => (visit found).map Visit.node
      | none => [] := by
  simp only [map_node_eq_filterMap]
  exact filterMap_firstVisits (fun _ _ => rfl) start nodes

theorem flatMap_filter_eq
    {Item Result : Type}
    (keep : Item → Bool)
    (results : Item → List Result)
    (items : List Item) :
    (items.filter keep).flatMap results =
      items.flatMap fun item => if keep item then results item else [] := by
  induction items with
  | nil =>
      rfl
  | cons item rest inductionHypothesis =>
      by_cases kept : keep item = true <;>
        simp [kept, inductionHypothesis]

theorem map_node_parameterVisits (node : Node) :
    (parameterVisits node).map Visit.node =
      if node.info.named then parameterSites node else [] := by
  unfold parameterVisits
  split
  · split
    case h_1 kind =>
      rw [parameterSites_formal kind]
      rfl
    case h_2 kind =>
      rw [parameterSites_spread kind, map_node_firstVisits, Node.childOfKind?]
      split <;> simp_all [memberVisit]
    case h_3 notFormal notSpread =>
      rw [parameterSites_passedOver notFormal notSpread]
      rfl
  · rfl

/-- A method or a constructor is visited at the nodes that must have a name. -/
theorem map_node_callableVisits (node : Node) :
    (callableVisits node).map Visit.node = callableSites node := by
  rw [callableVisits, List.map_cons, map_node_firstVisits, callableSites, Node.childByField?]
  cases node.children.find? (fun child => child.info.field == some "parameters") with
  | none =>
      rfl
  | some parameters =>
      simp only [map_node_visitsFrom, map_node_parameterVisits, Node.namedChildren,
        flatMap_filter_eq]
      rfl

theorem map_node_declaratorVisits (node : Node) :
    (declaratorVisits node).map Visit.node = node.childrenByField "declarator" := by
  rw [declaratorVisits, map_node_visitsFrom, Node.childrenByField,
    ← List.flatMap_singleton' (List.filter _ _), flatMap_filter_eq]
  refine List.flatMap_congr fun child _ => ?_
  split <;> rfl

/-- The visits in a type are to its sites if those in its body are. -/
theorem map_node_typeVisits
    (kind : node.kind ∈ MemberRole.type.kinds)
    (members : ∀ owner body,
      node.childByField? bodyField = some body →
      body.children.flatMap (fun member => (memberVisits source owner member).map Visit.node) =
        bodySites body.children)
    (scope : Scope) :
    (typeVisits source scope node).map Visit.node = typeSites node := by
  by_cases skipped : node.kind = annotationKind
  · have noSites : typeSites node = [] := by
      simp [typeSites, skipped, annotationKind, recordedTypeKinds]
    rw [typeVisits, if_pos skipped, noSites]
    rfl
  · have recorded : recordedTypeKinds.contains node.kind = true :=
      List.contains_iff_mem.mpr (mem_recordedTypeKinds_iff.mpr ⟨kind, skipped⟩)
    rw [typeVisits, if_neg skipped, typeSites, if_pos recorded, List.map_cons, typeBodyVisits,
      map_node_firstVisits, bodyField, Node.childByField?]
    cases found : node.children.find? (fun child => child.info.field == some "body") with
    | none =>
        rfl
    | some body =>
        refine congrArg (List.cons node) ?_
        exact (map_node_visitsFrom _ _ _).trans (members _ body found)

theorem flatMap_map_node_memberVisits (owner : ClassName) (nodes : List Node) :
    nodes.flatMap (fun node => (memberVisits source owner node).map Visit.node) =
      bodySites nodes := by
  induction nodes using bodyInduction generalizing owner with
  | nil =>
      rfl
  | passedOver node rest role inductionHypothesis =>
      rw [List.flatMap_cons, bodySites_passedOver role, memberVisits_passedOver role,
        inductionHypothesis]
      rfl
  | callable node rest role inductionHypothesis =>
      obtain ⟨named, kind⟩ := NodeInfo.memberRole?_eq_some_iff.mp role
      rw [List.flatMap_cons, bodySites_named named, memberSites_callable kind,
        memberVisits_callable role, map_node_callableVisits, inductionHypothesis]
  | fields node rest role inductionHypothesis =>
      obtain ⟨named, kind⟩ := NodeInfo.memberRole?_eq_some_iff.mp role
      rw [List.flatMap_cons, bodySites_named named, memberSites_fields kind,
        memberVisits_fields role, map_node_declaratorVisits, inductionHypothesis]
  | constant node rest role inductionHypothesis =>
      obtain ⟨named, kind⟩ := NodeInfo.memberRole?_eq_some_iff.mp role
      rw [List.flatMap_cons, bodySites_named named, memberSites_constant kind,
        memberVisits_constant role, inductionHypothesis]
      rfl
  | bodyPart node rest role inPart inductionHypothesis =>
      obtain ⟨named, kind⟩ := NodeInfo.memberRole?_eq_some_iff.mp role
      rw [List.flatMap_cons, bodySites_named named, memberSites_bodyPart kind,
        memberVisits_bodyPart role, map_node_visitsFrom, inPart, inductionHypothesis]
  | type node rest role inBody inductionHypothesis =>
      obtain ⟨named, kind⟩ := NodeInfo.memberRole?_eq_some_iff.mp role
      rw [List.flatMap_cons, bodySites_named named, memberSites_type kind,
        memberVisits_type role, inductionHypothesis,
        map_node_typeVisits kind fun nested body found => inBody body found nested]

theorem map_node_topLevelVisits (scope : Scope) (node : Node) :
    (topLevelVisits source scope node).map Visit.node =
      if node.info.named then typeSites node else [] := by
  by_cases type : node.info.isNamedOneOf typeDeclarationKinds = true
  · obtain ⟨named, listed⟩ := Bool.and_eq_true_iff.mp type
    have kind : node.kind ∈ MemberRole.type.kinds := List.contains_iff_mem.mp listed
    rw [topLevelVisits, if_pos type, if_pos named, map_node_typeVisits kind
      fun owner body _ => flatMap_map_node_memberVisits owner body.children]
  · rw [topLevelVisits, if_neg type]
    by_cases named : node.info.named = true
    · have unlisted : node.kind ∉ typeDeclarationKinds := by
        simpa [NodeInfo.isNamedOneOf, Node.kind, named] using type
      have noSites : typeSites node = [] := by
        simp_all [typeSites, recordedTypeKinds, typeDeclarationKinds, enumKind]
      rw [if_pos named, noSites]
      rfl
    · rw [if_neg named]
      rfl

/-- The walk through a unit comes to the nodes that must have a name. -/
theorem map_node_unitVisits (root : Node) (file fallbackPackage : String) :
    (unitVisits source root file fallbackPackage).map Visit.node = requiredSites root := by
  rw [unitVisits, map_node_visitsFrom, requiredSites, Node.namedChildren, flatMap_filter_eq]
  exact List.flatMap_congr fun node _ => map_node_topLevelVisits _ node

end Nodes

section Types

variable {source : Bytes} {node : Node}

theorem filterMap_typeNode?_visitsFrom
    (visit : Node → List Visit)
    (start : Nat)
    (nodes : List Node) :
    (visitsFrom visit start nodes).filterMap Visit.typeNode? =
      nodes.flatMap fun node => (visit node).filterMap Visit.typeNode? :=
  filterMap_visitsFrom (fun _ _ => rfl) start nodes

theorem filterMap_typeNode?_firstVisits
    (chosen : Node → Bool)
    (visit : Node → List Visit)
    (start : Nat)
    (nodes : List Node) :
    (firstVisits chosen visit start nodes).filterMap Visit.typeNode? =
      match nodes.find? chosen with
      | some found => (visit found).filterMap Visit.typeNode?
      | none => [] :=
  filterMap_firstVisits (fun _ _ => rfl) start nodes

/-- No parameter is read as a type. -/
theorem filterMap_typeNode?_callableVisits (node : Node) :
    (callableVisits node).filterMap Visit.typeNode? = [] := by
  have parameter (node : Node) : (parameterVisits node).filterMap Visit.typeNode? = [] := by
    unfold parameterVisits
    split
    · split
      · rfl
      · rw [filterMap_typeNode?_firstVisits]
        split <;> rfl
      · rfl
    · rfl
  rw [callableVisits, List.filterMap_cons, filterMap_typeNode?_firstVisits]
  simp only [memberVisit, Visit.typeNode?, Option.map_none]
  split
  · rw [filterMap_typeNode?_visitsFrom]
    exact List.flatMap_eq_nil_iff.mpr fun node _ => parameter node
  · rfl

theorem filterMap_typeNode?_declaratorVisits (node : Node) :
    (declaratorVisits node).filterMap Visit.typeNode? = [] := by
  rw [declaratorVisits, filterMap_typeNode?_visitsFrom, List.flatMap_eq_nil_iff]
  intro child _
  split <;> rfl

/-- The types visited in a type are declared in it, if those in its body are members. -/
theorem filterMap_typeNode?_typeVisits
    (recorded : node.kind ≠ annotationKind)
    (members : ∀ owner body,
      node.childByField? bodyField = some body →
      body.children.flatMap
          (fun member => (memberVisits source owner member).filterMap Visit.typeNode?) =
        ((flatMembers body.children).filter Node.isRecordedType).flatMap Node.declaredTypes)
    (scope : Scope) :
    (typeVisits source scope node).filterMap Visit.typeNode? = node.declaredTypes := by
  rw [typeVisits, if_neg recorded, Node.declaredTypes_eq, Node.nestedTypes, Node.members,
    typeBodyVisits, List.filterMap_cons, filterMap_typeNode?_firstVisits, Node.childByField?]
  cases found : node.children.find? (fun child => child.info.field == some bodyField) with
  | none =>
      rfl
  | some body =>
      refine congrArg (List.cons node) ?_
      exact (filterMap_typeNode?_visitsFrom _ _ _).trans (members _ body found)

/-- Members of other roles are no types. -/
theorem filter_flatMembers_of_no_type
    {role : MemberRole}
    {rest : List Node}
    (played : node.info.memberRole? = some role)
    (notPart : role ≠ .bodyPart)
    (notType : role ≠ .type) :
    (flatMembers (node :: rest)).filter Node.isRecordedType =
      (flatMembers rest).filter Node.isRecordedType := by
  have otherKind : node.kind ∉ MemberRole.type.kinds :=
    NodeInfo.not_mem_kinds_of_ne played notType
  have noType : ¬ node.isRecordedType = true := fun recorded =>
    otherKind (mem_recordedTypeKinds_iff.mp (List.contains_iff_mem.mp recorded)).1
  rw [flatMembers_member played notPart, List.filter_cons_of_neg noType]

theorem flatMap_typeNode?_memberVisits (owner : ClassName) (nodes : List Node) :
    nodes.flatMap (fun node => (memberVisits source owner node).filterMap Visit.typeNode?) =
      ((flatMembers nodes).filter Node.isRecordedType).flatMap Node.declaredTypes := by
  induction nodes using bodyInduction generalizing owner with
  | nil =>
      rw [flatMembers]
      rfl
  | passedOver node rest role inductionHypothesis =>
      rw [List.flatMap_cons, flatMembers_passedOver role, memberVisits_passedOver role,
        inductionHypothesis]
      rfl
  | callable node rest role inductionHypothesis =>
      rw [List.flatMap_cons, filter_flatMembers_of_no_type role (by decide) (by decide),
        memberVisits_callable role, filterMap_typeNode?_callableVisits, inductionHypothesis]
      rfl
  | fields node rest role inductionHypothesis =>
      rw [List.flatMap_cons, filter_flatMembers_of_no_type role (by decide) (by decide),
        memberVisits_fields role, filterMap_typeNode?_declaratorVisits, inductionHypothesis]
      rfl
  | constant node rest role inductionHypothesis =>
      rw [List.flatMap_cons, filter_flatMembers_of_no_type role (by decide) (by decide),
        memberVisits_constant role, inductionHypothesis]
      rfl
  | bodyPart node rest role inPart inductionHypothesis =>
      rw [List.flatMap_cons, flatMembers_bodyPart role, memberVisits_bodyPart role,
        filterMap_typeNode?_visitsFrom, inPart, inductionHypothesis, List.filter_append,
        List.flatMap_append]
  | type node rest role inBody inductionHypothesis =>
      rw [List.flatMap_cons, flatMembers_member role (by decide), memberVisits_type role,
        inductionHypothesis]
      by_cases skipped : node.kind = annotationKind
      · have noType : node.isRecordedType = false := by
          rw [Node.isRecordedType, skipped]
          decide
        rw [List.filter_cons_of_neg (ne_true_of_eq_false noType), typeVisits, if_pos skipped]
        rfl
      · have kind := (NodeInfo.memberRole?_eq_some_iff.mp role).2
        have isType : node.isRecordedType = true :=
          List.contains_iff_mem.mpr (mem_recordedTypeKinds_iff.mpr ⟨kind, skipped⟩)
        rw [List.filter_cons_of_pos isType, List.flatMap_cons,
          filterMap_typeNode?_typeVisits skipped fun nested body found =>
            inBody body found nested]

/-- The types that the walk through a unit comes to are those that the unit declares. -/
theorem filterMap_typeNode?_unitVisits (root : Node) (file fallbackPackage : String) :
    (unitVisits source root file fallbackPackage).filterMap Visit.typeNode? =
      unitTypes root := by
  rw [unitVisits, filterMap_typeNode?_visitsFrom, unitTypes, Node.childrenOfKind,
    flatMap_filter_eq]
  refine List.flatMap_congr fun node _ => ?_
  have recordedIff := @isNamedOneOf_recordedTypeKinds_iff node
  unfold topLevelVisits
  by_cases type : node.info.isNamedOneOf typeDeclarationKinds = true
  · rw [if_pos type]
    by_cases skipped : node.kind = annotationKind
    · rw [if_neg fun recorded => (recordedIff.mp recorded).2 skipped, typeVisits,
        if_pos skipped]
      rfl
    · rw [if_pos (recordedIff.mpr ⟨type, skipped⟩), filterMap_typeNode?_typeVisits skipped
        fun owner body _ => flatMap_typeNode?_memberVisits owner body.children]
  · rw [if_neg type, if_neg fun recorded => type (recordedIff.mp recorded).1]
    rfl

end Types

end JavaOutline
