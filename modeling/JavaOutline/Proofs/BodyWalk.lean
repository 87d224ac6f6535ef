import JavaOutline.Outline.Unit
import JavaOutline.Proofs.Outcomes
import JavaOutline.Proofs.TreePosition

namespace JavaOutline

open Text (Bytes)

/-!
# The walk through class bodies, one step at a time

`memberOf`, `membersOf` and `bodyMembers` call each other on ever smaller
trees. This module says once what each of them does with a node of a given
role, and packages their recursion as one induction over lists of nodes.
Statements about outlines cite these equations and do not unfold the walk.
-/

/-- The kinds of nodes that play a role in class bodies. -/
def MemberRole.kinds : MemberRole → List String
  | .callable => ["method_declaration", "constructor_declaration"]
  | .fields => ["field_declaration", "constant_declaration"]
  | .constant => ["enum_constant"]
  | .bodyPart => ["enum_body_declarations"]
  | .type =>
      ["class_declaration", "interface_declaration", "enum_declaration",
        "record_declaration", "annotation_type_declaration"]

/-- A kind has a role exactly if it is listed under it. -/
theorem memberRole?_eq_some_iff
    {kind : String}
    {role : MemberRole} :
    memberRole? kind = some role ↔ kind ∈ role.kinds := by
  have typeKinds : typeDeclarationKinds = MemberRole.type.kinds := rfl
  unfold memberRole?
  split
  -- only the last branch reads the list of type kinds
  case h_7 =>
    rw [typeKinds]
    by_cases isType : kind ∈ MemberRole.type.kinds
    · have notOther : kind ∈ role.kinds ↔ role = .type := by
        cases role <;> simp_all [MemberRole.kinds]
      simp [isType, notOther, eq_comm]
    · have notListed : kind ∉ role.kinds := by
        cases role <;> simp_all [MemberRole.kinds]
      simp [isType, notListed]
  all_goals
    cases role <;> simp [MemberRole.kinds]

/-- Only named nodes play a role, by their kind. -/
theorem NodeInfo.memberRole?_eq_some_iff
    {info : NodeInfo}
    {role : MemberRole} :
    info.memberRole? = some role ↔
      info.named = true ∧ info.kind ∈ role.kinds := by
  unfold NodeInfo.memberRole?
  by_cases named : info.named <;>
    simp [named, JavaOutline.memberRole?_eq_some_iff]

/-- A named node without a role has a kind that is not listed. -/
theorem NodeInfo.not_mem_kinds
    {info : NodeInfo}
    (named : info.named = true)
    (noRole : info.memberRole? = none)
    (role : MemberRole) :
    info.kind ∉ role.kinds := by
  intro listed
  have played : info.memberRole? = some role :=
    NodeInfo.memberRole?_eq_some_iff.mpr ⟨named, listed⟩
  rw [noRole] at played
  contradiction

/-- A node plays one role only. -/
theorem NodeInfo.not_mem_kinds_of_ne
    {info : NodeInfo}
    {role other : MemberRole}
    (played : info.memberRole? = some role)
    (different : role ≠ other) :
    info.kind ∉ other.kinds := by
  intro listed
  have named := (NodeInfo.memberRole?_eq_some_iff.mp played).1
  have playsOther : info.memberRole? = some other :=
    NodeInfo.memberRole?_eq_some_iff.mpr ⟨named, listed⟩
  rw [played] at playsOther
  exact different (Option.some.inj playsOther)

/-- The kinds of types that are recorded: all but annotation types. -/
def recordedTypeKinds : List String :=
  ["class_declaration", "interface_declaration", "enum_declaration", "record_declaration"]

theorem mem_recordedTypeKinds_iff
    {kind : String} :
    kind ∈ recordedTypeKinds ↔ kind ∈ MemberRole.type.kinds ∧ kind ≠ annotationKind := by
  constructor
  · intro listed
    simp only [recordedTypeKinds, List.mem_cons, List.not_mem_nil, or_false] at listed
    rcases listed with rfl | rfl | rfl | rfl <;> decide
  · rintro ⟨type, recorded⟩
    simp_all [MemberRole.kinds, recordedTypeKinds, annotationKind]

section Parameters

variable {source : Bytes} {node : Node}

/-- A formal parameter is read before those after it. -/
theorem readArguments_formal
    (named : node.info.named = true)
    (kind : node.kind = "formal_parameter")
    (rest : List Node) :
    readArguments source (node :: rest) = (do
      let first ← formalArgument source node
      let others ← readArguments source rest
      .ok (first :: others)) := by
  rw [readArguments, kind, if_pos named]
  rfl

/-- A variable-arity parameter is read before those after it. -/
theorem readArguments_spread
    (named : node.info.named = true)
    (kind : node.kind = "spread_parameter")
    (rest : List Node) :
    readArguments source (node :: rest) = (do
      let first ← spreadArgument source node
      let others ← readArguments source rest
      .ok (first :: others)) := by
  rw [readArguments, kind, if_pos named]
  rfl

/-- Whatever declares no parameter is passed over. -/
theorem readArguments_passedOver
    (other : node.info.named = true →
      node.kind ≠ "formal_parameter" ∧ node.kind ≠ "spread_parameter")
    (rest : List Node) :
    readArguments source (node :: rest) = readArguments source rest := by
  rw [readArguments]
  by_cases named : node.info.named = true
  · obtain ⟨notFormal, notSpread⟩ := other named
    have unshaped : parameterShape? node.kind = none := by
      unfold parameterShape?
      split
      · contradiction
      · contradiction
      · rfl
    rw [if_pos named, unshaped]
  · rw [if_neg named]

/-- Whatever holds of each parameter that is read holds of all arguments. -/
theorem readArguments_forall
    {holds : Argument → Prop}
    {nodes : List Node}
    {arguments : List Argument}
    (formal : ∀ node ∈ nodes,
      node.info.named = true →
      node.kind = "formal_parameter" →
      ∀ argument, formalArgument source node = .ok argument → holds argument)
    (spread : ∀ node ∈ nodes,
      node.info.named = true →
      node.kind = "spread_parameter" →
      ∀ argument, spreadArgument source node = .ok argument → holds argument)
    (read : readArguments source nodes = .ok arguments) :
    ∀ argument ∈ arguments, holds argument := by
  induction nodes generalizing arguments with
  | nil =>
      cases read
      exact List.forall_mem_nil _
  | cons node rest inductionHypothesis =>
      have others : ∀ {later : List Argument},
          readArguments source rest = .ok later →
          ∀ argument ∈ later, holds argument :=
        inductionHypothesis
          (fun other inRest => formal other (List.mem_cons_of_mem node inRest))
          (fun other inRest => spread other (List.mem_cons_of_mem node inRest))
      by_cases isFormal : node.info.named = true ∧ node.kind = "formal_parameter"
      · obtain ⟨named, kind⟩ := isFormal
        rw [readArguments_formal named kind] at read
        obtain ⟨first, firstRead, afterFirst⟩ := bind_eq_ok_iff.mp read
        obtain ⟨later, laterRead, same⟩ := bind_eq_ok_iff.mp afterFirst
        cases same
        have own := formal node List.mem_cons_self named kind first firstRead
        exact List.forall_mem_cons.mpr ⟨own, others laterRead⟩
      · by_cases isSpread : node.info.named = true ∧ node.kind = "spread_parameter"
        · obtain ⟨named, kind⟩ := isSpread
          rw [readArguments_spread named kind] at read
          obtain ⟨first, firstRead, afterFirst⟩ := bind_eq_ok_iff.mp read
          obtain ⟨later, laterRead, same⟩ := bind_eq_ok_iff.mp afterFirst
          cases same
          have own := spread node List.mem_cons_self named kind first firstRead
          exact List.forall_mem_cons.mpr ⟨own, others laterRead⟩
        · rw [readArguments_passedOver fun named =>
            ⟨fun kind => isFormal ⟨named, kind⟩, fun kind => isSpread ⟨named, kind⟩⟩] at read
          exact others read

end Parameters

section Steps

variable {source : Bytes} {owner : ClassName} {node : Node}

/-- A node without a role gives nothing. -/
theorem memberOf_passedOver
    (role : node.info.memberRole? = none) :
    memberOf source owner node = pure [] := by
  cases node
  simp only [Node.info_mk] at role
  rw [memberOf, role]

/-- A method or a constructor gives one method. -/
theorem memberOf_callable
    (role : node.info.memberRole? = some .callable) :
    memberOf source owner node = do
      let method ← methodOf source owner node
      return [.method method] := by
  cases node
  simp only [Node.info_mk] at role
  rw [memberOf, role]

/-- A declaration of fields gives one field for each declarator. -/
theorem memberOf_fields
    (role : node.info.memberRole? = some .fields) :
    memberOf source owner node = do
      let fields ← .ofExcept (fieldsOf source owner node)
      return fields.map .field := by
  cases node
  simp only [Node.info_mk] at role
  rw [memberOf, role]

/-- An enum constant gives one field. -/
theorem memberOf_constant
    (role : node.info.memberRole? = some .constant) :
    memberOf source owner node = do
      let field ← .ofExcept (constantOf source owner node)
      return [.field field] := by
  cases node
  simp only [Node.info_mk] at role
  rw [memberOf, role]

/-- The later part of an enum body gives what its own nodes give. -/
theorem memberOf_bodyPart
    (role : node.info.memberRole? = some .bodyPart) :
    memberOf source owner node = membersOf source owner node.children := by
  cases node
  simp only [Node.info_mk] at role
  rw [memberOf, role]
  rfl

/-- A nested type gives its own outline, if it has one. -/
theorem memberOf_type
    (role : node.info.memberRole? = some .type) :
    memberOf source owner node = do
      let nested? ← outlineType source (.body owner) node
      return nested?.toList.map .nested := by
  cases node
  simp only [Node.info_mk] at role
  rw [memberOf, role]
  rfl

/-- The thrown types of a method never make it fail. -/
theorem tellThrown_outcome
    (method : String)
    (thrown : List String) :
    (tellThrown owner method thrown).outcome = .ok () := by
  unfold tellThrown
  split <;> rfl

/-- A method is read from its name and then from its parameters. -/
theorem methodOf_outcome :
    (methodOf source owner node).outcome = (do
      let name ← node.requiredName source
      let arguments ← argumentsOf source (node.childByField? "parameters")
      .ok (.ofParts owner name memberModifiers arguments (returnTypeOf source node)
        ⟨node.text source, .java⟩)) := by
  simp only [methodOf, Traced.outcome_bind, Traced.outcome_ofExcept, tellThrown_outcome,
    Traced.outcome_pure]
  rfl

@[simp] theorem membersOf_nil :
    membersOf source owner [] = pure [] := by
  rw [membersOf]

/-- Nodes of a body are recorded one after the other. -/
theorem membersOf_cons (rest : List Node) :
    membersOf source owner (node :: rest) = do
      let first ← memberOf source owner node
      let others ← membersOf source owner rest
      return first ++ others := by
  rw [membersOf]

/-- Only the first body among the children of a type is walked. -/
theorem bodyMembers_eq (children : List Node) :
    bodyMembers source owner children =
      match children.find? (fun child => child.info.field == some bodyField) with
      | some body => membersOf source owner body.children
      | none => pure [] := by
  induction children with
  | nil =>
      rw [bodyMembers]
      rfl
  | cons child rest inductionHypothesis =>
      rcases child with ⟨info, children⟩
      rw [bodyMembers]
      by_cases isBody : info.field == some bodyField
      · simp [isBody]
      · simp only [isBody, Bool.false_eq_true, ↓reduceIte, List.find?_cons,
          Node.info_mk, inductionHypothesis]

end Steps

/-- The members of a type declaration whose class is named `owner`. -/
def typeMembers
    (source : Bytes)
    (owner : ClassName)
    (node : Node) :
    Traced MissingPart (List Declaration) :=
  match node.childByField? bodyField with
  | some body => membersOf source owner body.children
  | none => pure []

/-- What a recorded type says of itself. -/
def typeHead
    (source : Bytes)
    (scope : Scope)
    (node : Node)
    (identifier : String) :
    ClassHead where
  name := scope.className identifier
  modifiers := scope.modifiers node
  header := ⟨headerOf source node, .java⟩

section Types

variable {source : Bytes} {scope : Scope} {node : Node}

/-- An annotation type is told of and gives nothing. -/
theorem outlineType_skipped
    (skipped : node.kind = annotationKind) :
    outlineType source scope node = do
      .tell (annotationNotice source node)
      return none := by
  rw [outlineType, declareType, if_pos skipped]

/-- Any other type is named first, and recorded once its members are. -/
theorem outlineType_recorded
    (recorded : node.kind ≠ annotationKind) :
    outlineType source scope node = do
      let identifier ← .ofExcept (node.requiredName source)
      let name := scope.className identifier
      let children ← typeMembers source name node
      .tell (.extracted name node.kind children.length)
      return some (.mk (typeHead source scope node identifier) children) := by
  rw [outlineType, declareType, if_neg recorded]
  simp only [bodyMembers_eq]
  rfl

/-- How the outline of a recorded type ends. -/
theorem outlineType_recorded_outcome
    (recorded : node.kind ≠ annotationKind) :
    (outlineType source scope node).outcome = (do
      let identifier ← node.requiredName source
      let children ← (typeMembers source (scope.className identifier) node).outcome
      .ok (some (.mk (typeHead source scope node identifier) children))) := by
  simp only [outlineType_recorded recorded, Traced.outcome_bind,
    Traced.outcome_ofExcept, Traced.outcome_tell, Traced.outcome_pure]
  rfl

/-- Nodes of a unit that declare no type are passed over. -/
theorem outlineTypes_passedOver
    (other : node.info.isNamedOneOf typeDeclarationKinds = false)
    (rest : List Node) :
    outlineTypes source scope (node :: rest) =
      outlineTypes source scope rest := by
  rw [outlineTypes, other]
  rfl

/-- Types of a unit are recorded one after the other. -/
theorem outlineTypes_type
    (type : node.info.isNamedOneOf typeDeclarationKinds = true)
    (rest : List Node) :
    outlineTypes source scope (node :: rest) = do
      let first? ← outlineType source scope node
      let others ← outlineTypes source scope rest
      return first?.toList ++ others := by
  rw [outlineTypes, if_pos type]

end Types

/--
Induction along the walk. A list of nodes is taken apart at its first node, by
the role of that node: the later part of an enum body gives the statement for
its children, and a type gives it for the children of its body.
-/
theorem bodyInduction
    {motive : List Node → Prop}
    (nil : motive [])
    (passedOver : ∀ node rest,
      node.info.memberRole? = none →
      motive rest → motive (node :: rest))
    (callable : ∀ node rest,
      node.info.memberRole? = some .callable →
      motive rest → motive (node :: rest))
    (fields : ∀ node rest,
      node.info.memberRole? = some .fields →
      motive rest → motive (node :: rest))
    (constant : ∀ node rest,
      node.info.memberRole? = some .constant →
      motive rest → motive (node :: rest))
    (bodyPart : ∀ node rest,
      node.info.memberRole? = some .bodyPart →
      motive node.children →
      motive rest → motive (node :: rest))
    (type : ∀ node rest,
      node.info.memberRole? = some .type →
      (∀ body, node.childByField? bodyField = some body → motive body.children) →
      motive rest → motive (node :: rest))
    (nodes : List Node) :
    motive nodes := by
  -- on the number of nodes: the body of a type is two steps down, out of reach
  -- of an induction on the list or on the tree
  induction size : nodesSize nodes using Nat.strongRecOn generalizing nodes with
  | ind bound inductionHypothesis =>
      subst size
      cases nodes with
      | nil =>
          exact nil
      | cons node rest =>
          have tail : motive rest := by
            refine inductionHypothesis (nodesSize rest) ?_ rest rfl
            have size := Node.size_eq node
            simp only [nodesSize]
            omega
          have below : motive node.children :=
            inductionHypothesis (nodesSize node.children)
              (nodesSize_children_lt node rest) node.children rfl
          have inBody : ∀ body,
              node.childByField? bodyField = some body →
              motive body.children := by
            intro body found
            refine inductionHypothesis (nodesSize body.children) ?_ body.children rfl
            have member : body ∈ node.children := List.mem_of_find?_eq_some found
            have bodySize := Node.size_eq body
            have bodyBound := Node.size_le_of_mem member
            have bound := nodesSize_children_lt node rest
            omega
          cases role : node.info.memberRole? with
          | none =>
              exact passedOver node rest role tail
          | some played =>
              cases played with
              | callable =>
                  exact callable node rest role tail
              | fields =>
                  exact fields node rest role tail
              | constant =>
                  exact constant node rest role tail
              | bodyPart =>
                  exact bodyPart node rest role below tail
              | type =>
                  exact type node rest role inBody tail

end JavaOutline
