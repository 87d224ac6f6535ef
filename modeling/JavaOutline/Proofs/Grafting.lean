import JavaOutline.Proofs.BodyRecords

namespace JavaOutline

open Text (Bytes)

/-!
# Outlines in another place

Where a type is declared decides what things are called and nothing else. A
type read inside another class has the outline that it has in a file of its
own, with every name hung below that class. Two places in an outline need
care: the type of an enum constant is spelled with the name of its enum, and
only the outermost class keeps the modifiers it was written with.
-/

namespace ClassName

/-- The identifiers of a class and of those around it, outermost first. -/
def identifiers : ClassName → List String
  | .topLevel _ identifier => [identifier]
  | .nested parent identifier => parent.identifiers ++ [identifier]

/-- The name of the same class when its outermost class is declared in `parent`. -/
def graftedOnto : ClassName → ClassName → ClassName
  | .topLevel _ identifier, parent => .nested parent identifier
  | .nested outer identifier, parent => .nested (outer.graftedOnto parent) identifier

/-- A name has the identifiers of another one below those of `parent`, whose place it shares. -/
structure IsGraft (parent name graft : ClassName) : Prop where
  identifiers : graft.identifiers = parent.identifiers ++ name.identifiers
  origin : graft.origin = parent.origin
  shortName : graft.shortName = parent.shortName ++ "$" ++ name.shortName

theorem isGraft_graftedOnto (parent name : ClassName) :
    IsGraft parent name (name.graftedOnto parent) := by
  induction name with
  | topLevel origin identifier =>
      exact ⟨rfl, rfl, rfl⟩
  | nested outer identifier inductionHypothesis =>
      constructor
      · rw [graftedOnto, identifiers, inductionHypothesis.identifiers, List.append_assoc]
        rfl
      · rw [graftedOnto, origin, inductionHypothesis.origin]
      · rw [graftedOnto, shortName, inductionHypothesis.shortName, shortName]
        simp only [String.append_assoc]

end ClassName

/-- The same method in the grafted class. -/
def MethodDecl.graftedOnto (method : MethodDecl) (parent : ClassName) : MethodDecl where
  name := { method.name with owner := method.name.owner.graftedOnto parent }
  owner := method.owner.graftedOnto parent
  modifiers := method.modifiers
  arguments := method.arguments
  returnType := method.returnType
  snippet := method.snippet

/-- The same field in the grafted class, with its type spelled as before. -/
def FieldDecl.graftedOnto (field : FieldDecl) (parent : ClassName) : FieldDecl where
  name := { field.name with owner := field.name.owner.graftedOnto parent }
  owner := field.owner.graftedOnto parent
  modifiers := field.modifiers
  snippet := field.snippet

/-- The same field with another type. -/
def FieldDecl.withType (field : FieldDecl) (typeSignature : String) : FieldDecl :=
  { field with name := { field.name with typeSignature := typeSignature } }

mutual

/-- Two outlines of a type agree, but for modifiers and for names, which are grafted. -/
inductive GraftedClass
    (parent : ClassName) :
    Node → ClassDecl → ClassDecl → Prop where
  | mk
      {node : Node}
      {top low : ClassDecl}
      (name : low.name = top.name.graftedOnto parent)
      (header : low.head.header = top.head.header)
      (synthetic : low.head.synthetic = top.head.synthetic)
      (members : GraftedMembers parent (typeRecords node) top.children low.children) :
      GraftedClass parent node top low

/-- Two records made from one node agree, but for names, which are grafted. -/
inductive GraftedMember
    (parent : ClassName) :
    Node → Declaration → Declaration → Prop where
  | method
      {node : Node}
      {top : MethodDecl}
      (kind : node.kind ∈ ["method_declaration", "constructor_declaration"]) :
      GraftedMember parent node (.method top) (.method (top.graftedOnto parent))
  | variable
      {node : Node}
      {top : FieldDecl}
      (kind : node.kind ∈ ["field_declaration", "constant_declaration"]) :
      GraftedMember parent node (.field top) (.field (top.graftedOnto parent))
  | constant
      {node : Node}
      {top : FieldDecl}
      (kind : node.kind = "enum_constant")
      (type : top.name.typeSignature = top.owner.shortName) :
      GraftedMember parent node
        (.field top)
        (.field
          ((top.graftedOnto parent).withType (top.owner.graftedOnto parent).shortName))
  | nested
      {node : Node}
      {top low : ClassDecl}
      (kind : node.kind ∈ recordedTypeKinds)
      (grafted : GraftedClass parent node top low)
      (topModifiers : top.head.modifiers = .ofList [.privateAccess])
      (lowModifiers : low.head.modifiers = .ofList [.privateAccess]) :
      GraftedMember parent node (.nested top) (.nested low)

/-- Two lists of records agree one by one, each with the node that it is made from. -/
inductive GraftedMembers
    (parent : ClassName) :
    List Node → List Declaration → List Declaration → Prop where
  | nil :
      GraftedMembers parent [] [] []
  | cons
      {node : Node}
      {top low : Declaration}
      {nodes : List Node}
      {tops lows : List Declaration}
      (first : GraftedMember parent node top low)
      (others : GraftedMembers parent nodes tops lows) :
      GraftedMembers parent (node :: nodes) (top :: tops) (low :: lows)

end

section Lists

variable {parent : ClassName}

theorem GraftedMembers.append
    {nodes laterNodes : List Node}
    {tops lows laterTops laterLows : List Declaration}
    (first : GraftedMembers parent nodes tops lows)
    (later : GraftedMembers parent laterNodes laterTops laterLows) :
    GraftedMembers parent (nodes ++ laterNodes) (tops ++ laterTops) (lows ++ laterLows) := by
  induction nodes generalizing tops lows with
  | nil =>
      cases first
      exact later
  | cons node rest inductionHypothesis =>
      cases first with
      | cons member others =>
          exact .cons member (inductionHypothesis others)

theorem GraftedMembers.single
    {node : Node}
    {top low : Declaration}
    (member : GraftedMember parent node top low) :
    GraftedMembers parent [node] [top] [low] :=
  .cons member .nil

/-- Records that are made from one node in the same way for each of several items. -/
theorem GraftedMembers.map
    {Item : Type}
    {node : Node}
    {top low : Item → Declaration}
    (member : ∀ item, GraftedMember parent node (top item) (low item))
    (items : List Item) :
    GraftedMembers parent
      (List.replicate items.length node) (items.map top) (items.map low) := by
  induction items with
  | nil =>
      exact .nil
  | cons item rest inductionHypothesis =>
      exact .cons (member item) inductionHypothesis

end Lists

/-- Every node gives one name. -/
theorem requiredNames_length
    {source : Bytes}
    {nodes : List Node}
    {names : List String}
    (read : requiredNames source nodes = .ok names) :
    names.length = nodes.length := by
  induction nodes generalizing names with
  | nil =>
      cases read
      rfl
  | cons node rest inductionHypothesis =>
      rw [requiredNames] at read
      cases first : node.requiredName source with
      | error missing =>
          rw [first] at read
          contradiction
      | ok name =>
          cases others : requiredNames source rest with
          | error missing =>
              rw [first, others] at read
              contradiction
          | ok otherNames =>
              rw [first, others] at read
              cases read
              rw [List.length_cons, List.length_cons, inductionHypothesis others]

section Members

variable {source : Bytes} {parent owner : ClassName} {node : Node}

/-- A method is read from the same name and the same parameters in both places. -/
theorem memberOf_callable_grafted
    (role : node.info.memberRole? = some .callable) :
    EndAlike (GraftedMembers parent (recordsOf node))
      (memberOf source owner node).outcome
      (memberOf source (owner.graftedOnto parent) node).outcome := by
  have kind := (NodeInfo.memberRole?_eq_some_iff.mp role).2
  rw [recordsOf_single role (by decide) (kind_ne_annotationKind role (by decide))]
  simp only [memberOf_callable role, Traced.outcome_bind, methodOf_outcome,
    Traced.outcome_pure, bind_assoc]
  refine EndAlike.bind_same fun name _ => ?_
  refine EndAlike.bind_same fun arguments _ => ?_
  exact .ended (.single (.method kind))

/-- Fields are read from the same declarators in both places. -/
theorem memberOf_fields_grafted
    (role : node.info.memberRole? = some .fields) :
    EndAlike (GraftedMembers parent (recordsOf node))
      (memberOf source owner node).outcome
      (memberOf source (owner.graftedOnto parent) node).outcome := by
  have kind := (NodeInfo.memberRole?_eq_some_iff.mp role).2
  simp only [memberOf_fields role, fieldsOf, Traced.outcome_bind, Traced.outcome_ofExcept,
    Traced.outcome_pure]
  -- the records share one node, so their number is all that is left to match
  cases read : declaratorNames source node with
  | error missing =>
      exact .failed missing
  | ok names =>
      refine .ended ?_
      rw [recordsOf_fields kind, List.map_const', ← requiredNames_length read,
        List.map_map, List.map_map]
      exact .map (fun name => .variable kind) names

/-- An enum constant has the enum as its type, under the name it has in each place. -/
theorem memberOf_constant_grafted
    (role : node.info.memberRole? = some .constant) :
    EndAlike (GraftedMembers parent (recordsOf node))
      (memberOf source owner node).outcome
      (memberOf source (owner.graftedOnto parent) node).outcome := by
  have kind : node.kind = "enum_constant" :=
    List.mem_singleton.mp (NodeInfo.memberRole?_eq_some_iff.mp role).2
  rw [recordsOf_single role (by decide) (kind_ne_annotationKind role (by decide))]
  simp only [memberOf_constant role, constantOf, Traced.outcome_bind, Traced.outcome_ofExcept,
    Traced.outcome_pure]
  cases node.requiredName source with
  | error missing =>
      exact .failed missing
  | ok name =>
      exact .ended (.single (.constant kind rfl))

end Members

/-- Two outlines of a type, if it has one, with the modifiers that each of them has. -/
inductive GraftedOutline
    (parent : ClassName)
    (topModifiers lowModifiers : ModifierSet)
    (node : Node) :
    Option ClassDecl → Option ClassDecl → Prop where
  | skipped
      (skipped : node.kind = "annotation_type_declaration") :
      GraftedOutline parent topModifiers lowModifiers node none none
  | recorded
      {top low : ClassDecl}
      (recorded : node.kind ≠ "annotation_type_declaration")
      (grafted : GraftedClass parent node top low)
      (topHas : top.head.modifiers = topModifiers)
      (lowHas : low.head.modifiers = lowModifiers) :
      GraftedOutline parent topModifiers lowModifiers node (some top) (some low)

section Types

variable {source : Bytes} {parent owner : ClassName} {node : Node}

/-- Where the members of a type are grafted, so is the type, whatever it is called. -/
theorem outlineType_grafted
    (topScope lowScope : Scope)
    (names : ∀ identifier,
      lowScope.className identifier = (topScope.className identifier).graftedOnto parent)
    (members : ∀ owner body,
      node.childByField? bodyField = some body →
      EndAlike (GraftedMembers parent (bodyRecords body.children))
        (membersOf source owner body.children).outcome
        (membersOf source (owner.graftedOnto parent) body.children).outcome) :
    EndAlike
      (GraftedOutline parent (topScope.modifiers node) (lowScope.modifiers node) node)
      (outlineType source topScope node).outcome
      (outlineType source lowScope node).outcome := by
  by_cases skipped : node.kind = annotationKind
  · rw [outlineType_skipped skipped, outlineType_skipped skipped]
    exact .ended (.skipped skipped)
  · rw [outlineType_recorded_outcome skipped, outlineType_recorded_outcome skipped]
    refine EndAlike.bind_same fun identifier _ => ?_
    have inBody :
        EndAlike (GraftedMembers parent (typeRecords node))
          (typeMembers source (topScope.className identifier) node).outcome
          (typeMembers source (lowScope.className identifier) node).outcome := by
      rw [names identifier]
      unfold typeMembers typeRecords bodyField
      cases found : node.childByField? "body" with
      | none =>
          exact .ended .nil
      | some body =>
          exact members _ body found
    refine inBody.bind fun children => .ended (.recorded skipped ?_ rfl rfl)
    exact .mk (names identifier) rfl rfl children

/-- A nested type is private in both places. -/
theorem memberOf_type_grafted
    (role : node.info.memberRole? = some .type)
    (outlines : EndAlike
      (GraftedOutline parent (.ofList [.privateAccess]) (.ofList [.privateAccess]) node)
      (outlineType source (.body owner) node).outcome
      (outlineType source (.body (owner.graftedOnto parent)) node).outcome) :
    EndAlike (GraftedMembers parent (recordsOf node))
      (memberOf source owner node).outcome
      (memberOf source (owner.graftedOnto parent) node).outcome := by
  have kind := (NodeInfo.memberRole?_eq_some_iff.mp role).2
  simp only [memberOf_type role, Traced.outcome_bind, Traced.outcome_pure]
  refine outlines.bind fun outline => .ended ?_
  cases outline with
  | skipped skipped =>
      rw [recordsOf_skipped skipped]
      exact .nil
  | recorded recorded grafted topHas lowHas =>
      rw [recordsOf_single role (by decide) recorded]
      have listed := mem_recordedTypeKinds_iff.mpr ⟨kind, recorded⟩
      exact .single (.nested listed grafted topHas lowHas)

/-- The records of a node come before those of the nodes after it. -/
theorem membersOf_cons_grafted
    {rest firstRecords otherRecords : List Node}
    (first : EndAlike (GraftedMembers parent firstRecords)
      (memberOf source owner node).outcome
      (memberOf source (owner.graftedOnto parent) node).outcome)
    (others : EndAlike (GraftedMembers parent otherRecords)
      (membersOf source owner rest).outcome
      (membersOf source (owner.graftedOnto parent) rest).outcome) :
    EndAlike (GraftedMembers parent (firstRecords ++ otherRecords))
      (membersOf source owner (node :: rest)).outcome
      (membersOf source (owner.graftedOnto parent) (node :: rest)).outcome := by
  simp only [membersOf_cons, Traced.outcome_bind, Traced.outcome_pure]
  refine first.bind fun firstMembers => ?_
  refine others.bind fun otherMembers => ?_
  exact .ended (firstMembers.append otherMembers)

/-- The walk through a body makes the same records in both places, but for names. -/
theorem membersOf_grafted
    (source : Bytes)
    (parent owner : ClassName)
    (nodes : List Node) :
    EndAlike (GraftedMembers parent (bodyRecords nodes))
      (membersOf source owner nodes).outcome
      (membersOf source (owner.graftedOnto parent) nodes).outcome := by
  induction nodes using bodyInduction generalizing owner with
  | nil =>
      rw [membersOf_nil, membersOf_nil, bodyRecords_nil]
      exact .ended .nil
  | passedOver node rest role inductionHypothesis =>
      rw [bodyRecords_passedOver role, ← List.nil_append (bodyRecords rest)]
      refine membersOf_cons_grafted ?_ (inductionHypothesis owner)
      rw [memberOf_passedOver role, memberOf_passedOver role]
      exact .ended .nil
  | callable node rest role inductionHypothesis =>
      rw [bodyRecords_member role (by decide)]
      exact membersOf_cons_grafted
        (memberOf_callable_grafted role) (inductionHypothesis owner)
  | fields node rest role inductionHypothesis =>
      rw [bodyRecords_member role (by decide)]
      exact membersOf_cons_grafted
        (memberOf_fields_grafted role) (inductionHypothesis owner)
  | constant node rest role inductionHypothesis =>
      rw [bodyRecords_member role (by decide)]
      exact membersOf_cons_grafted
        (memberOf_constant_grafted role) (inductionHypothesis owner)
  | bodyPart node rest role inPart inductionHypothesis =>
      rw [bodyRecords_bodyPart role]
      refine membersOf_cons_grafted ?_ (inductionHypothesis owner)
      rw [memberOf_bodyPart role, memberOf_bodyPart role]
      exact inPart owner
  | type node rest role inBody inductionHypothesis =>
      rw [bodyRecords_member role (by decide)]
      -- the members of a nested type have another owner, which is grafted as well
      have outlines :=
        outlineType_grafted (.body owner) (.body (owner.graftedOnto parent))
          (fun identifier => rfl)
          (fun inner body found => inBody body found inner)
      exact membersOf_cons_grafted
        (memberOf_type_grafted role outlines) (inductionHypothesis owner)

end Types

/--
A type read in the body of `parent` has the outline that it has in a file: both
readings leave it out, both fail in the same way, or both record it with
members that agree one by one. Names are grafted onto `parent`, an enum
constant has the name of its own enum as its type, and the type itself is
private in the body and as it is written in the file.
-/
theorem outlineType_nested_grafts_top_level
    (source : Bytes)
    (node : Node)
    (parent : ClassName)
    (origin : Origin) :
    EndAlike
        (GraftedOutline parent (declaredModifiers node) (.ofList [.privateAccess]) node)
        (outlineType source (.file origin) node).outcome
        (outlineType source (.body parent) node).outcome ∧
      ∀ name : ClassName, ClassName.IsGraft parent name (name.graftedOnto parent) := by
  constructor
  · exact outlineType_grafted (.file origin) (.body parent)
      (fun identifier => rfl)
      (fun owner body _ => membersOf_grafted source parent owner body.children)
  · exact ClassName.isGraft_graftedOnto parent

end JavaOutline
