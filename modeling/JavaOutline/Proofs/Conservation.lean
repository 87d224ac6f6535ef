import Mathlib.Data.List.Forall2
import JavaOutline.Proofs.BodyRecords

namespace JavaOutline

open Text (Bytes)

/-!
# Every member is recorded, once and in order

What a body gives is read off its flattened list of members, one member after
the other. So the records of two lists of nodes are put together by appending
them, and it does not matter which of the members stand in the later part of an
enum body. A compilation unit gives one class for each of its own types that is
recorded. Its types are put together in the same way as members, as long as the
package stays the same.
-/

/-- The field that one declarator of a declaration stands for. -/
def DeclaresField
    (source : Bytes)
    (owner : ClassName)
    (declaration declarator : Node)
    (field : FieldDecl) : Prop :=
  ∃ name,
    declarator.requiredName source = .ok name ∧
      field =
        .ofParts owner name (typeOf? source (declaration.childByField? "type")).signature
          memberModifiers ⟨declaration.text source, .java⟩

/-- The records that a member of the class `owner` stands for. -/
inductive Recorded
    (source : Bytes)
    (owner : ClassName) :
    Node → List Declaration → Prop where
  | method
      {node : Node}
      {method : MethodDecl}
      (kind : node.kind ∈ ["method_declaration", "constructor_declaration"])
      (read : (methodOf source owner node).outcome = .ok method) :
      Recorded source owner node [.method method]
  | fields
      {node : Node}
      {fields : List FieldDecl}
      (kind : node.kind ∈ ["field_declaration", "constant_declaration"])
      (each :
        List.Forall₂ (DeclaresField source owner node)
          (node.childrenByField "declarator") fields) :
      Recorded source owner node (fields.map .field)
  | constant
      {node : Node}
      {field : FieldDecl}
      (kind : node.kind = "enum_constant")
      (read : constantOf source owner node = .ok field) :
      Recorded source owner node [.field field]
  | nested
      {node : Node}
      {declared : ClassDecl}
      (kind : node.kind ∈ recordedTypeKinds)
      (read : (outlineType source (.body owner) node).outcome = .ok (some declared)) :
      Recorded source owner node [.nested declared]
  | skipped
      {node : Node}
      (kind : node.kind = "annotation_type_declaration") :
      Recorded source owner node []

/-- The records of several members, those of each member together and in order. -/
def RecordedInOrder
    (source : Bytes)
    (owner : ClassName)
    (members : List Node)
    (declarations : List Declaration) : Prop :=
  ∃ groups : List (List Declaration),
    List.Forall₂ (Recorded source owner) members groups ∧ declarations = groups.flatten

/-- No record comes from nowhere. -/
theorem RecordedInOrder.exists_member
    {source : Bytes}
    {owner : ClassName}
    {members : List Node}
    {declarations : List Declaration}
    {declaration : Declaration}
    (inOrder : RecordedInOrder source owner members declarations)
    (present : declaration ∈ declarations) :
    ∃ member ∈ members, ∃ records,
      Recorded source owner member records ∧ declaration ∈ records := by
  obtain ⟨groups, recorded, rfl⟩ := inOrder
  induction recorded with
  | nil =>
      cases present
  | cons first _ inductionHypothesis =>
      rcases List.mem_append.mp present with inFirst | inOthers
      · exact ⟨_, List.mem_cons_self, _, first, inFirst⟩
      · obtain ⟨member, inRest, found⟩ := inductionHypothesis inOthers
        exact ⟨member, List.mem_cons_of_mem _ inRest, found⟩

section Fields

variable {source : Bytes} {owner : ClassName}

theorem requiredNames_eq_ok_iff
    {nodes : List Node}
    {names : List String} :
    requiredNames source nodes = .ok names ↔
      List.Forall₂ (fun node name => node.requiredName source = .ok name) nodes names := by
  induction nodes generalizing names with
  | nil =>
      rw [List.forall₂_nil_left_iff, requiredNames, Except.ok.injEq, eq_comm]
  | cons node rest inductionHypothesis =>
      rw [List.forall₂_cons_left_iff, requiredNames, bind_eq_ok_iff]
      constructor
      · rintro ⟨first, firstRead, others⟩
        obtain ⟨otherNames, othersRead, same⟩ := bind_eq_ok_iff.mp others
        exact ⟨first, otherNames, firstRead, inductionHypothesis.mp othersRead,
          (Except.ok.inj same).symm⟩
      · rintro ⟨first, otherNames, firstRead, othersRead, rfl⟩
        refine ⟨first, firstRead, bind_eq_ok_iff.mpr ⟨otherNames, ?_, rfl⟩⟩
        exact inductionHypothesis.mpr othersRead

/-- A declaration of fields has one record for each declarator, in their order. -/
theorem fieldsOf_eq_ok_iff
    {node : Node}
    {fields : List FieldDecl} :
    fieldsOf source owner node = .ok fields ↔
      List.Forall₂ (DeclaresField source owner node)
        (node.childrenByField "declarator") fields := by
  rw [fieldsOf, map_eq_ok_iff, declaratorNames]
  simp only [requiredNames_eq_ok_iff]
  generalize node.childrenByField "declarator" = declarators
  constructor
  · rintro ⟨names, read, rfl⟩
    rw [List.forall₂_map_right_iff]
    exact read.imp fun declarator name named => ⟨name, named, rfl⟩
  · intro each
    induction each with
    | nil =>
        exact ⟨[], .nil, rfl⟩
    | cons declares _ inductionHypothesis =>
        obtain ⟨name, named, rfl⟩ := declares
        obtain ⟨names, read, rfl⟩ := inductionHypothesis
        exact ⟨name :: names, .cons named read, rfl⟩

end Fields

section Members

variable {source : Bytes} {owner : ClassName} {node : Node} {declarations : List Declaration}

/-- The outline of a type gives no record exactly if it is an annotation type. -/
theorem outlineType_eq_ok_none_iff
    {scope : Scope} :
    (outlineType source scope node).outcome = .ok none ↔ node.kind = annotationKind := by
  constructor
  · intro ended
    by_contra recorded
    rw [outlineType_recorded_outcome recorded, bind_eq_ok_iff] at ended
    obtain ⟨identifier, -, rest⟩ := ended
    obtain ⟨children, -, same⟩ := bind_eq_ok_iff.mp rest
    cases same
  · intro skipped
    rw [outlineType_skipped skipped]
    rfl

/-- No class comes from an annotation type. -/
theorem recorded_of_outlineType_eq_ok_some
    {scope : Scope}
    {declared : ClassDecl}
    (ended : (outlineType source scope node).outcome = .ok (some declared)) :
    node.kind ≠ annotationKind := by
  intro skipped
  rw [outlineType_eq_ok_none_iff.mpr skipped] at ended
  cases ended

/-- What the walk makes of a member is what the member stands for. -/
theorem recorded_of_memberOf
    {role : MemberRole}
    (played : node.info.memberRole? = some role)
    (notPart : role ≠ .bodyPart)
    (ended : (memberOf source owner node).outcome = .ok declarations) :
    Recorded source owner node declarations := by
  have kind := (NodeInfo.memberRole?_eq_some_iff.mp played).2
  cases role with
  | callable =>
      rw [memberOf_callable played, Traced.outcome_bind] at ended
      obtain ⟨method, read, same⟩ := bind_eq_ok_iff.mp ended
      cases same
      exact .method kind read
  | fields =>
      rw [memberOf_fields played, Traced.outcome_bind] at ended
      obtain ⟨fields, read, same⟩ := bind_eq_ok_iff.mp ended
      cases same
      exact .fields kind (fieldsOf_eq_ok_iff.mp read)
  | constant =>
      rw [memberOf_constant played, Traced.outcome_bind] at ended
      obtain ⟨field, read, same⟩ := bind_eq_ok_iff.mp ended
      cases same
      exact .constant (List.mem_singleton.mp kind) read
  | bodyPart =>
      exact (notPart rfl).elim
  | type =>
      rw [memberOf_type played, Traced.outcome_bind] at ended
      obtain ⟨nested?, read, same⟩ := bind_eq_ok_iff.mp ended
      cases same
      cases nested? with
      | none =>
          exact .skipped (outlineType_eq_ok_none_iff.mp read)
      | some declared =>
          have recorded := recorded_of_outlineType_eq_ok_some read
          exact .nested (mem_recordedTypeKinds_iff.mpr ⟨kind, recorded⟩) read

/-- What a named member stands for is what the walk makes of it. -/
theorem memberOf_of_recorded
    (named : node.info.named = true)
    (recorded : Recorded source owner node declarations) :
    (memberOf source owner node).outcome = .ok declarations := by
  have plays : ∀ role : MemberRole,
      node.kind ∈ role.kinds → node.info.memberRole? = some role := by
    intro role kind
    exact NodeInfo.memberRole?_eq_some_iff.mpr ⟨named, kind⟩
  cases recorded with
  | method kind read =>
      rw [memberOf_callable (plays .callable kind), Traced.outcome_bind, read]
      rfl
  | fields kind each =>
      rw [memberOf_fields (plays .fields kind), Traced.outcome_bind,
        Traced.outcome_ofExcept, fieldsOf_eq_ok_iff.mpr each]
      rfl
  | constant kind read =>
      have isConstant := plays .constant (List.mem_singleton.mpr kind)
      rw [memberOf_constant isConstant, Traced.outcome_bind, Traced.outcome_ofExcept, read]
      rfl
  | nested kind read =>
      have isType := plays .type (mem_recordedTypeKinds_iff.mp kind).1
      rw [memberOf_type isType, Traced.outcome_bind, read]
      rfl
  | skipped kind =>
      have isType : node.info.memberRole? = some .type := by
        apply plays .type
        rw [kind]
        decide
      rw [memberOf_type isType, Traced.outcome_bind, outlineType_eq_ok_none_iff.mpr kind]
      rfl

end Members

section Walk

variable {source : Bytes} {owner : ClassName}

/-- Induction over a body that tells members apart only from the later part of an enum body. -/
theorem memberInduction
    {motive : List Node → Prop}
    (nil : motive [])
    (passedOver : ∀ node rest,
      node.info.memberRole? = none →
      motive rest → motive (node :: rest))
    (member : ∀ node rest role,
      node.info.memberRole? = some role →
      role ≠ .bodyPart →
      motive rest → motive (node :: rest))
    (bodyPart : ∀ node rest,
      node.info.memberRole? = some .bodyPart →
      motive node.children →
      motive rest → motive (node :: rest))
    (nodes : List Node) :
    motive nodes := by
  induction nodes using bodyInduction with
  | nil =>
      exact nil
  | passedOver node rest role tail =>
      exact passedOver node rest role tail
  | callable node rest role tail =>
      exact member node rest .callable role (by decide) tail
  | fields node rest role tail =>
      exact member node rest .fields role (by decide) tail
  | constant node rest role tail =>
      exact member node rest .constant role (by decide) tail
  | bodyPart node rest role below tail =>
      exact bodyPart node rest role below tail
  | type node rest role _ tail =>
      exact member node rest .type role (by decide) tail

/-- The records of two lists of nodes follow each other. -/
theorem membersOf_append (first second : List Node) :
    membersOf source owner (first ++ second) = do
      let firstMembers ← membersOf source owner first
      let secondMembers ← membersOf source owner second
      return firstMembers ++ secondMembers := by
  induction first with
  | nil =>
      simp
  | cons node rest inductionHypothesis =>
      simp only [List.cons_append, membersOf_cons, inductionHypothesis, bind_assoc,
        pure_bind, List.append_assoc]

/-- A part of an enum body may be opened: its nodes then stand in its place. -/
theorem membersOf_bodyPart
    {part : Node}
    (role : part.info.memberRole? = some .bodyPart)
    (rest : List Node) :
    membersOf source owner (part :: rest) =
      membersOf source owner (part.children ++ rest) := by
  rw [membersOf_cons, memberOf_bodyPart role, membersOf_append]

/-- Every node of a flattened body is a member. -/
theorem role_of_mem_flatMembers
    {node : Node}
    {nodes : List Node}
    (member : node ∈ flatMembers nodes) :
    ∃ role, node.info.memberRole? = some role ∧ role ≠ .bodyPart := by
  induction nodes using memberInduction with
  | nil =>
      rw [flatMembers] at member
      cases member
  | passedOver first rest role inductionHypothesis =>
      rw [flatMembers_passedOver role] at member
      exact inductionHypothesis member
  | member first rest role played notPart inductionHypothesis =>
      rw [flatMembers_member played notPart] at member
      rcases List.mem_cons.mp member with isFirst | inRest
      · subst isFirst
        exact ⟨role, played, notPart⟩
      · exact inductionHypothesis inRest
  | bodyPart first rest role inPart inductionHypothesis =>
      rw [flatMembers_bodyPart role] at member
      rcases List.mem_append.mp member with inChildren | inRest
      · exact inPart inChildren
      · exact inductionHypothesis inRest

/-- Walking a body is walking its flattened list of members. -/
theorem membersOf_flatMembers (nodes : List Node) :
    membersOf source owner (flatMembers nodes) = membersOf source owner nodes := by
  induction nodes using memberInduction with
  | nil =>
      rw [flatMembers]
  | passedOver node rest role inductionHypothesis =>
      rw [flatMembers_passedOver role, inductionHypothesis, membersOf_cons,
        memberOf_passedOver role]
      simp
  | member node rest role played notPart inductionHypothesis =>
      rw [flatMembers_member played notPart, membersOf_cons, membersOf_cons,
        inductionHypothesis]
  | bodyPart node rest role inPart inductionHypothesis =>
      rw [flatMembers_bodyPart role, membersOf_bodyPart role, membersOf_append,
        membersOf_append, inPart, inductionHypothesis]

/-- The walk over members succeeds exactly if every member gives its records. -/
theorem membersOf_members_eq_ok_iff
    {members : List Node}
    {declarations : List Declaration}
    (roles : ∀ node ∈ members,
      ∃ role, node.info.memberRole? = some role ∧ role ≠ .bodyPart) :
    (membersOf source owner members).outcome = .ok declarations ↔
      RecordedInOrder source owner members declarations := by
  induction members generalizing declarations with
  | nil =>
      rw [membersOf_nil, Traced.outcome_pure, RecordedInOrder]
      simp [eq_comm]
  | cons node rest inductionHypothesis =>
      obtain ⟨role, played, notPart⟩ := roles node List.mem_cons_self
      have named := (NodeInfo.memberRole?_eq_some_iff.mp played).1
      have others : ∀ {later},
          (membersOf source owner rest).outcome = .ok later ↔
            RecordedInOrder source owner rest later :=
        inductionHypothesis fun other inRest => roles other (List.mem_cons_of_mem _ inRest)
      rw [membersOf_cons]
      simp only [Traced.outcome_bind, Traced.outcome_pure]
      constructor
      · intro ended
        obtain ⟨first, firstEnded, rest⟩ := bind_eq_ok_iff.mp ended
        obtain ⟨later, laterEnded, same⟩ := bind_eq_ok_iff.mp rest
        obtain ⟨groups, recorded, rfl⟩ := others.mp laterEnded
        have firstRecorded := recorded_of_memberOf played notPart firstEnded
        cases same
        exact ⟨first :: groups, .cons firstRecorded recorded, rfl⟩
      · rintro ⟨groups, recorded, rfl⟩
        cases recorded with
        | cons first later =>
            rw [memberOf_of_recorded named first, others.mpr ⟨_, later, rfl⟩]
            rfl

/-- The walk through a body succeeds exactly if each of its members gives its records. -/
theorem membersOf_eq_ok_iff
    {nodes : List Node}
    {declarations : List Declaration} :
    (membersOf source owner nodes).outcome = .ok declarations ↔
      RecordedInOrder source owner (flatMembers nodes) declarations := by
  rw [← membersOf_flatMembers]
  exact membersOf_members_eq_ok_iff fun node => role_of_mem_flatMembers

/-- The members of a type declaration, those in the later part of an enum body included. -/
def Node.members (node : Node) : List Node :=
  match node.childByField? bodyField with
  | some body => flatMembers body.children
  | none => []

/-- The body of a type gives the records of its members. -/
theorem typeMembers_eq_ok_iff
    {node : Node}
    {declarations : List Declaration} :
    (typeMembers source owner node).outcome = .ok declarations ↔
      RecordedInOrder source owner node.members declarations := by
  rw [typeMembers, Node.members]
  cases node.childByField? bodyField with
  | some body =>
      exact membersOf_eq_ok_iff
  | none =>
      rw [Traced.outcome_pure, RecordedInOrder]
      simp [eq_comm]

/-- The outline of a type has the head of its node and the records of its body. -/
theorem outlineType_eq_ok_some
    {scope : Scope}
    {node : Node}
    {declared : ClassDecl}
    (ended : (outlineType source scope node).outcome = .ok (some declared)) :
    (∃ identifier, declared.head = typeHead source scope node identifier) ∧
      (typeMembers source declared.name node).outcome = .ok declared.children := by
  rw [outlineType_recorded_outcome (recorded_of_outlineType_eq_ok_some ended)] at ended
  obtain ⟨identifier, -, afterName⟩ := bind_eq_ok_iff.mp ended
  obtain ⟨children, members, same⟩ := bind_eq_ok_iff.mp afterName
  cases same
  exact ⟨⟨identifier, rfl⟩, members⟩

end Walk

section Units

variable {source : Bytes} {scope : Scope}

/-- Of the nodes that declare a type, only annotation types are not recorded. -/
theorem isNamedOneOf_recordedTypeKinds_iff
    {node : Node} :
    node.info.isNamedOneOf recordedTypeKinds = true ↔
      node.info.isNamedOneOf typeDeclarationKinds = true ∧ node.kind ≠ annotationKind := by
  have typeKinds : typeDeclarationKinds = MemberRole.type.kinds := rfl
  simp only [NodeInfo.isNamedOneOf, Bool.and_eq_true, List.contains_iff_mem,
    mem_recordedTypeKinds_iff, typeKinds, Node.kind, and_assoc]

/-- Types are outlined exactly if each recorded one of them is, and each gives one class. -/
theorem outlineTypes_eq_ok_iff
    {nodes : List Node}
    {classes : List ClassDecl} :
    (outlineTypes source scope nodes).outcome = .ok classes ↔
      List.Forall₂
        (fun node declared => (outlineType source scope node).outcome = .ok (some declared))
        (nodes.filter fun node => node.info.isNamedOneOf recordedTypeKinds)
        classes := by
  induction nodes generalizing classes with
  | nil =>
      rw [outlineTypes, Traced.outcome_pure, List.filter_nil, List.forall₂_nil_left_iff,
        Except.ok.injEq, eq_comm]
  | cons node rest inductionHypothesis =>
      have recordedIff := @isNamedOneOf_recordedTypeKinds_iff node
      by_cases type : node.info.isNamedOneOf typeDeclarationKinds = true
      · rw [outlineTypes_type type, List.filter_cons]
        simp only [Traced.outcome_bind, Traced.outcome_pure]
        -- an annotation type is left out of both lists
        by_cases skipped : node.kind = annotationKind
        · rw [if_neg fun recorded => (recordedIff.mp recorded).2 skipped,
            outlineType_eq_ok_none_iff.mpr skipped, ← inductionHypothesis]
          cases (outlineTypes source scope rest).outcome <;> exact Iff.rfl
        · rw [if_pos (recordedIff.mpr ⟨type, skipped⟩), List.forall₂_cons_left_iff, bind_eq_ok_iff]
          constructor
          · rintro ⟨first?, firstEnded, afterFirst⟩
            obtain ⟨others, othersEnded, same⟩ := bind_eq_ok_iff.mp afterFirst
            cases first? with
            | none =>
                exact (skipped (outlineType_eq_ok_none_iff.mp firstEnded)).elim
            | some declared =>
                exact ⟨declared, others, firstEnded, inductionHypothesis.mp othersEnded,
                  (Except.ok.inj same).symm⟩
          · rintro ⟨declared, others, firstEnded, othersOutlined, rfl⟩
            refine ⟨some declared, firstEnded, bind_eq_ok_iff.mpr ⟨others, ?_, rfl⟩⟩
            exact inductionHypothesis.mpr othersOutlined
      · rw [outlineTypes_passedOver (eq_false_of_ne_true type), List.filter_cons,
          if_neg fun recorded => type (recordedIff.mp recorded).1]
        exact inductionHypothesis

/-- Nodes that declare no type leave no trace in an outline. -/
theorem outlineTypes_filter (nodes : List Node) :
    outlineTypes source scope
        (nodes.filter fun node => node.info.isNamedOneOf typeDeclarationKinds) =
      outlineTypes source scope nodes := by
  induction nodes with
  | nil =>
      rfl
  | cons node rest inductionHypothesis =>
      by_cases type : node.info.isNamedOneOf typeDeclarationKinds = true
      · rw [List.filter_cons, if_pos type, outlineTypes_type type, outlineTypes_type type,
          inductionHypothesis]
      · rw [List.filter_cons, if_neg type, inductionHypothesis,
          outlineTypes_passedOver (eq_false_of_ne_true type)]

theorem outlineTypes_append (first second : List Node) :
    outlineTypes source scope (first ++ second) = do
      let firstClasses ← outlineTypes source scope first
      let secondClasses ← outlineTypes source scope second
      return firstClasses ++ secondClasses := by
  induction first with
  | nil =>
      simp [outlineTypes]
  | cons node rest inductionHypothesis =>
      by_cases type : node.info.isNamedOneOf typeDeclarationKinds = true
      · simp only [List.cons_append, outlineTypes_type type, inductionHypothesis, bind_assoc,
          pure_bind, List.append_assoc]
      · have other := eq_false_of_ne_true type
        rw [List.cons_append, outlineTypes_passedOver other, outlineTypes_passedOver other,
          inductionHypothesis]

/-- Only the first package declaration counts. -/
theorem packageOf_congr
    {root other : Node}
    (same :
      root.childOfKind? ["package_declaration"] = other.childOfKind? ["package_declaration"])
    (fallback : String) :
    packageOf source root fallback = packageOf source other fallback := by
  rw [packageOf, packageOf, declaredPackage?, declaredPackage?, same]

/-- Units of one package are put together by putting their types together. -/
theorem outlineUnit_of_types_append
    {whole first second : Node}
    {file fallback firstFallback secondFallback : String}
    (types :
      whole.childrenOfKind typeDeclarationKinds =
        first.childrenOfKind typeDeclarationKinds ++
          second.childrenOfKind typeDeclarationKinds)
    (firstPackage : packageOf source first firstFallback = packageOf source whole fallback)
    (secondPackage : packageOf source second secondFallback = packageOf source whole fallback) :
    outlineUnit source whole file fallback = do
      let firstClasses ← outlineUnit source first file firstFallback
      let secondClasses ← outlineUnit source second file secondFallback
      return firstClasses ++ secondClasses := by
  have onlyTypes : ∀ (root : Node) (origin : Origin),
      outlineTypes source (.file origin) root.children =
        outlineTypes source (.file origin) (root.childrenOfKind typeDeclarationKinds) := by
    intro root origin
    exact (outlineTypes_filter root.children).symm
  simp only [outlineUnit, firstPackage, secondPackage]
  rw [onlyTypes whole, types, outlineTypes_append, ← onlyTypes first, ← onlyTypes second]

end Units

/-- How the records of bodies and the classes of units follow from their nodes. -/
structure ConservesDeclarations (source : Bytes) : Prop where
  /-- A body has the records of its flattened members, and fails if one of them has none. -/
  recorded :
    ∀ (owner : ClassName) (body : Node) (declarations : List Declaration),
      (membersOf source owner body.children).outcome = .ok declarations ↔
        RecordedInOrder source owner (flatMembers body.children) declarations
  /-- Nothing but the flattened members matters. -/
  flattened :
    ∀ (owner : ClassName) (body other : Node),
      flatMembers body.children = flatMembers other.children →
      membersOf source owner body.children = membersOf source owner other.children
  appended :
    ∀ (owner : ClassName) (first second : List Node),
      membersOf source owner (first ++ second) = do
        let firstMembers ← membersOf source owner first
        let secondMembers ← membersOf source owner second
        return firstMembers ++ secondMembers
  /-- Members may be grouped as the later part of an enum body, or taken out of it. -/
  regrouped :
    ∀ (owner : ClassName) (before after : List Node) (part : Node),
      part.info.named = true →
      part.kind = "enum_body_declarations" →
      membersOf source owner (before ++ part :: after) =
        membersOf source owner (before ++ part.children ++ after)
  /-- The class of a type has the records of the members in its body. -/
  bodies :
    ∀ (scope : Scope) (node : Node) (declared : ClassDecl),
      (outlineType source scope node).outcome = .ok (some declared) →
      RecordedInOrder source declared.name node.members declared.children
  /-- A unit has one class for each of its top-level types, and none for an annotation type. -/
  topLevel :
    ∀ (root : Node) (file fallback : String) (classes : List ClassDecl),
      (outlineUnit source root file fallback).outcome = .ok classes ↔
        List.Forall₂
          (fun node declared =>
            (outlineType source (.file ⟨file, packageOf source root fallback⟩) node).outcome =
              .ok (some declared))
          (root.childrenOfKind recordedTypeKinds)
          classes
  /-- Units are put together by their types, if all of them are in one package. -/
  units :
    ∀ (whole first second : Node) (file fallback firstFallback secondFallback : String),
      whole.childrenOfKind typeDeclarationKinds =
        first.childrenOfKind typeDeclarationKinds ++
          second.childrenOfKind typeDeclarationKinds →
      packageOf source first firstFallback = packageOf source whole fallback →
      packageOf source second secondFallback = packageOf source whole fallback →
      outlineUnit source whole file fallback = do
        let firstClasses ← outlineUnit source first file firstFallback
        let secondClasses ← outlineUnit source second file secondFallback
        return firstClasses ++ secondClasses
  /-- They are, if they have the same first package declaration. -/
  package :
    ∀ (root other : Node) (fallback : String),
      root.childOfKind? ["package_declaration"] = other.childOfKind? ["package_declaration"] →
      packageOf source root fallback = packageOf source other fallback

/--
No declaration is lost, doubled, moved or made up: a body gives, member by
member, what its flattened members stand for, and a class has what its body
gives. A unit has one class for each type that it declares itself, in order,
and units give together what their types stand for.
-/
theorem outline_conserves_declarations
    (source : Bytes) :
    ConservesDeclarations source where
  recorded owner body declarations :=
    membersOf_eq_ok_iff
  flattened owner body other same := by
    rw [← membersOf_flatMembers, same, membersOf_flatMembers]
  appended owner first second :=
    membersOf_append first second
  regrouped owner before after part named kind := by
    have role : part.info.memberRole? = some .bodyPart :=
      NodeInfo.memberRole?_eq_some_iff.mpr ⟨named, List.mem_singleton.mpr kind⟩
    rw [List.append_assoc, membersOf_append, membersOf_bodyPart role,
      membersOf_append before]
  bodies scope node declared ended :=
    typeMembers_eq_ok_iff.mp (outlineType_eq_ok_some ended).2
  topLevel root file fallback classes :=
    outlineTypes_eq_ok_iff
  units whole first second file fallback firstFallback secondFallback :=
    outlineUnit_of_types_append
  package root other fallback same :=
    packageOf_congr same fallback

end JavaOutline
