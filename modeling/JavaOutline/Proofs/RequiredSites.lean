import JavaOutline.Proofs.BodyWalk

namespace JavaOutline

open Text (Bytes)

/-!
# Where an outline needs a name

The nodes that must have a name are listed here from the tree alone, in the
order in which a reader of the source meets them. An outline fails exactly if
one of them has no name, and it then blames the first. Neither the source text
nor the file nor the package has any part in this.
-/

/-- The node that must name a parameter. Nodes of other kinds declare none. -/
def parameterSites (node : Node) : List Node :=
  match node.kind with
  | "formal_parameter" => [node]
  | "spread_parameter" => (node.childOfKind? ["variable_declarator"]).toList
  | _ => []

section ParameterSites

variable {node : Node}

theorem parameterSites_formal
    (kind : node.kind = "formal_parameter") :
    parameterSites node = [node] := by
  simp [parameterSites, kind]

theorem parameterSites_spread
    (kind : node.kind = "spread_parameter") :
    parameterSites node = (node.childOfKind? ["variable_declarator"]).toList := by
  simp [parameterSites, kind]

theorem parameterSites_passedOver
    (notFormal : node.kind ≠ "formal_parameter")
    (notSpread : node.kind ≠ "spread_parameter") :
    parameterSites node = [] := by
  unfold parameterSites
  split
  · contradiction
  · contradiction
  · rfl

end ParameterSites

/-- A method or a constructor, then its parameters. -/
def callableSites (node : Node) : List Node :=
  match node.childByField? "parameters" with
  | some parameters => node :: parameters.namedChildren.flatMap parameterSites
  | none => [node]

mutual

/-- The nodes that must have a name at and below a node in a class body. -/
def memberSites : Node → List Node
  | .mk info children =>
      match info.kind with
      | "method_declaration" => callableSites (.mk info children)
      | "constructor_declaration" => callableSites (.mk info children)
      | "field_declaration" => (Node.mk info children).childrenByField "declarator"
      | "constant_declaration" => (Node.mk info children).childrenByField "declarator"
      | "enum_constant" => [.mk info children]
      | "enum_body_declarations" => bodySites children
      | kind =>
          if recordedTypeKinds.contains kind then
            .mk info children :: firstBodySites children
          else
            []

/-- The nodes that must have a name in a body with these children. -/
def bodySites : List Node → List Node
  | [] => []
  | node :: rest =>
      if node.info.named then memberSites node ++ bodySites rest else bodySites rest

/-- The nodes that must have a name in the first body among these nodes. -/
def firstBodySites : List Node → List Node
  | [] => []
  | .mk info children :: rest =>
      if info.field == some "body" then bodySites children else firstBodySites rest

end

/-- The nodes that must have a name in a type declaration: the type, then its body. -/
def typeSites (node : Node) : List Node :=
  if recordedTypeKinds.contains node.kind then
    node ::
      match node.childByField? "body" with
      | some body => bodySites body.children
      | none => []
  else
    []

/-- The nodes of a compilation unit that must have a name, in visiting order. -/
def requiredSites (root : Node) : List Node :=
  root.namedChildren.flatMap typeSites

section SitesByRole

variable {node : Node}

theorem memberSites_callable
    (kind : node.kind ∈ MemberRole.callable.kinds) :
    memberSites node = callableSites node := by
  cases node
  rcases (by simpa [MemberRole.kinds] using kind) with method | constructor <;>
    simp_all [memberSites, Node.kind]

theorem memberSites_fields
    (kind : node.kind ∈ MemberRole.fields.kinds) :
    memberSites node = node.childrenByField "declarator" := by
  cases node
  rcases (by simpa [MemberRole.kinds] using kind) with field | constant <;>
    simp_all [memberSites, Node.kind]

theorem memberSites_constant
    (kind : node.kind ∈ MemberRole.constant.kinds) :
    memberSites node = [node] := by
  cases node
  simp_all [memberSites, Node.kind, MemberRole.kinds]

theorem memberSites_bodyPart
    (kind : node.kind ∈ MemberRole.bodyPart.kinds) :
    memberSites node = bodySites node.children := by
  cases node
  simp_all [memberSites, Node.kind, MemberRole.kinds]

/-- Only the first body among the children of a type has sites. -/
theorem firstBodySites_eq (children : List Node) :
    firstBodySites children =
      match children.find? (fun child => child.info.field == some "body") with
      | some body => bodySites body.children
      | none => [] := by
  induction children with
  | nil =>
      rfl
  | cons child rest inductionHypothesis =>
      rcases child with ⟨info, children⟩
      rw [firstBodySites]
      by_cases isBody : info.field == some "body"
      · simp [isBody]
      · simp only [isBody, Bool.false_eq_true, ↓reduceIte, List.find?_cons,
          Node.info_mk, inductionHypothesis]

/-- A nested type has the sites that it would have at top level. -/
theorem memberSites_type
    (kind : node.kind ∈ MemberRole.type.kinds) :
    memberSites node = typeSites node := by
  cases node with
  | mk info children =>
      rcases (by simpa [MemberRole.kinds, Node.kind] using kind) with
          isKind | isKind | isKind | isKind | isKind
      all_goals
        simp only [memberSites, typeSites, Node.kind, Node.info_mk, isKind,
          recordedTypeKinds, firstBodySites_eq, Node.childByField?, Node.children_mk]
        cases children.find? (fun child => child.info.field == some "body") <;> simp

theorem memberSites_passedOver
    (unlisted : ∀ role : MemberRole, node.kind ∉ role.kinds) :
    memberSites node = [] := by
  cases node with
  | mk info children =>
      have callable := unlisted .callable
      have fields := unlisted .fields
      have constant := unlisted .constant
      have bodyPart := unlisted .bodyPart
      have type := unlisted .type
      simp only [MemberRole.kinds, Node.kind, Node.info_mk, List.mem_cons,
        List.not_mem_nil, or_false, not_or] at callable fields constant bodyPart type
      rw [memberSites]
      split <;> simp_all [recordedTypeKinds]

/-- A named node comes before the rest of its body. -/
theorem bodySites_named
    (named : node.info.named = true)
    (rest : List Node) :
    bodySites (node :: rest) = memberSites node ++ bodySites rest := by
  rw [bodySites, if_pos named]

/-- A node without a role has no sites in a body. -/
theorem bodySites_passedOver
    (role : node.info.memberRole? = none)
    (rest : List Node) :
    bodySites (node :: rest) = bodySites rest := by
  by_cases named : node.info.named = true
  · have unlisted : ∀ other : MemberRole, node.kind ∉ other.kinds :=
      NodeInfo.not_mem_kinds named role
    rw [bodySites_named named, memberSites_passedOver unlisted]
    rfl
  · rw [bodySites, if_neg named]

end SitesByRole

/-- A node holds no child as its name. -/
def Node.isUnnamed (node : Node) : Bool :=
  (node.childByField? "name").isNone

/-- What is said of a node without a name. -/
def Node.withoutName (node : Node) : MissingPart :=
  ⟨node.kind, node.info.point, "name"⟩

/-- The first complaint about sites that must have a name. -/
def firstComplaint? (sites : List Node) : Option MissingPart :=
  (sites.find? Node.isUnnamed).map Node.withoutName

/-- Of two lists of sites the second is blamed only if the first is in order. -/
theorem firstComplaint?_append (first second : List Node) :
    firstComplaint? (first ++ second) =
      (firstComplaint? first).or (firstComplaint? second) := by
  rw [firstComplaint?, List.find?_append, Option.map_or]
  rfl

theorem firstComplaint?_cons (site : Node) (rest : List Node) :
    firstComplaint? (site :: rest) =
      (firstComplaint? [site]).or (firstComplaint? rest) :=
  firstComplaint?_append [site] rest

section Members

variable {source : Bytes}

/-- Reading a required name fails exactly if it is not there. -/
theorem requiredName_fault (node : Node) :
    faultOf? (node.requiredName source) = firstComplaint? [node] := by
  rw [Node.requiredName, faultOf?_map, Node.require]
  cases found : node.childByField? nameField with
  | some name =>
      have named : node.isUnnamed = false := by
        simpa [Node.isUnnamed, nameField] using congrArg Option.isNone found
      simp [firstComplaint?, named]
  | none =>
      have unnamed : node.isUnnamed = true := by
        simpa [Node.isUnnamed, nameField] using congrArg Option.isNone found
      simp [faultOf?, firstComplaint?, unnamed, Node.withoutName, nameField]

theorem formalArgument_fault (node : Node) :
    faultOf? (formalArgument source node) = firstComplaint? [node] := by
  rw [formalArgument, faultOf?_map, requiredName_fault]

/-- A variable-arity parameter may do without a declarator, not without its name. -/
theorem spreadArgument_fault (node : Node) :
    faultOf? (spreadArgument source node) =
      firstComplaint? (node.childOfKind? ["variable_declarator"]).toList := by
  rw [spreadArgument, Node.spreadDeclarator?]
  cases node.childOfKind? ["variable_declarator"] with
  | none =>
      rfl
  | some declarator =>
      exact (faultOf?_map _ _).trans (requiredName_fault declarator)

/-- Parameters are read in order, and the first without a name is blamed. -/
theorem readArguments_fault (nodes : List Node) :
    faultOf? (readArguments source nodes) =
      firstComplaint?
        ((nodes.filter (fun node => node.info.named)).flatMap parameterSites) := by
  induction nodes with
  | nil =>
      rfl
  | cons node rest inductionHypothesis =>
      -- what is read after a parameter fails alike, whatever the parameter is
      have others : ∀ first : Argument,
          faultOf? (do
            let others ← readArguments source rest
            .ok (first :: others)) =
          firstComplaint?
            ((rest.filter (fun node => node.info.named)).flatMap parameterSites) := by
        intro first
        rw [faultOf?_bind_ok (fun _ => rfl), inductionHypothesis]
      by_cases named : node.info.named = true
      · rw [List.filter_cons, if_pos named, List.flatMap_cons, firstComplaint?_append]
        by_cases formal : node.kind = "formal_parameter"
        · rw [readArguments_formal named formal, faultOf?_bind others,
            formalArgument_fault, parameterSites_formal formal]
        · by_cases spread : node.kind = "spread_parameter"
          · rw [readArguments_spread named spread, faultOf?_bind others,
              spreadArgument_fault, parameterSites_spread spread]
          · rw [readArguments_passedOver (fun _ => ⟨formal, spread⟩),
              parameterSites_passedOver formal spread, inductionHypothesis]
            rfl
      · rw [List.filter_cons, if_neg named,
          readArguments_passedOver (fun isNamed => absurd isNamed named),
          inductionHypothesis]

/-- Names are required in order, and the first node without one is blamed. -/
theorem requiredNames_fault (nodes : List Node) :
    faultOf? (requiredNames source nodes) = firstComplaint? nodes := by
  induction nodes with
  | nil =>
      rfl
  | cons node rest inductionHypothesis =>
      have others : ∀ first : String,
          faultOf? (do
            let others ← requiredNames source rest
            .ok (first :: others)) = firstComplaint? rest := by
        intro first
        rw [faultOf?_bind_ok (fun _ => rfl), inductionHypothesis]
      rw [requiredNames, faultOf?_bind others, requiredName_fault,
        ← firstComplaint?_cons]

/-- A method needs its own name first, then those of its parameters. -/
theorem methodOf_fault (owner : ClassName) (node : Node) :
    faultOf? (methodOf source owner node).outcome =
      firstComplaint? (callableSites node) := by
  rw [methodOf_outcome,
    faultOf?_bind (fun _ => faultOf?_bind_ok (fun _ => rfl)), requiredName_fault,
    callableSites]
  cases node.childByField? "parameters" with
  | none =>
      simp [argumentsOf]
  | some parameters =>
      have arguments :
          faultOf? (argumentsOf source (some parameters)) =
            firstComplaint? (parameters.namedChildren.flatMap parameterSites) :=
        readArguments_fault parameters.children
      rw [arguments]
      exact (firstComplaint?_cons node _).symm

/-- A declaration of fields needs the names of its declarators. -/
theorem fieldsOf_fault (owner : ClassName) (node : Node) :
    faultOf? (fieldsOf source owner node) =
      firstComplaint? (node.childrenByField "declarator") := by
  rw [fieldsOf, faultOf?_map, declaratorNames, requiredNames_fault]

theorem constantOf_fault (owner : ClassName) (node : Node) :
    faultOf? (constantOf source owner node) = firstComplaint? [node] := by
  rw [constantOf, faultOf?_map, requiredName_fault]

/-- The nodes of a body are blamed in order, if the first is blamed for its sites. -/
theorem membersOf_cons_fault
    {owner : ClassName}
    {node : Node}
    {rest sites : List Node}
    (first :
      faultOf? (memberOf source owner node).outcome = firstComplaint? sites)
    (others :
      faultOf? (membersOf source owner rest).outcome = firstComplaint? (bodySites rest)) :
    faultOf? (membersOf source owner (node :: rest)).outcome =
      firstComplaint? (sites ++ bodySites rest) := by
  rw [membersOf_cons, Traced.outcome_bind, firstComplaint?_append, ← first, ← others]
  refine faultOf?_bind ?_
  intro declared
  rw [Traced.outcome_bind]
  exact faultOf?_bind_ok (fun _ => rfl)

/-- A type needs its own name first, then what its body needs. -/
theorem outlineType_fault
    {node : Node}
    (kind : node.kind ∈ MemberRole.type.kinds)
    (members : ∀ owner body,
      node.childByField? bodyField = some body →
      faultOf? (membersOf source owner body.children).outcome =
        firstComplaint? (bodySites body.children))
    (scope : Scope) :
    faultOf? (outlineType source scope node).outcome =
      firstComplaint? (typeSites node) := by
  by_cases skipped : node.kind = annotationKind
  · have noSites : typeSites node = [] := by
      simp [typeSites, skipped, annotationKind, recordedTypeKinds]
    rw [outlineType_skipped skipped, noSites]
    rfl
  · have recorded : recordedTypeKinds.contains node.kind = true :=
      List.contains_iff_mem.mpr (mem_recordedTypeKinds_iff.mpr ⟨kind, skipped⟩)
    have inBody : ∀ identifier,
        faultOf? (typeMembers source (scope.className identifier) node).outcome =
          firstComplaint?
            (match node.childByField? "body" with
            | some body => bodySites body.children
            | none => []) := by
      intro identifier
      unfold typeMembers bodyField
      cases found : node.childByField? "body" with
      | none =>
          rfl
      | some body =>
          exact members _ body found
    have afterName : ∀ identifier,
        faultOf? (do
          let children ← (typeMembers source (scope.className identifier) node).outcome
          .ok (some (ClassDecl.mk (typeHead source scope node identifier) children))) = _ :=
      fun identifier => (faultOf?_bind_ok (fun _ => rfl)).trans (inBody identifier)
    rw [outlineType_recorded_outcome skipped, typeSites, if_pos recorded,
      firstComplaint?_cons, faultOf?_bind afterName, requiredName_fault]

/-- The walk through a body blames the first of its sites without a name. -/
theorem membersOf_fault (owner : ClassName) (nodes : List Node) :
    faultOf? (membersOf source owner nodes).outcome =
      firstComplaint? (bodySites nodes) := by
  induction nodes using bodyInduction generalizing owner with
  | nil =>
      rfl
  | passedOver node rest role inductionHypothesis =>
      rw [bodySites_passedOver role, ← List.nil_append (bodySites rest)]
      refine membersOf_cons_fault ?_ (inductionHypothesis owner)
      rw [memberOf_passedOver role]
      rfl
  | callable node rest role inductionHypothesis =>
      obtain ⟨named, kind⟩ := NodeInfo.memberRole?_eq_some_iff.mp role
      rw [bodySites_named named, memberSites_callable kind]
      refine membersOf_cons_fault ?_ (inductionHypothesis owner)
      rw [memberOf_callable role, ← methodOf_fault owner, Traced.outcome_bind]
      exact faultOf?_bind_ok (fun _ => rfl)
  | fields node rest role inductionHypothesis =>
      obtain ⟨named, kind⟩ := NodeInfo.memberRole?_eq_some_iff.mp role
      rw [bodySites_named named, memberSites_fields kind]
      refine membersOf_cons_fault ?_ (inductionHypothesis owner)
      rw [memberOf_fields role, ← fieldsOf_fault owner, Traced.outcome_bind]
      exact faultOf?_bind_ok (fun _ => rfl)
  | constant node rest role inductionHypothesis =>
      obtain ⟨named, kind⟩ := NodeInfo.memberRole?_eq_some_iff.mp role
      rw [bodySites_named named, memberSites_constant kind]
      refine membersOf_cons_fault ?_ (inductionHypothesis owner)
      rw [memberOf_constant role, ← constantOf_fault owner, Traced.outcome_bind]
      exact faultOf?_bind_ok (fun _ => rfl)
  | bodyPart node rest role inPart inductionHypothesis =>
      obtain ⟨named, kind⟩ := NodeInfo.memberRole?_eq_some_iff.mp role
      rw [bodySites_named named, memberSites_bodyPart kind]
      refine membersOf_cons_fault ?_ (inductionHypothesis owner)
      rw [memberOf_bodyPart role, inPart owner]
  | type node rest role inBody inductionHypothesis =>
      obtain ⟨named, kind⟩ := NodeInfo.memberRole?_eq_some_iff.mp role
      rw [bodySites_named named, memberSites_type kind]
      refine membersOf_cons_fault ?_ (inductionHypothesis owner)
      rw [memberOf_type role, ← outlineType_fault kind
        (fun nested body found => inBody body found nested) (.body owner),
        Traced.outcome_bind]
      exact faultOf?_bind_ok (fun _ => rfl)

/-- Types of a unit are blamed in order; nodes that declare no type never are. -/
theorem outlineTypes_fault (scope : Scope) (nodes : List Node) :
    faultOf? (outlineTypes source scope nodes).outcome =
      firstComplaint?
        ((nodes.filter (fun node => node.info.named)).flatMap typeSites) := by
  induction nodes with
  | nil =>
      rfl
  | cons node rest inductionHypothesis =>
      by_cases type : node.info.isNamedOneOf typeDeclarationKinds = true
      · obtain ⟨named, listed⟩ := Bool.and_eq_true_iff.mp type
        have kind : node.kind ∈ MemberRole.type.kinds := List.contains_iff_mem.mp listed
        rw [outlineTypes_type type, Traced.outcome_bind, List.filter_cons, if_pos named,
          List.flatMap_cons, firstComplaint?_append, ← inductionHypothesis,
          ← outlineType_fault kind (fun owner body _ => membersOf_fault owner _) scope]
        refine faultOf?_bind ?_
        intro first?
        rw [Traced.outcome_bind]
        exact faultOf?_bind_ok (fun _ => rfl)
      · rw [outlineTypes_passedOver (eq_false_of_ne_true type),
          inductionHypothesis, List.filter_cons]
        by_cases named : node.info.named = true
        · have noSites : typeSites node = [] := by
            have unlisted : node.kind ∉ typeDeclarationKinds := by
              simpa [NodeInfo.isNamedOneOf, Node.kind, named] using type
            simp_all [typeSites, recordedTypeKinds, typeDeclarationKinds, enumKind]
          rw [if_pos named, List.flatMap_cons, noSites, List.nil_append]
        · rw [if_neg named]

end Members

/-- A site is the first of a list of sites to have no name. -/
def IsFirstUnnamed (site : Node) (sites : List Node) : Prop :=
  ∃ earlier later,
    sites = earlier ++ site :: later ∧
      site.childByField? "name" = none ∧
      ∀ other ∈ earlier, ∃ name, other.childByField? "name" = some name

/-- A fault says of a site that it has no name, and where the site starts. -/
structure Blames (missing : MissingPart) (site : Node) : Prop where
  kind : missing.kind = site.kind
  point : missing.point = site.info.point
  part : missing.part = "name"
  message :
    missing.message =
      site.kind ++ " at " ++ toString (site.info.point.row + 1) ++ ":" ++
        toString (site.info.point.column + 1) ++ " has no name"

theorem blames_iff
    {missing : MissingPart}
    {site : Node} :
    Blames missing site ↔ missing = ⟨site.kind, site.info.point, "name"⟩ := by
  constructor
  · intro blames
    rw [← blames.kind, ← blames.point, ← blames.part]
  · rintro rfl
    have lastWords : " has no " ++ "name" = " has no name" := by
      decide
    refine ⟨rfl, rfl, rfl, ?_⟩
    simp only [MissingPart.message, ← lastWords, String.append_assoc]

/-- A complaint is about the first site without a name. -/
theorem firstComplaint?_eq_some_iff
    {sites : List Node}
    {missing : MissingPart} :
    firstComplaint? sites = some missing ↔
      ∃ site, IsFirstUnnamed site sites ∧ Blames missing site := by
  simp only [firstComplaint?, Option.map_eq_some_iff, blames_iff]
  constructor
  · rintro ⟨site, found, rfl⟩
    obtain ⟨unnamed, earlier, later, shape, named⟩ :=
      List.find?_eq_some_iff_append.mp found
    refine ⟨site, ⟨earlier, later, shape, ?_, ?_⟩, rfl⟩
    · simpa [Node.isUnnamed] using unnamed
    · intro other member
      have isNamed := named other member
      simpa [Node.isUnnamed, ← Option.isSome_iff_exists, ← Option.isSome_iff_ne_none]
        using isNamed
  · rintro ⟨site, ⟨earlier, later, shape, unnamed, named⟩, rfl⟩
    refine ⟨site, List.find?_eq_some_iff_append.mpr ⟨?_, earlier, later, shape, ?_⟩, rfl⟩
    · simp [Node.isUnnamed, unnamed]
    · intro other member
      obtain ⟨name, found⟩ := named other member
      simp [Node.isUnnamed, found]

/--
An outline ends with a fault exactly if a required site has no name, and the
fault blames the first such site.
-/
theorem outlineUnit_blames_first_unnamed_site
    (source : Bytes)
    (root : Node)
    (file fallbackPackage : String) :
    ((∃ missing,
        (outlineUnit source root file fallbackPackage).outcome = .error missing) ↔
      ∃ site ∈ requiredSites root, site.childByField? "name" = none) ∧
    ∀ missing,
      (outlineUnit source root file fallbackPackage).outcome = .error missing ↔
        ∃ site, IsFirstUnnamed site (requiredSites root) ∧ Blames missing site := by
  have blamed : ∀ missing,
      (outlineUnit source root file fallbackPackage).outcome = .error missing ↔
        firstComplaint? (requiredSites root) = some missing := by
    intro missing
    rw [← faultOf?_eq_some_iff, outlineUnit, outlineTypes_fault]
    rfl
  refine ⟨?_, fun missing => (blamed missing).trans firstComplaint?_eq_some_iff⟩
  simp only [blamed]
  constructor
  · rintro ⟨missing, complaint⟩
    obtain ⟨site, ⟨earlier, later, shape, unnamed, -⟩, -⟩ :=
      firstComplaint?_eq_some_iff.mp complaint
    exact ⟨site, by simp [shape], unnamed⟩
  · rintro ⟨site, member, unnamed⟩
    have found : ((requiredSites root).find? Node.isUnnamed).isSome = true := by
      rw [List.find?_isSome]
      exact ⟨site, member, by simp [Node.isUnnamed, unnamed]⟩
    obtain ⟨first, isFirst⟩ := Option.isSome_iff_exists.mp found
    exact ⟨first.withoutName, by simp [firstComplaint?, isFirst]⟩

end JavaOutline
