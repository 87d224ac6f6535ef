import JavaOutline.Proofs.ReadAlike

namespace JavaOutline

open Text (Bytes)

/-!
# Outlines of trees that match

Two trees that are read alike have the same outline, up to the precision with
which they are: the walk through both makes the same records in the same order, or
ends with the same complaint.
-/

/-- The snippet with its text converted. -/
def Snippet.mapText (convert : String → String) (snippet : Snippet) : Snippet :=
  { snippet with text := convert snippet.text }

def MethodDecl.mapTexts (convert : String → String) (method : MethodDecl) : MethodDecl :=
  { method with snippet := method.snippet.mapText convert }

def FieldDecl.mapTexts (convert : String → String) (field : FieldDecl) : FieldDecl :=
  { field with snippet := field.snippet.mapText convert }

mutual

/-- The class with the texts of its header and of all snippets in it converted. -/
def ClassDecl.mapTexts (convert : String → String) : ClassDecl → ClassDecl
  | .mk head children =>
      .mk { head with header := head.header.mapText convert } (mapMemberTexts convert children)

def Declaration.mapTexts (convert : String → String) : Declaration → Declaration
  | .method declared => .method (declared.mapTexts convert)
  | .field declared => .field (declared.mapTexts convert)
  | .nested declared => .nested (declared.mapTexts convert)

def mapMemberTexts (convert : String → String) : List Declaration → List Declaration
  | [] => []
  | member :: rest => member.mapTexts convert :: mapMemberTexts convert rest

end

theorem mapMemberTexts_eq
    (convert : String → String)
    (members : List Declaration) :
    mapMemberTexts convert members = members.map (Declaration.mapTexts convert) := by
  induction members with
  | nil =>
      rw [mapMemberTexts]
      rfl
  | cons member rest inductionHypothesis =>
      rw [mapMemberTexts, inductionHypothesis, List.map_cons]

mutual

theorem ClassDecl.mapTexts_id :
    ∀ declared : ClassDecl, declared.mapTexts id = declared
  | .mk head children => by
      rw [ClassDecl.mapTexts, mapMemberTexts_id children]
      rfl

theorem Declaration.mapTexts_id :
    ∀ member : Declaration, member.mapTexts id = member
  | .method declared => by
      rw [Declaration.mapTexts]
      rfl
  | .field declared => by
      rw [Declaration.mapTexts]
      rfl
  | .nested declared => by
      rw [Declaration.mapTexts, ClassDecl.mapTexts_id declared]

theorem mapMemberTexts_id :
    ∀ members : List Declaration, mapMemberTexts id members = members
  | [] => by
      rw [mapMemberTexts]
  | member :: rest => by
      rw [mapMemberTexts, Declaration.mapTexts_id member, mapMemberTexts_id rest]

end

section Parameters

variable {precision : Precision} {firstSource secondSource : Bytes} {first second : Node}

theorem formalArgument_matching
    (matching : ReadMatch precision firstSource secondSource .whole first second) :
    EndRelated (SameComplaint precision) Eq
      (formalArgument firstSource first) (formalArgument secondSource second) := by
  have types := typeOf?_congr (matching.childByField? (by decide) "type")
    (fun _ _ _ nodes => typeOf_matching nodes.2)
  rw [formalArgument, formalArgument, types]
  apply (requiredName_matching matching (by decide)).map
  rintro name _ rfl
  rfl

theorem spreadArgument_matching
    (matching : ReadMatch precision firstSource secondSource .spread first second) :
    EndRelated (SameComplaint precision) Eq
      (spreadArgument firstSource first) (spreadArgument secondSource second) := by
  have types := typeOf?_congr (matching.typeChild? (by decide)) fun type _ _ nodes => by
    -- a type is no declarator, so all of it is read
    have notDeclarator : type.info.kind ≠ "variable_declarator" := by
      intro isDeclarator
      simp [NodeInfo.isType, isDeclarator, typeShape?] at nodes
    have whole : Standing.spread.below type.info = .whole := if_neg notDeclarator
    exact typeOf_matching (whole ▸ nodes.2)
  have declarators := matching.childOfKind? (by decide) ["variable_declarator"]
  rw [spreadArgument, spreadArgument, Node.spreadDeclarator?, Node.spreadDeclarator?, types]
  generalize first.childOfKind? _ = first?, second.childOfKind? _ = second? at declarators
  cases declarators with
  | none =>
      exact .ended rfl
  | @some declarator _ nodes =>
      have kind := List.mem_singleton.mp nodes.1
      have asDeclarator : Standing.spread.below declarator.info = .declarator := if_pos kind
      apply (requiredName_matching (asDeclarator ▸ nodes.2) (by decide)).map
      rintro name _ rfl
      rfl

/-- Matching lists of parameters give the same arguments. -/
theorem readArguments_matching
    {first second : List Node}
    (matching : List.Forall₂
      (fun first second =>
        ReadMatch precision firstSource secondSource
          (Standing.parameters.below first.info) first second)
      first second) :
    EndRelated (SameComplaint precision) Eq
      (readArguments firstSource first) (readArguments secondSource second) := by
  induction matching with
  | nil =>
      exact .ended rfl
  | @cons first second firstRest secondRest nodes _ others =>
      have words := nodes.info
      by_cases formal : first.info.named = true ∧ first.kind = "formal_parameter"
      · obtain ⟨named, kind⟩ := formal
        have notSpread : first.info.kind ≠ "spread_parameter" := by
          intro spread
          exact absurd (kind.symm.trans spread) (by decide)
        have whole : Standing.parameters.below first.info = .whole := if_neg notSpread
        rw [readArguments_formal named kind,
          readArguments_formal (words.named ▸ named) (words.kind.symm.trans kind)]
        refine (formalArgument_matching (whole ▸ nodes)).bind ?_
        rintro argument _ rfl
        refine others.bind ?_
        rintro later _ rfl
        exact .ended rfl
      · by_cases spread : first.info.named = true ∧ first.kind = "spread_parameter"
        · obtain ⟨named, kind⟩ := spread
          have asSpread : Standing.parameters.below first.info = .spread := if_pos kind
          rw [readArguments_spread named kind,
            readArguments_spread (words.named ▸ named) (words.kind.symm.trans kind)]
          refine (spreadArgument_matching (asSpread ▸ nodes)).bind ?_
          rintro argument _ rfl
          refine others.bind ?_
          rintro later _ rfl
          exact .ended rfl
        · have passedOver : ∀ node : Node,
              node.info.named = first.info.named →
              node.kind = first.kind →
              node.info.named = true →
              node.kind ≠ "formal_parameter" ∧ node.kind ≠ "spread_parameter" := by
            intro node sameNamed sameKind named
            have firstNamed := sameNamed.symm.trans named
            constructor
            · intro kind
              exact formal ⟨firstNamed, sameKind.symm.trans kind⟩
            · intro kind
              exact spread ⟨firstNamed, sameKind.symm.trans kind⟩
          rw [readArguments_passedOver (passedOver first rfl rfl),
            readArguments_passedOver (passedOver second words.named.symm words.kind.symm)]
          exact others

/-- Methods that match have the same arguments. -/
theorem argumentsOf_matching
    (matching : ReadMatch precision firstSource secondSource .callable first second) :
    EndRelated (SameComplaint precision) Eq
      (argumentsOf firstSource (first.childByField? "parameters"))
      (argumentsOf secondSource (second.childByField? "parameters")) := by
  have lists := matching.childByField? (by decide) "parameters"
  generalize first.childByField? "parameters" = first?,
    second.childByField? "parameters" = second? at lists
  cases lists with
  | none =>
      exact .ended rfl
  | @some list _ nodes =>
      have asParameters : Standing.callable.below list.info = .parameters := by
        simp [Standing.below, nodes.1]
      apply readArguments_matching
      exact (asParameters ▸ nodes.2 : MatchAt _ .parameters _ _).children (by decide)

end Parameters

/-- Two lists of records are equal, up to a precision. -/
def SameRecords (precision : Precision) (first second : List Declaration) : Prop :=
  first.map (Declaration.mapTexts precision.text) =
    second.map (Declaration.mapTexts precision.text)

theorem SameRecords.append
    {precision : Precision}
    {first second firstLater secondLater : List Declaration}
    (records : SameRecords precision first second)
    (later : SameRecords precision firstLater secondLater) :
    SameRecords precision (first ++ firstLater) (second ++ secondLater) := by
  rw [SameRecords, List.map_append, List.map_append, records, later]

section Members

variable {precision : Precision} {firstSource secondSource : Bytes} {first second : Node}
variable {owner : ClassName}

theorem returnTypeOf_matching
    (matching : ReadMatch precision firstSource secondSource .callable first second) :
    returnTypeOf firstSource first = returnTypeOf secondSource second := by
  have types := typeOf?_congr (matching.childByField? (by decide) "type")
    fun type _ _ nodes => by
      have whole : Standing.callable.below type.info = .whole := by
        simp [Standing.below, nodes.1]
      exact typeOf_matching (whole ▸ nodes.2)
  have kinds : first.kind = second.kind := matching.info.kind
  rw [returnTypeOf, returnTypeOf, types, kinds]

theorem memberOf_callable_matching
    (role : first.info.memberRole? = some .callable)
    (matching : ReadMatch precision firstSource secondSource .callable first second) :
    EndRelated (SameComplaint precision) (SameRecords precision)
      (memberOf firstSource owner first).outcome
      (memberOf secondSource owner second).outcome := by
  have otherRole := matching.info.memberRole?.symm.trans role
  simp only [memberOf_callable role, memberOf_callable otherRole, Traced.outcome_bind,
    methodOf_outcome, Traced.outcome_pure, bind_assoc]
  refine (requiredName_matching matching (by decide)).bind ?_
  rintro name _ rfl
  refine (argumentsOf_matching matching).bind ?_
  rintro arguments _ rfl
  refine .ended ?_
  simp [SameRecords, Declaration.mapTexts, MethodDecl.mapTexts, MethodDecl.ofParts,
    Snippet.mapText, returnTypeOf_matching matching, matching.text]

theorem requiredNames_matching
    {first second : List Node}
    (matching : List.Forall₂
      (ReadMatch precision firstSource secondSource .declarator) first second) :
    EndRelated (SameComplaint precision) Eq
      (requiredNames firstSource first) (requiredNames secondSource second) := by
  induction matching with
  | nil =>
      exact .ended rfl
  | cons nodes _ others =>
      rw [requiredNames, requiredNames]
      refine (requiredName_matching nodes (by decide)).bind ?_
      rintro name _ rfl
      refine others.bind ?_
      rintro later _ rfl
      exact .ended rfl

/-- The declarators of matching declarations match. -/
theorem declarators_matching
    {first second : List Node}
    (matching : List.Forall₂
      (fun first second =>
        ReadMatch precision firstSource secondSource
          (Standing.fields.below first.info) first second)
      first second) :
    List.Forall₂ (ReadMatch precision firstSource secondSource .declarator)
      (first.filter fun child => child.info.field == some "declarator")
      (second.filter fun child => child.info.field == some "declarator") := by
  induction matching with
  | nil =>
      exact .nil
  | @cons first second _ _ nodes _ others =>
      have fields := nodes.info.field
      by_cases isDeclarator : first.info.field = some "declarator"
      · have asDeclarator : Standing.fields.below first.info = .declarator :=
          if_pos isDeclarator
        simp only [List.filter_cons, ← fields, isDeclarator, beq_self_eq_true, ↓reduceIte]
        exact .cons (asDeclarator ▸ nodes) others
      · simpa [← fields, isDeclarator] using others

theorem memberOf_fields_matching
    (role : first.info.memberRole? = some .fields)
    (matching : ReadMatch precision firstSource secondSource .fields first second) :
    EndRelated (SameComplaint precision) (SameRecords precision)
      (memberOf firstSource owner first).outcome
      (memberOf secondSource owner second).outcome := by
  have otherRole := matching.info.memberRole?.symm.trans role
  have types := typeOf?_congr (matching.childByField? (by decide) "type")
    fun type _ _ nodes => by
      have whole : Standing.fields.below type.info = .whole := by
        simp [Standing.below, nodes.1]
      exact typeOf_matching (whole ▸ nodes.2)
  have names := requiredNames_matching (declarators_matching (matching.children (by decide)))
  simp only [memberOf_fields role, memberOf_fields otherRole, Traced.outcome_bind,
    Traced.outcome_ofExcept, Traced.outcome_pure, fieldsOf, declaratorNames,
    Node.childrenByField, types]
  refine EndRelated.bind (names.map ?_) fun records => .ended records
  rintro names _ rfl
  simp [SameRecords, Declaration.mapTexts, FieldDecl.mapTexts, FieldDecl.ofParts,
    Snippet.mapText, matching.text]

theorem memberOf_constant_matching
    (role : first.info.memberRole? = some .constant)
    (matching : ReadMatch precision firstSource secondSource .declarator first second) :
    EndRelated (SameComplaint precision) (SameRecords precision)
      (memberOf firstSource owner first).outcome
      (memberOf secondSource owner second).outcome := by
  have otherRole := matching.info.memberRole?.symm.trans role
  simp only [memberOf_constant role, memberOf_constant otherRole, Traced.outcome_bind,
    Traced.outcome_ofExcept, Traced.outcome_pure, constantOf]
  refine EndRelated.bind ((requiredName_matching matching (by decide)).map ?_)
    fun records => .ended records
  rintro name _ rfl
  simp [SameRecords, Declaration.mapTexts, FieldDecl.mapTexts, FieldDecl.ofParts,
    Snippet.mapText, matching.text]

end Members

/-- Two outlines of a type, if it has one, are equal, up to a precision. -/
def SameOutline (precision : Precision) (first? second? : Option ClassDecl) : Prop :=
  first?.map (ClassDecl.mapTexts precision.text) =
    second?.map (ClassDecl.mapTexts precision.text)

section Types

variable {precision : Precision} {firstSource secondSource : Bytes} {first second : Node}

theorem keywordModifiers_congr
    {first second : List Node}
    (kinds : List.Forall₂ (fun first second : Node => first.kind = second.kind) first second) :
    keywordModifiers first = keywordModifiers second := by
  have keywords :
      first.filterMap (fun child => Modifier.ofKeyword? child.kind) =
        second.filterMap (fun child => Modifier.ofKeyword? child.kind) := by
    induction kinds with
    | nil =>
        rfl
    | cons kind _ inductionHypothesis =>
        rw [List.filterMap_cons, List.filterMap_cons, kind, inductionHypothesis]
  rw [keywordModifiers, keywordModifiers, keywords]

theorem declaredModifiers_matching
    (matching : ReadMatch precision firstSource secondSource .type first second) :
    declaredModifiers first = declaredModifiers second := by
  have lists := matching.childOfKind? (by decide) ["modifiers"]
  unfold declaredModifiers
  generalize first.childOfKind? ["modifiers"] = first?,
    second.childOfKind? ["modifiers"] = second? at lists
  cases lists with
  | none =>
      rfl
  | @some list _ nodes =>
      -- even a list of modifiers that is held as a body has its children read
      have read : Standing.type.below list.info ≠ .unread := by
        by_cases isBody : list.info.field = some "body" <;> simp [Standing.below, isBody]
      apply keywordModifiers_congr
      exact (nodes.2.children read).imp fun _ _ keyword => keyword.info.kind

theorem headerOf_matching
    (words : ReadAlike precision firstSource secondSource first.info second.info) :
    precision.text (headerOf firstSource first) =
      precision.text (headerOf secondSource second) := by
  have kinds : first.kind = second.kind := words.kind
  rw [headerOf, headerOf, kinds]
  split
  · rfl
  · exact words.header

/-- Types match if their members do. -/
theorem outlineType_matching
    (scope : Scope)
    (words : ReadAlike precision firstSource secondSource first.info second.info)
    (recorded : first.kind ≠ annotationKind →
      ReadMatch precision firstSource secondSource .type first second)
    (members : ∀ owner body other,
      first.childByField? bodyField = some body →
      ReadMatch precision firstSource secondSource .body body other →
      EndRelated (SameComplaint precision) (SameRecords precision)
        (membersOf firstSource owner body.children).outcome
        (membersOf secondSource owner other.children).outcome) :
    EndRelated (SameComplaint precision) (SameOutline precision)
      (outlineType firstSource scope first).outcome
      (outlineType secondSource scope second).outcome := by
  have kinds : first.kind = second.kind := words.kind
  by_cases skipped : first.kind = annotationKind
  · rw [outlineType_skipped skipped, outlineType_skipped (kinds.symm.trans skipped)]
    exact .ended rfl
  · have matching := recorded skipped
    have otherRecorded : second.kind ≠ annotationKind := kinds ▸ skipped
    rw [outlineType_recorded_outcome skipped, outlineType_recorded_outcome otherRecorded]
    refine (requiredName_matching matching (by decide)).bind ?_
    rintro identifier _ rfl
    have inBody :
        EndRelated (SameComplaint precision) (SameRecords precision)
          (typeMembers firstSource (scope.className identifier) first).outcome
          (typeMembers secondSource (scope.className identifier) second).outcome := by
      have bodies := matching.childByField? (by decide) bodyField
      unfold typeMembers
      generalize first.childByField? bodyField = first?,
        second.childByField? bodyField = second? at bodies members
      cases bodies with
      | none =>
          exact .ended rfl
      | @some body other nodes =>
          have asBody : Standing.type.below body.info = .body := if_pos nodes.1
          exact members _ body other rfl (asBody ▸ nodes.2)
    refine inBody.bind fun {firstChildren secondChildren} children => .ended ?_
    have modifiers : scope.modifiers first = scope.modifiers second := by
      cases scope with
      | file origin =>
          exact declaredModifiers_matching matching
      | body parent =>
          rfl
    rw [SameRecords] at children
    simp [SameOutline, ClassDecl.mapTexts, mapMemberTexts_eq, children, typeHead,
      Snippet.mapText, headerOf_matching words, modifiers]

theorem memberOf_type_matching
    {owner : ClassName}
    (role : first.info.memberRole? = some .type)
    (words : ReadAlike precision firstSource secondSource first.info second.info)
    (outlines : EndRelated (SameComplaint precision) (SameOutline precision)
      (outlineType firstSource (.body owner) first).outcome
      (outlineType secondSource (.body owner) second).outcome) :
    EndRelated (SameComplaint precision) (SameRecords precision)
      (memberOf firstSource owner first).outcome
      (memberOf secondSource owner second).outcome := by
  have otherRole := words.memberRole?.symm.trans role
  simp only [memberOf_type role, memberOf_type otherRole, Traced.outcome_bind,
    Traced.outcome_pure]
  refine outlines.bind fun {firstNested? secondNested?} outline => .ended ?_
  rw [SameOutline] at outline
  cases firstNested? <;> cases secondNested? <;>
    simp_all [SameRecords, Declaration.mapTexts]

theorem membersOf_cons_matching
    {owner : ClassName}
    {firstRest secondRest : List Node}
    (member : EndRelated (SameComplaint precision) (SameRecords precision)
      (memberOf firstSource owner first).outcome
      (memberOf secondSource owner second).outcome)
    (others : EndRelated (SameComplaint precision) (SameRecords precision)
      (membersOf firstSource owner firstRest).outcome
      (membersOf secondSource owner secondRest).outcome) :
    EndRelated (SameComplaint precision) (SameRecords precision)
      (membersOf firstSource owner (first :: firstRest)).outcome
      (membersOf secondSource owner (second :: secondRest)).outcome := by
  simp only [membersOf_cons, Traced.outcome_bind, Traced.outcome_pure]
  refine member.bind fun records => ?_
  refine others.bind fun later => ?_
  exact .ended (records.append later)

/-- The walk through matching bodies makes the same records. -/
theorem membersOf_matching
    (owner : ClassName)
    {firstNodes secondNodes : List Node}
    (matching : List.Forall₂
      (fun first second =>
        ReadMatch precision firstSource secondSource
          (Standing.body.below first.info) first second)
      firstNodes secondNodes) :
    EndRelated (SameComplaint precision) (SameRecords precision)
      (membersOf firstSource owner firstNodes).outcome
      (membersOf secondSource owner secondNodes).outcome := by
  induction firstNodes using bodyInduction generalizing owner secondNodes with
  | nil =>
      cases matching
      rw [membersOf_nil, membersOf_nil]
      exact .ended rfl
  | passedOver first rest role inductionHypothesis =>
      cases matching with
      | cons nodes others =>
          have otherRole := nodes.info.memberRole?.symm.trans role
          refine membersOf_cons_matching ?_ (inductionHypothesis owner others)
          rw [memberOf_passedOver role, memberOf_passedOver otherRole]
          exact .ended rfl
  | callable first rest role inductionHypothesis =>
      cases matching with
      | cons nodes others =>
          exact membersOf_cons_matching
            (memberOf_callable_matching role (nodes.of_role role nofun))
            (inductionHypothesis owner others)
  | fields first rest role inductionHypothesis =>
      cases matching with
      | cons nodes others =>
          exact membersOf_cons_matching
            (memberOf_fields_matching role (nodes.of_role role nofun))
            (inductionHypothesis owner others)
  | constant first rest role inductionHypothesis =>
      cases matching with
      | cons nodes others =>
          exact membersOf_cons_matching
            (memberOf_constant_matching role (nodes.of_role role nofun))
            (inductionHypothesis owner others)
  | bodyPart first rest role inPart inductionHypothesis =>
      cases matching with
      | @cons _ second _ _ nodes others =>
          have otherRole := nodes.info.memberRole?.symm.trans role
          have part :
              ReadMatch precision firstSource secondSource .body first second :=
            nodes.of_role role nofun
          refine membersOf_cons_matching ?_ (inductionHypothesis owner others)
          rw [memberOf_bodyPart role, memberOf_bodyPart otherRole]
          exact inPart owner (part.children (by decide))
  | type first rest role inBody inductionHypothesis =>
      cases matching with
      | @cons _ second _ _ nodes others =>
          have recorded : first.kind ≠ annotationKind →
              ReadMatch precision firstSource secondSource .type first second := by
            intro isRecorded
            exact nodes.of_role role fun _ => isRecorded
          have outlines := outlineType_matching (.body owner) nodes.info recorded
            fun inner body other found bodies =>
              inBody body found inner (bodies.children (by decide))
          exact membersOf_cons_matching
            (memberOf_type_matching role nodes.info outlines)
            (inductionHypothesis owner others)

/-- Types that match have the same outline in any scope. -/
theorem outlineType_of_match
    (scope : Scope)
    (words : ReadAlike precision firstSource secondSource first.info second.info)
    (recorded : first.kind ≠ annotationKind →
      ReadMatch precision firstSource secondSource .type first second) :
    EndRelated (SameComplaint precision) (SameOutline precision)
      (outlineType firstSource scope first).outcome
      (outlineType secondSource scope second).outcome :=
  outlineType_matching scope words recorded fun owner _ _ _ bodies =>
    membersOf_matching owner (bodies.children (by decide))

end Types

/-- Two lists of classes are equal, up to a precision. -/
def SameClasses (precision : Precision) (first second : List ClassDecl) : Prop :=
  first.map (ClassDecl.mapTexts precision.text) =
    second.map (ClassDecl.mapTexts precision.text)

section Units

variable {precision : Precision} {firstSource secondSource : Bytes} {first second : Node}

theorem packageName_matching
    (matching : ReadMatch precision firstSource secondSource .whole first second) :
    (first.childOfKind? ["scoped_identifier", "identifier"]).map
        (fun name => name.compactText firstSource) =
      (second.childOfKind? ["scoped_identifier", "identifier"]).map
        (fun name => name.compactText secondSource) := by
  have names := matching.childOfKind? (by decide) ["scoped_identifier", "identifier"]
  generalize first.childOfKind? _ = first?, second.childOfKind? _ = second? at names
  cases names with
  | none =>
      rfl
  | @some name _ nodes =>
      have listed :
          name.info.kind ∈
            ["type_identifier", "scoped_type_identifier", "identifier",
              "scoped_identifier"] := by
        have kind := nodes.1
        simp only [List.mem_cons, List.not_mem_nil, or_false] at kind ⊢
        tauto
      exact congrArg some (nodes.2.info.identifier listed)

theorem packageOf_matching
    (matching : ReadMatch precision firstSource secondSource .unit first second)
    (fallback : String) :
    packageOf firstSource first fallback = packageOf secondSource second fallback := by
  have packages : declaredPackage? firstSource first = declaredPackage? secondSource second := by
    have declarations := matching.childOfKind? (by decide) ["package_declaration"]
    unfold declaredPackage?
    generalize first.childOfKind? ["package_declaration"] = first?,
      second.childOfKind? ["package_declaration"] = second? at declarations
    cases declarations with
    | none =>
        rfl
    | @some declaration _ nodes =>
        have whole : Standing.unit.below declaration.info = .whole := by
          simp [Standing.below, List.mem_singleton.mp nodes.1, recordedTypeKinds]
        exact packageName_matching (whole ▸ nodes.2)
  rw [packageOf, packageOf, packages]

theorem outlineTypes_matching
    (scope : Scope)
    {firstNodes secondNodes : List Node}
    (matching : List.Forall₂
      (fun first second =>
        ReadMatch precision firstSource secondSource
          (Standing.unit.below first.info) first second)
      firstNodes secondNodes) :
    EndRelated (SameComplaint precision) (SameClasses precision)
      (outlineTypes firstSource scope firstNodes).outcome
      (outlineTypes secondSource scope secondNodes).outcome := by
  induction matching with
  | nil =>
      exact .ended rfl
  | @cons first second firstRest secondRest nodes _ others =>
      have sameRole := nodes.info.isNamedOneOf typeDeclarationKinds
      cases isType : first.info.isNamedOneOf typeDeclarationKinds with
      | false =>
          rw [outlineTypes_passedOver isType, outlineTypes_passedOver (sameRole.symm.trans isType)]
          exact others
      | true =>
          have recorded : first.kind ≠ annotationKind →
              ReadMatch precision firstSource secondSource .type first second := by
            intro isRecorded
            have listed : first.kind ∈ recordedTypeKinds :=
              mem_recordedTypeKinds_iff.mpr
                ⟨List.contains_iff_mem.mp (Bool.and_eq_true_iff.mp isType).2, isRecorded⟩
            have standing : Standing.unit.below first.info = .type :=
              (if_neg isRecorded).trans (if_pos listed)
            exact standing ▸ nodes
          rw [outlineTypes_type isType, outlineTypes_type (sameRole.symm.trans isType)]
          simp only [Traced.outcome_bind, Traced.outcome_pure]
          refine (outlineType_of_match scope nodes.info recorded).bind
            fun {first? second?} outline => ?_
          refine others.bind fun {firstLater secondLater} later => .ended ?_
          rw [SameOutline] at outline
          rw [SameClasses] at later ⊢
          cases first? <;> cases second? <;> simp_all

/-- Units that match have the same outline. -/
theorem outlineUnit_of_match
    (matching : ReadMatch precision firstSource secondSource .unit first second)
    (file fallbackPackage : String) :
    EndRelated (SameComplaint precision) (SameClasses precision)
      (outlineUnit firstSource first file fallbackPackage).outcome
      (outlineUnit secondSource second file fallbackPackage).outcome := by
  rw [outlineUnit, outlineUnit, packageOf_matching matching]
  exact outlineTypes_matching _ (matching.children (by decide))

end Units

/-- Everything is kept. -/
def Precision.exact : Precision where
  text := id
  point := id

section Exactly

variable {firstSource secondSource : Bytes} {first second : Node}

theorem SameComplaint.eq
    {first second : MissingPart}
    (same : SameComplaint .exact first second) :
    first = second := by
  obtain ⟨kind, part, point⟩ := same
  cases first
  cases second
  simp_all [Precision.exact]

theorem outlineType_eq_of_match
    (matching : ReadMatch .exact firstSource secondSource .type first second)
    (scope : Scope) :
    (outlineType firstSource scope first).outcome =
      (outlineType secondSource scope second).outcome := by
  apply EndRelated.eq
  apply (outlineType_of_match scope matching.info fun _ => matching).imp
  · exact SameComplaint.eq
  · intro first? second? outlines
    have unchanged : ClassDecl.mapTexts Precision.exact.text = id :=
      funext ClassDecl.mapTexts_id
    simpa only [SameOutline, unchanged, Option.map_id_fun, id] using outlines

theorem outlineUnit_eq_of_match
    (matching : ReadMatch .exact firstSource secondSource .unit first second)
    (file fallbackPackage : String) :
    (outlineUnit firstSource first file fallbackPackage).outcome =
      (outlineUnit secondSource second file fallbackPackage).outcome := by
  apply EndRelated.eq
  apply (outlineUnit_of_match matching file fallbackPackage).imp
  · exact SameComplaint.eq
  · intro firstClasses secondClasses classes
    have unchanged : ClassDecl.mapTexts Precision.exact.text = id :=
      funext ClassDecl.mapTexts_id
    simpa only [SameClasses, unchanged, List.map_id] using classes

end Exactly

end JavaOutline
