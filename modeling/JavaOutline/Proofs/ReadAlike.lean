import JavaOutline.Proofs.Matching
import JavaOutline.Proofs.TypeReading

namespace JavaOutline

open Text (Bytes)

/-!
# Nodes that are read alike

Few texts are read on the way to an outline: names as they are written, names of
types and packages without their blanks, words for primitives without the blanks
around them. Nodes of two trees, each with its own source, are read alike if they
agree in these. Snippets, headers and positions only turn up in the result, so how
closely they have to agree depends on how closely results are compared. Trees that
are read alike give the same names and the same types.
-/

/-- Two nodes, each in its own source, are told apart by nothing that names are made of. -/
structure SameWords
    (firstSource secondSource : Bytes)
    (first second : NodeInfo) :
    Prop where
  kind : first.kind = second.kind
  named : first.named = second.named
  field : first.field = second.field
  name :
    first.field = some "name" →
    first.text firstSource = second.text secondSource
  identifier :
    first.kind ∈
      ["type_identifier", "scoped_type_identifier", "identifier", "scoped_identifier"] →
    first.compactText firstSource = second.compactText secondSource
  primitive :
    first.kind ∈ ["integral_type", "floating_point_type", "boolean_type", "void_type"] →
    Text.strip (first.text firstSource) = Text.strip (second.text secondSource)

theorem sameWords_iff
    {firstSource secondSource : Bytes}
    {first second : NodeInfo} :
    SameWords firstSource secondSource first second ↔
      (first.kind = second.kind ∧ first.named = second.named ∧
          first.field = second.field) ∧
        (first.field = some "name" →
          first.text firstSource = second.text secondSource) ∧
        (first.kind ∈
            ["type_identifier", "scoped_type_identifier", "identifier",
              "scoped_identifier"] →
          first.compactText firstSource = second.compactText secondSource) ∧
        (first.kind ∈
            ["integral_type", "floating_point_type", "boolean_type", "void_type"] →
          Text.strip (first.text firstSource) = Text.strip (second.text secondSource)) := by
  constructor
  · intro words
    exact ⟨⟨words.kind, words.named, words.field⟩, words.name, words.identifier,
      words.primitive⟩
  · rintro ⟨⟨kind, named, field⟩, name, identifier, primitive⟩
    exact ⟨kind, named, field, name, identifier, primitive⟩

instance (firstSource secondSource : Bytes) :
    DecidableRel (SameWords firstSource secondSource) :=
  fun _ _ => decidable_of_iff _ sameWords_iff.symm

/-- How closely outlines are compared: what is kept of snippets and headers and of positions. -/
structure Precision where
  text : String → String
  point : Point → Point

/-- Two nodes are read alike by an outline, up to a precision. -/
structure ReadAlike
    (precision : Precision)
    (firstSource secondSource : Bytes)
    (first second : NodeInfo) :
    Prop extends SameWords firstSource secondSource first second where
  text :
    precision.text (first.text firstSource) = precision.text (second.text secondSource)
  header :
    precision.text (first.textBeforeBrace firstSource) =
      precision.text (second.textBeforeBrace secondSource)
  point : precision.point first.point = precision.point second.point

/-- Two complaints are about nodes of the same kind and about the same part. -/
structure SameComplaint (precision : Precision) (first second : MissingPart) : Prop where
  kind : first.kind = second.kind
  part : first.part = second.part
  point : precision.point first.point = precision.point second.point

/-- Two trees that stand alike are read alike, each in its own source. -/
abbrev ReadMatch
    (precision : Precision)
    (firstSource secondSource : Bytes) :
    Standing → Node → Node → Prop :=
  MatchAt (ReadAlike precision firstSource secondSource)

section Nodes

variable {precision : Precision} {firstSource secondSource : Bytes}
variable {standing : Standing} {first second : Node}

theorem SameWords.memberRole?
    {first second : NodeInfo}
    (words : SameWords firstSource secondSource first second) :
    first.memberRole? = second.memberRole? := by
  rw [NodeInfo.memberRole?, NodeInfo.memberRole?, words.named, words.kind]

theorem SameWords.isNamedOneOf
    {first second : NodeInfo}
    (words : SameWords firstSource secondSource first second)
    (kinds : List String) :
    first.isNamedOneOf kinds = second.isNamedOneOf kinds := by
  rw [NodeInfo.isNamedOneOf, NodeInfo.isNamedOneOf, words.named, words.kind]

theorem SameWords.isType
    {first second : NodeInfo}
    (words : SameWords firstSource secondSource first second) :
    first.isType = second.isType := by
  rw [NodeInfo.isType, NodeInfo.isType, words.named, words.kind]

theorem MatchAt.text
    (matching : ReadMatch precision firstSource secondSource standing first second) :
    precision.text (first.text firstSource) = precision.text (second.text secondSource) :=
  matching.info.text

/-- Looking for a child by what it says of itself, matching nodes find matching children. -/
theorem MatchAt.find?
    (matching : ReadMatch precision firstSource secondSource standing first second)
    (read : standing ≠ .unread)
    (wanted : NodeInfo → Bool)
    (same : ∀ {first second : NodeInfo},
      SameWords firstSource secondSource first second → wanted first = wanted second) :
    Option.Rel
      (fun first second =>
        wanted first.info = true ∧
          ReadMatch precision firstSource secondSource
            (standing.below first.info) first second)
      (first.children.find? fun child => wanted child.info)
      (second.children.find? fun child => wanted child.info) :=
  find?_of_forall₂ (fun child => wanted child.info)
    (fun _ _ child => same child.info.toSameWords) (matching.children read)

theorem MatchAt.findLast?
    (matching : ReadMatch precision firstSource secondSource standing first second)
    (read : standing ≠ .unread)
    (wanted : NodeInfo → Bool)
    (same : ∀ {first second : NodeInfo},
      SameWords firstSource secondSource first second → wanted first = wanted second) :
    Option.Rel
      (fun first second =>
        wanted first.info = true ∧
          ReadMatch precision firstSource secondSource
            (standing.below first.info) first second)
      (first.children.reverse.find? fun child => wanted child.info)
      (second.children.reverse.find? fun child => wanted child.info) :=
  find?_of_forall₂ (fun child => wanted child.info)
    (fun _ _ child => same child.info.toSameWords)
    (List.forall₂_reverse_iff.mpr (matching.children read))

theorem MatchAt.childByField?
    (matching : ReadMatch precision firstSource secondSource standing first second)
    (read : standing ≠ .unread)
    (field : String) :
    Option.Rel
      (fun first second =>
        first.info.field = some field ∧
          ReadMatch precision firstSource secondSource
            (standing.below first.info) first second)
      (first.childByField? field) (second.childByField? field) := by
  have found := matching.find? read (fun info => info.field == some field)
    (fun words => by rw [words.field])
  simpa only [Node.childByField?, beq_iff_eq] using found

theorem MatchAt.childOfKind?
    (matching : ReadMatch precision firstSource secondSource standing first second)
    (read : standing ≠ .unread)
    (kinds : List String) :
    Option.Rel
      (fun first second =>
        first.info.kind ∈ kinds ∧
          ReadMatch precision firstSource secondSource
            (standing.below first.info) first second)
      (first.childOfKind? kinds) (second.childOfKind? kinds) := by
  have found := matching.find? read (NodeInfo.isNamedOneOf kinds)
    (fun words => words.isNamedOneOf kinds)
  unfold Node.childOfKind?
  generalize first.children.find? _ = first?, second.children.find? _ = second? at found ⊢
  cases found with
  | none =>
      exact .none
  | some nodes =>
      have kind := List.contains_iff_mem.mp (Bool.and_eq_true_iff.mp nodes.1).2
      exact .some ⟨kind, nodes.2⟩

theorem MatchAt.typeChild?
    (matching : ReadMatch precision firstSource secondSource standing first second)
    (read : standing ≠ .unread) :
    Option.Rel
      (fun first second =>
        first.info.isType = true ∧
          ReadMatch precision firstSource secondSource
            (standing.below first.info) first second)
      first.typeChild? second.typeChild? :=
  matching.find? read NodeInfo.isType fun words => words.isType

/-- Matching nodes have the same name, or their lack of one is the same complaint. -/
theorem requiredName_matching
    (matching : ReadMatch precision firstSource secondSource standing first second)
    (read : standing ≠ .unread) :
    EndRelated (SameComplaint precision) Eq
      (first.requiredName firstSource) (second.requiredName secondSource) := by
  have names := matching.childByField? read nameField
  simp only [Node.requiredName, Node.require]
  generalize first.childByField? nameField = firstName?,
    second.childByField? nameField = secondName? at names
  cases names with
  | none =>
      exact .failed ⟨matching.info.kind, rfl, matching.info.point⟩
  | some found =>
      exact .ended (found.2.info.name found.1)

end Nodes

section Types

variable {precision : Precision} {firstSource secondSource : Bytes}

theorem primitiveType_congr
    {first second : NodeInfo}
    (words :
      Text.strip (first.text firstSource) = Text.strip (second.text secondSource)) :
    primitiveType firstSource first = primitiveType secondSource second := by
  simp only [primitiveType, Primitive.ofKeyword?, words]

theorem typeOf?_congr
    {related : Node → Node → Prop}
    {first? second? : Option Node}
    (found : Option.Rel related first? second?)
    (types : ∀ first ∈ first?.toList, ∀ second,
      related first second → typeOf firstSource first = typeOf secondSource second) :
    typeOf? firstSource first? = typeOf? secondSource second? := by
  cases found with
  | none =>
      rfl
  | some nodes =>
      exact types _ (List.mem_singleton.mpr rfl) _ nodes

theorem boundKeyword?_matching
    {first second : Node}
    (matching : ReadMatch precision firstSource secondSource .whole first second) :
    boundKeyword? first.children = boundKeyword? second.children := by
  have found := matching.findLast? (by decide)
    (fun info => info.kind == "extends" || info.kind == "super")
    (fun words => by rw [words.kind])
  unfold boundKeyword? Node.kind
  generalize first.children.reverse.find? _ = first?,
    second.children.reverse.find? _ = second? at found
  cases found with
  | none =>
      rfl
  | some nodes =>
      exact congrArg some nodes.2.info.kind

/-- Matching arguments have the same text if the types that are read for them agree. -/
theorem argumentText?_matching
    {first second : Node}
    (matching : ReadMatch precision firstSource secondSource .whole first second)
    (types : ∀ type ∈ first.argumentTypes, ∀ other,
      ReadMatch precision firstSource secondSource .whole type other →
      typeOf firstSource type = typeOf secondSource other) :
    argumentText? firstSource first = argumentText? secondSource second := by
  have words := matching.info
  have wildcards : first.info.isWildcard = second.info.isWildcard := by
    rw [NodeInfo.isWildcard, NodeInfo.isWildcard, words.named, words.kind]
  rw [argumentText?, argumentText?, ← wildcards, ← words.isType,
    ← boundKeyword?_matching matching]
  rw [Node.argumentTypes] at types
  by_cases isWildcard : first.info.isWildcard = true
  · rw [if_pos isWildcard] at types ⊢
    rw [if_pos isWildcard]
    cases keyword : boundKeyword? first.children with
    | none =>
        rfl
    | some word =>
        rw [keyword, Option.isSome_some, if_pos rfl] at types
        have bounds := matching.typeChild? (by decide)
        generalize first.typeChild? = first?, second.typeChild? = second? at bounds types
        cases bounds with
        | none =>
            rfl
        | some bound =>
            rw [Option.map_some, Option.map_some,
              types _ (List.mem_singleton.mpr rfl) _ bound.2]
  · rw [if_neg isWildcard] at types ⊢
    rw [if_neg isWildcard]
    by_cases isType : first.info.isType = true
    · rw [if_pos isType] at types ⊢
      rw [if_pos isType, types first (List.mem_singleton.mpr rfl) second matching]
    · rw [if_neg isType, if_neg isType]

theorem argumentTexts_matching
    {first second : List Node}
    (matching :
      List.Forall₂ (ReadMatch precision firstSource secondSource .whole) first second)
    (types : ∀ type ∈ first.flatMap Node.argumentTypes, ∀ other,
      ReadMatch precision firstSource secondSource .whole type other →
      typeOf firstSource type = typeOf secondSource other) :
    first.filterMap (argumentText? firstSource) =
      second.filterMap (argumentText? secondSource) := by
  induction matching with
  | nil =>
      rfl
  | @cons first second firstRest secondRest arguments _ inductionHypothesis =>
      rw [List.flatMap_cons] at types
      have own := argumentText?_matching arguments
        (fun type present => types type (List.mem_append_left _ present))
      have others := inductionHypothesis
        (fun type present => types type (List.mem_append_right _ present))
      rw [List.filterMap_cons, List.filterMap_cons, own, others]

/-- The base names of matching generic types agree. -/
theorem baseName?_matching
    {first second : Node}
    (matching : ReadMatch precision firstSource secondSource .whole first second) :
    first.baseName?.map (fun base => base.compactText firstSource) =
      second.baseName?.map (fun base => base.compactText secondSource) := by
  have bases := matching.findLast? (by decide) NodeInfo.isTypeName fun words => by
    rw [NodeInfo.isTypeName, NodeInfo.isTypeName, words.named, words.kind]
  unfold Node.baseName?
  generalize first.children.reverse.find? _ = first?,
    second.children.reverse.find? _ = second? at bases
  cases bases with
  | none =>
      rfl
  | @some base _ nodes =>
      have kind : base.info.kind ∈ TypeShape.name.kinds := by
        rw [← typeShape?_eq_some_iff]
        simpa [NodeInfo.isTypeName] using (Bool.and_eq_true_iff.mp nodes.1).2
      have listed :
          base.info.kind ∈
            ["type_identifier", "scoped_type_identifier", "identifier", "scoped_identifier"] :=
        List.mem_append_left ["identifier", "scoped_identifier"] kind
      exact congrArg some (nodes.2.info.identifier listed)

/-- Matching nodes stand for the same type. -/
theorem typeOf_matching
    {first second : Node}
    (matching : ReadMatch precision firstSource secondSource .whole first second) :
    typeOf firstSource first = typeOf secondSource second := by
  induction first using typeInduction generalizing second with
  | step first inductionHypothesis =>
      have sameShape : typeShape? second.kind = typeShape? first.kind :=
        congrArg typeShape? matching.info.kind.symm
      cases shape : typeShape? first.kind with
      | none =>
          rw [typeOf_unknown shape, typeOf_unknown (sameShape.trans shape)]
      | some known =>
          have kind := typeShape?_eq_some_iff.mp shape
          have otherShape := sameShape.trans shape
          cases known with
          | primitive =>
              rw [typeOf_primitive shape, typeOf_primitive otherShape]
              exact primitiveType_congr (matching.info.primitive kind)
          | name =>
              rw [typeOf_name shape, typeOf_name otherShape]
              have listed :=
                List.mem_append_left ["identifier", "scoped_identifier"] kind
              exact congrArg TypeName.reference (matching.info.identifier listed)
          | generic =>
              rw [nextTypes_generic (List.mem_singleton.mp kind)] at inductionHypothesis
              rw [typeOf_generic shape, typeOf_generic otherShape,
                baseName?_matching matching]
              have lists := matching.findLast? (by decide) NodeInfo.isTypeArguments
                fun words => by
                  rw [NodeInfo.isTypeArguments, NodeInfo.isTypeArguments, words.named,
                    words.kind]
              unfold Node.typeArguments? at inductionHypothesis ⊢
              generalize
                first.children.reverse.find? (fun child => child.info.isTypeArguments) = first?,
                second.children.reverse.find? (fun child => child.info.isTypeArguments) = second?
                at lists inductionHypothesis
              cases lists with
              | none =>
                  rfl
              | some nodes =>
                  have listed : Standing.whole ≠ .unread := by
                    decide
                  have texts := argumentTexts_matching (nodes.2.children listed)
                    fun type present other typeMatching =>
                      inductionHypothesis type (List.mem_append_right _ present) typeMatching
                  rw [Option.map_some, Option.map_some, texts]
          | array =>
              rw [nextTypes_array (List.mem_singleton.mp kind)] at inductionHypothesis
              rw [typeOf_array shape, typeOf_array otherShape]
              apply typeOf?_congr (matching.childByField? (by decide) "element")
              intro type present other nodes
              exact inductionHypothesis type present nodes.2
          | annotated =>
              rw [nextTypes_annotated (List.mem_singleton.mp kind)] at inductionHypothesis
              rw [typeOf_annotated shape, typeOf_annotated otherShape]
              apply typeOf?_congr (matching.typeChild? (by decide))
              intro type present other nodes
              exact inductionHypothesis type present nodes.2

end Types

end JavaOutline
