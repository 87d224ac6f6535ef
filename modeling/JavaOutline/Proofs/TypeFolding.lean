import JavaOutline.Proofs.ErasedText

namespace JavaOutline

open Text (Bytes)

/-!
# What folding keeps of a type

An outline folds a type into one text. Arrays and annotations are dropped on
the way, and nothing else: the name and the arguments of a type, and their
arguments in turn, are determined by its text as long as the names are clear.
-/

/-- The kinds of nodes that stand for a type. -/
def typeKinds : List String :=
  [.primitive, .name, .generic, .array, .annotated].flatMap TypeShape.kinds

namespace Node

/-- The last named child of one of the given kinds. -/
def lastOfKind? (kinds : List String) (node : Node) : Option Node :=
  (node.childrenOfKind kinds).getLast?

/-- The named nodes in the argument list of a generic type. -/
def argumentNodes (node : Node) : List Node :=
  match node.lastOfKind? ["type_arguments"] with
  | some list => list.namedChildren
  | none => []

/-- The keyword that says how a wildcard is bounded; of several the last counts. -/
def boundKind? (wildcard : Node) : Option String :=
  (wildcard.children.filter fun child => ["extends", "super"].contains child.kind).getLast?.map
    kind

theorem mem_children_of_lastOfKind?
    {kinds : List String}
    {node last : Node}
    (found : node.lastOfKind? kinds = some last) :
    last ∈ node.children :=
  List.mem_of_mem_filter (List.mem_of_getLast? found)

theorem size_lt_of_mem_argumentNodes
    {node argument : Node}
    (present : argument ∈ node.argumentNodes) :
    argument.size < node.size := by
  rw [argumentNodes] at present
  split at present
  case h_1 list held =>
    have inner := size_lt_of_mem_children (List.mem_of_mem_filter present)
    have outer := size_lt_of_mem_children (mem_children_of_lastOfKind? held)
    exact Nat.lt_trans inner outer
  case h_2 =>
    cases present

theorem named_of_mem_argumentNodes
    {node argument : Node}
    (present : argument ∈ node.argumentNodes) :
    argument.info.named = true := by
  rw [argumentNodes] at present
  split at present
  case h_1 =>
    exact (List.mem_filter.mp present).2
  case h_2 =>
    cases present

theorem size_lt_of_find?
    {node child : Node}
    {choose : Node → Bool}
    (found : node.children.find? choose = some child) :
    child.size < node.size :=
  size_lt_of_mem_children (List.mem_of_find?_eq_some found)

end Node

/-- A wildcard with a keyword and a bound; without either it is bare. -/
def ErasedArgument.ofBound : Option String → Option ErasedType → ErasedArgument
  | some "extends", some bound => .upperBounded bound
  | some "super", some bound => .lowerBounded bound
  | _, _ => .wildcard

mutual

/-- A type without its arrays and annotations; void for what is no type. -/
def Node.erased (source : Bytes) (node : Node) : ErasedType :=
  if node.kind ∈ TypeShape.primitive.kinds then
    .primitive ((Primitive.ofKeyword? (node.text source)).getD .void)
  else if node.kind ∈ TypeShape.name.kinds then
    .named (node.compactText source) []
  else if node.kind ∈ TypeShape.generic.kinds then
    .named
      (((node.lastOfKind? TypeShape.name.kinds).map (compactText source)).getD "")
      (node.argumentNodes.attach.filterMap fun argument => argument.val.erasedArgument? source)
  else if node.kind ∈ TypeShape.array.kinds then
    ((node.childByField? "element").attach.map fun element => element.val.erased source).getD
      .void
  else if node.kind ∈ TypeShape.annotated.kinds then
    ((node.childOfKind? typeKinds).attach.map fun type => type.val.erased source).getD .void
  else
    .void
  termination_by (node.size, 0)
  decreasing_by
    · exact Prod.Lex.left _ _ (size_lt_of_mem_argumentNodes argument.property)
    · exact Prod.Lex.left _ _ (size_lt_of_find? element.property)
    · exact Prod.Lex.left _ _ (size_lt_of_find? type.property)

/-- What a node in an argument list stands for, if it is a wildcard or a type. -/
def Node.erasedArgument? (source : Bytes) (argument : Node) : Option ErasedArgument :=
  if argument.kind = "wildcard" then
    some (.ofBound argument.boundKind?
      ((argument.childOfKind? typeKinds).attach.map fun bound => bound.val.erased source))
  else if argument.kind ∈ typeKinds then
    some (.exact (argument.erased source))
  else
    none
  termination_by (argument.size, 1)
  decreasing_by
    · exact Prod.Lex.left _ _ (size_lt_of_find? bound.property)
    -- an argument that is a type is read again as one, at the same size
    · exact Prod.Lex.right _ Nat.zero_lt_one

end

/-- The erased form of a type that may be absent. -/
def erased? (source : Bytes) (node? : Option Node) : ErasedType :=
  (node?.map (Node.erased source)).getD .void

section Kinds

variable {node : Node}

theorem isNamedOneOf_name (info : NodeInfo) :
    info.isNamedOneOf TypeShape.name.kinds = info.isTypeName := by
  rw [Bool.eq_iff_iff, isTypeName_iff, NodeInfo.isNamedOneOf, Bool.and_eq_true,
    List.contains_iff_mem]
  rfl

theorem mem_typeKinds_iff
    {kind : String} :
    kind ∈ typeKinds ↔ (typeShape? kind).isSome = true := by
  rw [typeKinds, List.mem_flatMap, Option.isSome_iff_exists]
  constructor
  · rintro ⟨shape, -, isKind⟩
    exact ⟨shape, typeShape?_eq_some_iff.mpr isKind⟩
  · rintro ⟨shape, isShape⟩
    refine ⟨shape, ?_, typeShape?_eq_some_iff.mp isShape⟩
    cases shape <;> decide

theorem isNamedOneOf_typeKinds (info : NodeInfo) :
    info.isNamedOneOf typeKinds = info.isType := by
  rw [Bool.eq_iff_iff, NodeInfo.isNamedOneOf, NodeInfo.isType, Bool.and_eq_true,
    Bool.and_eq_true, List.contains_iff_mem, mem_typeKinds_iff]

theorem childOfKind?_typeKinds :
    node.childOfKind? typeKinds = node.typeChild? := by
  simp only [Node.childOfKind?, Node.typeChild?, isNamedOneOf_typeKinds]

theorem lastOfKind?_name :
    node.lastOfKind? TypeShape.name.kinds = node.baseName? := by
  simp only [Node.lastOfKind?, Node.childrenOfKind, List.getLast?_filter, Node.baseName?,
    isNamedOneOf_name]

theorem lastOfKind?_typeArguments :
    node.lastOfKind? ["type_arguments"] = node.typeArguments? := by
  have sameTest (info : NodeInfo) :
      info.isNamedOneOf ["type_arguments"] = info.isTypeArguments := by
    simp [NodeInfo.isNamedOneOf, NodeInfo.isTypeArguments, Bool.beq_eq_decide_eq]
  simp only [Node.lastOfKind?, Node.childrenOfKind, List.getLast?_filter, Node.typeArguments?,
    sameTest]

theorem boundKind?_eq :
    node.boundKind? = boundKeyword? node.children := by
  simp [Node.boundKind?, boundKeyword?, Bool.beq_eq_decide_eq]

end Kinds

section Shapes

variable {source : Bytes} {node : Node}

/-- The erased form of a type by its shape, with the parts that are read for it. -/
theorem erased_eq_of_shape :
    node.erased source =
      match typeShape? node.kind with
      | none => .void
      | some .primitive => .primitive ((Primitive.ofKeyword? (node.text source)).getD .void)
      | some .name => .named (node.compactText source) []
      | some .generic =>
          .named
            ((node.baseName?.map (Node.compactText source)).getD "")
            (node.argumentNodes.filterMap (Node.erasedArgument? source))
      | some .array => erased? source (node.childByField? "element")
      | some .annotated => erased? source node.typeChild? := by
  have arguments :
      (node.argumentNodes.attach.filterMap fun argument =>
          argument.val.erasedArgument? source) =
        node.argumentNodes.filterMap (Node.erasedArgument? source) := by
    rw [List.filterMap_subtype (fun _ _ => rfl), List.unattach_attach]
  rw [Node.erased, arguments, lastOfKind?_name, childOfKind?_typeKinds, Option.attach_map_val,
    Option.attach_map_val]
  simp only [← typeShape?_eq_some_iff, erased?]
  cases typeShape? node.kind with
  | none =>
      simp
  | some shape =>
      cases shape <;> simp

/-- A named node is an argument exactly if it is a wildcard or a type. -/
theorem erasedArgument?_of_named
    (named : node.info.named = true) :
    node.erasedArgument? source =
      if node.info.isWildcard then
        some (.ofBound (boundKeyword? node.children) (node.typeChild?.map (Node.erased source)))
      else if node.info.isType then
        some (.exact (node.erased source))
      else
        none := by
  rw [Node.erasedArgument?, boundKind?_eq, childOfKind?_typeKinds, Option.attach_map_val]
  simp only [NodeInfo.isWildcard, NodeInfo.isType, named, Bool.true_and, beq_iff_eq,
    mem_typeKinds_iff, Node.kind]

end Shapes

section Texts

variable {source : Bytes} {node : Node}

/-- A wildcard is written with its keyword and its bound. -/
theorem ofBound_text
    {keyword? : Option String}
    (known : ∀ keyword, keyword? = some keyword → keyword = "extends" ∨ keyword = "super")
    (bound? : Option ErasedType) :
    (ErasedArgument.ofBound keyword? bound?).text =
      wildcardText keyword? (bound?.map ErasedType.typeName) := by
  cases keyword? with
  | none =>
      rfl
  | some keyword =>
      cases bound? with
      | none =>
          rcases known keyword rfl with rfl | rfl <;> rfl
      | some bound =>
          have written := bound.signature_typeName
          rcases known keyword rfl with rfl | rfl <;>
            simp [ErasedArgument.ofBound, ErasedArgument.text, wildcardText, written]

/-- A wildcard is its erased form written out, if this is so of its bound. -/
theorem wildcardText_eq_erased
    {wildcard : Node}
    (bounds : (boundKeyword? wildcard.children).isSome = true →
      ∀ bound ∈ wildcard.typeChild?, typeOf source bound = (bound.erased source).typeName) :
    wildcardText (boundKeyword? wildcard.children) (wildcard.typeChild?.map (typeOf source)) =
      (ErasedArgument.ofBound (boundKeyword? wildcard.children)
        (wildcard.typeChild?.map (Node.erased source))).text := by
  rw [ofBound_text (fun _ => boundKeyword?_eq_some), Option.map_map]
  cases keyword : boundKeyword? wildcard.children with
  | none =>
      rfl
  | some word =>
      rw [keyword] at bounds
      exact congrArg (wildcardText (some word)) (Option.map_congr (bounds rfl))

/-- The text of an argument is its erased form written out, if this is so of the types in it. -/
theorem argumentText?_eq_erased
    {argument : Node}
    (types : ∀ type ∈ argument.argumentTypes,
      typeOf source type = (type.erased source).typeName) :
    argumentText? source argument =
      if argument.info.named then
        (argument.erasedArgument? source).map ErasedArgument.text
      else
        none := by
  rw [argumentText?]
  rw [Node.argumentTypes] at types
  by_cases named : argument.info.named = true
  · rw [if_pos named, erasedArgument?_of_named named]
    by_cases isWildcard : argument.info.isWildcard = true
    · rw [if_pos isWildcard] at types
      rw [if_pos isWildcard, if_pos isWildcard, wildcardText_eq_erased]
      · rfl
      · intro bounded bound present
        rw [if_pos bounded] at types
        exact types bound (Option.mem_toList.mpr present)
    · rw [if_neg isWildcard] at types
      rw [if_neg isWildcard, if_neg isWildcard]
      by_cases isType : argument.info.isType = true
      · rw [if_pos isType] at types
        have written := types argument (List.mem_singleton.mpr rfl)
        rw [if_pos isType, if_pos isType, written, ErasedType.signature_typeName]
        rfl
      · rw [if_neg isType, if_neg isType]
        rfl
  · simp [NodeInfo.isWildcard, NodeInfo.isType, named]

/-- The arguments of a generic type are written out one by one. -/
theorem argumentTexts_eq_erased
    (types : ∀ list, node.typeArguments? = some list →
      ∀ argument ∈ list.children, ∀ type ∈ argument.argumentTypes,
        typeOf source type = (type.erased source).typeName) :
    (node.typeArguments?.map fun list =>
        list.children.filterMap (argumentText? source)).getD [] =
      erasedTexts (node.argumentNodes.filterMap (Node.erasedArgument? source)) := by
  rw [erasedTexts_eq_map, List.map_filterMap, Node.argumentNodes, lastOfKind?_typeArguments]
  cases held : node.typeArguments? with
  | none =>
      rfl
  | some list =>
      simp only [Option.map_some, Option.getD_some]
      rw [Node.namedChildren, List.filterMap_filter]
      apply List.filterMap_congr
      intro argument present
      exact argumentText?_eq_erased (types list held argument present)

theorem typeOf?_eq_typeName
    {node? : Option Node}
    (types : ∀ type ∈ node?.toList, typeOf source type = (type.erased source).typeName) :
    typeOf? source node? = (erased? source node?).typeName := by
  cases node? with
  | none =>
      rfl
  | some type =>
      exact types type (List.mem_singleton.mpr rfl)

/-- Folding writes the erased form of a type out, by induction along the reading. -/
theorem typeOf_eq_typeName (node : Node) :
    typeOf source node = (node.erased source).typeName := by
  induction node using typeInduction with
  | step node inductionHypothesis =>
      cases shape : typeShape? node.kind with
      | none =>
          rw [typeOf_unknown shape, erased_eq_of_shape, shape]
          rfl
      | some known =>
          have kind := typeShape?_eq_some_iff.mp shape
          cases known with
          | primitive =>
              rw [typeOf_primitive shape, erased_eq_of_shape, shape, primitiveType, Node.text]
              cases Primitive.ofKeyword? (node.info.text source) <;> rfl
          | name =>
              rw [typeOf_name shape, erased_eq_of_shape, shape]
              rfl
          | generic =>
              rw [typeOf_generic shape, erased_eq_of_shape, shape, argumentTexts_eq_erased]
              · rfl
              · intro list held argument present type read
                apply inductionHypothesis type
                rw [nextTypes_generic (List.mem_singleton.mp kind), held]
                exact List.mem_append_right _ (List.mem_flatMap.mpr ⟨argument, present, read⟩)
          | array =>
              rw [nextTypes_array (List.mem_singleton.mp kind)] at inductionHypothesis
              rw [typeOf_array shape, erased_eq_of_shape, shape]
              exact typeOf?_eq_typeName inductionHypothesis
          | annotated =>
              rw [nextTypes_annotated (List.mem_singleton.mp kind)] at inductionHypothesis
              rw [typeOf_annotated shape, erased_eq_of_shape, shape]
              exact typeOf?_eq_typeName inductionHypothesis

end Texts

/-- Every generic type that is read has a base name, and every name that is read is clear. -/
structure ClearlyNamed (source : Bytes) (type : Node) : Prop where
  bases :
    ∀ reached,
      TypeReaches type reached →
      reached.kind = "generic_type" →
      ∃ base ∈ reached.namedChildren,
        base.kind ∈ ["type_identifier", "scoped_type_identifier"]
  names : TypeNamed ClearName source type

section Names

variable {source : Bytes} {node : Node}

theorem ClearlyNamed.next
    {next : Node}
    (clear : ClearlyNamed source node)
    (step : next ∈ node.nextTypes) :
    ClearlyNamed source next where
  bases reached reaches := clear.bases reached (.further step reaches)
  names reached reaches := clear.names reached (.further step reaches)

/-- Names are clear throughout if they are at a node and wherever reading goes on from it. -/
theorem clearlyNamed_iff_next :
    ClearlyNamed source node ↔
      (node.kind = "generic_type" →
          ∃ base ∈ node.namedChildren,
            base.kind ∈ ["type_identifier", "scoped_type_identifier"]) ∧
        (node.kind ∈ ["type_identifier", "scoped_type_identifier"] →
          ClearName (node.compactText source)) ∧
        ∀ next ∈ node.nextTypes, ClearlyNamed source next := by
  constructor
  · intro clear
    exact ⟨clear.bases node (.self node), clear.names node (.self node),
      fun next step => clear.next step⟩
  · rintro ⟨base, name, next⟩
    constructor
    · intro reached reaches
      cases reaches with
      | self =>
          exact base
      | further step later =>
          exact (next _ step).bases reached later
    · intro reached reaches
      cases reaches with
      | self =>
          exact name
      | further step later =>
          exact (next _ step).names reached later

/-- Reading comes to an end after fewer steps than `depth`, with clear names on the way. -/
def ClearWithin (source : Bytes) : Nat → Node → Prop
  | 0, _ => False
  | depth + 1, node =>
      (node.kind = "generic_type" →
          ∃ base ∈ node.namedChildren,
            base.kind ∈ ["type_identifier", "scoped_type_identifier"]) ∧
        (node.kind ∈ ["type_identifier", "scoped_type_identifier"] →
          ClearName (node.compactText source)) ∧
        ∀ next ∈ node.nextTypes, ClearWithin source depth next

instance decidableClearWithin
    (source : Bytes) :
    (depth : Nat) → (node : Node) → Decidable (ClearWithin source depth node)
  | 0, _ => inferInstanceAs (Decidable False)
  | depth + 1, _ =>
      have (next : Node) := decidableClearWithin source depth next
      inferInstanceAs (Decidable (_ ∧ _ ∧ _))

/-- Every step of a reading leads to a smaller node, so the size of a node is depth enough. -/
theorem clearlyNamed_iff_within
    {depth : Nat}
    (deep : node.size ≤ depth) :
    ClearWithin source depth node ↔ ClearlyNamed source node := by
  induction depth generalizing node with
  | zero =>
      have size := Node.size_eq node
      omega
  | succ depth inductionHypothesis =>
      have onward (next : Node) (step : next ∈ node.nextTypes) :
          ClearWithin source depth next ↔ ClearlyNamed source next := by
        have smaller := Node.size_lt_of_mem_nextTypes step
        exact inductionHypothesis (by omega)
      rw [clearlyNamed_iff_next, ClearWithin]
      refine and_congr_right fun _ => and_congr_right fun _ => ?_
      exact forall₂_congr onward

instance (source : Bytes) (node : Node) : Decidable (ClearlyNamed source node) :=
  decidable_of_iff _ (clearlyNamed_iff_within (Nat.le_refl node.size))

theorem mem_types_ofBound
    {keyword? : Option String}
    {bound? : Option ErasedType}
    {type : ErasedType}
    (inside : type ∈ (ErasedArgument.ofBound keyword? bound?).types) :
    keyword?.isSome = true ∧ bound? = some type := by
  unfold ErasedArgument.ofBound at inside
  split at inside
  · exact ⟨rfl, congrArg some (List.mem_singleton.mp inside).symm⟩
  · exact ⟨rfl, congrArg some (List.mem_singleton.mp inside).symm⟩
  · cases inside

/-- The types in an argument are erased from the types that are read for it. -/
theorem exists_argumentType
    {argument : Node}
    {erased : ErasedArgument}
    {type : ErasedType}
    (named : argument.info.named = true)
    (isArgument : argument.erasedArgument? source = some erased)
    (inside : type ∈ erased.types) :
    ∃ read ∈ argument.argumentTypes, type = read.erased source := by
  rw [erasedArgument?_of_named named] at isArgument
  rw [Node.argumentTypes]
  by_cases isWildcard : argument.info.isWildcard = true
  · rw [if_pos isWildcard] at isArgument ⊢
    obtain rfl := Option.some.inj isArgument
    obtain ⟨bounded, isBound⟩ := mem_types_ofBound inside
    obtain ⟨bound, present, isErased⟩ := Option.map_eq_some_iff.mp isBound
    rw [if_pos bounded]
    exact ⟨bound, Option.mem_toList.mpr present, isErased.symm⟩
  · rw [if_neg isWildcard] at isArgument ⊢
    by_cases isType : argument.info.isType = true
    · rw [if_pos isType] at isArgument ⊢
      obtain rfl := Option.some.inj isArgument
      exact ⟨argument, List.mem_singleton.mpr rfl, List.mem_singleton.mp inside⟩
    · rw [if_neg isType] at isArgument
      cases isArgument

/-- The types that are read for the arguments of a generic type are read for the type. -/
theorem mem_nextTypes_of_argument
    {argument read : Node}
    (isGeneric : node.kind = "generic_type")
    (present : argument ∈ node.argumentNodes)
    (inside : read ∈ argument.argumentTypes) :
    read ∈ node.nextTypes := by
  rw [Node.argumentNodes, lastOfKind?_typeArguments] at present
  rw [nextTypes_generic isGeneric]
  cases held : node.typeArguments? with
  | none =>
      rw [held] at present
      cases present
  | some list =>
      rw [held] at present
      have inList := List.mem_of_mem_filter present
      exact List.mem_append_right _ (List.mem_flatMap.mpr ⟨argument, inList, inside⟩)

theorem erased?_clear
    {node? : Option Node}
    (types : ∀ type ∈ node?.toList, (type.erased source).Clear) :
    (erased? source node?).Clear := by
  cases node? with
  | none =>
      exact .primitive .void
  | some type =>
      exact types type (List.mem_singleton.mpr rfl)

/-- A type that is read from clear names is clear. -/
theorem ClearlyNamed.erased
    (clear : ClearlyNamed source node) :
    (node.erased source).Clear := by
  induction node using typeInduction with
  | step node inductionHypothesis =>
      have onward : ∀ next ∈ node.nextTypes, (next.erased source).Clear :=
        fun next step => inductionHypothesis next step (clear.next step)
      cases shape : typeShape? node.kind with
      | none =>
          rw [erased_eq_of_shape, shape]
          exact .primitive .void
      | some known =>
          have kind := typeShape?_eq_some_iff.mp shape
          cases known with
          | primitive =>
              rw [erased_eq_of_shape, shape]
              exact .primitive _
          | name =>
              rw [erased_eq_of_shape, shape]
              exact .named (clear.names node (.self node) kind) (List.forall_mem_nil _)
          | generic =>
              have isGeneric := List.mem_singleton.mp kind
              obtain ⟨base, isBase, baseKind⟩ :=
                exists_baseName (clear.bases node (.self node) isGeneric)
              have baseNext : base ∈ node.nextTypes := by
                rw [nextTypes_generic isGeneric, isBase]
                exact List.mem_append_left _ (List.mem_singleton.mpr rfl)
              rw [erased_eq_of_shape, shape, isBase]
              refine .named (clear.names base (.further baseNext (.self base)) baseKind) ?_
              intro erased written type inside
              obtain ⟨argument, present, isArgument⟩ := List.mem_filterMap.mp written
              obtain ⟨read, isRead, rfl⟩ :=
                exists_argumentType (Node.named_of_mem_argumentNodes present) isArgument inside
              exact onward read (mem_nextTypes_of_argument isGeneric present isRead)
          | array =>
              rw [nextTypes_array (List.mem_singleton.mp kind)] at onward
              rw [erased_eq_of_shape, shape]
              exact erased?_clear onward
          | annotated =>
              rw [nextTypes_annotated (List.mem_singleton.mp kind)] at onward
              rw [erased_eq_of_shape, shape]
              exact erased?_clear onward

end Names

/--
Two types that are read from clear names, each from a source of its own, fold
to the same type exactly if they are the same without their arrays and
annotations. Their signatures alone tell as much.
-/
theorem typeOf?_eq_iff_erased_eq
    (firstSource secondSource : Bytes)
    (first second : Option Node)
    (firstClear : ∀ type ∈ first, ClearlyNamed firstSource type)
    (secondClear : ∀ type ∈ second, ClearlyNamed secondSource type) :
    (typeOf? firstSource first = typeOf? secondSource second ↔
        erased? firstSource first = erased? secondSource second) ∧
      ((typeOf? firstSource first).signature = (typeOf? secondSource second).signature ↔
        erased? firstSource first = erased? secondSource second) := by
  have firstErased : (erased? firstSource first).Clear :=
    erased?_clear fun type present => (firstClear type (Option.mem_toList.mp present)).erased
  have secondErased : (erased? secondSource second).Clear :=
    erased?_clear fun type present => (secondClear type (Option.mem_toList.mp present)).erased
  have firstFolded : typeOf? firstSource first = (erased? firstSource first).typeName :=
    typeOf?_eq_typeName fun type _ => typeOf_eq_typeName type
  have secondFolded : typeOf? secondSource second = (erased? secondSource second).typeName :=
    typeOf?_eq_typeName fun type _ => typeOf_eq_typeName type
  have signatures :
      (typeOf? firstSource first).signature = (typeOf? secondSource second).signature ↔
        erased? firstSource first = erased? secondSource second := by
    rw [firstFolded, secondFolded, ErasedType.signature_typeName,
      ErasedType.signature_typeName]
    exact ⟨firstErased.text_inj secondErased, congrArg ErasedType.text⟩
  refine ⟨⟨?_, ?_⟩, signatures⟩
  · intro same
    exact signatures.mp (congrArg TypeName.signature same)
  · intro same
    rw [firstFolded, secondFolded, same]

/-- The type `Box<? super Set<K>>`, with its three names at the given offsets. -/
def boxNode (box set key : Nat) : Node :=
  spanNode "generic_type" (some "element") box (key + 3) [
    spanNode "type_identifier" none box (box + 3) [],
    spanNode "type_arguments" none (box + 3) (key + 3) [
      spanNode "wildcard" none (box + 4) (key + 2) [
        spanNode "super" none (box + 6) (box + 11) [],
        spanNode "generic_type" none set (key + 2) [
          spanNode "type_identifier" none set (set + 3) [],
          spanNode "type_arguments" none (set + 3) (key + 2) [
            spanNode "type_identifier" none key (key + 1) []]]]]]

/-- An array of such boxes. -/
def boxArrayText : String :=
  "Box<? super Set<K>>[]"

def boxArray : Node :=
  spanNode "array_type" none 0 21 [boxNode 0 12 16]

/-- The same box with an annotation, and set in another way. -/
def annotatedBoxText : String :=
  "@Own Box < ? super Set <K> >"

def annotatedBox : Node :=
  spanNode "annotated_type" none 0 28 [
    spanNode "marker_annotation" none 0 4 [],
    boxNode 5 19 24]

/-- The array and the annotation are dropped, and the box is not taken for its bare name. -/
theorem boxArray_erased_eq :
    typeOf? (Text.encode boxArrayText) (some boxArray) = .reference "Box<? super Set<K>>" ∧
      erased? (Text.encode boxArrayText) (some boxArray) =
        erased? (Text.encode annotatedBoxText) (some annotatedBox) ∧
      erased? (Text.encode boxArrayText) (some boxArray) ≠
        erased? (Text.encode "Box") (some (spanNode "type_identifier" none 0 3 [])) := by
  have arrayClear : ∀ type ∈ some boxArray, ClearlyNamed (Text.encode boxArrayText) type := by
    intro type present
    cases present
    decide +kernel
  have annotatedClear :
      ∀ type ∈ some annotatedBox, ClearlyNamed (Text.encode annotatedBoxText) type := by
    intro type present
    cases present
    decide +kernel
  have bareClear :
      ∀ type ∈ some (spanNode "type_identifier" none 0 3 []),
        ClearlyNamed (Text.encode "Box") type := by
    intro type present
    cases present
    decide +kernel
  have folded :
      typeOf? (Text.encode boxArrayText) (some boxArray) =
        typeOf? (Text.encode annotatedBoxText) (some annotatedBox) := by
    decide +kernel
  refine ⟨by decide +kernel, ?_, ?_⟩
  · exact (typeOf?_eq_iff_erased_eq _ _ _ _ arrayClear annotatedClear).1.mp folded
  · intro same
    have sameType := (typeOf?_eq_iff_erased_eq _ _ _ _ arrayClear bareClear).1.mpr same
    revert sameType
    decide +kernel

end JavaOutline
