import JavaOutline.Outline.Parameter
import JavaOutline.Proofs.TreePosition

namespace JavaOutline

open Text (Bytes)

/-!
# Reading a type, one step at a time

`typeOf` goes on from a type node to smaller ones: to the element of an array,
to the type below an annotation, to the base name and the arguments of a generic
type. This module says once what it makes of a node of each kind and which nodes
it goes on to, and packages the recursion as one induction over these steps.
-/

/-- The kinds of nodes that stand for a type of a given shape. -/
def TypeShape.kinds : TypeShape → List String
  | .primitive => ["integral_type", "floating_point_type", "boolean_type", "void_type"]
  | .name => ["type_identifier", "scoped_type_identifier"]
  | .generic => ["generic_type"]
  | .array => ["array_type"]
  | .annotated => ["annotated_type"]

theorem typeShape?_eq_some_iff
    {kind : String}
    {shape : TypeShape} :
    typeShape? kind = some shape ↔ kind ∈ shape.kinds := by
  unfold typeShape?
  split
  case h_10 =>
    cases shape <;> simp_all [TypeShape.kinds]
  all_goals
    cases shape <;> simp [TypeShape.kinds]

namespace Node

/-- The child whose text is the base name of a generic type. -/
def baseName? (node : Node) : Option Node :=
  node.children.reverse.find? (fun child => child.info.isTypeName)

/-- The child that holds the arguments of a generic type. -/
def typeArguments? (node : Node) : Option Node :=
  node.children.reverse.find? (fun child => child.info.isTypeArguments)

/-- The types that are read for one type argument. -/
def argumentTypes (argument : Node) : List Node :=
  if argument.info.isWildcard then
    if (boundKeyword? argument.children).isSome then argument.typeChild?.toList else []
  else if argument.info.isType then
    [argument]
  else
    []

/-- The nodes that reading a type goes on to. -/
def nextTypes (node : Node) : List Node :=
  match node.kind with
  | "array_type" => (node.childByField? "element").toList
  | "annotated_type" => node.typeChild?.toList
  | "generic_type" =>
      node.baseName?.toList ++
        match node.typeArguments? with
        | some arguments => arguments.children.flatMap argumentTypes
        | none => []
  | _ => []

end Node

section Parts

variable {source : Bytes}

theorem elementType_eq (children : List Node) :
    elementType source children =
      typeOf? source (children.find? fun child => child.info.field == some "element") := by
  induction children with
  | nil =>
      rw [elementType]
      rfl
  | cons child rest inductionHypothesis =>
      rw [elementType, List.find?_cons]
      by_cases isElement : (child.info.field == some "element") = true
      · simp [isElement, typeOf?]
      · simp [isElement, inductionHypothesis]

theorem firstType?_eq (children : List Node) :
    firstType? source children =
      (children.find? fun child => child.info.isType).map (typeOf source) := by
  induction children with
  | nil =>
      rw [firstType?]
      rfl
  | cons child rest inductionHypothesis =>
      rw [firstType?, List.find?_cons]
      by_cases isType : child.info.isType = true
      · simp [isType]
      · simp [isType, inductionHypothesis]

/-- Of several argument lists the last counts. -/
theorem lastArguments?_eq (children : List Node) :
    lastArguments? source children =
      (children.reverse.find? fun child => child.info.isTypeArguments).map
        (fun arguments => argumentTexts source arguments.children) := by
  induction children with
  | nil =>
      rw [lastArguments?]
      rfl
  | cons child rest inductionHypothesis =>
      cases child with
      | mk info arguments =>
          rw [lastArguments?, inductionHypothesis, List.reverse_cons, List.find?_append]
          cases rest.reverse.find? fun child => child.info.isTypeArguments with
          | some later =>
              rfl
          | none =>
              by_cases isArguments : info.isTypeArguments = true <;> simp [isArguments]

/-- The text of one type argument; what is neither wildcard nor type has none. -/
def argumentText? (source : Bytes) (argument : Node) : Option String :=
  if argument.info.isWildcard then
    some (wildcardText (boundKeyword? argument.children)
      (argument.typeChild?.map (typeOf source)))
  else if argument.info.isType then
    some (typeOf source argument).signature
  else
    none

theorem argumentTexts_eq (arguments : List Node) :
    argumentTexts source arguments = arguments.filterMap (argumentText? source) := by
  induction arguments with
  | nil =>
      rw [argumentTexts]
      rfl
  | cons argument rest inductionHypothesis =>
      cases argument with
      | mk info parts =>
          rw [argumentTexts, List.filterMap_cons, argumentText?, inductionHypothesis,
            firstType?_eq]
          by_cases isWildcard : info.isWildcard = true
          · simp [isWildcard, Node.typeChild?]
          · by_cases isType : info.isType = true <;> simp [isWildcard, isType]

end Parts

section Shapes

variable {source : Bytes} {node : Node}

theorem typeOf_unknown
    (shape : typeShape? node.kind = none) :
    typeOf source node = .void := by
  cases node
  simp only [Node.kind, Node.info_mk] at shape
  rw [typeOf, shape]

theorem typeOf_primitive
    (shape : typeShape? node.kind = some .primitive) :
    typeOf source node = primitiveType source node.info := by
  cases node
  simp only [Node.kind, Node.info_mk] at shape
  rw [typeOf, shape]
  rfl

/-- A node that is a name, or a generic type, refers to a type by its own text. -/
theorem typeOf_eq_reference
    (shape : typeShape? node.kind = some .name ∨ typeShape? node.kind = some .generic) :
    typeOf source node = .reference (referenceText source node) := by
  cases node
  simp only [Node.kind, Node.info_mk] at shape
  rcases shape with isName | isGeneric
  · rw [typeOf, isName, referenceText, Node.kind, Node.info_mk, isName]
    rfl
  · rw [typeOf, isGeneric, referenceText, Node.kind, Node.info_mk, isGeneric]
    rfl

theorem typeOf_name
    (shape : typeShape? node.kind = some .name) :
    typeOf source node = .reference (node.compactText source) := by
  rw [typeOf_eq_reference (.inl shape), referenceText, shape]

/-- A generic type is its base name, applied to the texts of its arguments. -/
theorem typeOf_generic
    (shape : typeShape? node.kind = some .generic) :
    typeOf source node =
      .reference
        (genericText
          ((node.baseName?.map fun base => base.compactText source).getD "")
          ((node.typeArguments?.map fun arguments =>
            arguments.children.filterMap (argumentText? source)).getD [])) := by
  rw [typeOf_eq_reference (.inr shape), referenceText, shape, lastArguments?_eq, genericBase,
    Node.baseName?, Node.typeArguments?]
  simp only [argumentTexts_eq]
  cases node.children.reverse.find? fun child => child.info.isTypeName <;> rfl

theorem typeOf_array
    (shape : typeShape? node.kind = some .array) :
    typeOf source node = typeOf? source (node.childByField? "element") := by
  cases node
  simp only [Node.kind, Node.info_mk] at shape
  rw [typeOf, shape, elementType_eq]
  rfl

theorem typeOf_annotated
    (shape : typeShape? node.kind = some .annotated) :
    typeOf source node = typeOf? source node.typeChild? := by
  cases node with
  | mk info children =>
      simp only [Node.kind, Node.info_mk] at shape
      rw [typeOf, shape, firstType?_eq, Node.typeChild?, Node.children_mk]
      cases children.find? fun child => child.info.isType <;> rfl

/-- Whatever holds of void and of the type of a node that is there holds in any case. -/
theorem typeOf?_holds
    (holds : TypeName → Prop)
    (void : holds .void)
    {node? : Option Node}
    (types : ∀ type ∈ node?.toList, holds (typeOf source type)) :
    holds (typeOf? source node?) := by
  cases node? with
  | none =>
      exact void
  | some type =>
      exact types type (List.mem_singleton.mpr rfl)

end Shapes

section Steps

variable {node next : Node}

theorem nextTypes_array
    (kind : node.kind = "array_type") :
    node.nextTypes = (node.childByField? "element").toList := by
  simp only [Node.nextTypes, kind]

theorem nextTypes_annotated
    (kind : node.kind = "annotated_type") :
    node.nextTypes = node.typeChild?.toList := by
  simp only [Node.nextTypes, kind]

theorem nextTypes_generic
    (kind : node.kind = "generic_type") :
    node.nextTypes =
      node.baseName?.toList ++
        match node.typeArguments? with
        | some arguments => arguments.children.flatMap Node.argumentTypes
        | none => [] := by
  simp only [Node.nextTypes, kind]

theorem Node.size_lt_of_mem_children
    {child : Node}
    (present : child ∈ node.children) :
    child.size < node.size := by
  have bound := Node.size_le_of_mem present
  have size := Node.size_eq node
  omega

theorem size_le_of_mem_argumentTypes
    {argument : Node}
    (present : next ∈ argument.argumentTypes) :
    next.size ≤ argument.size := by
  rw [Node.argumentTypes] at present
  split at present
  · split at present
    · have inside : next ∈ argument.children :=
        List.mem_of_find?_eq_some (Option.mem_toList.mp present)
      exact Nat.le_of_lt (Node.size_lt_of_mem_children inside)
    · cases present
  · split at present
    · exact Nat.le_of_eq (congrArg Node.size (List.mem_singleton.mp present))
    · cases present

/-- Reading a type goes on to smaller nodes only. -/
theorem Node.size_lt_of_mem_nextTypes
    (present : next ∈ node.nextTypes) :
    next.size < node.size := by
  rw [Node.nextTypes] at present
  split at present
  · exact size_lt_of_mem_children (List.mem_of_find?_eq_some (Option.mem_toList.mp present))
  · exact size_lt_of_mem_children (List.mem_of_find?_eq_some (Option.mem_toList.mp present))
  · rcases List.mem_append.mp present with isBase | inArguments
    · have found := List.mem_of_find?_eq_some (Option.mem_toList.mp isBase)
      exact size_lt_of_mem_children (List.mem_reverse.mp found)
    · cases held : node.typeArguments? with
      | none =>
          rw [held] at inArguments
          cases inArguments
      | some arguments =>
          rw [held] at inArguments
          have holds := List.mem_reverse.mp (List.mem_of_find?_eq_some held)
          obtain ⟨argument, inList, read⟩ := List.mem_flatMap.mp inArguments
          have first := size_lt_of_mem_children holds
          have second := size_lt_of_mem_children inList
          have third := size_le_of_mem_argumentTypes read
          omega
  · cases present

/-- Induction along the reading of a type. -/
theorem typeInduction
    {motive : Node → Prop}
    (step : ∀ node, (∀ next ∈ node.nextTypes, motive next) → motive node)
    (node : Node) :
    motive node := by
  induction size : node.size using Nat.strongRecOn generalizing node with
  | ind bound inductionHypothesis =>
      subst size
      refine step node ?_
      intro next present
      exact inductionHypothesis next.size (Node.size_lt_of_mem_nextTypes present) next rfl

end Steps

/-- Reading the type of a node comes to another node sooner or later. -/
inductive TypeReaches : Node → Node → Prop where
  | self (node : Node) :
      TypeReaches node node
  | further
      {node next reached : Node}
      (step : next ∈ node.nextTypes)
      (reaches : TypeReaches next reached) :
      TypeReaches node reached

/-- Where a type goes on for one step at most, what holds of its nodes can be checked. -/
theorem TypeReaches.of_shallow
    (holds : Node → Prop)
    {node reached : Node}
    (own : holds node)
    (leaves : ∀ next ∈ node.nextTypes, holds next ∧ next.nextTypes.isEmpty = true)
    (reaches : TypeReaches node reached) :
    holds reached := by
  cases reaches with
  | self =>
      exact own
  | further step reaches =>
      obtain ⟨onLeaf, isLeaf⟩ := leaves _ step
      cases reaches with
      | self =>
          exact onLeaf
      | further later _ =>
          rw [List.isEmpty_iff.mp isLeaf] at later
          cases later

end JavaOutline
