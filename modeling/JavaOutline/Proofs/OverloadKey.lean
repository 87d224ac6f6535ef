import JavaOutline.Proofs.BodyWalk
import JavaOutline.Proofs.BracketedText
import JavaOutline.Proofs.TypeReading

namespace JavaOutline

open Text (Bytes)

/-!
# The signature of a method as a key

A signature is one text, in which commas divide the parameters and also the
arguments inside generic types. It can still be taken apart, since the text of
every type that is read from sensible names has its commas inside brackets. So
two methods have the same signature only if they agree in name, return type and
the whole list of parameter types.
-/

/-- A text that keeps its place between the parentheses and commas of a signature. -/
structure SignaturePart (text : List Char) : Prop where
  notEmpty : text ≠ []
  noOpening : '(' ∉ text
  noClosing : ')' ∉ text
  bracketed : Bracketed text

theorem signaturePart_iff
    {text : List Char} :
    SignaturePart text ↔
      (text ≠ [] ∧ '(' ∉ text ∧ ')' ∉ text) ∧ Bracketed text :=
  ⟨fun part => ⟨⟨part.notEmpty, part.noOpening, part.noClosing⟩, part.bracketed⟩,
    fun ⟨⟨notEmpty, noOpening, noClosing⟩, bracketed⟩ =>
      ⟨notEmpty, noOpening, noClosing, bracketed⟩⟩

instance (text : List Char) : Decidable (SignaturePart text) :=
  decidable_of_iff _ signaturePart_iff.symm

namespace SignaturePart

theorem append
    {first second : List Char}
    (firstPart : SignaturePart first)
    (secondPart : SignaturePart second) :
    SignaturePart (first ++ second) where
  notEmpty := List.append_ne_nil_of_left_ne_nil firstPart.notEmpty second
  noOpening := by
    simp [firstPart.noOpening, secondPart.noOpening]
  noClosing := by
    simp [firstPart.noClosing, secondPart.noClosing]
  bracketed := firstPart.bracketed.append secondPart.bracketed

/-- Between brackets parts may be divided by commas. -/
theorem enclosed
    {parts : List (List Char)}
    (each : ∀ part ∈ parts, SignaturePart part) :
    SignaturePart ('<' :: [','].intercalate parts ++ ['>']) where
  notEmpty := List.cons_ne_nil _ _
  noOpening := by
    have inside : '(' ∉ [','].intercalate parts :=
      not_mem_intercalate (by decide) fun part present => (each part present).noOpening
    simp [inside]
  noClosing := by
    have inside : ')' ∉ [','].intercalate parts :=
      not_mem_intercalate (by decide) fun part present => (each part present).noClosing
    simp [inside]
  bracketed :=
    .of_enclosed (.intercalate fun part present => (each part present).bracketed.toBalanced)

theorem genericText
    {base : String}
    {arguments : List String}
    (basePart : SignaturePart base.toList)
    (argumentParts : ∀ argument ∈ arguments, SignaturePart argument.toList) :
    SignaturePart (genericText base arguments).toList := by
  rw [JavaOutline.genericText]
  split
  · exact basePart
  · have brackets : SignaturePart
        ('<' :: [','].intercalate (arguments.map String.toList) ++ ['>']) := by
      apply enclosed
      intro part present
      obtain ⟨argument, inArguments, rfl⟩ := List.mem_map.mp present
      exact argumentParts argument inArguments
    have joined := basePart.append brackets
    simpa [String.toList_intercalate] using joined

theorem primitive (kind : Primitive) :
    SignaturePart kind.name.toList := by
  cases kind <;> decide

end SignaturePart

/-- A node from which a type is read has a usable name, if it needs one. -/
structure PlainlyNamed (source : Bytes) (node : Node) : Prop where
  base :
    node.kind = "generic_type" →
    ∃ base ∈ node.namedChildren, base.kind ∈ ["type_identifier", "scoped_type_identifier"]
  name :
    node.kind ∈ ["type_identifier", "scoped_type_identifier"] →
    SignaturePart (node.compactText source).toList

theorem plainlyNamed_iff
    {source : Bytes}
    {node : Node} :
    PlainlyNamed source node ↔
      (node.kind = "generic_type" →
          ∃ base ∈ node.namedChildren,
            base.kind ∈ ["type_identifier", "scoped_type_identifier"]) ∧
        (node.kind ∈ ["type_identifier", "scoped_type_identifier"] →
          SignaturePart (node.compactText source).toList) :=
  ⟨fun named => ⟨named.base, named.name⟩, fun ⟨base, name⟩ => ⟨base, name⟩⟩

instance (source : Bytes) (node : Node) : Decidable (PlainlyNamed source node) :=
  decidable_of_iff _ plainlyNamed_iff.symm

section Types

variable {source : Bytes} {node : Node}

theorem isTypeName_iff
    {info : NodeInfo} :
    info.isTypeName = true ↔
      info.named = true ∧ info.kind ∈ ["type_identifier", "scoped_type_identifier"] := by
  rw [NodeInfo.isTypeName, Bool.and_eq_true, beq_iff_eq, typeShape?_eq_some_iff]
  rfl

/-- The base name of a generic type is the last of its children that can be one. -/
theorem exists_baseName
    (present :
      ∃ base ∈ node.namedChildren, base.kind ∈ ["type_identifier", "scoped_type_identifier"]) :
    ∃ base,
      node.baseName? = some base ∧ base.kind ∈ ["type_identifier", "scoped_type_identifier"] := by
  obtain ⟨child, inNamed, kind⟩ := present
  obtain ⟨inChildren, named⟩ := List.mem_filter.mp inNamed
  have found : node.baseName?.isSome = true := by
    rw [Node.baseName?, List.find?_isSome]
    exact ⟨child, List.mem_reverse.mpr inChildren, isTypeName_iff.mpr ⟨named, kind⟩⟩
  obtain ⟨base, isBase⟩ := Option.isSome_iff_exists.mp found
  have isName := List.find?_some isBase
  exact ⟨base, isBase, (isTypeName_iff.mp isName).2⟩

theorem boundKeyword?_eq_some
    {children : List Node}
    {keyword : String}
    (found : boundKeyword? children = some keyword) :
    keyword = "extends" ∨ keyword = "super" := by
  rw [boundKeyword?, Option.map_eq_some_iff] at found
  obtain ⟨child, isKeyword, rfl⟩ := found
  simpa using List.find?_some isKeyword

/-- The text of an argument is made of the types that are read for it. -/
theorem argumentText?_signaturePart
    {argument : Node}
    {text : String}
    (types : ∀ type ∈ argument.argumentTypes,
      SignaturePart (typeOf source type).signature.toList)
    (written : argumentText? source argument = some text) :
    SignaturePart text.toList := by
  rw [argumentText?] at written
  rw [Node.argumentTypes] at types
  by_cases isWildcard : argument.info.isWildcard = true
  · rw [if_pos isWildcard] at written types
    cases written
    cases keyword : boundKeyword? argument.children with
    | none =>
        exact (by decide : SignaturePart "?".toList)
    | some word =>
        cases bound : argument.typeChild? with
        | none =>
            exact (by decide : SignaturePart "?".toList)
        | some type =>
            have boundPart : SignaturePart (typeOf source type).signature.toList := by
              apply types type
              rw [keyword, bound]
              exact List.mem_singleton.mpr rfl
            have opening : SignaturePart ("? " ++ word ++ " ").toList := by
              rcases boundKeyword?_eq_some keyword with rfl | rfl <;> decide
            have joined := opening.append boundPart
            simpa [wildcardText] using joined
  · rw [if_neg isWildcard] at written types
    by_cases isType : argument.info.isType = true
    · rw [if_pos isType] at written types
      cases written
      exact types argument (List.mem_singleton.mpr rfl)
    · rw [if_neg isType] at written
      cases written

/-- A generic type is made of its base name and of the types read for its arguments. -/
theorem typeOf_generic_signaturePart
    {base : Node}
    (shape : typeShape? node.kind = some .generic)
    (isBase : node.baseName? = some base)
    (basePart : SignaturePart (base.compactText source).toList)
    (types : ∀ arguments, node.typeArguments? = some arguments →
      ∀ argument ∈ arguments.children, ∀ type ∈ argument.argumentTypes,
        SignaturePart (typeOf source type).signature.toList) :
    SignaturePart (typeOf source node).signature.toList := by
  rw [typeOf_generic shape, isBase]
  refine .genericText basePart ?_
  intro text written
  cases held : node.typeArguments? with
  | none =>
      rw [held] at written
      cases written
  | some arguments =>
      rw [held] at written
      obtain ⟨argument, inArguments, isText⟩ := List.mem_filterMap.mp written
      exact argumentText?_signaturePart (types arguments held argument inArguments) isText

/-- A type that is read from plain names has a signature that keeps its place. -/
theorem typeOf_signaturePart
    (named : ∀ reached, TypeReaches node reached → PlainlyNamed source reached) :
    SignaturePart (typeOf source node).signature.toList := by
  induction node using typeInduction with
  | step node inductionHypothesis =>
      have own := named node (.self node)
      have onward : ∀ next ∈ node.nextTypes,
          SignaturePart (typeOf source next).signature.toList := by
        intro next present
        refine inductionHypothesis next present ?_
        intro reached reaches
        exact named reached (.further present reaches)
      cases shape : typeShape? node.kind with
      | none =>
          rw [typeOf_unknown shape]
          exact .primitive .void
      | some known =>
          have kind := typeShape?_eq_some_iff.mp shape
          cases known with
          | primitive =>
              rw [typeOf_primitive shape, primitiveType]
              split
              · exact .primitive _
              · exact .primitive .void
          | name =>
              rw [typeOf_name shape]
              exact own.name kind
          | generic =>
              have isGeneric := List.mem_singleton.mp kind
              obtain ⟨base, isBase, baseKind⟩ := exists_baseName (own.base isGeneric)
              have next := nextTypes_generic isGeneric
              have baseNext : base ∈ node.nextTypes := by
                rw [next, isBase]
                exact List.mem_append_left _ (List.mem_singleton.mpr rfl)
              refine typeOf_generic_signaturePart shape isBase
                ((named base (.further baseNext (.self base))).name baseKind) ?_
              intro arguments held argument inArguments type read
              apply onward type
              rw [next, held]
              exact List.mem_append_right _
                (List.mem_flatMap.mpr ⟨argument, inArguments, read⟩)
          | array =>
              rw [typeOf_array shape]
              rw [nextTypes_array (List.mem_singleton.mp kind)] at onward
              exact typeOf?_holds (fun type => SignaturePart type.signature.toList)
                (.primitive .void) onward
          | annotated =>
              rw [typeOf_annotated shape]
              rw [nextTypes_annotated (List.mem_singleton.mp kind)] at onward
              exact typeOf?_holds (fun type => SignaturePart type.signature.toList)
                (.primitive .void) onward

end Types

namespace Node

/-- The node from which the type of a parameter is read. -/
def parameterType (parameter : Node) : List Node :=
  match parameter.kind with
  | "formal_parameter" => (parameter.childByField? "type").toList
  | "spread_parameter" => parameter.typeChild?.toList
  | _ => []

/-- The nodes from which the types of the parameters of a method are read. -/
def parameterTypes (method : Node) : List Node :=
  match method.childByField? "parameters" with
  | some parameters => parameters.namedChildren.flatMap parameterType
  | none => []

end Node

theorem parameterType_formal
    {parameter : Node}
    (kind : parameter.kind = "formal_parameter") :
    parameter.parameterType = (parameter.childByField? "type").toList := by
  simp only [Node.parameterType, kind]

theorem parameterType_spread
    {parameter : Node}
    (kind : parameter.kind = "spread_parameter") :
    parameter.parameterType = parameter.typeChild?.toList := by
  simp only [Node.parameterType, kind]

/-- The name and the parameter types of a method are written so that they can be told apart. -/
structure PlainlySigned (source : Bytes) (method : Node) : Prop where
  name :
    ∀ name, method.childByField? "name" = some name → '(' ∉ (name.text source).toList
  types :
    ∀ type ∈ method.parameterTypes,
      ∀ reached, TypeReaches type reached → PlainlyNamed source reached

section Methods

variable {source : Bytes}

theorem requiredName_eq_ok
    {node : Node}
    {name : String}
    (read : node.requiredName source = .ok name) :
    ∃ child, node.childByField? "name" = some child ∧ child.text source = name := by
  rw [Node.requiredName, map_eq_ok_iff] at read
  obtain ⟨child, required, isName⟩ := read
  refine ⟨child, ?_, isName⟩
  rw [Node.require] at required
  cases found : node.childByField? nameField with
  | none =>
      rw [found] at required
      cases required
  | some other =>
      rw [found] at required
      cases required
      exact found

theorem formalArgument_type
    {node : Node}
    {argument : Argument}
    (read : formalArgument source node = .ok argument) :
    argument.type = typeOf? source (node.childByField? "type") := by
  obtain ⟨name, -, rfl⟩ := map_eq_ok_iff.mp read
  rfl

theorem spreadArgument_type
    {node : Node}
    {argument : Argument}
    (read : spreadArgument source node = .ok argument) :
    argument.type = typeOf? source node.typeChild? := by
  rw [spreadArgument] at read
  split at read
  · cases read
    rfl
  · obtain ⟨name, -, rfl⟩ := map_eq_ok_iff.mp read
    rfl

/-- Whatever holds of void and of the types of the parameters holds of every argument. -/
theorem readArguments_types
    (holds : TypeName → Prop)
    (void : holds .void)
    {nodes : List Node}
    {arguments : List Argument}
    (types : ∀ node ∈ nodes, node.info.named = true →
      ∀ type ∈ node.parameterType, holds (typeOf source type))
    (read : readArguments source nodes = .ok arguments) :
    ∀ argument ∈ arguments, holds argument.type := by
  refine readArguments_forall ?_ ?_ read
  · intro node present named kind argument firstRead
    have ownTypes := types node present named
    rw [parameterType_formal kind] at ownTypes
    rw [formalArgument_type firstRead]
    exact typeOf?_holds holds void ownTypes
  · intro node present named kind argument firstRead
    have ownTypes := types node present named
    rw [parameterType_spread kind] at ownTypes
    rw [spreadArgument_type firstRead]
    exact typeOf?_holds holds void ownTypes

theorem argumentsOf_types
    (holds : TypeName → Prop)
    (void : holds .void)
    {method : Node}
    {arguments : List Argument}
    (types : ∀ type ∈ method.parameterTypes, holds (typeOf source type))
    (read : argumentsOf source (method.childByField? "parameters") = .ok arguments) :
    ∀ argument ∈ arguments, holds argument.type := by
  cases held : method.childByField? "parameters" with
  | none =>
      rw [held] at read
      cases read
      exact List.forall_mem_nil _
  | some parameters =>
      rw [held] at read
      refine readArguments_types holds void ?_ read
      intro parameter inParameters isNamed type isType
      apply types
      rw [Node.parameterTypes, held]
      exact List.mem_flatMap.mpr
        ⟨parameter, List.mem_filter.mpr ⟨inParameters, isNamed⟩, isType⟩

/-- A method that is plainly signed has a name and parameters that keep their places. -/
theorem methodOf_signatureParts
    {owner : ClassName}
    {node : Node}
    {method : MethodDecl}
    (signed : PlainlySigned source node)
    (ended : (methodOf source owner node).outcome = .ok method) :
    '(' ∉ method.name.name.toList ∧
      (∀ part ∈ method.name.parameterSignatures, SignaturePart part.toList) ∧
      method.name.parameterSignatures.length = method.arguments.length := by
  rw [methodOf_outcome] at ended
  obtain ⟨name, named, afterName⟩ := bind_eq_ok_iff.mp ended
  obtain ⟨arguments, read, same⟩ := bind_eq_ok_iff.mp afterName
  cases same
  refine ⟨?_, ?_, List.length_map _⟩
  · obtain ⟨child, isName, rfl⟩ := requiredName_eq_ok named
    exact signed.name child isName
  · intro part present
    obtain ⟨argument, inArguments, rfl⟩ := List.mem_map.mp present
    refine argumentsOf_types (fun type => SignaturePart type.signature.toList)
      (.primitive .void) ?_ read argument inArguments
    intro type isType
    exact typeOf_signaturePart (signed.types type isType)

end Methods

namespace MethodName

theorem signature_toList (method : MethodName) :
    method.signature.toList =
      method.name.toList ++
        '(' ::
          ([','].intercalate (method.parameterSignatures.map String.toList) ++
            ')' :: ':' :: method.returnSignature.toList) := by
  simp [signature]

/-- A signature is taken apart at its first parentheses and at the commas outside of brackets. -/
theorem signature_eq_iff
    {first second : MethodName}
    (firstName : '(' ∉ first.name.toList)
    (secondName : '(' ∉ second.name.toList)
    (firstParts : ∀ part ∈ first.parameterSignatures, SignaturePart part.toList)
    (secondParts : ∀ part ∈ second.parameterSignatures, SignaturePart part.toList) :
    first.signature = second.signature ↔
      first.name = second.name ∧
        first.returnSignature = second.returnSignature ∧
        first.parameterSignatures = second.parameterSignatures := by
  have lists : ∀ {signatures : List String},
      (∀ part ∈ signatures, SignaturePart part.toList) →
      ∀ part ∈ signatures.map String.toList, SignaturePart part := by
    intro signatures parts part present
    obtain ⟨signature, inSignatures, rfl⟩ := List.mem_map.mp present
    exact parts signature inSignatures
  have unclosed : ∀ {signatures : List String},
      (∀ part ∈ signatures, SignaturePart part.toList) →
      ')' ∉ [','].intercalate (signatures.map String.toList) := by
    intro signatures parts
    exact not_mem_intercalate (by decide) fun part present => (lists parts part present).noClosing
  constructor
  · intro same
    have texts := congrArg String.toList same
    rw [signature_toList, signature_toList] at texts
    obtain ⟨sameName, afterName⟩ := append_separator_inj
      (ne_append_of_not_mem firstName _) (ne_append_of_not_mem secondName _) texts
    obtain ⟨sameJoined, afterParameters⟩ := append_separator_inj
      (ne_append_of_not_mem (unclosed firstParts) _)
      (ne_append_of_not_mem (unclosed secondParts) _) afterName
    have sameParameters := intercalate_inj
      (fun part present => (lists firstParts part present).bracketed)
      (fun part present => (lists secondParts part present).bracketed)
      (fun part present => (lists firstParts part present).notEmpty)
      (fun part present => (lists secondParts part present).notEmpty) sameJoined
    refine ⟨String.toList_inj.mp sameName, ?_, ?_⟩
    · exact String.toList_inj.mp (List.cons_eq_cons.mp afterParameters).2
    · exact List.map_injective_iff.mpr (fun _ _ => String.toList_inj.mp) sameParameters
  · rintro ⟨sameName, sameReturn, sameParameters⟩
    rw [signature, signature, sameName, sameReturn, sameParameters]

end MethodName

/--
Two methods that are plainly signed, in whatever sources, have the same signature
exactly if they agree in name, return type and the whole list of parameter types.
The return type may be anything.
-/
theorem methodOf_signature_eq_iff
    {firstSource secondSource : Bytes}
    {firstOwner secondOwner : ClassName}
    {firstNode secondNode : Node}
    {first second : MethodDecl}
    (firstEnded : (methodOf firstSource firstOwner firstNode).outcome = .ok first)
    (secondEnded : (methodOf secondSource secondOwner secondNode).outcome = .ok second)
    (firstSigned : PlainlySigned firstSource firstNode)
    (secondSigned : PlainlySigned secondSource secondNode) :
    (first.name.signature = second.name.signature ↔
        first.name.name = second.name.name ∧
          first.name.returnSignature = second.name.returnSignature ∧
          first.name.parameterSignatures = second.name.parameterSignatures) ∧
      (first.arguments.length ≠ second.arguments.length →
        first.name.signature ≠ second.name.signature) := by
  obtain ⟨firstName, firstParts, firstCount⟩ := methodOf_signatureParts firstSigned firstEnded
  obtain ⟨secondName, secondParts, secondCount⟩ :=
    methodOf_signatureParts secondSigned secondEnded
  have key := MethodName.signature_eq_iff firstName secondName firstParts secondParts
  refine ⟨key, ?_⟩
  intro different same
  apply different
  rw [← firstCount, ← secondCount, (key.mp same).2.2]

/-- Two methods whose parameter lists have the same characters up to one bracket. -/
def overloadText : String :=
  "void f(Map<String, Integer> a); void f(Map<String> a, Integer b);"

/-- The first of these methods, with one parameter. -/
def pairedOverload : Node :=
  spanNode "method_declaration" none 0 31 [
    spanNode "void_type" (some "type") 0 4 [],
    spanNode "identifier" (some "name") 5 6 [],
    spanNode "formal_parameters" (some "parameters") 6 30 [
      spanNode "formal_parameter" none 7 29 [
        spanNode "generic_type" (some "type") 7 27 [
          spanNode "type_identifier" none 7 10 [],
          spanNode "type_arguments" none 10 27 [
            spanNode "type_identifier" none 11 17 [],
            spanNode "type_identifier" none 19 26 []]],
        spanNode "identifier" (some "name") 28 29 []]]]

/-- The second of these methods, with two parameters. -/
def splitOverload : Node :=
  spanNode "method_declaration" none 32 65 [
    spanNode "void_type" (some "type") 32 36 [],
    spanNode "identifier" (some "name") 37 38 [],
    spanNode "formal_parameters" (some "parameters") 38 64 [
      spanNode "formal_parameter" none 39 52 [
        spanNode "generic_type" (some "type") 39 50 [
          spanNode "type_identifier" none 39 42 [],
          spanNode "type_arguments" none 42 50 [
            spanNode "type_identifier" none 43 49 []]],
        spanNode "identifier" (some "name") 51 52 []],
      spanNode "formal_parameter" none 54 63 [
        spanNode "type_identifier" (some "type") 54 61 [],
        spanNode "identifier" (some "name") 62 63 []]]]

/-- A method is plainly signed, if no type goes on for more than one step. -/
theorem plainlySigned_of_shallow
    {source : Bytes}
    {method : Node}
    (name : ∀ name,
      method.childByField? "name" = some name → '(' ∉ (name.text source).toList)
    (shallow : ∀ type ∈ method.parameterTypes,
      PlainlyNamed source type ∧
        ∀ next ∈ type.nextTypes, PlainlyNamed source next ∧ next.nextTypes.isEmpty = true) :
    PlainlySigned source method := by
  refine ⟨name, ?_⟩
  intro type present reached reaches
  obtain ⟨own, leaves⟩ := shallow type present
  exact reaches.of_shallow (PlainlyNamed source) own leaves

/-- The class that declares both methods. -/
def overloadOwner : ClassName :=
  .topLevel ⟨"A.java", ""⟩ "A"

/-- The two signatures differ, though their parameters read alike up to a bracket. -/
theorem overload_signature_eq_iff :
    ∃ first second : MethodDecl,
      (methodOf (Text.encode overloadText) overloadOwner pairedOverload).outcome = .ok first ∧
        (methodOf (Text.encode overloadText) overloadOwner splitOverload).outcome = .ok second ∧
        first.name.signature = "f(Map<String,Integer>):void" ∧
        second.name.signature = "f(Map<String>,Integer):void" ∧
        (first.name.signature = second.name.signature ↔
          first.name.name = second.name.name ∧
            first.name.returnSignature = second.name.returnSignature ∧
            first.name.parameterSignatures = second.name.parameterSignatures) ∧
        (first.arguments.length ≠ second.arguments.length →
          first.name.signature ≠ second.name.signature) := by
  have firstSigned : PlainlySigned (Text.encode overloadText) pairedOverload := by
    refine plainlySigned_of_shallow ?_ (by decide +kernel)
    intro name found
    cases found
    decide +kernel
  have secondSigned : PlainlySigned (Text.encode overloadText) splitOverload := by
    refine plainlySigned_of_shallow ?_ (by decide +kernel)
    intro name found
    cases found
    decide +kernel
  have firstEnded :
      (methodOf (Text.encode overloadText) overloadOwner pairedOverload).outcome = .ok _ :=
    rfl
  have secondEnded :
      (methodOf (Text.encode overloadText) overloadOwner splitOverload).outcome = .ok _ :=
    rfl
  exact ⟨_, _, firstEnded, secondEnded, rfl, rfl,
    methodOf_signature_eq_iff firstEnded secondEnded firstSigned secondSigned⟩

end JavaOutline
