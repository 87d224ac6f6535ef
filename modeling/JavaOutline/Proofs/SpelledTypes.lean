import Mathlib.Data.List.Forall2
import JavaOutline.Proofs.OverloadKey

namespace JavaOutline

open Text (Bytes)

/-!
# Types that a signature tells apart

The identity of a method holds the signatures of its types, and a signature does
not say whether its type is primitive. Eight primitives are spelled by words that
Java keeps for itself, so no class can be called like them. The ninth is
`boolean`, which signatures spell `bool`, and a class can be called `bool`. These
two types are taken for each other, and no others are.
-/

/-- The words that no Java declaration can be called by. -/
def reservedWords : List String :=
  ["abstract", "assert", "boolean", "break", "byte", "case", "catch", "char", "class",
    "const", "continue", "default", "do", "double", "else", "enum", "extends", "final",
    "finally", "float", "for", "goto", "if", "implements", "import", "instanceof", "int",
    "interface", "long", "native", "new", "package", "private", "protected", "public",
    "return", "short", "static", "strictfp", "super", "switch", "synchronized", "this",
    "throw", "throws", "transient", "try", "void", "volatile", "while", "_", "true",
    "false", "null"]

/-- Two types are equal, or one is `boolean` and the other one a class called `bool`. -/
inductive SpelledAlike : TypeName → TypeName → Prop where
  | same (type : TypeName) :
      SpelledAlike type type
  | booleanFirst :
      SpelledAlike (.primitive .bool) (.reference "bool")
  | booleanSecond :
      SpelledAlike (.reference "bool") (.primitive .bool)

/-- A type is primitive, or called by a word that Java does not keep for itself. -/
def TypeName.Unreserved (type : TypeName) : Prop :=
  ∀ identifier, type = .reference identifier → identifier ∉ reservedWords

theorem TypeName.unreserved_primitive (kind : Primitive) :
    (TypeName.primitive kind).Unreserved := by
  intro identifier isReference
  cases isReference

theorem TypeName.unreserved_reference
    {identifier : String}
    (unreserved : identifier ∉ reservedWords) :
    (TypeName.reference identifier).Unreserved := by
  intro other isReference
  cases isReference
  exact unreserved

namespace Primitive

theorem eq_of_name
    {first second : Primitive}
    (same : first.name = second.name) :
    first = second := by
  cases first <;> cases second <;> simp_all [name]

theorem eq_bool_of_name
    {kind : Primitive}
    (unreserved : kind.name ∉ reservedWords) :
    kind = .bool := by
  cases kind <;> simp_all [name, reservedWords]

end Primitive

/-- A signature is spelled by two types only if they are spelled alike. -/
theorem signature_eq_iff_spelledAlike
    {first second : TypeName}
    (firstNamed : first.Unreserved)
    (secondNamed : second.Unreserved) :
    first.signature = second.signature ↔ SpelledAlike first second := by
  constructor
  · intro same
    cases first with
    | primitive kind =>
        cases second with
        | primitive other =>
            have kinds := Primitive.eq_of_name same
            subst kinds
            exact .same _
        | reference identifier =>
            have spelled : kind.name = identifier := same
            subst spelled
            have isBool := Primitive.eq_bool_of_name (secondNamed kind.name rfl)
            subst isBool
            exact .booleanFirst
    | reference identifier =>
        cases second with
        | primitive kind =>
            have spelled : identifier = kind.name := same
            subst spelled
            have isBool := Primitive.eq_bool_of_name (firstNamed kind.name rfl)
            subst isBool
            exact .booleanSecond
        | reference other =>
            have identifiers : identifier = other := same
            subst identifiers
            exact .same _
  · intro alike
    cases alike <;> rfl

/-- Types that are spelled alike are equal, unless a class called `bool` is among them. -/
theorem SpelledAlike.eq
    {first second : TypeName}
    (alike : SpelledAlike first second)
    (firstOther : first ≠ .reference "bool")
    (secondOther : second ≠ .reference "bool") :
    first = second := by
  cases alike with
  | same =>
      rfl
  | booleanFirst =>
      exact (secondOther rfl).elim
  | booleanSecond =>
      exact (firstOther rfl).elim

/-- Every name that is read for a type satisfies `legal`. -/
def TypeNamed (legal : String → Prop) (source : Bytes) (type : Node) : Prop :=
  ∀ reached,
    TypeReaches type reached →
    reached.kind ∈ ["type_identifier", "scoped_type_identifier"] →
    legal (reached.compactText source)

section Types

variable {source : Bytes} {node : Node}

theorem genericText_unreserved
    {base : String}
    (arguments : List String)
    (unreserved : base ∉ reservedWords) :
    genericText base arguments ∉ reservedWords := by
  rw [genericText]
  split
  · exact unreserved
  · intro reserved
    -- no reserved word has a bracket in it
    have noBracket : ∀ word ∈ reservedWords, '<' ∉ word.toList := by
      decide
    apply noBracket _ reserved
    simp

/-- Reading a type from unreserved names gives an unreserved type. -/
theorem typeOf_unreserved
    (named : TypeNamed (· ∉ reservedWords) source node) :
    (typeOf source node).Unreserved := by
  induction node using typeInduction with
  | step node inductionHypothesis =>
      have onward : ∀ next ∈ node.nextTypes, (typeOf source next).Unreserved := by
        intro next present
        apply inductionHypothesis next present
        intro reached reaches
        exact named reached (.further present reaches)
      cases shape : typeShape? node.kind with
      | none =>
          rw [typeOf_unknown shape]
          exact TypeName.unreserved_primitive .void
      | some known =>
          have kind := typeShape?_eq_some_iff.mp shape
          cases known with
          | primitive =>
              rw [typeOf_primitive shape, primitiveType]
              split
              · exact TypeName.unreserved_primitive _
              · exact TypeName.unreserved_primitive .void
          | name =>
              rw [typeOf_name shape]
              exact TypeName.unreserved_reference (named node (.self node) kind)
          | generic =>
              rw [typeOf_generic shape]
              apply TypeName.unreserved_reference
              apply genericText_unreserved
              cases isBase : node.baseName? with
              | none =>
                  exact (by decide : "" ∉ reservedWords)
              | some base =>
                  have isName := List.find?_some isBase
                  have next : base ∈ node.nextTypes := by
                    rw [nextTypes_generic (List.mem_singleton.mp kind), isBase]
                    exact List.mem_append_left _ (List.mem_singleton.mpr rfl)
                  exact named base (.further next (.self base)) (isTypeName_iff.mp isName).2
          | array =>
              rw [typeOf_array shape]
              rw [nextTypes_array (List.mem_singleton.mp kind)] at onward
              exact typeOf?_holds TypeName.Unreserved
                (TypeName.unreserved_primitive .void) onward
          | annotated =>
              rw [typeOf_annotated shape]
              rw [nextTypes_annotated (List.mem_singleton.mp kind)] at onward
              exact typeOf?_holds TypeName.Unreserved
                (TypeName.unreserved_primitive .void) onward

end Types

/-- The node from which the return type of a method is read. -/
def Node.returnType (method : Node) : List Node :=
  if method.kind = "method_declaration" then (method.childByField? "type").toList else []

/-- Every name that is read for the types of a method satisfies `legal`. -/
def SignatureNamed (legal : String → Prop) (source : Bytes) (method : Node) : Prop :=
  ∀ type ∈ method.returnType ++ method.parameterTypes, TypeNamed legal source type

/-- The return type of a method and the types of its arguments, in order. -/
def MethodDecl.types (method : MethodDecl) : List TypeName :=
  method.returnType :: method.arguments.map Argument.type

section Methods

variable {source : Bytes}

theorem returnTypeOf_unreserved
    {method : Node}
    (named : ∀ type ∈ method.returnType, TypeNamed (· ∉ reservedWords) source type) :
    (returnTypeOf source method).Unreserved := by
  rw [Node.returnType] at named
  rw [returnTypeOf, methodKind]
  split
  case isTrue isMethod =>
    rw [if_pos isMethod] at named
    apply typeOf?_holds TypeName.Unreserved (TypeName.unreserved_primitive .void)
    intro type present
    exact typeOf_unreserved (named type present)
  case isFalse =>
    exact TypeName.unreserved_primitive .void

/-- A recorded method has the identity that its own types spell, and they are unreserved. -/
theorem methodOf_types
    {owner : ClassName}
    {node : Node}
    {method : MethodDecl}
    (named : SignatureNamed (· ∉ reservedWords) source node)
    (ended : (methodOf source owner node).outcome = .ok method) :
    method.name =
        ⟨owner, method.name.name, method.returnType.signature,
          (method.arguments.map Argument.type).map TypeName.signature⟩ ∧
      ∀ type ∈ method.types, type.Unreserved := by
  rw [methodOf_outcome] at ended
  obtain ⟨name, -, afterName⟩ := bind_eq_ok_iff.mp ended
  obtain ⟨arguments, read, same⟩ := bind_eq_ok_iff.mp afterName
  cases same
  refine ⟨by simp [MethodDecl.ofParts], ?_⟩
  intro type present
  rcases List.mem_cons.mp present with isReturned | inArguments
  · subst isReturned
    apply returnTypeOf_unreserved
    intro returned isReturned
    exact named returned (List.mem_append_left _ isReturned)
  · obtain ⟨argument, isArgument, rfl⟩ := List.mem_map.mp inArguments
    refine argumentsOf_types TypeName.Unreserved (TypeName.unreserved_primitive .void)
      ?_ read argument isArgument
    intro parameter isParameter
    exact typeOf_unreserved (named parameter (List.mem_append_right _ isParameter))

/-- Lists of unreserved types have the same signatures if they are spelled alike one by one. -/
theorem signatures_eq_iff
    {first second : List TypeName}
    (firstNamed : ∀ type ∈ first, type.Unreserved)
    (secondNamed : ∀ type ∈ second, type.Unreserved) :
    first.map TypeName.signature = second.map TypeName.signature ↔
      List.Forall₂ SpelledAlike first second := by
  induction first generalizing second with
  | nil =>
      cases second <;> simp
  | cons type rest inductionHypothesis =>
      cases second with
      | nil =>
          simp
      | cons other others =>
          obtain ⟨typeNamed, restNamed⟩ := List.forall_mem_cons.mp firstNamed
          obtain ⟨otherNamed, othersNamed⟩ := List.forall_mem_cons.mp secondNamed
          rw [List.map_cons, List.map_cons, List.cons_eq_cons, List.forall₂_cons,
            signature_eq_iff_spelledAlike typeNamed otherNamed,
            inductionHypothesis restNamed othersNamed]

theorem eq_of_forall_spelledAlike
    {first second : List TypeName}
    (alike : List.Forall₂ SpelledAlike first second)
    (firstOther : .reference "bool" ∉ first)
    (secondOther : .reference "bool" ∉ second) :
    first = second := by
  induction alike with
  | nil =>
      rfl
  | @cons type other rest others typesAlike _ inductionHypothesis =>
      have types : type = other := by
        apply typesAlike.eq
        · intro isBool
          exact firstOther (isBool ▸ List.mem_cons_self)
        · intro isBool
          exact secondOther (isBool ▸ List.mem_cons_self)
      have tails : rest = others := by
        apply inductionHypothesis
        · intro inRest
          exact firstOther (List.mem_cons_of_mem type inRest)
        · intro inOthers
          exact secondOther (List.mem_cons_of_mem other inOthers)
      rw [types, tails]

end Methods

/-- Methods whose types go on for one step at most can be checked to be named legally. -/
theorem signatureNamed_of_shallow
    {legal : String → Prop}
    {source : Bytes}
    {method : Node}
    (shallow : ∀ type ∈ method.returnType ++ method.parameterTypes,
      (type.kind ∈ ["type_identifier", "scoped_type_identifier"] →
          legal (type.compactText source)) ∧
        ∀ next ∈ type.nextTypes,
          (next.kind ∈ ["type_identifier", "scoped_type_identifier"] →
              legal (next.compactText source)) ∧
            next.nextTypes.isEmpty = true) :
    SignatureNamed legal source method := by
  intro type present reached reaches
  obtain ⟨own, leaves⟩ := shallow type present
  exact reaches.of_shallow
    (fun node =>
      node.kind ∈ ["type_identifier", "scoped_type_identifier"] →
        legal (node.compactText source))
    own leaves

/--
Two methods of one class have the same identity exactly if they have the same
name and types that are spelled alike. So methods of the same name whose types
differ have different identities, unless a class called `bool` is among the
types. The same holds of the single types.
-/
theorem methodOf_name_eq_iff_spelledAlike
    {source : Bytes}
    {owner : ClassName}
    {firstNode secondNode : Node}
    {first second : MethodDecl}
    (firstEnded : (methodOf source owner firstNode).outcome = .ok first)
    (secondEnded : (methodOf source owner secondNode).outcome = .ok second)
    (firstNamed : SignatureNamed (· ∉ reservedWords) source firstNode)
    (secondNamed : SignatureNamed (· ∉ reservedWords) source secondNode) :
    (first.name = second.name ↔
        first.name.name = second.name.name ∧
          List.Forall₂ SpelledAlike first.types second.types) ∧
      (.reference "bool" ∉ first.types ++ second.types →
        first.arguments.map Argument.type ≠ second.arguments.map Argument.type ∨
          first.returnType ≠ second.returnType →
        first.name ≠ second.name) ∧
      ∀ firstType secondType : Node,
        TypeNamed (· ∉ reservedWords) source firstType →
        TypeNamed (· ∉ reservedWords) source secondType →
        ((typeOf source firstType).signature = (typeOf source secondType).signature ↔
          SpelledAlike (typeOf source firstType) (typeOf source secondType)) := by
  obtain ⟨firstName, firstTypes⟩ := methodOf_types firstNamed firstEnded
  obtain ⟨secondName, secondTypes⟩ := methodOf_types secondNamed secondEnded
  have key :
      first.name = second.name ↔
        first.name.name = second.name.name ∧
          List.Forall₂ SpelledAlike first.types second.types := by
    rw [← signatures_eq_iff firstTypes secondTypes, MethodDecl.types, MethodDecl.types,
      List.map_cons, List.map_cons, List.cons_eq_cons]
    constructor
    · intro same
      refine ⟨congrArg MethodName.name same, ?_⟩
      rw [firstName, secondName, MethodName.mk.injEq] at same
      exact same.2.2
    · rintro ⟨sameName, sameReturn, sameArguments⟩
      rw [firstName, secondName, sameName, sameReturn, sameArguments]
  refine ⟨key, ?_, ?_⟩
  · intro noBool different same
    rw [List.mem_append, not_or] at noBool
    have types := eq_of_forall_spelledAlike (key.mp same).2 noBool.1 noBool.2
    obtain ⟨sameReturn, sameArguments⟩ := List.cons_eq_cons.mp types
    rcases different with argumentsDiffer | returnsDiffer
    · exact argumentsDiffer sameArguments
    · exact returnsDiffer sameReturn
  · intro firstType secondType firstTypeNamed secondTypeNamed
    exact signature_eq_iff_spelledAlike
      (typeOf_unreserved firstTypeNamed) (typeOf_unreserved secondTypeNamed)

/-- The overloads with one and with two parameters have different types and identities. -/
theorem overload_names_differ :
    ∃ first second : MethodDecl,
      (methodOf (Text.encode overloadText) overloadOwner pairedOverload).outcome = .ok first ∧
        (methodOf (Text.encode overloadText) overloadOwner splitOverload).outcome =
          .ok second ∧
        first.types = [.void, .reference "Map<String,Integer>"] ∧
        second.types = [.void, .reference "Map<String>", .reference "Integer"] ∧
        first.name ≠ second.name := by
  have firstNamed :
      SignatureNamed (· ∉ reservedWords) (Text.encode overloadText) pairedOverload :=
    signatureNamed_of_shallow (by decide +kernel)
  have secondNamed :
      SignatureNamed (· ∉ reservedWords) (Text.encode overloadText) splitOverload :=
    signatureNamed_of_shallow (by decide +kernel)
  have firstEnds :
      (methodOf (Text.encode overloadText) overloadOwner pairedOverload).outcome.map
          MethodDecl.types =
        .ok [.void, .reference "Map<String,Integer>"] := by
    decide +kernel
  have secondEnds :
      (methodOf (Text.encode overloadText) overloadOwner splitOverload).outcome.map
          MethodDecl.types =
        .ok [.void, .reference "Map<String>", .reference "Integer"] := by
    decide +kernel
  obtain ⟨first, firstEnded, firstTypes⟩ := map_eq_ok_iff.mp firstEnds
  obtain ⟨second, secondEnded, secondTypes⟩ := map_eq_ok_iff.mp secondEnds
  have key := methodOf_name_eq_iff_spelledAlike firstEnded secondEnded firstNamed secondNamed
  refine ⟨first, second, firstEnded, secondEnded, firstTypes, secondTypes, ?_⟩
  apply key.2.1
  · rw [firstTypes, secondTypes]
    decide
  · left
    rw [(List.cons_eq_cons.mp firstTypes).2, (List.cons_eq_cons.mp secondTypes).2]
    decide

/-- Two methods, one with a boolean parameter and one with a parameter of a class `bool`. -/
def conflatedText : String :=
  "void f(boolean a); void f(bool a);"

def booleanOverload : Node :=
  spanNode "method_declaration" none 0 18 [
    spanNode "void_type" (some "type") 0 4 [],
    spanNode "identifier" (some "name") 5 6 [],
    spanNode "formal_parameters" (some "parameters") 6 17 [
      spanNode "formal_parameter" none 7 16 [
        spanNode "boolean_type" (some "type") 7 14 [],
        spanNode "identifier" (some "name") 15 16 []]]]

def boolOverload : Node :=
  spanNode "method_declaration" none 19 34 [
    spanNode "void_type" (some "type") 19 23 [],
    spanNode "identifier" (some "name") 24 25 [],
    spanNode "formal_parameters" (some "parameters") 25 33 [
      spanNode "formal_parameter" none 26 32 [
        spanNode "type_identifier" (some "type") 26 30 [],
        spanNode "identifier" (some "name") 31 32 []]]]

/-- The identity of both methods. -/
def conflatedName : MethodName :=
  ⟨overloadOwner, "f", "void", ["bool"]⟩

/-- A letter followed by letters and digits that Java does not keep for itself. -/
def PlainIdentifier (name : String) : Prop :=
  (match name.toList with
    | [] => false
    | first :: rest => first.isAlpha && rest.all Char.isAlphanum) = true ∧
    name ∉ reservedWords

instance (name : String) : Decidable (PlainIdentifier name) :=
  inferInstanceAs (Decidable (_ ∧ _))

/--
A class can be called `bool`, and the method that takes one and the method that
takes a boolean have the same identity, though their arguments differ.
-/
theorem methodOf_conflates_boolean_with_bool :
    ∃ first second : MethodDecl,
      (methodOf (Text.encode conflatedText) overloadOwner booleanOverload).outcome =
          .ok first ∧
        (methodOf (Text.encode conflatedText) overloadOwner boolOverload).outcome =
          .ok second ∧
        SignatureNamed PlainIdentifier (Text.encode conflatedText) booleanOverload ∧
        SignatureNamed PlainIdentifier (Text.encode conflatedText) boolOverload ∧
        first.arguments.map Argument.type = [.primitive .bool] ∧
        second.arguments.map Argument.type = [.reference "bool"] ∧
        first.name = second.name := by
  have firstNamed :
      SignatureNamed PlainIdentifier (Text.encode conflatedText) booleanOverload :=
    signatureNamed_of_shallow (by decide +kernel)
  have secondNamed :
      SignatureNamed PlainIdentifier (Text.encode conflatedText) boolOverload :=
    signatureNamed_of_shallow (by decide +kernel)
  have firstEnds :
      (methodOf (Text.encode conflatedText) overloadOwner booleanOverload).outcome.map
          (fun method => (method.arguments.map Argument.type, method.name)) =
        .ok ([.primitive .bool], conflatedName) := by
    decide +kernel
  have secondEnds :
      (methodOf (Text.encode conflatedText) overloadOwner boolOverload).outcome.map
          (fun method => (method.arguments.map Argument.type, method.name)) =
        .ok ([.reference "bool"], conflatedName) := by
    decide +kernel
  obtain ⟨first, firstEnded, firstParts⟩ := map_eq_ok_iff.mp firstEnds
  obtain ⟨second, secondEnded, secondParts⟩ := map_eq_ok_iff.mp secondEnds
  obtain ⟨firstTypes, firstName⟩ := Prod.mk.inj firstParts
  obtain ⟨secondTypes, secondName⟩ := Prod.mk.inj secondParts
  exact ⟨first, second, firstEnded, secondEnded, firstNamed, secondNamed, firstTypes,
    secondTypes, firstName.trans secondName.symm⟩

end JavaOutline
