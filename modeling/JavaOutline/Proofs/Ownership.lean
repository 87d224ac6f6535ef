import JavaOutline.Proofs.ClassTree
import JavaOutline.Proofs.Conservation

namespace JavaOutline

open Text (Bytes)

/-!
# What belongs to which class

Every record of an outline says where it is declared: a member names its owner,
twice, and a nested class is named below the class around it. This module shows
that these statements are right for every class at every depth. The step looks
at one class and its members; the descent to deeper classes is an induction over
`ClassDecl.Encloses`, since a nested class is itself the outline of a node.
-/

/-- A method belongs to `owner` and is identified by its own types. -/
structure MethodDecl.BelongsTo (method : MethodDecl) (owner : ClassName) : Prop where
  recordOwner : method.owner = owner
  nameOwner : method.name.owner = owner
  modifiers : method.modifiers.toList = [.publicAccess]
  parameterCount : method.name.parameterSignatures.length = method.arguments.length
  parameterSignatures :
    method.name.parameterSignatures =
      method.arguments.map (fun argument => argument.type.signature)
  returnSignature : method.name.returnSignature = method.returnType.signature

/-- A field belongs to `owner`. -/
structure FieldDecl.BelongsTo (field : FieldDecl) (owner : ClassName) : Prop where
  recordOwner : field.owner = owner
  nameOwner : field.name.owner = owner
  modifiers : field.modifiers.toList = [.publicAccess]

/-- A class is declared directly in `outer`. -/
structure ClassDecl.BelongsTo (inner : ClassDecl) (outer : ClassName) : Prop where
  parent : inner.name.parent? = some outer
  shortName : inner.name.shortName = outer.shortName ++ "$" ++ inner.name.identifier
  modifiers : inner.head.modifiers.toList = [.privateAccess]

/-- Everything declared directly in a class belongs to it. -/
structure ClassDecl.OwnsMembers (declared : ClassDecl) : Prop where
  methods : ∀ method, .method method ∈ declared.children → method.BelongsTo declared.name
  fields : ∀ field, .field field ∈ declared.children → field.BelongsTo declared.name
  nested : ∀ inner, .nested inner ∈ declared.children → inner.BelongsTo declared.name

/-- A class is the outline of some node that is read in a scope. -/
def OutlinedIn (source : Bytes) (scope : Scope) (declared : ClassDecl) : Prop :=
  ∃ node, (outlineType source scope node).outcome = .ok (some declared)

/-- Where the outermost class around a scope is declared. -/
def Scope.origin : Scope → Origin
  | .file origin => origin
  | .body parent => parent.origin

theorem Scope.className_origin (scope : Scope) (identifier : String) :
    (scope.className identifier).origin = scope.origin := by
  cases scope <;> rfl

section Step

variable {source : Bytes} {scope : Scope} {node : Node} {declared : ClassDecl}

/-- Every record of a type is one of the records of some member of its body. -/
theorem recorded_of_mem_typeMembers
    {owner : ClassName}
    {declarations : List Declaration}
    {declaration : Declaration}
    (ended : (typeMembers source owner node).outcome = .ok declarations)
    (present : declaration ∈ declarations) :
    ∃ member records, Recorded source owner member records ∧ declaration ∈ records := by
  rw [typeMembers] at ended
  cases found : node.childByField? bodyField with
  | none =>
      rw [found] at ended
      cases ended
      cases present
  | some body =>
      rw [found] at ended
      have inOrder := membersOf_eq_ok_iff.mp ended
      obtain ⟨member, -, records, recorded, inRecords⟩ := inOrder.exists_member present
      exact ⟨member, records, recorded, inRecords⟩

/-- A method is recorded with its owner and with the signatures of its own types. -/
theorem methodOf_belongsTo
    {owner : ClassName}
    {method : MethodDecl}
    (ended : (methodOf source owner node).outcome = .ok method) :
    method.BelongsTo owner := by
  rw [methodOf_outcome] at ended
  obtain ⟨name, -, afterName⟩ := bind_eq_ok_iff.mp ended
  obtain ⟨arguments, -, same⟩ := bind_eq_ok_iff.mp afterName
  cases same
  exact ⟨rfl, rfl, rfl, List.length_map _, rfl, rfl⟩

theorem ofParts_belongsTo
    (owner : ClassName)
    (name typeSignature : String)
    (snippet : Snippet) :
    (FieldDecl.ofParts owner name typeSignature memberModifiers snippet).BelongsTo owner :=
  ⟨rfl, rfl, rfl⟩

theorem constantOf_belongsTo
    {owner : ClassName}
    {field : FieldDecl}
    (ended : constantOf source owner node = .ok field) :
    field.BelongsTo owner := by
  obtain ⟨name, -, rfl⟩ := map_eq_ok_iff.mp ended
  exact ofParts_belongsTo owner name _ _

theorem OutlinedIn.head_eq
    (outlined : OutlinedIn source scope declared) :
    ∃ node identifier, declared.head = typeHead source scope node identifier := by
  obtain ⟨node, ended⟩ := outlined
  obtain ⟨⟨identifier, head⟩, -⟩ := outlineType_eq_ok_some ended
  exact ⟨node, identifier, head⟩

theorem OutlinedIn.name_eq
    (outlined : OutlinedIn source scope declared) :
    ∃ identifier, declared.name = scope.className identifier := by
  obtain ⟨node, identifier, head⟩ := outlined.head_eq
  exact ⟨identifier, congrArg ClassHead.name head⟩

/-- A type read in the body of a class belongs to that class. -/
theorem OutlinedIn.belongsTo
    {outer : ClassName}
    (outlined : OutlinedIn source (.body outer) declared) :
    declared.BelongsTo outer := by
  obtain ⟨node, identifier, head⟩ := outlined.head_eq
  have name : declared.name = .nested outer identifier := congrArg ClassHead.name head
  refine ⟨?_, ?_, ?_⟩
  · rw [name]
    rfl
  · rw [name]
    rfl
  · rw [head]
    rfl

/-- Every kind of record belongs to the class that it is made for. -/
theorem Recorded.belongsTo
    {owner : ClassName}
    {records : List Declaration}
    (recorded : Recorded source owner node records) :
    (∀ method, .method method ∈ records → method.BelongsTo owner) ∧
      (∀ field, .field field ∈ records → field.BelongsTo owner) ∧
      ∀ inner, .nested inner ∈ records → OutlinedIn source (.body owner) inner := by
  cases recorded with
  | method kind read =>
      have belongs := methodOf_belongsTo read
      simp [belongs]
  | fields kind each =>
      obtain ⟨names, -, rfl⟩ := map_eq_ok_iff.mp (fieldsOf_eq_ok_iff.mpr each)
      simp [ofParts_belongsTo]
  | constant kind read =>
      have belongs := constantOf_belongsTo read
      simp [belongs]
  | nested kind read =>
      have outlined : OutlinedIn source (.body owner) _ := ⟨_, read⟩
      simp [outlined]
  | skipped kind =>
      simp

theorem OutlinedIn.origin_eq
    (outlined : OutlinedIn source scope declared) :
    declared.name.origin = scope.origin := by
  obtain ⟨identifier, name⟩ := outlined.name_eq
  rw [name, Scope.className_origin]

theorem OutlinedIn.not_synthetic
    (outlined : OutlinedIn source scope declared) :
    declared.head.synthetic = false := by
  obtain ⟨node, identifier, head⟩ := outlined.head_eq
  rw [head]
  rfl

/-- Everything in an outlined class is a record of some member, made for this class. -/
theorem OutlinedIn.recorded
    {declaration : Declaration}
    (outlined : OutlinedIn source scope declared)
    (present : declaration ∈ declared.children) :
    ∃ member records,
      Recorded source declared.name member records ∧ declaration ∈ records := by
  obtain ⟨node, ended⟩ := outlined
  obtain ⟨-, members⟩ := outlineType_eq_ok_some ended
  exact recorded_of_mem_typeMembers members present

/-- A class declared in an outlined class is itself outlined there. -/
theorem OutlinedIn.nested
    {inner : ClassDecl}
    (outlined : OutlinedIn source scope declared)
    (present : .nested inner ∈ declared.children) :
    OutlinedIn source (.body declared.name) inner := by
  obtain ⟨member, records, recorded, inRecords⟩ := outlined.recorded present
  exact recorded.belongsTo.2.2 inner inRecords

theorem OutlinedIn.ownsMembers
    (outlined : OutlinedIn source scope declared) :
    declared.OwnsMembers := by
  constructor
  · intro method present
    obtain ⟨member, records, recorded, inRecords⟩ := outlined.recorded present
    exact recorded.belongsTo.1 method inRecords
  · intro field present
    obtain ⟨member, records, recorded, inRecords⟩ := outlined.recorded present
    exact recorded.belongsTo.2.1 field inRecords
  · intro inner present
    exact (outlined.nested present).belongsTo

end Step

section Descent

variable {source : Bytes} {scope : Scope} {top declared : ClassDecl}

/-- Every class further in is outlined in the body of some class of the same origin. -/
theorem OutlinedIn.of_encloses
    (outlined : OutlinedIn source scope top)
    (encloses : top.Encloses declared) :
    declared = top ∨
      ∃ outer : ClassName,
        outer.origin = scope.origin ∧ OutlinedIn source (.body outer) declared := by
  induction encloses generalizing scope with
  | self =>
      exact .inl rfl
  | deeper present encloses inductionHypothesis =>
      have origin := outlined.origin_eq
      have middle := outlined.nested present
      rcases inductionHypothesis middle with isMiddle | ⟨outer, sameOrigin, further⟩
      · rw [isMiddle]
        exact .inr ⟨_, origin, middle⟩
      · exact .inr ⟨outer, sameOrigin.trans origin, further⟩

/-- The top-level classes of a unit are outlined in its file. -/
theorem outlinedIn_of_mem_outlineTypes
    {nodes : List Node}
    {classes : List ClassDecl}
    (ended : (outlineTypes source scope nodes).outcome = .ok classes)
    (present : top ∈ classes) :
    OutlinedIn source scope top := by
  induction nodes generalizing classes with
  | nil =>
      cases ended
      cases present
  | cons node rest inductionHypothesis =>
      by_cases type : node.info.isNamedOneOf typeDeclarationKinds = true
      · simp only [outlineTypes_type type, Traced.outcome_bind, Traced.outcome_pure] at ended
        obtain ⟨first?, firstEnded, afterFirst⟩ := bind_eq_ok_iff.mp ended
        obtain ⟨others, othersEnded, same⟩ := bind_eq_ok_iff.mp afterFirst
        cases same
        rcases List.mem_append.mp present with isFirst | inOthers
        · rw [Option.mem_toList.mp isFirst] at firstEnded
          exact ⟨node, firstEnded⟩
        · exact inductionHypothesis othersEnded inOthers
      · rw [outlineTypes_passedOver (eq_false_of_ne_true type)] at ended
        exact inductionHypothesis ended present

end Descent

/-- What a class enclosed by a top-level class says of itself and of its members is right. -/
structure ClassDecl.PlacedIn
    (declared top : ClassDecl)
    (origin : Origin) : Prop where
  members : declared.OwnsMembers
  origin : declared.name.origin = origin
  topLevel : declared.name.parent? = none ↔ declared = top
  modifiers : declared ≠ top → declared.head.modifiers.toList = [.privateAccess]
  synthetic : declared.head.synthetic = false

theorem OutlinedIn.placedIn
    {source : Bytes}
    {origin : Origin}
    {top declared : ClassDecl}
    (outlined : OutlinedIn source (.file origin) top)
    (encloses : top.Encloses declared) :
    declared.PlacedIn top origin := by
  have noParent : top.name.parent? = none := by
    obtain ⟨identifier, name⟩ := outlined.name_eq
    rw [name]
    rfl
  rcases outlined.of_encloses encloses with isTop | ⟨outer, sameOrigin, further⟩
  · subst isTop
    exact {
      members := outlined.ownsMembers
      origin := outlined.origin_eq
      topLevel := ⟨fun _ => rfl, fun _ => noParent⟩
      modifiers := fun different => (different rfl).elim
      synthetic := outlined.not_synthetic
    }
  · have belongs := further.belongsTo
    refine {
      members := further.ownsMembers
      origin := further.origin_eq.trans sameOrigin
      topLevel := ⟨fun none => ?_, fun isTop => ?_⟩
      modifiers := fun _ => belongs.modifiers
      synthetic := further.not_synthetic
    }
    · rw [belongs.parent] at none
      cases none
    · rw [isTop]
      exact noParent

/-- The package of a unit is the one that it declares, or else the fallback. -/
structure IsPackageOf
    (source : Bytes)
    (root : Node)
    (fallback package : String) : Prop where
  written :
    ∀ name, declaredPackage? source root = some name → name ≠ "" → package = name
  fallback :
    (∀ name, declaredPackage? source root = some name → name = "") → package = fallback

theorem isPackageOf_packageOf
    (source : Bytes)
    (root : Node)
    (fallback : String) :
    IsPackageOf source root fallback (packageOf source root fallback) := by
  constructor
  · intro name declared notEmpty
    rw [packageOf, declared]
    exact if_neg notEmpty
  · intro empty
    rw [packageOf]
    cases declared : declaredPackage? source root with
    | none =>
        rfl
    | some name =>
        exact if_pos (empty name declared)

/--
In the outline of a unit every class, at every depth, is named after the class
around it, has the file and the package of the unit, and owns its members.
-/
theorem outlineUnit_places_every_class
    {source : Bytes}
    {root : Node}
    {file fallbackPackage : String}
    {classes : List ClassDecl}
    (ended : (outlineUnit source root file fallbackPackage).outcome = .ok classes) :
    ∃ package,
      IsPackageOf source root fallbackPackage package ∧
        ∀ top ∈ classes, ∀ declared, top.Encloses declared →
          declared.PlacedIn top ⟨file, package⟩ := by
  refine ⟨_, isPackageOf_packageOf source root fallbackPackage, ?_⟩
  intro top present declared encloses
  exact (outlinedIn_of_mem_outlineTypes ended present).placedIn encloses

/-- An enum with a constant, two fields and a class with a method. -/
def layeredText : String :=
  "package p; enum E \x7b A; int x, y; class C \x7b void m(int n) \x7b\x7d \x7d \x7d"

/-- The tree of this enum; all but the constant stands in the later part of its body. -/
def layeredUnit : Node :=
  spanNode "program" none 0 63 [
    spanNode "package_declaration" none 0 10 [
      spanNode "identifier" none 8 9 []],
    spanNode "enum_declaration" none 11 63 [
      spanNode "identifier" (some "name") 16 17 [],
      spanNode "enum_body" (some "body") 18 63 [
        spanNode "enum_constant" none 20 21 [
          spanNode "identifier" (some "name") 20 21 []],
        spanNode "enum_body_declarations" none 21 61 [
          spanNode "field_declaration" none 23 32 [
            spanNode "integral_type" (some "type") 23 26 [],
            spanNode "variable_declarator" (some "declarator") 27 28 [
              spanNode "identifier" (some "name") 27 28 []],
            spanNode "variable_declarator" (some "declarator") 30 31 [
              spanNode "identifier" (some "name") 30 31 []]],
          spanNode "class_declaration" none 33 61 [
            spanNode "identifier" (some "name") 39 40 [],
            spanNode "class_body" (some "body") 41 61 [
              spanNode "method_declaration" none 43 59 [
                spanNode "void_type" (some "type") 43 47 [],
                spanNode "identifier" (some "name") 48 49 [],
                spanNode "formal_parameters" (some "parameters") 49 56 [
                  spanNode "formal_parameter" none 50 55 [
                    spanNode "integral_type" (some "type") 50 53 [],
                    spanNode "identifier" (some "name") 54 55 []]]]]]]]]]

/-- The class in the later part of the enum body is named below the enum. -/
theorem outlineUnit_places_layeredUnit :
    ∃ classes,
      (outlineUnit (Text.encode layeredText) layeredUnit "E.java" "").outcome = .ok classes ∧
        (classes.flatMap ClassDecl.walk).map (fun declared => declared.name.qualifiedName) =
          ["p/E.java#E", "p/E.java#E$C"] ∧
        ∃ package,
          IsPackageOf (Text.encode layeredText) layeredUnit "" package ∧
            ∀ top ∈ classes, ∀ declared, top.Encloses declared →
              declared.PlacedIn top ⟨"E.java", package⟩ :=
  ⟨_, rfl, rfl, outlineUnit_places_every_class rfl⟩

end JavaOutline
