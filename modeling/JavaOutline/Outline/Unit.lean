import JavaOutline.Outline.Member

namespace JavaOutline

open Text (Bytes)

/-!
# Type declarations and compilation units

A type declaration is recorded together with the members of its body. Where it
stands decides only its name and its modifiers. Annotation types are told of
and left out, bodies of methods and initializers are never entered.
-/

/-- Where a type is declared. -/
inductive Scope where
  /-- Directly in a file. -/
  | file (origin : Origin)
  /-- In the body of another type. -/
  | body (parent : ClassName)
  deriving Repr, DecidableEq

/-- The name of a type declared in a scope. -/
def Scope.className (scope : Scope) (identifier : String) : ClassName :=
  match scope with
  | .file origin => .topLevel origin identifier
  | .body parent => .nested parent identifier

/-- The modifiers that the keywords below a node stand for. -/
def keywordModifiers (children : List Node) : ModifierSet :=
  .ofList (children.filterMap (fun child => Modifier.ofKeyword? child.kind))

/-- The modifiers listed in a node, which may be absent. -/
def listedModifiers (node? : Option Node) : ModifierSet :=
  match node? with
  | none => .empty
  | some node => keywordModifiers node.children

/-- The modifiers written on a declaration. -/
def declaredModifiers (node : Node) : ModifierSet :=
  listedModifiers (node.childOfKind? ["modifiers"])

/-- Nested types are recorded as private; other types as they are declared. -/
def Scope.modifiers (scope : Scope) (node : Node) : ModifierSet :=
  match scope with
  | .file _ => declaredModifiers node
  | .body _ => .ofList [.privateAccess]

/-- The kind of nodes that declare an annotation type. -/
def annotationKind : String := "annotation_type_declaration"

/-- The kind of nodes that declare an enum. -/
def enumKind : String := "enum_declaration"

/-- The kinds of nodes that declare a type. -/
def typeDeclarationKinds : List String :=
  ["class_declaration", "interface_declaration", enumKind, "record_declaration",
    annotationKind]

/-- The roles that a node in a class body can have. -/
inductive MemberRole where
  /-- A method or a constructor. -/
  | callable
  /-- One or more fields or interface constants. -/
  | fields
  /-- An enum constant. -/
  | constant
  /-- The part of an enum body after the constants, which reads like a class body. -/
  | bodyPart
  /-- A nested type. -/
  | type
  deriving Repr, DecidableEq

/-- The role of a kind of node in a class body. -/
def memberRole? (kind : String) : Option MemberRole :=
  match kind with
  | "method_declaration" => some .callable
  | "constructor_declaration" => some .callable
  | "field_declaration" => some .fields
  | "constant_declaration" => some .fields
  | "enum_constant" => some .constant
  | "enum_body_declarations" => some .bodyPart
  | _ => if typeDeclarationKinds.contains kind then some .type else none

/-- The role of a node in a class body; only nodes that the grammar names play one. -/
def NodeInfo.memberRole? (info : NodeInfo) : Option MemberRole :=
  if info.named then JavaOutline.memberRole? info.kind else none

/-- The header of a type: its text before the body. Enums have none. -/
def headerOf (source : Bytes) (node : Node) : String :=
  if node.kind = enumKind then "" else node.textBeforeBrace source

/-- The field under which a declaration holds its body. -/
def bodyField : String := "body"

/-- What is told of an annotation type that is left out. -/
def annotationNotice (source : Bytes) (node : Node) : Event :=
  .annotationSkipped
    (match node.childByField? nameField with
    | some name => name.text source
    | none => "<anonymous>")
    (match node.childByField? bodyField with
    | some body => (body.text source).length
    | none => 0)

/-- Record a type whose members, once its name is known, are given by `members`. -/
def declareType
    (source : Bytes)
    (scope : Scope)
    (node : Node)
    (members : ClassName → Traced MissingPart (List Declaration)) :
    Traced MissingPart (Option ClassDecl) :=
  if node.kind = annotationKind then do
    .tell (annotationNotice source node)
    return none
  else do
    let identifier ← .ofExcept (node.requiredName source)
    let name := scope.className identifier
    let children ← members name
    .tell (.extracted name node.kind children.length)
    let head : ClassHead := {
      name := name
      modifiers := scope.modifiers node
      header := ⟨headerOf source node, .java⟩
    }
    return some (.mk head children)

mutual

/-- The declarations that a node in the body of `owner` stands for. -/
def memberOf
    (source : Bytes)
    (owner : ClassName) :
    Node → Traced MissingPart (List Declaration)
  | .mk info children =>
      match info.memberRole? with
      | none => pure []
      | some .callable => do
          let method ← methodOf source owner (.mk info children)
          return [.method method]
      | some .fields => do
          let fields ← .ofExcept (fieldsOf source owner (.mk info children))
          return fields.map .field
      | some .constant => do
          let field ← .ofExcept (constantOf source owner (.mk info children))
          return [.field field]
      | some .bodyPart => membersOf source owner children
      | some .type => do
          let nested? ← declareType source (.body owner) (.mk info children)
            (fun name => bodyMembers source name children)
          return nested?.toList.map .nested

/-- The declarations of the nodes in a body of `owner`, in source order. -/
def membersOf
    (source : Bytes)
    (owner : ClassName) :
    List Node → Traced MissingPart (List Declaration)
  | [] => pure []
  | node :: rest => do
      let first ← memberOf source owner node
      let others ← membersOf source owner rest
      return first ++ others

/-- The members of the first body among the children of a type declaration. -/
def bodyMembers
    (source : Bytes)
    (owner : ClassName) :
    List Node → Traced MissingPart (List Declaration)
  | [] => pure []
  | .mk info children :: rest =>
      if info.field == some bodyField then
        membersOf source owner children
      else
        bodyMembers source owner rest

end

/-- Record a type declaration and everything in it; annotation types give nothing. -/
def outlineType
    (source : Bytes)
    (scope : Scope)
    (node : Node) :
    Traced MissingPart (Option ClassDecl) :=
  declareType source scope node (fun name => bodyMembers source name node.children)

/-- Record the type declarations among nodes, in order. -/
def outlineTypes
    (source : Bytes)
    (scope : Scope) :
    List Node → Traced MissingPart (List ClassDecl)
  | [] => pure []
  | node :: rest =>
      if node.info.isNamedOneOf typeDeclarationKinds then do
        let first? ← outlineType source scope node
        let others ← outlineTypes source scope rest
        return first?.toList ++ others
      else
        outlineTypes source scope rest

/-- The package that a compilation unit declares. -/
def declaredPackage? (source : Bytes) (root : Node) : Option String :=
  (root.childOfKind? ["package_declaration"]).bind fun declaration =>
    (declaration.childOfKind? ["scoped_identifier", "identifier"]).map fun name =>
      name.compactText source

/-- The declared package, or the fallback if none, or an empty one, is declared. -/
def packageOf (source : Bytes) (root : Node) (fallback : String) : String :=
  match declaredPackage? source root with
  | some package => if package = "" then fallback else package
  | none => fallback

/-- Record every top-level type of a compilation unit, in source order. -/
def outlineUnit
    (source : Bytes)
    (root : Node)
    (file fallbackPackage : String) :
    Traced MissingPart (List ClassDecl) :=
  outlineTypes source (.file ⟨file, packageOf source root fallbackPackage⟩) root.children

end JavaOutline
