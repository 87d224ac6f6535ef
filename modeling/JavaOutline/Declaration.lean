import JavaOutline.Modifier
import JavaOutline.Name
import JavaOutline.TypeName

namespace JavaOutline

/-!
# Declarations

The outline of a source is a list of classes, and a class holds its methods,
its fields and its nested classes in the order in which they are written.
-/

/-- The languages a piece of source can be written in. -/
inductive Language where
  | java
  | kotlin
  | csharp
  | c
  | cpp
  | objectiveC
  | python
  | javascript
  | typescript
  | solidity
  deriving Repr, DecidableEq

namespace Language

/-- Every language, each once. -/
def all : List Language :=
  [java, kotlin, csharp, c, cpp, objectiveC, python, javascript, typescript, solidity]

/-- The identifier of a language in reports. -/
def name : Language → String
  | java => "java"
  | kotlin => "kotlin"
  | csharp => "csharp"
  | c => "c"
  | cpp => "cpp"
  | objectiveC => "objc"
  | python => "python"
  | javascript => "javascript"
  | typescript => "typescript"
  | solidity => "solidity"

/-- The language with a given identifier. -/
def ofName? (name : String) : Option Language :=
  all.find? (fun language => language.name == name)

end Language

/-- A piece of source text and its language. -/
structure Snippet where
  text : String
  language : Language := .java
  deriving Repr, DecidableEq

/-- A formal parameter. -/
structure Argument where
  name : String
  type : TypeName
  deriving Repr, DecidableEq

/-- A method or a constructor. -/
structure MethodDecl where
  name : MethodName
  owner : ClassName
  modifiers : ModifierSet
  arguments : List Argument
  returnType : TypeName
  snippet : Snippet
  deriving Repr, DecidableEq

/-- A method whose identity is made of its own parameter and return types. -/
def MethodDecl.ofParts
    (owner : ClassName)
    (name : String)
    (modifiers : ModifierSet)
    (arguments : List Argument)
    (returnType : TypeName)
    (snippet : Snippet) :
    MethodDecl where
  name := {
    owner := owner
    name := name
    returnSignature := returnType.signature
    parameterSignatures := arguments.map (fun argument => argument.type.signature)
  }
  owner := owner
  modifiers := modifiers
  arguments := arguments
  returnType := returnType
  snippet := snippet

/-- One field. A declaration of several fields gives one record for each. -/
structure FieldDecl where
  name : FieldName
  owner : ClassName
  modifiers : ModifierSet
  snippet : Snippet
  deriving Repr, DecidableEq

/-- A field whose identity is made of its owner, its name and its type. -/
def FieldDecl.ofParts
    (owner : ClassName)
    (name typeSignature : String)
    (modifiers : ModifierSet)
    (snippet : Snippet) :
    FieldDecl where
  name := ⟨owner, name, typeSignature⟩
  owner := owner
  modifiers := modifiers
  snippet := snippet

/-- What a class says of itself, its members apart. -/
structure ClassHead where
  name : ClassName
  modifiers : ModifierSet
  header : Snippet
  synthetic : Bool := false
  deriving Repr, DecidableEq

mutual

/-- A class, interface, enum or record with everything declared directly in it. -/
inductive ClassDecl where
  | mk (head : ClassHead) (children : List Declaration)

/-- A member of a class. -/
inductive Declaration where
  | method (declared : MethodDecl)
  | field (declared : FieldDecl)
  | nested (declared : ClassDecl)

end

/-- The method that a member is, if it is one. -/
def Declaration.method? : Declaration → Option MethodDecl
  | .method declared => some declared
  | _ => none

/-- The field that a member is, if it is one. -/
def Declaration.field? : Declaration → Option FieldDecl
  | .field declared => some declared
  | _ => none

/-- The class that a member is, if it is one. -/
def Declaration.nested? : Declaration → Option ClassDecl
  | .nested declared => some declared
  | _ => none

namespace ClassDecl

/-- What the class says of itself. -/
def head : ClassDecl → ClassHead
  | .mk head _ => head

/-- The members, in source order. -/
def children : ClassDecl → List Declaration
  | .mk _ children => children

/-- The name of the class. -/
def name (declaration : ClassDecl) : ClassName :=
  declaration.head.name

/-- The methods, in source order. -/
def methods (declaration : ClassDecl) : List MethodDecl :=
  declaration.children.filterMap Declaration.method?

/-- The fields, in source order. -/
def fields (declaration : ClassDecl) : List FieldDecl :=
  declaration.children.filterMap Declaration.field?

/-- The nested classes, in source order. -/
def innerClasses (declaration : ClassDecl) : List ClassDecl :=
  declaration.children.filterMap Declaration.nested?

end ClassDecl

mutual

/-- The class and every class nested in it, outer classes first, in source order. -/
def ClassDecl.walk : ClassDecl → List ClassDecl
  | .mk head children => .mk head children :: walkMembers children

/-- The classes among members and every class nested in them. -/
def walkMembers : List Declaration → List ClassDecl
  | [] => []
  | .nested declared :: rest => declared.walk ++ walkMembers rest
  | .method _ :: rest => walkMembers rest
  | .field _ :: rest => walkMembers rest

end

end JavaOutline
