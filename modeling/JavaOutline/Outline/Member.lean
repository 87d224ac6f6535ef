import JavaOutline.Outline.Parameter
import JavaOutline.Traced

namespace JavaOutline

open Text (Bytes)

/-!
# Methods, fields and enum constants

Members are recorded as public whatever they are declared as, since the
outline does not read access modifiers of members.
-/

/-- The modifiers of every member. -/
def memberModifiers : ModifierSet :=
  .ofList [.publicAccess]

/-- The kind of nodes that declare a method with a return type. -/
def methodKind : String := "method_declaration"

/-- Constructors, and whatever else is not a method, return void. -/
def returnTypeOf (source : Bytes) (node : Node) : TypeName :=
  if node.kind = methodKind then
    typeOf? source (node.childByField? "type")
  else
    .void

/-- Tell of the exceptions that a method declares, if any. -/
def tellThrown
    (owner : ClassName)
    (method : String)
    (thrown : List String) :
    Traced MissingPart Unit :=
  if thrown.isEmpty then
    pure ()
  else
    .tell (.thrownIgnored owner method thrown)

/-- Record a method or a constructor. -/
def methodOf
    (source : Bytes)
    (owner : ClassName)
    (node : Node) :
    Traced MissingPart MethodDecl := do
  let name ← .ofExcept (node.requiredName source)
  let arguments ← .ofExcept (argumentsOf source (node.childByField? "parameters"))
  tellThrown owner name (thrownTypes source node)
  return .ofParts owner name memberModifiers arguments (returnTypeOf source node)
    ⟨node.text source, .java⟩

/-- Record one field for each declarator; they share their type and their snippet. -/
def fieldsOf
    (source : Bytes)
    (owner : ClassName)
    (node : Node) :
    Except MissingPart (List FieldDecl) :=
  let type := typeOf? source (node.childByField? "type")
  (declaratorNames source node).map fun names =>
    names.map fun name =>
      .ofParts owner name type.signature memberModifiers ⟨node.text source, .java⟩

/-- Record an enum constant as a field whose type is the enum itself. -/
def constantOf
    (source : Bytes)
    (owner : ClassName)
    (node : Node) :
    Except MissingPart FieldDecl :=
  (node.requiredName source).map fun name =>
    .ofParts owner name owner.shortName memberModifiers ⟨node.text source, .java⟩

end JavaOutline
