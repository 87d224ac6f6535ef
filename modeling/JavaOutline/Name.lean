namespace JavaOutline

/-!
# Names of declarations

A class is named by where it is declared: the file and package of a top-level
type, or the class around a nested one. The file and the package of a nested
class are those of its outermost class, by construction.
-/

/-- Where a top-level type is declared. An empty package is the default one. -/
structure Origin where
  file : String
  package : String
  deriving Repr, DecidableEq, Inhabited

/-- The name of a type declaration. -/
inductive ClassName where
  | topLevel (origin : Origin) (identifier : String)
  | nested (parent : ClassName) (identifier : String)
  deriving Repr, DecidableEq, Inhabited

namespace ClassName

/-- The name as written in the declaration itself. -/
def identifier : ClassName → String
  | .topLevel _ identifier => identifier
  | .nested _ identifier => identifier

/-- The name of the class around a nested one. -/
def parent? : ClassName → Option ClassName
  | .topLevel _ _ => none
  | .nested parent _ => some parent

/-- Where the outermost class is declared. -/
def origin : ClassName → Origin
  | .topLevel origin _ => origin
  | .nested parent _ => parent.origin

/-- The identifiers from the outermost class inwards, joined by `$`. -/
def shortName : ClassName → String
  | .topLevel _ identifier => identifier
  | .nested parent identifier => parent.shortName ++ "$" ++ identifier

/-- Package, file and short name; the default package is left out. -/
def qualifiedName (name : ClassName) : String :=
  (if name.origin.package = "" then "" else name.origin.package ++ "/") ++
    name.origin.file ++ "#" ++ name.shortName

end ClassName

/--
The identity of a method, and so the key that tells overloads apart: names of
parameters take no part in it.
-/
structure MethodName where
  owner : ClassName
  name : String
  returnSignature : String
  parameterSignatures : List String
  deriving Repr, DecidableEq

/-- The method's name, parameter signatures and return signature in one text. -/
def MethodName.signature (method : MethodName) : String :=
  method.name ++ "(" ++ ",".intercalate method.parameterSignatures ++ "):" ++
    method.returnSignature

/-- The owner's qualified name and the signature. -/
def MethodName.qualifiedName (method : MethodName) : String :=
  method.owner.qualifiedName ++ "." ++ method.signature

/-- The identity of a field. -/
structure FieldName where
  owner : ClassName
  name : String
  typeSignature : String
  deriving Repr, DecidableEq

/-- The owner's qualified name, the name and the type signature. -/
def FieldName.qualifiedName (field : FieldName) : String :=
  field.owner.qualifiedName ++ "." ++ field.name ++ ":" ++ field.typeSignature

/-- The identity of a declaration of any kind. Identities of different kinds differ. -/
inductive DeclarationName where
  | type (name : ClassName)
  | method (name : MethodName)
  | field (name : FieldName)
  deriving Repr, DecidableEq

/-- The number of different identities in a list. -/
def DeclarationName.countDistinct (names : List DeclarationName) : Nat :=
  names.eraseDups.length

end JavaOutline
