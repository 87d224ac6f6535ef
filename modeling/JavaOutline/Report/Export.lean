import JavaOutline.Json.Printer
import JavaOutline.Outcome

namespace JavaOutline

/-!
# The export for programs
-/

/-- How the export writes the package of a class that is in none. -/
inductive NoPackage where
  /-- As a package without a name. -/
  | emptyText
  /-- As a list of no packages. -/
  | emptyList
  deriving Repr, DecidableEq

/-- What stands in the export for no package. -/
def NoPackage.toJson : NoPackage → Json
  | emptyText => .text ""
  | emptyList => .list []

/-- A package in the export. -/
def packageJson (noPackage : NoPackage) (package : String) : Json :=
  if package = "" then noPackage.toJson else .text package

/-- A parameter in the export. -/
def Argument.toJson (argument : Argument) : Json :=
  .object [("name", .text argument.name), ("type", .text argument.type.signature)]

/-- A method in the export. -/
def MethodDecl.toJson (method : MethodDecl) : Json :=
  .object [
    ("name", .text method.name.name),
    ("signature", .text method.name.signature),
    ("modifiers", .texts method.modifiers.names),
    ("arguments", .list (method.arguments.map Argument.toJson)),
    ("returnType", .text method.returnType.signature),
    ("source", .text method.snippet.text)]

/-- A field in the export. -/
def FieldDecl.toJson (field : FieldDecl) : Json :=
  .object [
    ("name", .text field.name.name),
    ("type", .text field.name.typeSignature),
    ("modifiers", .texts field.modifiers.names),
    ("source", .text field.snippet.text)]

/-- The methods among members in the export. -/
def methodsJson (children : List Declaration) : List Json :=
  (children.filterMap Declaration.method?).map MethodDecl.toJson

/-- The fields among members in the export. -/
def fieldsJson (children : List Declaration) : List Json :=
  (children.filterMap Declaration.field?).map FieldDecl.toJson

mutual

/-- A class in the export. -/
def ClassDecl.toJson (noPackage : NoPackage) : ClassDecl → Json
  | .mk head children =>
      .object [
        ("qualifiedName", .text head.name.qualifiedName),
        ("shortName", .text head.name.shortName),
        ("package", packageJson noPackage head.name.origin.package),
        ("file", .text head.name.origin.file),
        ("modifiers", .texts head.modifiers.names),
        ("header", .text head.header.text),
        ("synthetic", .bool head.synthetic),
        ("methods", .list (methodsJson children)),
        ("fields", .list (fieldsJson children)),
        ("innerClasses", .list (nestedJson noPackage children))]

/-- The classes among members in the export. -/
def nestedJson (noPackage : NoPackage) : List Declaration → List Json
  | [] => []
  | .nested declared :: rest => declared.toJson noPackage :: nestedJson noPackage rest
  | .method _ :: rest => nestedJson noPackage rest
  | .field _ :: rest => nestedJson noPackage rest

end

/-- A file in the export. -/
def FileOutcome.toJson
    (noPackage : NoPackage)
    (path : String)
    (outcome : FileOutcome) :
    Json :=
  .object [
    ("path", .text path),
    ("status", .text outcome.status.name),
    ("message", .optionalText outcome.message),
    ("issues", .texts (outcome.issues.map SyntaxIssue.describe)),
    ("classes", .list (outcome.declarations.map (ClassDecl.toJson noPackage)))]

/-- All files of a run in the export. -/
def Catalog.toJson (noPackage : NoPackage) (catalog : Catalog) : Json :=
  .object [
    ("files", .list (catalog.entries.map fun entry => entry.2.toJson noPackage entry.1))]

/-- The written export of a run. -/
def Catalog.exportText (noPackage : NoPackage) (catalog : Catalog) : String :=
  (catalog.toJson noPackage).render

end JavaOutline
