import Mathlib.Data.List.Forall2
import JavaOutline.Report.Export

namespace JavaOutline

/-!
# What an exported class shows

The entries of the export are described here by what can be looked up in them.
A class shows its names and its own texts, and each of its members has one
entry of its own: a method or a field with what identifies it, a nested class
with all that a class shows. The entries come in the order of the members.
-/

/-- The member of an object under a key. -/
def Json.member? (key : String) : Json → Option Json
  | .object members => (members.find? (fun member => member.1 == key)).map Prod.snd
  | _ => none

/-- An entry shows the name and the type of a parameter. -/
structure Argument.ShownBy (argument : Argument) (entry : Json) : Prop where
  name : entry.member? "name" = some (.text argument.name)
  type : entry.member? "type" = some (.text argument.type.signature)

/-- An entry shows a method. -/
structure MethodDecl.ShownBy (method : MethodDecl) (entry : Json) : Prop where
  name : entry.member? "name" = some (.text method.name.name)
  signature : entry.member? "signature" = some (.text method.name.signature)
  modifiers : entry.member? "modifiers" = some (.texts method.modifiers.names)
  arguments :
    ∃ arguments,
      entry.member? "arguments" = some (.list arguments) ∧
        List.Forall₂ Argument.ShownBy method.arguments arguments
  returnType : entry.member? "returnType" = some (.text method.returnType.signature)
  source : entry.member? "source" = some (.text method.snippet.text)

/-- An entry shows a field. -/
structure FieldDecl.ShownBy (field : FieldDecl) (entry : Json) : Prop where
  name : entry.member? "name" = some (.text field.name.name)
  type : entry.member? "type" = some (.text field.name.typeSignature)
  modifiers : entry.member? "modifiers" = some (.texts field.modifiers.names)
  source : entry.member? "source" = some (.text field.snippet.text)

/-- An entry shows what a class says of itself, its members apart. -/
structure ClassHead.ShownBy
    (noPackage : NoPackage)
    (head : ClassHead)
    (entry : Json) :
    Prop where
  qualifiedName : entry.member? "qualifiedName" = some (.text head.name.qualifiedName)
  shortName : entry.member? "shortName" = some (.text head.name.shortName)
  package :
    head.name.origin.package ≠ "" →
    entry.member? "package" = some (.text head.name.origin.package)
  noPackage :
    head.name.origin.package = "" →
    entry.member? "package" = some noPackage.toJson
  file : entry.member? "file" = some (.text head.name.origin.file)
  modifiers : entry.member? "modifiers" = some (.texts head.modifiers.names)
  header : entry.member? "header" = some (.text head.header.text)
  synthetic : entry.member? "synthetic" = some (.bool head.synthetic)

mutual

/-- An exported class shows a class and accounts for each of its members. -/
inductive ExportsClass (noPackage : NoPackage) : ClassDecl → Json → Prop where
  | mk
      {declared : ClassDecl}
      {entry : Json}
      {methods fields classes : List Json}
      (head : declared.head.ShownBy noPackage entry)
      (inMethods : entry.member? "methods" = some (.list methods))
      (inFields : entry.member? "fields" = some (.list fields))
      (inClasses : entry.member? "innerClasses" = some (.list classes))
      (members : DealtOut noPackage declared.children methods fields classes) :
      ExportsClass noPackage declared entry

/-- Members dealt out in order into methods, fields and classes, each to one of the three. -/
inductive DealtOut (noPackage : NoPackage) :
    List Declaration → List Json → List Json → List Json → Prop where
  | done :
      DealtOut noPackage [] [] [] []
  | method
      {declared : MethodDecl}
      {entry : Json}
      {children : List Declaration}
      {methods fields classes : List Json}
      (shown : declared.ShownBy entry)
      (others : DealtOut noPackage children methods fields classes) :
      DealtOut noPackage (.method declared :: children) (entry :: methods) fields classes
  | field
      {declared : FieldDecl}
      {entry : Json}
      {children : List Declaration}
      {methods fields classes : List Json}
      (shown : declared.ShownBy entry)
      (others : DealtOut noPackage children methods fields classes) :
      DealtOut noPackage (.field declared :: children) methods (entry :: fields) classes
  | nested
      {declared : ClassDecl}
      {entry : Json}
      {children : List Declaration}
      {methods fields classes : List Json}
      (shown : ExportsClass noPackage declared entry)
      (others : DealtOut noPackage children methods fields classes) :
      DealtOut noPackage (.nested declared :: children) methods fields (entry :: classes)

end

theorem Argument.shownBy_toJson (argument : Argument) :
    argument.ShownBy argument.toJson :=
  ⟨rfl, rfl⟩

theorem MethodDecl.shownBy_toJson (method : MethodDecl) :
    method.ShownBy method.toJson where
  name := rfl
  signature := rfl
  modifiers := rfl
  arguments := by
    refine ⟨method.arguments.map Argument.toJson, rfl, ?_⟩
    rw [List.forall₂_map_right_iff]
    exact List.forall₂_same.mpr fun argument _ => argument.shownBy_toJson
  returnType := rfl
  source := rfl

theorem FieldDecl.shownBy_toJson (field : FieldDecl) :
    field.ShownBy field.toJson :=
  ⟨rfl, rfl, rfl, rfl⟩

theorem ClassHead.shownBy_toJson
    (noPackage : NoPackage)
    (head : ClassHead)
    (children : List Declaration) :
    head.ShownBy noPackage (ClassDecl.toJson noPackage (.mk head children)) := by
  rw [ClassDecl.toJson]
  exact {
    qualifiedName := rfl
    shortName := rfl
    package := fun named => congrArg some (if_neg named)
    noPackage := fun unnamed => congrArg some (if_pos unnamed)
    file := rfl
    modifiers := rfl
    header := rfl
    synthetic := rfl
  }

mutual

/-- The export of a class shows it, and the classes nested in it at any depth. -/
theorem exportsClass_toJson (noPackage : NoPackage) :
    ∀ declared : ClassDecl, ExportsClass noPackage declared (declared.toJson noPackage)
  | .mk head children => by
      have shown := head.shownBy_toJson noPackage children
      rw [ClassDecl.toJson] at shown ⊢
      exact .mk shown rfl rfl rfl (dealtOut_members noPackage children)

theorem dealtOut_members (noPackage : NoPackage) :
    ∀ children : List Declaration,
      DealtOut noPackage children
        (methodsJson children) (fieldsJson children) (nestedJson noPackage children)
  | [] => by
      rw [nestedJson]
      exact .done
  | .method declared :: rest => by
      rw [nestedJson]
      exact .method declared.shownBy_toJson (dealtOut_members noPackage rest)
  | .field declared :: rest => by
      rw [nestedJson]
      exact .field declared.shownBy_toJson (dealtOut_members noPackage rest)
  | .nested declared :: rest => by
      rw [nestedJson]
      exact .nested (exportsClass_toJson noPackage declared) (dealtOut_members noPackage rest)

end

end JavaOutline
