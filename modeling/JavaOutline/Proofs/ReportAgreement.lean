import Mathlib.Data.List.Forall2
import Mathlib.Data.List.Nodup
import JavaOutline.Proofs.ClassTree
import JavaOutline.Proofs.ExportedClasses
import JavaOutline.Report.Summary

namespace JavaOutline

/-!
# Summary, export and walk agree

The summary prints the members of a class before it descends, and the export
sorts them into methods, fields and classes. Both nevertheless visit the
classes of a tree in the order of its walk, and both account for every member
once.
-/

mutual

/-- The walk over a class, each class with its depth. -/
def ClassDecl.walkFrom (depth : Nat) : ClassDecl → List (Nat × ClassDecl)
  | .mk head children => (depth, .mk head children) :: walkMembersFrom (depth + 1) children

/-- The walks over the classes among members that stand at a depth. -/
def walkMembersFrom (depth : Nat) : List Declaration → List (Nat × ClassDecl)
  | [] => []
  | .nested declared :: rest => declared.walkFrom depth ++ walkMembersFrom depth rest
  | .method _ :: rest => walkMembersFrom depth rest
  | .field _ :: rest => walkMembersFrom depth rest

end

theorem walkMembersFrom_eq (depth : Nat) (children : List Declaration) :
    walkMembersFrom depth children =
      (children.filterMap Declaration.nested?).flatMap (ClassDecl.walkFrom depth) := by
  induction children with
  | nil =>
      rw [walkMembersFrom]
      rfl
  | cons declaration rest inductionHypothesis =>
      cases declaration <;>
        simp [walkMembersFrom, List.filterMap_cons, Declaration.nested?, inductionHypothesis]

namespace ClassDecl

theorem walkFrom_eq (depth : Nat) (declared : ClassDecl) :
    declared.walkFrom depth =
      (depth, declared) :: declared.innerClasses.flatMap (walkFrom (depth + 1)) := by
  cases declared with
  | mk head children =>
      simp only [walkFrom, walkMembersFrom_eq]
      rfl

/-- Depths are added to the walk and change nothing in it. -/
theorem walkFrom_classes (depth : Nat) (declared : ClassDecl) :
    (declared.walkFrom depth).map Prod.snd = declared.walk := by
  induction declared using innerInduction generalizing depth with
  | step declared inductionHypothesis =>
      rw [walkFrom_eq, walk_eq, List.map_cons, List.map_flatMap]
      congr 1
      refine List.flatMap_congr fun inner member => ?_
      exact inductionHypothesis inner (mem_innerClasses.mp member) (depth + 1)

end ClassDecl

section Summary

/-- A line that is set in by a number of spaces. -/
def indented (spaces : Nat) (line : String) : String :=
  String.ofList (List.replicate spaces ' ') ++ line

/-- The heading of a class and one line for each of its members, all set in alike. -/
def ClassDecl.block (spaces : Nat) (declared : ClassDecl) : List String :=
  indented spaces declared.name.shortName ::
    declared.children.map (fun child => indented spaces ("-" ++ child.label))

theorem nestedLines_eq (level : Int) (children : List Declaration) :
    nestedLines level children =
      (children.filterMap Declaration.nested?).flatMap (ClassDecl.lines level) := by
  induction children with
  | nil =>
      rw [nestedLines]
      rfl
  | cons declaration rest inductionHypothesis =>
      cases declaration <;>
        simp [nestedLines, List.filterMap_cons, Declaration.nested?, inductionHypothesis]

theorem ClassDecl.lines_eq (level : Int) (declared : ClassDecl) :
    declared.lines level =
      declared.block (2 * (max 0 level).toNat) ++
        declared.innerClasses.flatMap (lines (level + 1)) := by
  have width : level.toNat = (max 0 level).toNat := by
    omega
  cases declared with
  | mk head children =>
      simp only [lines, nestedLines_eq, block, indented, padding, width, List.cons_append,
        String.append_assoc]
      rfl

/--
Below the class itself the levels grow with the depths. The induction keeps
the sum of the two, since a nested class is printed one level further in and
is visited one step deeper.
-/
theorem ClassDecl.lines_eq_blocks
    (indent : Int)
    (depth : Nat)
    (declared : ClassDecl) :
    declared.lines (indent + depth) =
      (declared.walkFrom depth).flatMap fun visited =>
        visited.2.block (2 * (max 0 (indent + visited.1)).toNat) := by
  induction declared using innerInduction generalizing depth with
  | step declared inductionHypothesis =>
      rw [lines_eq, walkFrom_eq, List.flatMap_cons, List.flatMap_assoc]
      congr 1
      refine List.flatMap_congr fun inner member => ?_
      have nextLevel : indent + (depth : Int) + 1 = indent + ((depth + 1 : Nat) : Int) := by
        omega
      rw [nextLevel]
      exact inductionHypothesis inner (mem_innerClasses.mp member) (depth + 1)

end Summary

section Export

mutual

/-- An exported class and the classes that are reached from it through inner classes. -/
def Json.classWalk : Json → List Json
  | .object members => .object members :: innerClassWalk members
  | value => [value]

/-- The classes that are reached through the inner classes among members. -/
def innerClassWalk : List (String × Json) → List Json
  | [] => []
  | (key, value) :: rest =>
      if key = "innerClasses" then value.itemsClassWalk else innerClassWalk rest

/-- The classes that are reached from the items of a list. -/
def Json.itemsClassWalk : Json → List Json
  | .list items => classWalks items
  | _ => []

/-- The classes that are reached from several values, one after the other. -/
def classWalks : List Json → List Json
  | [] => []
  | value :: rest => value.classWalk ++ classWalks rest

end

theorem classWalks_eq (values : List Json) :
    classWalks values = values.flatMap Json.classWalk := by
  induction values with
  | nil =>
      rw [classWalks]
      rfl
  | cons value rest inductionHypothesis =>
      rw [classWalks, inductionHypothesis, List.flatMap_cons]

theorem nestedJson_eq (noPackage : NoPackage) (children : List Declaration) :
    nestedJson noPackage children =
      (children.filterMap Declaration.nested?).map (ClassDecl.toJson noPackage) := by
  induction children with
  | nil =>
      rw [nestedJson]
      rfl
  | cons declaration rest inductionHypothesis =>
      cases declaration <;>
        simp [nestedJson, List.filterMap_cons, Declaration.nested?, inductionHypothesis]

/-- The export of a class holds the exports of its nested classes and no other class. -/
theorem ClassDecl.classWalk_toJson_eq (noPackage : NoPackage) (declared : ClassDecl) :
    (declared.toJson noPackage).classWalk =
      declared.toJson noPackage ::
        (declared.innerClasses.map (toJson noPackage)).flatMap Json.classWalk := by
  cases declared with
  | mk head children =>
      simp [toJson, Json.classWalk, innerClassWalk, Json.itemsClassWalk, classWalks_eq,
        nestedJson_eq, innerClasses, ClassDecl.children]

theorem ClassDecl.classWalk_toJson (noPackage : NoPackage) (declared : ClassDecl) :
    (declared.toJson noPackage).classWalk = declared.walk.map (toJson noPackage) := by
  induction declared using innerInduction with
  | step declared inductionHypothesis =>
      rw [classWalk_toJson_eq, walk_eq, List.map_cons, List.map_flatMap, List.flatMap_map]
      congr 1
      refine List.flatMap_congr fun inner member => ?_
      exact inductionHypothesis inner (mem_innerClasses.mp member)

/-- The exported classes, in the order of their keys, are those of the walk. -/
theorem exportsClass_classWalk (noPackage : NoPackage) (declared : ClassDecl) :
    List.Forall₂ (ExportsClass noPackage)
      declared.walk (declared.toJson noPackage).classWalk := by
  rw [ClassDecl.classWalk_toJson, List.forall₂_map_right_iff]
  exact List.forall₂_same.mpr fun inner _ => exportsClass_toJson noPackage inner

end Export

section Files

/-- What the summary prints for one file. -/
structure FileSection (entry : String × FileOutcome) (printed : List String) : Prop where
  parsed :
    entry.2.isParsed = true →
    printed =
      ("\n=== " ++ entry.1 ++ " ===") :: entry.2.declarations.flatMap (ClassDecl.lines 0)
  failed :
    entry.2.isParsed = false →
    printed =
      ["\n=== " ++ entry.1 ++ " ===",
        "  !! " ++ entry.2.status.name ++ ": " ++ entry.2.message.getD "None"]

theorem fileSection_lines (entry : String × FileOutcome) :
    FileSection entry (("\n=== " ++ entry.1 ++ " ===") :: entry.2.lines) := by
  constructor <;> intro status <;> simp [FileOutcome.lines, status]

/-- A catalog has at most one outcome for each path. -/
def Catalog.Distinct (catalog : Catalog) : Prop :=
  (catalog.entries.map Prod.fst).Nodup

variable (noPackage : NoPackage) (catalog : Catalog)

theorem fileSections_lines :
    ∃ sections,
      catalog.lines = sections.flatten ∧
        List.Forall₂ FileSection catalog.entries sections := by
  refine ⟨catalog.entries.map fun entry =>
    ("\n=== " ++ entry.1 ++ " ===") :: entry.2.lines, ?_, ?_⟩
  · exact List.flatMap_def
  · rw [List.forall₂_map_right_iff]
    exact List.forall₂_same.mpr fun entry _ => fileSection_lines entry

theorem paths_of_toJson :
    ∃ files,
      (catalog.toJson noPackage).member? "files" = some (.list files) ∧
        files.map (Json.member? "path") =
          catalog.entries.map (fun entry => some (.text entry.1)) := by
  refine ⟨catalog.entries.map fun entry => entry.2.toJson noPackage entry.1, rfl, ?_⟩
  rw [List.map_map]
  rfl

theorem Catalog.Distinct.nodup_texts
    {catalog : Catalog}
    (distinct : catalog.Distinct) :
    (catalog.entries.map (fun entry => some (Json.text entry.1))).Nodup := by
  have injective : Function.Injective fun path => some (Json.text path) := by
    intro first second same
    exact Json.text.inj (Option.some.inj same)
  have mapped := List.Nodup.map injective distinct
  rwa [List.map_map] at mapped

end Files

/-- A class as it is reported at an indentation, and a catalog as both reports list it. -/
structure ReportsFollowWalk
    (noPackage : NoPackage)
    (declared : ClassDecl)
    (indent : Int)
    (catalog : Catalog) :
    Prop where
  visited : (declared.walkFrom 0).map Prod.snd = declared.walk
  printed :
    declared.lines indent =
      (declared.walkFrom 0).flatMap fun visited =>
        visited.2.block (2 * (max 0 (indent + visited.1)).toNat)
  exported :
    List.Forall₂ (ExportsClass noPackage)
      declared.walk (declared.toJson noPackage).classWalk
  listed :
    ∃ files,
      (catalog.toJson noPackage).member? "files" = some (.list files) ∧
        files.map (Json.member? "path") =
          catalog.entries.map (fun entry => some (.text entry.1)) ∧
        (files.map (Json.member? "path")).Nodup
  summarized :
    ∃ sections,
      catalog.lines = sections.flatten ∧
        List.Forall₂ FileSection catalog.entries sections

/--
For every class, at any depth and any indentation, the summary prints the
blocks of the walk one after the other, and the export is a tree of the
classes of the walk in which each member of a class has its own entry, which
shows it. For a catalog both list each path once and in order, and the summary
of a file that failed shows nothing but its failure.
-/
theorem reports_follow_walk
    (noPackage : NoPackage)
    (declared : ClassDecl)
    (indent : Int)
    (catalog : Catalog)
    (distinct : catalog.Distinct) :
    ReportsFollowWalk noPackage declared indent catalog := by
  obtain ⟨files, inExport, listed⟩ := paths_of_toJson noPackage catalog
  have once : (files.map (Json.member? "path")).Nodup := by
    rw [listed]
    exact distinct.nodup_texts
  exact {
    visited := declared.walkFrom_classes 0
    printed := by
      simpa using declared.lines_eq_blocks indent 0
    exported := exportsClass_classWalk noPackage declared
    listed := ⟨files, inExport, listed, once⟩
    summarized := fileSections_lines catalog
  }

/-- A class with a field before a nested class that has a method. -/
def pocketClass : ClassDecl :=
  let outer : ClassName := .topLevel ⟨"A.java", ""⟩ "A"
  let inner : ClassName := .nested outer "B"
  .mk ⟨outer, .empty, ⟨"class A ", .java⟩, false⟩ [
    .field (.ofParts outer "x" "int" .empty ⟨"int x;", .java⟩),
    .nested (.mk ⟨inner, .empty, ⟨"class B ", .java⟩, false⟩ [
      .method (.ofParts inner "f" .empty [] (.primitive .void) ⟨"void f();", .java⟩)])]

/-- A file with this class, and one that has failed. -/
def pocketCatalog : Catalog :=
  ⟨[("A.java", .parsed "A.java" [pocketClass]),
    ("B.java", .failed "B.java" .syntaxError (some "1 syntax error(s)") [])]⟩

/-- To the left of the margin nothing is set in. -/
theorem pocketCatalog_reports_follow_walk :
    pocketCatalog.Distinct ∧
      pocketClass.lines (-1) = ["A", "-x: int", "-A$B", "A$B", "-f():void"] ∧
      pocketCatalog.lines =
        ["\n=== A.java ===", "A", "-x: int", "-A$B", "  A$B", "  -f():void",
          "\n=== B.java ===", "  !! syntax_error: 1 syntax error(s)"] ∧
      ReportsFollowWalk .emptyText pocketClass (-1) pocketCatalog := by
  have distinct : pocketCatalog.Distinct := by
    simp [Catalog.Distinct, pocketCatalog]
  exact ⟨distinct, by decide, by decide,
    reports_follow_walk .emptyText pocketClass (-1) pocketCatalog distinct⟩

end JavaOutline
