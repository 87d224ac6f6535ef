import JavaOutline.Proofs.MatchingOutlines

namespace JavaOutline

open Text (Bytes)

/-!
# Code that is not read

Statements, initializers, values of fields, bodies of enum constants and all of
an annotation type are left alone by an outline. They may hold any nodes, also
such as look like declarations and lack their names: neither the recorded
declarations nor a complaint can come from there. The tree in which all of this is
cut away has the same outline.
-/

mutual

/-- The tree with nothing below the nodes whose children are not read. -/
def Node.trimmed : Standing → Node → Node
  | standing, .mk info children =>
      .mk info (if standing = .unread then [] else trimmedNodes standing children)

def trimmedNodes : Standing → List Node → List Node
  | _, [] => []
  | standing, node :: rest =>
      node.trimmed (standing.below node.info) :: trimmedNodes standing rest

end

mutual

theorem matchAt_trimmed :
    ∀ (standing : Standing) (node : Node),
      MatchAt Eq standing node (node.trimmed standing)
  | standing, .mk info children => by
      rw [Node.trimmed, MatchAt]
      by_cases unread : standing = .unread
      · exact ⟨rfl, .inl unread⟩
      · rw [if_neg unread]
        exact ⟨rfl, .inr (matchBelow_trimmed standing children)⟩

theorem matchBelow_trimmed :
    ∀ (standing : Standing) (nodes : List Node),
      MatchBelow Eq standing nodes (trimmedNodes standing nodes)
  | _, [] => by
      rw [trimmedNodes, MatchBelow]
      trivial
  | standing, node :: rest => by
      rw [trimmedNodes, MatchBelow]
      exact ⟨matchAt_trimmed _ node, matchBelow_trimmed standing rest⟩

end

/-- A node in a source is read like itself. -/
theorem ReadAlike.of_eq
    {source : Bytes}
    {first second : NodeInfo}
    (same : first = second) :
    ReadAlike .exact source source first second := by
  subst same
  exact ⟨⟨rfl, rfl, rfl, fun _ => rfl, fun _ => rfl, fun _ => rfl⟩, rfl, rfl, rfl⟩

/--
Two trees that differ only below nodes that are not read have the same outline,
with every record and every text in it, or fail over the same node. So does the
tree that has nothing below such nodes.
-/
theorem outlineUnit_ignores_unread_code
    {first second : Node}
    (matching : MatchAt Eq .unit first second)
    (source : Bytes)
    (file fallbackPackage : String) :
    (outlineUnit source first file fallbackPackage).outcome =
        (outlineUnit source second file fallbackPackage).outcome ∧
      (outlineUnit source first file fallbackPackage).outcome =
        (outlineUnit source (first.trimmed .unit) file fallbackPackage).outcome := by
  have ignored : ∀ other, MatchAt Eq .unit first other →
      (outlineUnit source first file fallbackPackage).outcome =
        (outlineUnit source other file fallbackPackage).outcome := by
    intro other trees
    have reading : ReadMatch .exact source source .unit first other :=
      trees.relax ReadAlike.of_eq (.inr rfl)
    exact outlineUnit_eq_of_match reading file fallbackPackage
  exact ⟨ignored second matching, ignored _ (matchAt_trimmed .unit first)⟩

section Sheltered

/-- A unit with an initializer, a value, a method body, a constant body and annotation types. -/
def shelteredText : String :=
  "class A \x7b static \x7b \x7d int f = g; void h() \x7b \x7d " ++
    "@interface N \x7b \x7d enum E \x7b B \x7b \x7d \x7d \x7d @interface T \x7b \x7d"

/-- The tree of this unit, with the given nodes in all of these. -/
def shelteredUnit (inside : List Node) : Node :=
  spanNode "program" none 0 97 [
    spanNode "class_declaration" none 0 80 [
      spanNode "identifier" (some "name") 6 7 [],
      spanNode "class_body" (some "body") 8 80 [
        spanNode "static_initializer" none 10 20 inside,
        spanNode "field_declaration" none 21 31 [
          spanNode "integral_type" (some "type") 21 24 [],
          spanNode "variable_declarator" (some "declarator") 25 30 [
            spanNode "identifier" (some "name") 25 26 inside,
            spanNode "identifier" (some "value") 29 30 inside]],
        spanNode "method_declaration" none 32 44 [
          spanNode "void_type" (some "type") 32 36 [],
          spanNode "identifier" (some "name") 37 38 [],
          spanNode "formal_parameters" (some "parameters") 38 40 [],
          spanNode "block" (some "body") 41 44 inside],
        spanNode "annotation_type_declaration" none 45 61 inside,
        spanNode "enum_declaration" none 62 78 [
          spanNode "identifier" (some "name") 67 68 [],
          spanNode "enum_body" (some "body") 69 78 [
            spanNode "enum_constant" none 71 76 [
              spanNode "identifier" (some "name") 71 72 [],
              spanNode "class_body" (some "body") 73 76 inside]]]]],
    spanNode "annotation_type_declaration" none 81 97 inside]

/-- A class without a name, as a parser may leave it behind. -/
def namelessClass : Node :=
  spanNode "class_declaration" none 0 0 [spanNode "class_body" (some "body") 0 0 []]

/-- Classes without names do no harm where they are not read. -/
theorem outlineUnit_ignores_nameless_classes :
    MatchAt Eq .unit (shelteredUnit [namelessClass, namelessClass]) (shelteredUnit []) ∧
      (outlineUnit (Text.encode shelteredText) (shelteredUnit [namelessClass, namelessClass])
            "A.java" "").outcome =
          (outlineUnit (Text.encode shelteredText) (shelteredUnit []) "A.java" "").outcome ∧
      (outlineUnit (Text.encode shelteredText) (shelteredUnit []) "A.java" "").outcome.map
          (List.map fun declared => declared.walk.map ClassDecl.name) =
        .ok [[.topLevel ⟨"A.java", ""⟩ "A", .nested (.topLevel ⟨"A.java", ""⟩ "A") "E"]] := by
  have matching :
      MatchAt Eq .unit (shelteredUnit [namelessClass, namelessClass]) (shelteredUnit []) := by
    decide +kernel
  have ignored :=
    outlineUnit_ignores_unread_code matching (Text.encode shelteredText) "A.java" ""
  exact ⟨matching, ignored.1, by decide +kernel⟩

end Sheltered

end JavaOutline
