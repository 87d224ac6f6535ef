import JavaOutline.Proofs.MatchingOutlines

namespace JavaOutline

open Text (Bytes)

/-!
# Layout does not matter

A source that is laid out anew, with other blanks, line breaks and positions,
keeps its names, and then the outline keeps everything but the texts that it
quotes. Which blanks count is settled for each kind of name: none inside the name
of a type or a package, none around the word for a primitive, and all of them in
any other name.
-/

/-- The class with its header and all snippets in it left blank. -/
def ClassDecl.blanked (declared : ClassDecl) : ClassDecl :=
  declared.mapTexts fun _ => ""

/-- Nothing is kept of texts that are quoted and of positions. -/
def Precision.withoutLayout : Precision where
  text _ := ""
  point _ := ⟨0, 0⟩

theorem SameWords.readAlike
    {firstSource secondSource : Bytes}
    {first second : NodeInfo}
    (words : SameWords firstSource secondSource first second) :
    ReadAlike .withoutLayout firstSource secondSource first second :=
  { words with
    text := rfl
    header := rfl
    point := rfl }

/--
Two trees of the same shape, each with its own source, whose names agree up to
the blanks that do not count. Their outlines fail over the same part of the same
kind of node, or are equal once headers and snippets are blank.
-/
theorem outlineUnit_without_layout
    {firstSource secondSource : Bytes}
    {first second : Node}
    (matching : MatchAt (SameWords firstSource secondSource) .whole first second)
    (file fallbackPackage : String) :
    EndRelated
      (fun first second => first.kind = second.kind ∧ first.part = second.part)
      (fun first second => first.map ClassDecl.blanked = second.map ClassDecl.blanked)
      (outlineUnit firstSource first file fallbackPackage).outcome
      (outlineUnit secondSource second file fallbackPackage).outcome := by
  have reading : ReadMatch .withoutLayout firstSource secondSource .unit first second :=
    matching.relax SameWords.readAlike (.inl rfl)
  apply (outlineUnit_of_match reading file fallbackPackage).imp
  · intro first second complaints
    exact ⟨complaints.kind, complaints.part⟩
  · intro first second classes
    exact classes

section Reformatted

/-- A unit without any blank that Java could do without, but for those in its package. -/
def denseText : String :=
  "package a . b;class C\x7bList<int>f;void g(byte[]x)\x7b\x7d\x7d"

def denseUnit : Node :=
  spanNode "program" none 0 51 [
    spanNode "package_declaration" none 0 14 [
      spanNode "scoped_identifier" none 8 13 []],
    spanNode "class_declaration" none 14 51 [
      spanNode "identifier" (some "name") 20 21 [],
      spanNode "class_body" (some "body") 21 51 [
        spanNode "field_declaration" none 22 33 [
          spanNode "generic_type" (some "type") 22 31 [
            spanNode "type_identifier" none 22 26 [],
            spanNode "type_arguments" none 26 31 [
              spanNode "integral_type" none 27 30 []]],
          spanNode "variable_declarator" (some "declarator") 31 32 [
            spanNode "identifier" (some "name") 31 32 []]],
        spanNode "method_declaration" none 33 50 [
          spanNode "void_type" (some "type") 33 37 [],
          spanNode "identifier" (some "name") 38 39 [],
          spanNode "formal_parameters" (some "parameters") 39 48 [
            spanNode "formal_parameter" none 40 47 [
              spanNode "array_type" (some "type") 40 46 [
                spanNode "integral_type" (some "element") 40 44 []],
              spanNode "identifier" (some "name") 46 47 []]],
          spanNode "block" (some "body") 48 50 []]]]]

/-- The same unit on several lines. -/
def airyText : String :=
  "package a.b;\nclass C \x7b\n  List< int > f;\n  void g(byte [ ] x) \x7b \x7d\n\x7d"

/-- Its tree, in which the words for primitives come with the blanks around them. -/
def airyUnit : Node :=
  spanNode "program" none 0 66 [
    spanNode "package_declaration" none 0 12 [
      spanNode "scoped_identifier" none 8 11 []],
    spanNode "class_declaration" none 13 66 [
      spanNode "identifier" (some "name") 19 20 [],
      spanNode "class_body" (some "body") 21 66 [
        spanNode "field_declaration" none 25 39 [
          spanNode "generic_type" (some "type") 25 36 [
            spanNode "type_identifier" none 25 29 [],
            spanNode "type_arguments" none 29 36 [
              spanNode "integral_type" none 30 35 []]],
          spanNode "variable_declarator" (some "declarator") 37 38 [
            spanNode "identifier" (some "name") 37 38 []]],
        spanNode "method_declaration" none 42 64 [
          spanNode "void_type" (some "type") 41 47 [],
          spanNode "identifier" (some "name") 47 48 [],
          spanNode "formal_parameters" (some "parameters") 48 60 [
            spanNode "formal_parameter" none 49 59 [
              spanNode "array_type" (some "type") 49 57 [
                spanNode "integral_type" (some "element") 49 54 []],
              spanNode "identifier" (some "name") 58 59 []]],
          spanNode "block" (some "body") 61 64 []]]]]

/-- Laid out anew, the unit keeps its package, its class and all that is in it. -/
theorem outlineUnit_airyUnit_without_layout :
    MatchAt (SameWords (Text.encode denseText) (Text.encode airyText)) .whole
        denseUnit airyUnit ∧
      (outlineUnit (Text.encode denseText) denseUnit "C.java" "").outcome.map
          (List.map ClassDecl.name) =
        .ok [.topLevel ⟨"C.java", "a.b"⟩ "C"] ∧
      EndRelated
        (fun first second => first.kind = second.kind ∧ first.part = second.part)
        (fun first second => first.map ClassDecl.blanked = second.map ClassDecl.blanked)
        (outlineUnit (Text.encode denseText) denseUnit "C.java" "").outcome
        (outlineUnit (Text.encode airyText) airyUnit "C.java" "").outcome := by
  have matching :
      MatchAt (SameWords (Text.encode denseText) (Text.encode airyText)) .whole
        denseUnit airyUnit := by
    decide +kernel
  exact ⟨matching, by decide +kernel, outlineUnit_without_layout matching "C.java" ""⟩

end Reformatted

end JavaOutline
