import JavaOutline.Proofs.MatchingOutlines

namespace JavaOutline

open Text (Bytes)

/-!
# Declarations in another part of a source

A type declaration is read from its own bytes. Cut out together with its tree and
put between other bytes, it has the same outline, although the bytes next to it
may form characters with those at its ends.
-/

namespace Node

mutual

/-- The tree with all of its offsets moved on. -/
def shifted (distance : Nat) : Node → Node
  | .mk info children =>
      .mk { info with start := distance + info.start, stop := distance + info.stop }
        (shiftedNodes distance children)

def shiftedNodes (distance : Nat) : List Node → List Node
  | [] => []
  | node :: rest => node.shifted distance :: shiftedNodes distance rest

end

mutual

/-- All offsets in a tree are at most `limit`. -/
def Within (limit : Nat) : Node → Prop
  | .mk info children =>
      info.start ≤ limit ∧ info.stop ≤ limit ∧ NodesWithin limit children

def NodesWithin (limit : Nat) : List Node → Prop
  | [] => True
  | node :: rest => node.Within limit ∧ NodesWithin limit rest

end

mutual

def decideWithin (limit : Nat) : (node : Node) → Decidable (node.Within limit)
  | .mk info children =>
      have := decideNodesWithin limit children
      inferInstanceAs (Decidable
        (info.start ≤ limit ∧ info.stop ≤ limit ∧ NodesWithin limit children))

def decideNodesWithin (limit : Nat) : (nodes : List Node) → Decidable (NodesWithin limit nodes)
  | [] => .isTrue trivial
  | node :: rest =>
      have := decideWithin limit node
      have := decideNodesWithin limit rest
      inferInstanceAs (Decidable (node.Within limit ∧ NodesWithin limit rest))

end

instance (limit : Nat) (node : Node) : Decidable (node.Within limit) :=
  decideWithin limit node

end Node

/-- What lies inside the middle of three parts does not depend on the others. -/
theorem slice_between
    (before middle after : Bytes)
    (start : Nat)
    {stop : Nat}
    (inside : stop ≤ middle.length) :
    Text.slice (before ++ middle ++ after) (before.length + start) (before.length + stop) =
      Text.slice middle start stop := by
  rw [Text.slice, Text.slice, List.append_assoc, List.take_length_add_append,
    List.drop_length_add_append, List.take_append_of_le_length inside]

theorem text_between
    {info : NodeInfo}
    {middle : Bytes}
    (inside : info.stop ≤ middle.length)
    (before after : Bytes) :
    NodeInfo.text (before ++ middle ++ after)
        { info with
          start := before.length + info.start
          stop := before.length + info.stop } =
      info.text middle := by
  rw [NodeInfo.text, NodeInfo.text, slice_between before middle after info.start inside]

section Shifting

variable {middle firstBefore firstAfter secondBefore secondAfter : Bytes}

mutual

/-- A tree inside the middle part is read alike wherever that part stands. -/
theorem shifted_matching :
    ∀ (node : Node),
      node.Within middle.length →
      MatchAt
        (ReadAlike .exact
          (firstBefore ++ middle ++ firstAfter) (secondBefore ++ middle ++ secondAfter))
        .whole (node.shifted firstBefore.length) (node.shifted secondBefore.length)
  | .mk info children, within => by
      rw [Node.Within] at within
      obtain ⟨-, inside, below⟩ := within
      have firstText := text_between inside firstBefore firstAfter
      have secondText := text_between inside secondBefore secondAfter
      have texts := firstText.trans secondText.symm
      rw [Node.shifted, Node.shifted, MatchAt]
      refine ⟨?_, .inr (shiftedNodes_matching children below)⟩
      refine ⟨⟨rfl, rfl, rfl, fun _ => texts, fun _ => ?_, fun _ => ?_⟩, ?_, ?_, rfl⟩
      · exact congrArg Text.compact texts
      · exact congrArg Text.strip texts
      · exact texts
      · rw [NodeInfo.textBeforeBrace, NodeInfo.textBeforeBrace, texts]

theorem shiftedNodes_matching :
    ∀ (nodes : List Node),
      Node.NodesWithin middle.length nodes →
      MatchBelow
        (ReadAlike .exact
          (firstBefore ++ middle ++ firstAfter) (secondBefore ++ middle ++ secondAfter))
        .whole
        (Node.shiftedNodes firstBefore.length nodes)
        (Node.shiftedNodes secondBefore.length nodes)
  | [], _ => by
      rw [Node.shiftedNodes, Node.shiftedNodes, MatchBelow]
      trivial
  | node :: rest, within => by
      rw [Node.NodesWithin] at within
      rw [Node.shiftedNodes, Node.shiftedNodes, MatchBelow]
      exact ⟨shifted_matching node within.1, shiftedNodes_matching rest within.2⟩

end

end Shifting

/--
A declaration whose tree lies within `middle` has the same outline in any scope,
or none, or the same complaint, whatever stands before and after it.
-/
theorem outlineType_relocates
    {middle : Bytes}
    {node : Node}
    (within : node.Within middle.length)
    (firstBefore firstAfter secondBefore secondAfter : Bytes)
    (scope : Scope) :
    (outlineType (firstBefore ++ middle ++ firstAfter) scope
        (node.shifted firstBefore.length)).outcome =
      (outlineType (secondBefore ++ middle ++ secondAfter) scope
        (node.shifted secondBefore.length)).outcome := by
  have moved :
      ReadMatch .exact
        (firstBefore ++ middle ++ firstAfter) (secondBefore ++ middle ++ secondAfter)
        .type (node.shifted firstBefore.length) (node.shifted secondBefore.length) :=
    (shifted_matching node within).relax id (.inl rfl)
  exact outlineType_eq_of_match moved scope

section CutCharacters

/-- The end of one character, an empty body, and the beginning of another character. -/
def cutBytes : Bytes :=
  [0x82, 0xAC, 0x7B, 0x7D, 0xE2]

/-- A class that is called by the end of a character and ends in the beginning of one. -/
def cutClass : Node :=
  spanNode "class_declaration" none 0 5 [
    spanNode "identifier" (some "name") 0 2 [],
    spanNode "class_body" (some "body") 2 5 []]

/-- Bytes that complete both characters do not change the name of the class. -/
theorem outlineType_cutClass_relocates :
    cutClass.Within cutBytes.length ∧
      Text.decode ([0xE2] ++ cutBytes ++ [0x82, 0xAC]) = "€\x7b\x7d€" ∧
      (outlineType ([0xE2] ++ cutBytes ++ [0x82, 0xAC]) (.file ⟨"A.java", ""⟩)
            (cutClass.shifted 1)).outcome =
        (outlineType ([] ++ cutBytes ++ []) (.file ⟨"A.java", ""⟩)
            (cutClass.shifted 0)).outcome ∧
      (outlineType ([] ++ cutBytes ++ []) (.file ⟨"A.java", ""⟩)
            (cutClass.shifted 0)).outcome.map (Option.map ClassDecl.name) =
        .ok (some (.topLevel ⟨"A.java", ""⟩ "\uFFFD\uFFFD")) := by
  have within : cutClass.Within cutBytes.length := by
    decide +kernel
  exact ⟨within, by decide +kernel,
    outlineType_relocates within [0xE2] [0x82, 0xAC] [] [] (.file ⟨"A.java", ""⟩),
    by decide +kernel⟩

end CutCharacters

end JavaOutline
