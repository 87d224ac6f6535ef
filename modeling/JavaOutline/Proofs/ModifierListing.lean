import Mathlib.Data.Finset.Basic
import Mathlib.Data.List.Sort
import JavaOutline.Outline.Unit
import JavaOutline.Proofs.TreePosition

namespace JavaOutline

/-!
# The listing of modifiers

A declaration lists its modifiers in a fixed order, however they are written.
The listing is settled by the set of keywords that it recognises: two
declarations list the same modifiers exactly if they are written with the same
recognised keywords, in whatever order, number and company.
-/

/-- The modifiers that are listed, in their order, each with its keyword. -/
def listedModifierWords : List (String × String) :=
  [("public", "public"), ("private", "private"), ("protected", "protected"),
    ("static", "static"), ("final", "final"), ("abstract", "abstract"),
    ("strict", "strictfp")]

/-- The order in which modifiers are listed. -/
def listingOrder : List String :=
  listedModifierWords.map Prod.fst

/-- The keywords that stand for a modifier. -/
def modifierKeywords : List String :=
  listedModifierWords.map Prod.snd

/-- One modifier is listed before another. -/
def ListedBefore (first second : String) : Prop :=
  listingOrder.idxOf first < listingOrder.idxOf second

instance : Std.Irrefl ListedBefore where
  irrefl _ := Nat.lt_irrefl _

instance : Std.Antisymm ListedBefore where
  antisymm _ _ before after := absurd before (Nat.lt_asymm after)

namespace Node

/-- The modifiers that a declaration is listed with. -/
def modifierListing (node : Node) : List String :=
  (declaredModifiers node).names

/-- The kinds of the nodes, named or not, in the first named node for modifiers. -/
def writtenKinds (node : Node) : List String :=
  match node.namedChildren.find? (fun child => child.kind == "modifiers") with
  | some modifiers => modifiers.children.map kind
  | none => []

/-- The keywords written on a declaration that stand for a modifier. -/
def recognisedKeywords (node : Node) : Finset String :=
  node.writtenKinds.toFinset ∩ modifierKeywords.toFinset

end Node

/-- One modifier is not listed after another. -/
def listedNoLater (first second : String) : Bool :=
  listingOrder.idxOf first ≤ listingOrder.idxOf second

/-- The members of two listings in one, in the order of listing. -/
def sortedUnion (first second : List String) : List String :=
  (first ∪ second).mergeSort listedNoLater

namespace Modifier

/-- Keywords and modifiers determine each other. -/
theorem ofKeyword?_eq_some_iff
    {keyword : String}
    {modifier : Modifier} :
    ofKeyword? keyword = some modifier ↔ keyword = modifier.keyword := by
  constructor
  · intro found
    have matching := List.find?_some found
    exact (beq_iff_eq.mp matching).symm
  · rintro rfl
    cases modifier <;> rfl

/-- The words that are listed are those of the modifiers. -/
theorem mem_listedModifierWords_iff
    {name keyword : String} :
    (name, keyword) ∈ listedModifierWords ↔
      ∃ modifier : Modifier, modifier.name = name ∧ modifier.keyword = keyword := by
  have words : listedModifierWords = all.map fun modifier => (modifier.name, modifier.keyword) :=
    rfl
  simp [words, mem_all]

theorem idxOf_name (modifier : Modifier) :
    listingOrder.idxOf modifier.name = modifier.rank := by
  cases modifier <;> rfl

theorem name_inj
    {first second : Modifier}
    (same : first.name = second.name) :
    first = second := by
  cases first <;> cases second <;> simp_all [name]

end Modifier

section Listing

variable {node : Node}

/-- The modifiers of a declaration are those whose keywords are written on it. -/
theorem mem_declaredModifiers_iff
    {modifier : Modifier} :
    modifier ∈ (declaredModifiers node).toList ↔ modifier.keyword ∈ node.writtenKinds := by
  have sameNode :
      node.childOfKind? ["modifiers"] =
        node.namedChildren.find? (fun child => child.kind == "modifiers") := by
    rw [Node.childOfKind?, Node.namedChildren, List.find?_filter]
    simp [NodeInfo.isNamedOneOf, Node.kind]
  rw [declaredModifiers, sameNode, Node.writtenKinds]
  cases node.namedChildren.find? (fun child => child.kind == "modifiers") with
  | none =>
      simp [listedModifiers, ModifierSet.empty]
  | some modifiers =>
      simp only [listedModifiers, keywordModifiers, ModifierSet.mem_ofList, List.mem_filterMap,
        List.mem_map, Modifier.ofKeyword?_eq_some_iff]

theorem mem_modifierListing_iff
    {name : String} :
    name ∈ node.modifierListing ↔
      ∃ modifier : Modifier, modifier.name = name ∧ modifier.keyword ∈ node.writtenKinds := by
  simp only [Node.modifierListing, ModifierSet.names, List.mem_map, mem_declaredModifiers_iff,
    and_comm]

/-- A modifier is listed exactly if its keyword is written. -/
theorem mem_modifierListing_of_words
    {name keyword : String}
    (words : (name, keyword) ∈ listedModifierWords) :
    name ∈ node.modifierListing ↔ keyword ∈ node.writtenKinds := by
  obtain ⟨modifier, rfl, rfl⟩ := Modifier.mem_listedModifierWords_iff.mp words
  rw [mem_modifierListing_iff]
  constructor
  · rintro ⟨other, sameName, written⟩
    rw [← Modifier.name_inj sameName]
    exact written
  · intro written
    exact ⟨modifier, rfl, written⟩

theorem modifierListing_increasing (node : Node) :
    node.modifierListing.Pairwise ListedBefore := by
  rw [Node.modifierListing, ModifierSet.names, List.pairwise_map]
  simpa only [ListedBefore, Modifier.idxOf_name] using (declaredModifiers node).increasing

theorem mem_listingOrder_of_listed
    {name : String}
    (listed : name ∈ node.modifierListing) :
    name ∈ listingOrder := by
  obtain ⟨modifier, rfl, -⟩ := mem_modifierListing_iff.mp listed
  cases modifier <;> decide

/-- Listings with the same members are the same list. -/
theorem modifierListing_eq_iff
    {other : Node} :
    node.modifierListing = other.modifierListing ↔
      ∀ keyword ∈ modifierKeywords,
        keyword ∈ node.writtenKinds ↔ keyword ∈ other.writtenKinds := by
  constructor
  · intro same keyword recognised
    obtain ⟨⟨name, _⟩, words, rfl⟩ := List.mem_map.mp recognised
    rw [← mem_modifierListing_of_words words, ← mem_modifierListing_of_words words, same]
  · intro sameKeywords
    refine (modifierListing_increasing node).eq_of_mem_iff (modifierListing_increasing other) ?_
    intro name
    simp only [mem_modifierListing_iff]
    refine exists_congr fun modifier => and_congr_right fun _ => sameKeywords _ ?_
    exact List.mem_map.mpr
      ⟨_, Modifier.mem_listedModifierWords_iff.mpr ⟨modifier, rfl, rfl⟩, rfl⟩

theorem recognisedKeywords_eq_iff
    {other : Node} :
    node.recognisedKeywords = other.recognisedKeywords ↔
      ∀ keyword ∈ modifierKeywords,
        keyword ∈ node.writtenKinds ↔ keyword ∈ other.writtenKinds := by
  simp only [Finset.ext_iff, Node.recognisedKeywords, Finset.mem_inter, List.mem_toFinset]
  refine forall_congr' fun keyword => ?_
  constructor
  · intro same recognised
    simpa [recognised] using same
  · intro same
    exact and_congr_left same

/-- A listing whose members are those of two others is their sorted union. -/
theorem eq_sortedUnion
    {first second : Node}
    (members : ∀ name,
      name ∈ node.modifierListing ↔
        name ∈ first.modifierListing ∨ name ∈ second.modifierListing) :
    node.modifierListing = sortedUnion first.modifierListing second.modifierListing := by
  have increasing := modifierListing_increasing node
  have sorted :
      (sortedUnion first.modifierListing second.modifierListing).Pairwise
        fun left right => listedNoLater left right = true := by
    refine List.pairwise_mergeSort ?_ ?_ _
    · simp only [listedNoLater, decide_eq_true_eq]
      exact fun _ _ _ => Nat.le_trans
    · simp only [listedNoLater, Bool.or_eq_true, decide_eq_true_eq]
      exact fun _ _ => Nat.le_total _ _
  have sameMembers :
      node.modifierListing.Perm (first.modifierListing ∪ second.modifierListing) := by
    refine (List.perm_ext_iff_of_nodup increasing.nodup ?_).mpr ?_
    · exact (modifierListing_increasing second).nodup.union _
    · intro name
      rw [members, List.mem_union_iff]
  refine List.Perm.eq_of_pairwise ?_ (increasing.imp ?_) sorted
    (sameMembers.trans (List.mergeSort_perm _ _).symm)
  · intro left right inListing _ notAfter notBefore
    have known := mem_listingOrder_of_listed inListing
    exact (List.idxOf_inj known).mp
      (Nat.le_antisymm (of_decide_eq_true notAfter) (of_decide_eq_true notBefore))
  · intro left right before
    exact decide_eq_true (Nat.le_of_lt before)

/-- A keyword that is there already, or one that stands for no modifier, adds nothing. -/
theorem modifierListing_of_superfluous
    {other : Node}
    {front back : List String}
    {kind : String}
    (without : node.writtenKinds = front ++ back)
    (inserted : other.writtenKinds = front ++ kind :: back)
    (superfluous : kind ∈ node.writtenKinds ∨ kind ∉ modifierKeywords) :
    other.modifierListing = node.modifierListing := by
  refine modifierListing_eq_iff.mpr ?_
  intro keyword recognised
  rw [inserted, without, List.mem_append, List.mem_cons, List.mem_append]
  constructor
  · rintro (before | isKind | after)
    · exact .inl before
    · subst isKind
      rcases superfluous with there | unknown
      · rw [without] at there
        exact List.mem_append.mp there
      · contradiction
    · exact .inr after
  · rintro (before | after)
    · exact .inl before
    · exact .inr (.inr after)

end Listing

/-- The listing of a declaration is a canonical form of the keywords written on it. -/
structure CanonicalListing (node : Node) : Prop where
  increasing : node.modifierListing.Pairwise ListedBefore
  nodup : node.modifierListing.Nodup
  known : ∀ name ∈ node.modifierListing, name ∈ listingOrder
  written :
    ∀ name keyword,
      (name, keyword) ∈ listedModifierWords →
      (name ∈ node.modifierListing ↔ keyword ∈ node.writtenKinds)
  settled :
    ∀ other : Node,
      node.modifierListing = other.modifierListing ↔
        node.recognisedKeywords = other.recognisedKeywords
  permuted :
    ∀ other : Node,
      node.writtenKinds.Perm other.writtenKinds →
      other.modifierListing = node.modifierListing
  /-- A keyword that is there already, or one that stands for no modifier, adds nothing. -/
  inserted :
    ∀ (other : Node) (front back : List String) (kind : String),
      node.writtenKinds = front ++ back →
      other.writtenKinds = front ++ kind :: back →
      kind ∈ node.writtenKinds ∨ kind ∉ modifierKeywords →
      other.modifierListing = node.modifierListing
  joined :
    ∀ first second : Node,
      node.writtenKinds = first.writtenKinds ++ second.writtenKinds →
      node.modifierListing = sortedUnion first.modifierListing second.modifierListing

/-- The modifiers of every declaration are listed in canonical form. -/
theorem modifierListing_is_canonical (node : Node) :
    CanonicalListing node := by
  have increasing := modifierListing_increasing node
  refine {
    increasing := increasing
    nodup := increasing.nodup
    known := fun _ listed => mem_listingOrder_of_listed listed
    written := fun _ _ words => mem_modifierListing_of_words words
    settled := fun _ => modifierListing_eq_iff.trans recognisedKeywords_eq_iff.symm
    permuted := ?_
    inserted := fun _ _ _ _ => modifierListing_of_superfluous
    joined := ?_
  }
  · intro other permutation
    exact modifierListing_eq_iff.mpr fun _ _ => permutation.mem_iff.symm
  · intro first second joined
    refine eq_sortedUnion ?_
    intro name
    simp only [mem_modifierListing_iff, joined, List.mem_append, and_or_left, exists_or]

-- only the first node for modifiers counts, and in it the keywords alone
example :
    (spanNode "class_declaration" none 0 40 [
      spanNode "modifiers" none 0 30 [
        spanNode "strictfp" none 0 8 [],
        spanNode "final" none 9 14 [],
        spanNode "marker_annotation" none 15 17 [],
        spanNode "public" none 18 24 [],
        spanNode "final" none 25 30 []],
      spanNode "modifiers" none 31 37 [
        spanNode "static" none 31 37 []]]).modifierListing =
      ["public", "final", "strict"] := by
  decide

end JavaOutline
