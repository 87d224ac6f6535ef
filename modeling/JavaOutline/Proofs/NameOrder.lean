import JavaOutline.File.Sorting

namespace JavaOutline

/-!
# The order of names

Names come in the lexicographic order of texts. Sorting keeps the items and
puts them in this order, so items with distinct names end up in one order,
whichever they came in.
-/

theorem charsBefore_iff_lt (first second : List Char) :
    charsBefore first second = true ↔ first < second := by
  fun_induction charsBefore first second with
  | case1 first =>
      simp
  | case2 character rest =>
      simp
  | case3 firstRest character secondRest inductionHypothesis =>
      simp [inductionHypothesis]
  | case4 first firstRest second secondRest different =>
      have less : first.toNat < second.toNat ↔ first < second := Iff.rfl
      simp [less, List.cons_lt_cons_iff, different]

theorem nameBefore_iff_lt {first second : String} :
    nameBefore first second = true ↔ first < second :=
  charsBefore_iff_lt first.toList second.toList

/-- Of two different names, one comes before the other. -/
theorem lt_of_not_nameBefore
    {first second : String}
    (notBefore : ¬nameBefore first second = true)
    (different : second ≠ first) :
    second < first := by
  have notLess : ¬first < second := fun less => notBefore (nameBefore_iff_lt.mpr less)
  by_cases less : second < first
  · exact less
  · exact (different (String.le_antisymm (String.not_lt.mp notLess) (String.not_lt.mp less))).elim

variable {Item : Type} {nameOf : Item → String}

theorem insertBy_perm (item : Item) (items : List Item) :
    (insertBy nameOf item items).Perm (item :: items) := by
  induction items with
  | nil =>
      exact .refl _
  | cons first rest inductionHypothesis =>
      rw [insertBy]
      split
      · exact (inductionHypothesis.cons first).trans (.swap item first rest)
      · exact .refl _

theorem sortBy_perm (items : List Item) :
    (sortBy nameOf items).Perm items := by
  induction items with
  | nil =>
      exact .refl _
  | cons item rest inductionHypothesis =>
      exact (insertBy_perm item _).trans (inductionHypothesis.cons item)

/-- An item with a new name finds its place among items in order. -/
theorem insertBy_pairwise
    {item : Item}
    {items : List Item}
    (sorted : items.Pairwise (fun first second => nameOf first < nameOf second))
    (fresh : ∀ other ∈ items, nameOf item ≠ nameOf other) :
    (insertBy nameOf item items).Pairwise
      (fun first second => nameOf first < nameOf second) := by
  induction items with
  | nil =>
      exact List.pairwise_singleton _ item
  | cons first rest inductionHypothesis =>
      obtain ⟨firstLeast, restSorted⟩ := List.pairwise_cons.mp sorted
      rw [insertBy]
      split
      case isTrue before =>
        have inserted :=
          inductionHypothesis restSorted (fun other present => fresh other (.tail first present))
        refine List.pairwise_cons.mpr ⟨fun other present => ?_, inserted⟩
        rcases List.mem_cons.mp ((insertBy_perm item rest).mem_iff.mp present) with rfl | inRest
        · exact nameBefore_iff_lt.mp before
        · exact firstLeast other inRest
      case isFalse notBefore =>
        have less : nameOf item < nameOf first :=
          lt_of_not_nameBefore notBefore (fresh first (.head rest))
        refine List.pairwise_cons.mpr ⟨fun other present => ?_, sorted⟩
        rcases List.mem_cons.mp present with rfl | inRest
        · exact less
        · exact String.lt_trans less (firstLeast other inRest)

theorem sortBy_pairwise
    {items : List Item}
    (distinct : (items.map nameOf).Nodup) :
    (sortBy nameOf items).Pairwise (fun first second => nameOf first < nameOf second) := by
  induction items with
  | nil =>
      exact .nil
  | cons item rest inductionHypothesis =>
      obtain ⟨fresh, restDistinct⟩ := List.nodup_cons.mp distinct
      refine insertBy_pairwise (inductionHypothesis restDistinct) fun other present same => ?_
      have inRest : other ∈ rest := (sortBy_perm rest).mem_iff.mp present
      exact fresh (List.mem_map.mpr ⟨other, inRest, same.symm⟩)

end JavaOutline
