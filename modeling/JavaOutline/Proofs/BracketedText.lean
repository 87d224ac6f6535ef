import Mathlib.Data.List.Infix

namespace JavaOutline

/-!
# Texts with brackets

Type arguments are written between `<` and `>` and divided by commas. A text
whose commas all stand inside brackets can be put into a list divided by commas
and taken out again: the first comma outside of brackets ends it.
-/

/-- Brackets are closed after they are opened, and all of them are. -/
structure Balanced (text : List Char) : Prop where
  opened : ∀ before after, text = before ++ after → before.count '>' ≤ before.count '<'
  closed : text.count '>' = text.count '<'

/-- Brackets are balanced, and commas stand inside brackets only. -/
structure Bracketed (text : List Char) : Prop extends Balanced text where
  commas :
    ∀ before after, text = before ++ ',' :: after → before.count '>' < before.count '<'

namespace Balanced

theorem of_plain
    {text : List Char}
    (noOpening : '<' ∉ text)
    (noClosing : '>' ∉ text) :
    Balanced text := by
  constructor
  · rintro before after rfl
    have unclosed : '>' ∉ before := fun inBefore => noClosing (List.mem_append_left _ inBefore)
    rw [List.count_eq_zero.mpr unclosed]
    exact Nat.zero_le _
  · rw [List.count_eq_zero.mpr noClosing, List.count_eq_zero.mpr noOpening]

theorem append
    {first second : List Char}
    (firstBalanced : Balanced first)
    (secondBalanced : Balanced second) :
    Balanced (first ++ second) := by
  constructor
  · intro before after same
    rcases List.append_eq_append_iff.mp same with ⟨rest, isBefore, isSecond⟩ | ⟨rest, isFirst, -⟩
    · have inSecond := secondBalanced.opened rest after isSecond
      rw [isBefore, List.count_append, List.count_append, firstBalanced.closed]
      omega
    · exact firstBalanced.opened before rest isFirst
  · rw [List.count_append, List.count_append, firstBalanced.closed, secondBalanced.closed]

/-- Dividing balanced texts by commas keeps the balance. -/
theorem intercalate
    {parts : List (List Char)}
    (balanced : ∀ part ∈ parts, Balanced part) :
    Balanced ([','].intercalate parts) := by
  induction parts with
  | nil =>
      rw [List.intercalate_nil]
      exact of_plain List.not_mem_nil List.not_mem_nil
  | cons part rest inductionHypothesis =>
      have comma : Balanced [','] := of_plain (by decide) (by decide)
      have first := balanced part List.mem_cons_self
      have others := inductionHypothesis fun other inRest =>
        balanced other (List.mem_cons_of_mem part inRest)
      cases rest with
      | nil =>
          rwa [List.intercalate_singleton]
      | cons next later =>
          rw [List.intercalate_cons_cons]
          exact (first.append comma).append others

end Balanced

namespace Bracketed

theorem append
    {first second : List Char}
    (firstBracketed : Bracketed first)
    (secondBracketed : Bracketed second) :
    Bracketed (first ++ second) where
  toBalanced := firstBracketed.toBalanced.append secondBracketed.toBalanced
  commas before after same := by
    rcases List.append_eq_append_iff.mp same with
        ⟨rest, isBefore, isSecond⟩ | ⟨rest, isFirst, isRest⟩
    · have inSecond := secondBracketed.commas rest after isSecond
      rw [isBefore, List.count_append, List.count_append, firstBracketed.closed]
      omega
    · cases rest with
      | nil =>
          -- the comma would be the first character of the second text
          exact absurd (secondBracketed.commas [] after isRest.symm) (Nat.lt_irrefl 0)
      | cons character others =>
          obtain ⟨rfl, -⟩ := List.cons_eq_cons.mp isRest
          exact firstBracketed.commas before others isFirst

/-- Inside a pair of brackets commas may stand anywhere. -/
theorem of_enclosed
    {text : List Char}
    (balanced : Balanced text) :
    Bracketed ('<' :: text ++ ['>']) where
  opened before after same := by
    cases before with
    | nil =>
        exact Nat.le_refl 0
    | cons first inside =>
        obtain ⟨rfl, sameInside⟩ := List.cons_eq_cons.mp same
        rcases List.append_eq_append_iff.mp sameInside with
            ⟨rest, isInside, isClosing⟩ | ⟨rest, isText, -⟩
        · have atMostOne : rest.count '>' ≤ 1 := by
            have lengths := congrArg List.length isClosing
            have bound : rest.count '>' ≤ rest.length := List.count_le_length
            simp only [List.length_append, List.length_singleton] at lengths
            omega
          rw [List.count_cons_of_ne (by decide), List.count_cons_self, isInside,
            List.count_append, List.count_append, balanced.closed]
          omega
        · have inText := balanced.opened inside rest isText
          rw [List.count_cons_of_ne (by decide), List.count_cons_self]
          omega
  closed := by
    simp [balanced.closed]
  commas before after same := by
    cases before with
    | nil =>
        exact absurd (List.cons_eq_cons.mp same).1 (by decide)
    | cons first inside =>
        obtain ⟨rfl, sameInside⟩ := List.cons_eq_cons.mp same
        rcases List.append_eq_append_iff.mp sameInside with
            ⟨rest, -, isClosing⟩ | ⟨rest, isText, -⟩
        · have noComma : ',' ∉ ['>'] := by decide
          exact (noComma (by simp [isClosing])).elim
        · have inText := balanced.opened inside rest isText
          rw [List.count_cons_of_ne (by decide), List.count_cons_self]
          omega

end Bracketed

/-- Whether a text is bracketed can be read off its beginnings. -/
theorem bracketed_iff
    {text : List Char} :
    Bracketed text ↔
      (∀ before ∈ text.inits, before.count '>' ≤ before.count '<') ∧
        text.count '>' = text.count '<' ∧
        ∀ before ∈ text.inits,
          before ++ [','] <+: text → before.count '>' < before.count '<' := by
  constructor
  · intro bracketed
    refine ⟨?_, bracketed.closed, ?_⟩
    · intro before present
      obtain ⟨after, same⟩ := (List.mem_inits _ _).mp present
      exact bracketed.opened before after same.symm
    · rintro before - ⟨after, same⟩
      exact bracketed.commas before after (by rw [← same, List.append_assoc]; rfl)
  · rintro ⟨opened, closed, commas⟩
    refine ⟨⟨?_, closed⟩, ?_⟩
    · intro before after same
      exact opened before ((List.mem_inits _ _).mpr ⟨after, same.symm⟩)
    · intro before after same
      refine commas before ((List.mem_inits _ _).mpr ⟨',' :: after, same.symm⟩) ⟨after, ?_⟩
      rw [same, List.append_assoc]
      rfl

instance (text : List Char) : Decidable (Bracketed text) :=
  decidable_of_iff _ bracketed_iff.symm

section Lists

/--
A text ends at a separator, and so does another one, and what follows agrees:
then the texts agree, unless one of them goes on beyond the separator that ends
the other.
-/
theorem append_separator_inj
    {Item : Type}
    {separator : Item}
    {first second firstRest secondRest : List Item}
    (firstEnds : ∀ after, first ≠ second ++ separator :: after)
    (secondEnds : ∀ after, second ≠ first ++ separator :: after)
    (same : first ++ separator :: firstRest = second ++ separator :: secondRest) :
    first = second ∧ firstRest = secondRest := by
  rcases List.append_eq_append_iff.mp same with
      ⟨rest, isSecond, isRest⟩ | ⟨rest, isFirst, isRest⟩
  · cases rest with
    | nil =>
        rw [List.append_nil] at isSecond
        exact ⟨isSecond.symm, (List.cons_eq_cons.mp isRest).2⟩
    | cons item others =>
        obtain ⟨rfl, -⟩ := List.cons_eq_cons.mp isRest
        exact (secondEnds others isSecond).elim
  · cases rest with
    | nil =>
        rw [List.append_nil] at isFirst
        exact ⟨isFirst, (List.cons_eq_cons.mp isRest).2.symm⟩
    | cons item others =>
        obtain ⟨rfl, -⟩ := List.cons_eq_cons.mp isRest
        exact (firstEnds others isFirst).elim

theorem ne_append_of_not_mem
    {Item : Type}
    {separator : Item}
    {text : List Item}
    (free : separator ∉ text)
    (before after : List Item) :
    text ≠ before ++ separator :: after := by
  rintro rfl
  exact free (by simp)

theorem Bracketed.of_plain
    {text : List Char}
    (noOpening : '<' ∉ text)
    (noClosing : '>' ∉ text)
    (noComma : ',' ∉ text) :
    Bracketed text where
  toBalanced := .of_plain noOpening noClosing
  commas before after same := (ne_append_of_not_mem noComma before after same).elim

/-- A bracketed text does not go on beyond a comma that ends a balanced one. -/
theorem Bracketed.ne_append_comma
    {text before : List Char}
    (bracketed : Bracketed text)
    (balanced : Balanced before)
    (after : List Char) :
    text ≠ before ++ ',' :: after := by
  intro same
  have inside := bracketed.commas before after same
  rw [balanced.closed] at inside
  exact Nat.lt_irrefl _ inside

/-- Bracketed texts that each end in a comma can be told apart. -/
theorem terminated_inj
    {first second : List (List Char)}
    (firstBracketed : ∀ text ∈ first, Bracketed text)
    (secondBracketed : ∀ text ∈ second, Bracketed text)
    (same :
      first.flatMap (fun text => text ++ [',']) = second.flatMap (fun text => text ++ [','])) :
    first = second := by
  induction first generalizing second with
  | nil =>
      cases second with
      | nil =>
          rfl
      | cons text rest =>
          simp at same
  | cons text rest inductionHypothesis =>
      cases second with
      | nil =>
          simp at same
      | cons otherText otherRest =>
          have bracketed := firstBracketed text List.mem_cons_self
          have otherBracketed := secondBracketed otherText List.mem_cons_self
          rw [List.flatMap_cons, List.flatMap_cons, List.append_assoc, List.append_assoc] at same
          obtain ⟨sameText, sameRest⟩ := append_separator_inj
            (bracketed.ne_append_comma otherBracketed.toBalanced)
            (otherBracketed.ne_append_comma bracketed.toBalanced) same
          rw [sameText, inductionHypothesis
            (fun other inRest => firstBracketed other (List.mem_cons_of_mem _ inRest))
            (fun other inRest => secondBracketed other (List.mem_cons_of_mem _ inRest))
            sameRest]

theorem intercalate_append_separator
    {Item : Type}
    (separator : Item)
    {parts : List (List Item)}
    (notEmpty : parts ≠ []) :
    [separator].intercalate parts ++ [separator] =
      parts.flatMap (fun part => part ++ [separator]) := by
  induction parts with
  | nil =>
      exact (notEmpty rfl).elim
  | cons part rest inductionHypothesis =>
      cases rest with
      | nil =>
          simp
      | cons next later =>
          rw [List.intercalate_cons_cons, List.append_assoc,
            inductionHypothesis (List.cons_ne_nil next later)]
          rfl

/-- A joined text has the characters of its parts and the separator. -/
theorem not_mem_intercalate
    {Item : Type}
    {separator item : Item}
    {parts : List (List Item)}
    (different : item ≠ separator)
    (absent : ∀ part ∈ parts, item ∉ part) :
    item ∉ [separator].intercalate parts := by
  by_cases empty : parts = []
  · rw [empty, List.intercalate_nil]
    exact List.not_mem_nil
  · intro present
    have inTerminated : item ∈ parts.flatMap (fun part => part ++ [separator]) := by
      rw [← intercalate_append_separator separator empty]
      exact List.mem_append_left _ present
    obtain ⟨part, inParts, inPart⟩ := List.mem_flatMap.mp inTerminated
    rcases List.mem_append.mp inPart with inText | isSeparator
    · exact absent part inParts inText
    · exact different (List.mem_singleton.mp isSeparator)

theorem intercalate_ne_nil
    {parts : List (List Char)}
    (notBlank : ∀ part ∈ parts, part ≠ [])
    (notEmpty : parts ≠ []) :
    [','].intercalate parts ≠ [] := by
  cases parts with
  | nil =>
      exact (notEmpty rfl).elim
  | cons part rest =>
      have first := notBlank part List.mem_cons_self
      cases rest with
      | nil =>
          rwa [List.intercalate_singleton]
      | cons next later =>
          rw [List.intercalate_cons_cons]
          simp [first]

/-- A list of bracketed texts that are not empty is read back from its joined form. -/
theorem intercalate_inj
    {first second : List (List Char)}
    (firstBracketed : ∀ text ∈ first, Bracketed text)
    (secondBracketed : ∀ text ∈ second, Bracketed text)
    (firstNotBlank : ∀ text ∈ first, text ≠ [])
    (secondNotBlank : ∀ text ∈ second, text ≠ [])
    (same : [','].intercalate first = [','].intercalate second) :
    first = second := by
  by_cases firstEmpty : first = []
  · by_contra different
    have secondNotEmpty : second ≠ [] := by
      rintro rfl
      exact different firstEmpty
    rw [firstEmpty, List.intercalate_nil] at same
    exact intercalate_ne_nil secondNotBlank secondNotEmpty same.symm
  · have secondNotEmpty : second ≠ [] := by
      rintro rfl
      rw [List.intercalate_nil] at same
      exact intercalate_ne_nil firstNotBlank firstEmpty same
    have terminated := congrArg (fun text => text ++ [',']) same
    simp only [intercalate_append_separator ',' firstEmpty,
      intercalate_append_separator ',' secondNotEmpty] at terminated
    exact terminated_inj firstBracketed secondBracketed terminated

end Lists

end JavaOutline
