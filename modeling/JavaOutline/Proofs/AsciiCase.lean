import JavaOutline.Text.CodePoint
import JavaOutline.Text.Lowercase

namespace JavaOutline.Text

/-!
# Lower case and the letters from A to Z

The full lower-case form of a text looks at its neighbours and at tables for
all scripts. Of the letters from A to Z it loses their case and nothing else:
texts that differ only in the case of such letters have one lower-case form,
and no lower-case form has one of these letters in upper case.
-/

/-- A character is a letter from A to Z, or it is its own plain lower case. -/
theorem toLower_cases (character : Char) :
    (0x41 ≤ character.toNat ∧ character.toNat ≤ 0x5A ∧
        character.toLower.toNat = character.toNat + 0x20) ∨
      character.toLower = character := by
  unfold Char.toLower
  split
  · rename_i upper
    have low : 0x41 ≤ character.toNat := upper.1
    have high : character.toNat ≤ 0x5A := upper.2
    refine .inl ⟨low, high, ?_⟩
    have noWrap : (character.val + 32).toNat = character.val.toNat + 32 := by
      rw [UInt32.toNat_add]
      exact Nat.mod_eq_of_lt (Nat.lt_of_le_of_lt (Nat.add_le_add_right high 32) (by decide))
    exact noWrap
  · exact .inr rfl

theorem isUpper_iff
    {character : Char} :
    character.isUpper = true ↔ 0x41 ≤ character.toNat ∧ character.toNat ≤ 0x5A :=
  decide_eq_true_iff

theorem isLower_iff
    {character : Char} :
    character.isLower = true ↔ 0x61 ≤ character.toNat ∧ character.toNat ≤ 0x7A :=
  Bool.and_eq_true_iff.trans (and_congr decide_eq_true_iff decide_eq_true_iff)

/-- What is no letter from A to Z is the plain lower case of itself alone. -/
theorem toLower_eq_iff
    {character other : Char}
    (noLetter : other.isAlpha = false) :
    character.toLower = other ↔ character = other := by
  obtain ⟨notCapital, notSmall⟩ := Bool.or_eq_false_iff.mp noLetter
  rw [← Bool.not_eq_true, isUpper_iff] at notCapital
  rw [← Bool.not_eq_true, isLower_iff] at notSmall
  rcases toLower_cases character with ⟨low, high, lowered⟩ | same
  · constructor
    · rintro rfl
      omega
    · rintro rfl
      omega
  · rw [same]

section Tables

variable {character : Char}

/-- No small letter from a to z begins or lies in a run of upper-case letters. -/
theorem lower?_of_small
    (low : 0x61 ≤ character.toNat)
    (high : character.toNat ≤ 0x7A) :
    caseRuns.findSome? (fun run => run.lower? character.toNat) = none := by
  have apart : ∀ run ∈ caseRuns, run.last < 0x61 ∨ 0x7A < run.first := by
    decide +kernel
  rw [List.findSome?_eq_none_iff]
  intro run isRun
  have outside : ¬ (run.first ≤ character.toNat ∧ character.toNat ≤ run.last) := by
    have bounds := apart run isRun
    omega
  simp [CaseRun.lower?, outside]

/-- The letters from A to Z are the first run. -/
theorem lower?_of_capital
    (low : 0x41 ≤ character.toNat)
    (high : character.toNat ≤ 0x5A) :
    caseRuns.findSome? (fun run => run.lower? character.toNat) =
      some (character.toNat + 0x20) := by
  have firstRun : caseRuns = ⟨0x41, 0x5A, 1, 0x61⟩ :: caseRuns.tail := rfl
  have hit :
      CaseRun.lower? ⟨0x41, 0x5A, 1, 0x61⟩ character.toNat = some (character.toNat + 0x20) := by
    have distance : 0x61 + (character.toNat - 0x41) = character.toNat + 0x20 := by
      omega
    simp [CaseRun.lower?, low, high, distance, Nat.mod_one]
  rw [firstRun, List.findSome?_cons, hit]

theorem holds_of_mem
    {table : CodeRanges}
    {first last : Nat}
    (listed : (first, last) ∈ table)
    (low : first ≤ character.toNat)
    (high : character.toNat ≤ last) :
    table.holds character = true := by
  refine List.any_eq_true.mpr ⟨(first, last), listed, ?_⟩
  simp [low, high]

/-- Letters have case, be they capital or small. -/
theorem cased_toLower (character : Char) :
    cased.holds character.toLower = cased.holds character := by
  rcases toLower_cases character with ⟨low, high, lowered⟩ | same
  · have capitals : (0x41, 0x5A) ∈ cased := by
      decide +kernel
    have smalls : (0x61, 0x7A) ∈ cased := by
      decide +kernel
    rw [holds_of_mem capitals low high, holds_of_mem smalls (by omega) (by omega)]
  · rw [same]

/-- No letter from A to Z is passed over, be it capital or small. -/
theorem caseIgnorable_toLower (character : Char) :
    caseIgnorable.holds character.toLower = caseIgnorable.holds character := by
  have apart : ∀ range ∈ caseIgnorable,
      (range.2 < 0x41 ∨ 0x5A < range.1) ∧ (range.2 < 0x61 ∨ 0x7A < range.1) := by
    decide +kernel
  rcases toLower_cases character with ⟨low, high, lowered⟩ | same
  · have capital : caseIgnorable.holds character = false := by
      refine List.any_eq_false.mpr fun range listed => ?_
      have bounds := (apart range listed).1
      simp only [Bool.and_eq_true, decide_eq_true_eq]
      omega
    have small : caseIgnorable.holds character.toLower = false := by
      refine List.any_eq_false.mpr fun range listed => ?_
      have bounds := (apart range listed).2
      simp only [Bool.and_eq_true, decide_eq_true_eq, lowered]
      omega
    rw [capital, small]
  · rw [same]

/-- A letter and its small form have one lower case. -/
theorem lowerChar_toLower (character : Char) :
    lowerChar character.toLower = lowerChar character := by
  rcases toLower_cases character with ⟨low, high, lowered⟩ | same
  · have notDotted : character ≠ 'İ' := by
      rintro rfl
      exact absurd high (by decide)
    have smallNotDotted : character.toLower ≠ 'İ' := by
      intro dotted
      have code : character.toLower.toNat = 0x130 := congrArg Char.toNat dotted
      omega
    have sameChar : Char.ofNat (character.toNat + 0x20) = character.toLower := by
      rw [← lowered, Char.ofNat_toNat]
    rw [lowerChar, if_neg smallNotDotted, lower?_of_small (by omega) (by omega),
      lowerChar, if_neg notDotted, lower?_of_capital low high]
    exact congrArg (fun small => [small]) sameChar.symm
  · rw [same]

end Tables

theorem nearestIsCased_map_toLower (characters : List Char) :
    nearestIsCased (characters.map Char.toLower) = nearestIsCased characters := by
  induction characters with
  | nil =>
      rfl
  | cons character rest inductionHypothesis =>
      simp only [nearestIsCased, List.map_cons, List.dropWhile_cons,
        caseIgnorable_toLower] at inductionHypothesis ⊢
      by_cases ignored : caseIgnorable.holds character = true
      · rw [if_pos ignored, if_pos ignored]
        exact inductionHypothesis
      · rw [if_neg ignored, if_neg ignored]
        exact cased_toLower character

theorem endsWord_map_toLower (before after : List Char) :
    endsWord (before.map Char.toLower) (after.map Char.toLower) = endsWord before after := by
  simp only [endsWord, nearestIsCased_map_toLower]

/-- Lower case forgets the case of letters, whatever stands before and after them. -/
theorem lowercaseFrom_map_toLower (before characters : List Char) :
    lowercaseFrom (before.map Char.toLower) (characters.map Char.toLower) =
      lowercaseFrom before characters := by
  induction characters generalizing before with
  | nil =>
      rfl
  | cons character rest inductionHypothesis =>
      have later := inductionHypothesis (character :: before)
      rw [List.map_cons] at later
      rw [List.map_cons, lowercaseFrom, lowercaseFrom, later, endsWord_map_toLower,
        lowerChar_toLower]
      have sigma : character.toLower = 'Σ' ↔ character = 'Σ' := toLower_eq_iff (by decide)
      simp only [sigma]

/-- Texts that differ only in the case of letters from A to Z have one lower-case form. -/
theorem lowercaseChars_eq_of_toLower
    {first second : List Char}
    (same : first.map Char.toLower = second.map Char.toLower) :
    lowercaseChars first = lowercaseChars second := by
  have forget := lowercaseFrom_map_toLower []
  rw [lowercaseChars, lowercaseChars, ← forget first, ← forget second, same]

/-- No character has a capital letter from A to Z in its lower-case form. -/
theorem not_isUpper_of_mem_lowerChar
    {character lowered : Char}
    (member : lowered ∈ lowerChar character) :
    lowered.isUpper = false := by
  refine eq_false_of_ne_true fun upper => ?_
  obtain ⟨low, high⟩ := isUpper_iff.mp upper
  rw [lowerChar] at member
  split at member
  · have code : lowered.toNat = 0x69 ∨ lowered.toNat = 0x307 := by
      rcases (by simpa using member) with rfl | rfl
      · exact .inl rfl
      · exact .inr rfl
    omega
  · split at member
    · rename_i code found
      -- the run that gives the code begins after Z in lower case
      have beyond : ∀ run ∈ caseRuns, 0x5A < run.lowerFirst := by
        decide +kernel
      obtain ⟨run, isRun, given⟩ := List.exists_of_findSome?_eq_some found
      have bound := beyond run isRun
      have codeBound : 0x5A < code := by
        rw [CaseRun.lower?] at given
        split at given
        · cases given
          omega
        · cases given
      have isGiven := List.mem_singleton.mp member
      subst isGiven
      by_cases valid : code.isValidChar
      · have same : (Char.ofNat code).toNat = code := toNat_ofNat valid
        omega
      · have zero : (Char.ofNat code).toNat = 0 := by
          rw [Char.ofNat, dif_neg valid]
          rfl
        omega
    · rename_i none
      have same := List.mem_singleton.mp member
      subst same
      rw [lower?_of_capital low high] at none
      cases none

/-- No text has a capital letter from A to Z in its lower-case form. -/
theorem not_isUpper_of_mem_lowercaseFrom
    {before characters : List Char}
    {lowered : Char}
    (member : lowered ∈ lowercaseFrom before characters) :
    lowered.isUpper = false := by
  induction characters generalizing before with
  | nil =>
      cases member
  | cons character rest inductionHypothesis =>
      rw [lowercaseFrom] at member
      rcases List.mem_append.mp member with inFirst | inRest
      · split at inFirst
        · rw [List.mem_singleton.mp inFirst]
          split <;> decide
        · exact not_isUpper_of_mem_lowerChar inFirst
      · exact inductionHypothesis inRest

end JavaOutline.Text
