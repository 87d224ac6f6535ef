import Mathlib.Data.List.Basic
import Mathlib.Data.List.TakeWhile
import JavaOutline.File.Kind
import JavaOutline.Proofs.AsciiCase

namespace JavaOutline

/-!
# What the kind of a file depends on

A path ends with the name of a file, and the name ends with an extension or has
none. Both are described here by how a path is put together, not by how it is
searched. The kind of a file depends on the lower case of the extension alone,
in every configuration.
-/

namespace Path

/-- What follows the last slash of a path; all of it if there is none. -/
def IsLastName (path name : List Char) : Prop :=
  '/' ∉ name ∧ (path = name ∨ ∃ directory, path = directory ++ '/' :: name)

/--
The extension of a file name. The last dot begins it, unless nothing but dots
comes before; then there is none.
-/
inductive HasExtension : List Char → List Char → Prop where
  | plain
      {dots tail : List Char}
      (onlyDots : ∀ character ∈ dots, character = '.')
      (undotted : '.' ∉ tail) :
      HasExtension (dots ++ tail) []
  | dotted
      {stem tail : List Char}
      (proper : ∃ character ∈ stem, character ≠ '.')
      (undotted : '.' ∉ tail) :
      HasExtension (stem ++ '.' :: tail) ('.' :: tail)

/-- The beginning of a file name that keeps the dot after it from being a leading one. -/
def IsStem (stem : String) : Prop :=
  '/' ∉ stem.toList ∧ ∃ character ∈ stem.toList, character ≠ '.'

/-- A dot and what may follow the last dot of a file name. -/
def IsSuffix (suffix : String) : Prop :=
  ∃ tail, suffix.toList = '.' :: tail ∧ '.' ∉ tail ∧ '/' ∉ tail

section Splitting

variable {separator : Char} {front back : List Char}

theorem forall_mem_reverse_ne
    (absent : separator ∉ back) :
    ∀ character ∈ back.reverse, (character != separator) = true := by
  intro character member
  refine bne_iff_ne.mpr ?_
  rintro rfl
  exact absent (List.mem_reverse.mp member)

/-- Searched from its end, a text is cut at its last separator. -/
theorem reverse_split
    (absent : separator ∉ back) :
    (front ++ separator :: back).reverse.takeWhile (fun character => character != separator) =
        back.reverse ∧
      (front ++ separator :: back).reverse.dropWhile (fun character => character != separator) =
        separator :: front.reverse := by
  have passed := forall_mem_reverse_ne absent
  have reversed :
      (front ++ separator :: back).reverse = back.reverse ++ separator :: front.reverse := by
    simp
  rw [reversed, List.takeWhile_append_of_pos passed, List.dropWhile_append_of_pos passed]
  simp

theorem reverse_unsplit
    (absent : separator ∉ back) :
    back.reverse.takeWhile (fun character => character != separator) = back.reverse ∧
      back.reverse.dropWhile (fun character => character != separator) = [] :=
  ⟨List.takeWhile_eq_self_iff.mpr (forall_mem_reverse_ne absent),
    List.dropWhile_eq_nil_iff.mpr (forall_mem_reverse_ne absent)⟩

/-- A text has no separator, or it has a last one. -/
theorem exists_split (separator : Char) (text : List Char) :
    separator ∉ text ∨ ∃ front back, text = front ++ separator :: back ∧ separator ∉ back := by
  by_cases present : separator ∈ text
  · obtain ⟨after, before, shape, absent⟩ :=
      List.eq_append_cons_of_mem (List.mem_reverse.mpr present)
    refine .inr ⟨before.reverse, after.reverse, ?_, fun member => absent ?_⟩
    · simpa using congrArg List.reverse shape
    · exact List.mem_reverse.mp member
  · exact .inl present

end Splitting

section Extension

variable {path name extension : List Char}

theorem lastComponent_of_isLastName
    (isLast : IsLastName path name) :
    lastComponent path = name := by
  obtain ⟨absent, rfl | ⟨directory, rfl⟩⟩ := isLast
  · rw [lastComponent, (reverse_unsplit absent).1, List.reverse_reverse]
  · rw [lastComponent, (reverse_split absent).1, List.reverse_reverse]

theorem afterLastDot_of_dotted
    {stem tail : List Char}
    (undotted : '.' ∉ tail) :
    afterLastDot (stem ++ '.' :: tail) = tail := by
  rw [afterLastDot, (reverse_split undotted).1, List.reverse_reverse]

theorem beforeLastDot_of_dotted
    {stem tail : List Char}
    (undotted : '.' ∉ tail) :
    beforeLastDot (stem ++ '.' :: tail) = stem := by
  rw [beforeLastDot, (reverse_split undotted).2, List.drop_one, List.tail_cons,
    List.reverse_reverse]

/-- Nothing but dots comes before the last dot of a name without an extension. -/
theorem eq_dot_of_mem_beforeLastDot
    {dots tail : List Char}
    (onlyDots : ∀ character ∈ dots, character = '.')
    (undotted : '.' ∉ tail) :
    ∀ character ∈ beforeLastDot (dots ++ tail), character = '.' := by
  intro character member
  rcases List.eq_nil_or_concat' dots with rfl | ⟨earlier, last, rfl⟩
  · rw [List.nil_append, beforeLastDot, (reverse_unsplit undotted).2] at member
    cases member
  · have isDot : last = '.' := onlyDots last (by simp)
    rw [isDot, List.append_assoc, List.singleton_append,
      beforeLastDot_of_dotted undotted] at member
    exact onlyDots character (List.mem_append_left _ member)

/-- The search for an extension finds it. -/
theorem extensionChars_eq
    (isLast : IsLastName path name)
    (hasExtension : HasExtension name extension) :
    extensionChars path = extension := by
  rw [extensionChars, lastComponent_of_isLastName isLast]
  cases hasExtension with
  | plain onlyDots undotted =>
      refine if_neg ?_
      rw [List.any_eq_true]
      rintro ⟨character, member, other⟩
      rw [eq_dot_of_mem_beforeLastDot onlyDots undotted character member] at other
      contradiction
  | dotted proper undotted =>
      obtain ⟨character, member, other⟩ := proper
      rw [beforeLastDot_of_dotted undotted, afterLastDot_of_dotted undotted]
      refine if_pos (List.any_eq_true.mpr ⟨character, member, ?_⟩)
      exact bne_iff_ne.mpr other

theorem exists_isLastName (path : List Char) :
    ∃ name, IsLastName path name := by
  rcases exists_split '/' path with absent | ⟨directory, name, shape, absent⟩
  · exact ⟨path, absent, .inl rfl⟩
  · exact ⟨name, absent, .inr ⟨directory, shape⟩⟩

/-- Every name has an extension or none. -/
theorem exists_hasExtension (name : List Char) :
    ∃ extension, HasExtension name extension := by
  rcases exists_split '.' name with absent | ⟨stem, tail, rfl, undotted⟩
  · have noDots : HasExtension ([] ++ name) [] := .plain (List.forall_mem_nil _) absent
    exact ⟨[], noDots⟩
  · by_cases onlyDots : ∀ character ∈ stem, character = '.'
    · refine ⟨[], ?_⟩
      rw [← List.singleton_append, ← List.append_assoc]
      refine .plain ?_ undotted
      simpa [or_imp, forall_and] using onlyDots
    · obtain ⟨character, member, other⟩ : ∃ character ∈ stem, character ≠ '.' := by
        simpa using onlyDots
      exact ⟨'.' :: tail, .dotted ⟨character, member, other⟩ undotted⟩

end Extension

section LetterCase

variable {path name extension : List Char}

theorem not_mem_map_toLower
    {separator : Char}
    (noLetter : separator.isAlpha = false)
    (absent : separator ∉ name) :
    separator ∉ name.map Char.toLower := by
  intro member
  obtain ⟨character, inName, lowered⟩ := List.mem_map.mp member
  rw [Text.toLower_eq_iff noLetter] at lowered
  subst lowered
  exact absent inName

theorem IsLastName.map_toLower
    (isLast : IsLastName path name) :
    IsLastName (path.map Char.toLower) (name.map Char.toLower) := by
  obtain ⟨absent, shape⟩ := isLast
  refine ⟨not_mem_map_toLower (by decide) absent, ?_⟩
  rcases shape with rfl | ⟨directory, rfl⟩
  · exact .inl rfl
  · exact .inr ⟨directory.map Char.toLower, by rw [List.map_append, List.map_cons]; rfl⟩

/-- The case of letters does not decide where an extension begins. -/
theorem HasExtension.map_toLower
    (hasExtension : HasExtension name extension) :
    HasExtension (name.map Char.toLower) (extension.map Char.toLower) := by
  have dot : ∀ {character : Char}, character.toLower = '.' ↔ character = '.' :=
    Text.toLower_eq_iff (by decide)
  cases hasExtension with
  | plain onlyDots undotted =>
      rw [List.map_append]
      refine .plain ?_ (not_mem_map_toLower (by decide) undotted)
      intro lowered member
      obtain ⟨character, inDots, rfl⟩ := List.mem_map.mp member
      exact dot.mpr (onlyDots character inDots)
  | dotted proper undotted =>
      obtain ⟨character, inStem, other⟩ := proper
      rw [List.map_append, List.map_cons]
      refine .dotted ⟨character.toLower, List.mem_map_of_mem inStem, ?_⟩
        (not_mem_map_toLower (by decide) undotted)
      exact fun isDot => other (dot.mp isDot)

theorem extensionChars_map_toLower (path : List Char) :
    extensionChars (path.map Char.toLower) = (extensionChars path).map Char.toLower := by
  obtain ⟨name, isLast⟩ := exists_isLastName path
  obtain ⟨extension, hasExtension⟩ := exists_hasExtension name
  rw [extensionChars_eq isLast hasExtension,
    extensionChars_eq isLast.map_toLower hasExtension.map_toLower]

end LetterCase

end Path

section LowerCase

open JavaOutline.Path

variable {path : String} {name extension : List Char}

theorem lowercase_extension_of_letterCase
    {other : String}
    (same : path.toList.map Char.toLower = other.toList.map Char.toLower) :
    Text.lowercase (Path.extension path) = Text.lowercase (Path.extension other) := by
  have sameExtension :
      (extensionChars path.toList).map Char.toLower =
        (extensionChars other.toList).map Char.toLower := by
    rw [← extensionChars_map_toLower, same, extensionChars_map_toLower]
  simp only [Text.lowercase, Path.extension, String.toList_ofList,
    Text.lowercaseChars_eq_of_toLower sameExtension]

/-- No extension has a capital letter from A to Z in its lower case. -/
theorem lowercase_extension_ne
    {key : String}
    (capital : ∃ character ∈ key.toList, character.isUpper = true)
    (path : String) :
    Text.lowercase (Path.extension path) ≠ key := by
  intro same
  obtain ⟨character, member, upper⟩ := capital
  rw [← same, Text.lowercase, String.toList_ofList] at member
  rw [Text.not_isUpper_of_mem_lowercaseFrom member] at upper
  exact Bool.false_ne_true upper

end LowerCase

/-- The same changes, except that one key is left out of the tables that they replace. -/
def ScanOverrides.without (changes : ScanOverrides) (key : String) : ScanOverrides where
  extractable := changes.extractable.map (List.filter fun entry => entry.1 != key)
  pending := changes.pending.map (List.filter fun extension => extension != key)
  nonSource := changes.nonSource.map (List.filter fun extension => extension != key)
  defaultPackage := changes.defaultPackage

section Overrides

variable {key extension : String}

/-- A key that is not looked up may be left out of a table, or not. -/
theorem contains_without
    (different : extension ≠ key)
    (change : Option (List String))
    (table : List String) :
    ((change.map (List.filter fun other => other != key)).getD table).eraseDups.contains
        extension =
      (change.getD table).eraseDups.contains extension := by
  rw [Bool.eq_iff_iff]
  cases change with
  | none =>
      rfl
  | some entries =>
      simp [different]

theorem any_without
    (different : extension ≠ key)
    (change : Option (List (String × Language)))
    (table : List (String × Language)) :
    ((change.map (List.filter fun entry => entry.1 != key)).getD table).any
        (fun entry => entry.1 == extension) =
      (change.getD table).any fun entry => entry.1 == extension := by
  cases change with
  | none =>
      rfl
  | some entries =>
      simp only [Option.map_some, Option.getD_some, List.any_filter]
      refine congrArg entries.any ?_
      funext entry
      by_cases hit : entry.1 = extension
      · simp [hit, different]
      · simp [hit]

theorem kindOfExtension_without
    (different : extension ≠ key)
    (config : ScanConfig)
    (changes : ScanOverrides) :
    (config.override (changes.without key)).kindOfExtension extension =
      (config.override changes).kindOfExtension extension := by
  unfold ScanConfig.kindOfExtension ScanConfig.override ScanOverrides.without
  rw [any_without different, contains_without different, contains_without different]

end Overrides

/-- A configuration tells files apart by the lower case of their extensions alone. -/
structure KindsByExtension (config : ScanConfig) : Prop where
  /-- Every path has a last name, and that has an extension or none. -/
  named :
    ∀ path : String, ∃ name extension,
      Path.IsLastName path.toList name ∧ Path.HasExtension name extension
  classified :
    ∀ (path : String) (name extension : List Char),
      Path.IsLastName path.toList name →
      Path.HasExtension name extension →
      config.classify path =
        config.kindOfExtension (Text.lowercase (String.ofList extension))
  directory :
    ∀ directory name : String,
      '/' ∉ name.toList →
      config.classify (directory ++ "/" ++ name) = config.classify name
  stem :
    ∀ first second suffix : String,
      Path.IsStem first →
      Path.IsStem second →
      Path.IsSuffix suffix →
      config.classify (first ++ suffix) = config.classify (second ++ suffix)
  letterCase :
    ∀ first second : String,
      first.toList.map Char.toLower = second.toList.map Char.toLower →
      config.classify first = config.classify second
  undotted :
    ∀ dots tail : String,
      (∀ character ∈ dots.toList, character = '.') →
      '.' ∉ tail.toList →
      '/' ∉ tail.toList →
      config.classify (dots ++ tail) = config.kindOfExtension ""
  /-- A key with a capital letter from A to Z is never matched, so it may be left out. -/
  capitals :
    ∀ (changes : ScanOverrides) (key path : String),
      (∃ character ∈ key.toList, character.isUpper = true) →
      Text.lowercase (Path.extension path) ≠ key ∧
        (config.override (changes.without key)).classify path =
          (config.override changes).classify path

section Classification

open JavaOutline.Path

variable {config : ScanConfig} {name : List Char}

theorem classify_eq_kindOfExtension
    {path : String}
    {extension : List Char}
    (isLast : IsLastName path.toList name)
    (hasExtension : HasExtension name extension) :
    config.classify path =
      config.kindOfExtension (Text.lowercase (String.ofList extension)) := by
  rw [ScanConfig.classify, Path.extension, extensionChars_eq isLast hasExtension]

theorem classify_of_sameName
    {first second : String}
    (firstLast : IsLastName first.toList name)
    (secondLast : IsLastName second.toList name) :
    config.classify first = config.classify second := by
  obtain ⟨extension, hasExtension⟩ := exists_hasExtension name
  rw [classify_eq_kindOfExtension firstLast hasExtension,
    classify_eq_kindOfExtension secondLast hasExtension]

theorem classify_of_stem
    {stem suffix : String}
    (isStem : IsStem stem)
    (isSuffix : IsSuffix suffix) :
    config.classify (stem ++ suffix) = config.kindOfExtension (Text.lowercase suffix) := by
  obtain ⟨stemUnslashed, proper⟩ := isStem
  obtain ⟨tail, shape, undotted, unslashed⟩ := isSuffix
  have name : (stem ++ suffix).toList = stem.toList ++ '.' :: tail := by
    rw [String.toList_append, shape]
  have single : '/' ∉ stem.toList ++ '.' :: tail := by
    simp [stemUnslashed, unslashed]
  rw [classify_eq_kindOfExtension ⟨single, .inl name⟩ (.dotted proper undotted), ← shape,
    String.ofList_toList]

/-- A name of leading dots and one more part has the empty extension. -/
theorem classify_of_dots
    {dots tail : String}
    (onlyDots : ∀ character ∈ dots.toList, character = '.')
    (undotted : '.' ∉ tail.toList)
    (unslashed : '/' ∉ tail.toList) :
    config.classify (dots ++ tail) = config.kindOfExtension "" := by
  have name : (dots ++ tail).toList = dots.toList ++ tail.toList := String.toList_append
  have single : '/' ∉ dots.toList ++ tail.toList := by
    intro member
    rcases List.mem_append.mp member with inDots | inTail
    · exact absurd (onlyDots _ inDots) (by decide)
    · exact unslashed inTail
  have nothing : Text.lowercase (String.ofList []) = "" := by
    decide
  rw [classify_eq_kindOfExtension ⟨single, .inl name⟩ (.plain onlyDots undotted), nothing]

end Classification

/-- In every configuration the kind of a file depends on its extension alone. -/
theorem classify_depends_on_extension (config : ScanConfig) :
    KindsByExtension config := by
  refine {
    named := ?_
    classified := fun _ _ _ => classify_eq_kindOfExtension
    directory := ?_
    stem := ?_
    letterCase := ?_
    undotted := fun _ _ => classify_of_dots
    capitals := ?_
  }
  · intro path
    obtain ⟨name, isLast⟩ := Path.exists_isLastName path.toList
    obtain ⟨extension, hasExtension⟩ := Path.exists_hasExtension name
    exact ⟨name, extension, isLast, hasExtension⟩
  · intro directory name unslashed
    have shape : (directory ++ "/" ++ name).toList = directory.toList ++ '/' :: name.toList := by
      simp
    exact classify_of_sameName ⟨unslashed, .inr ⟨_, shape⟩⟩ ⟨unslashed, .inl rfl⟩
  · intro first second suffix firstStem secondStem isSuffix
    rw [classify_of_stem firstStem isSuffix, classify_of_stem secondStem isSuffix]
  · intro first second same
    rw [ScanConfig.classify, ScanConfig.classify, lowercase_extension_of_letterCase same]
  · intro changes key path capital
    have different := lowercase_extension_ne capital path
    refine ⟨different, ?_⟩
    rw [ScanConfig.classify, ScanConfig.classify, kindOfExtension_without different]

end JavaOutline
