import Mathlib.Data.List.TakeWhile
import JavaOutline.Proofs.JsonText

namespace JavaOutline.Json

/-!
# The grammar of JSON and a reader for it

The productions of JSON, numbers apart, say which texts stand for a value. The
reader takes any blanks, any of the escapes and digits of either case. It
accepts exactly the texts that the productions derive, so a text stands for at
most one value.
-/

/-- A character that has no meaning between the parts of a value. -/
def isSpace (character : Char) : Bool :=
  character == ' ' || character == '\n' || character == '\r' || character == '\t'

/-- Characters without any meaning. -/
def Spaces (characters : List Char) : Prop :=
  ∀ character ∈ characters, isSpace character = true

/-- What the grammar derives texts for. -/
inductive Phrase where
  | value (value : Json)
  /-- At least one item, with commas between them. -/
  | items (values : List Json)
  /-- At least one member, with commas between them. -/
  | members (members : List (String × Json))

/-- The texts of a value, and of what stands between brackets or braces. -/
inductive Derives : Phrase → List Char → Prop where
  | literalNull :
      Derives (.value .null) ['n', 'u', 'l', 'l']
  | literalTrue :
      Derives (.value (.bool true)) ['t', 'r', 'u', 'e']
  | literalFalse :
      Derives (.value (.bool false)) ['f', 'a', 'l', 's', 'e']
  | text
      {value : String}
      {written : List Char}
      (derived : DerivesText value.toList written) :
      Derives (.value (.text value)) ('\x22' :: (written ++ ['\x22']))
  | emptyList
      {spaces : List Char}
      (blank : Spaces spaces) :
      Derives (.value (.list [])) ('[' :: (spaces ++ [']']))
  | list
      {values : List Json}
      {written : List Char}
      (items : Derives (.items values) written) :
      Derives (.value (.list values)) ('[' :: (written ++ [']']))
  | emptyObject
      {spaces : List Char}
      (blank : Spaces spaces) :
      Derives (.value (.object [])) ('\x7b' :: (spaces ++ ['\x7d']))
  | object
      {members : List (String × Json)}
      {written : List Char}
      (derived : Derives (.members members) written) :
      Derives (.value (.object members)) ('\x7b' :: (written ++ ['\x7d']))
  | lastItem
      {value : Json}
      {before written after : List Char}
      (blankBefore : Spaces before)
      (derived : Derives (.value value) written)
      (blankAfter : Spaces after) :
      Derives (.items [value]) (before ++ (written ++ after))
  | item
      {value : Json}
      {values : List Json}
      {before written after rest : List Char}
      (blankBefore : Spaces before)
      (derived : Derives (.value value) written)
      (blankAfter : Spaces after)
      (others : Derives (.items values) rest) :
      Derives (.items (value :: values)) (before ++ (written ++ (after ++ ',' :: rest)))
  | lastMember
      {key : String}
      {value : Json}
      {before keyWritten afterKey beforeValue written after : List Char}
      (blankBefore : Spaces before)
      (keyDerived : DerivesText key.toList keyWritten)
      (blankAfterKey : Spaces afterKey)
      (blankBeforeValue : Spaces beforeValue)
      (derived : Derives (.value value) written)
      (blankAfter : Spaces after) :
      Derives (.members [(key, value)])
        (before ++ '\x22' :: (keyWritten ++ '\x22' :: (afterKey ++ ':' ::
          (beforeValue ++ (written ++ after)))))
  | member
      {key : String}
      {value : Json}
      {members : List (String × Json)}
      {before keyWritten afterKey beforeValue written after rest : List Char}
      (blankBefore : Spaces before)
      (keyDerived : DerivesText key.toList keyWritten)
      (blankAfterKey : Spaces afterKey)
      (blankBeforeValue : Spaces beforeValue)
      (derived : Derives (.value value) written)
      (blankAfter : Spaces after)
      (others : Derives (.members members) rest) :
      Derives (.members ((key, value) :: members))
        (before ++ '\x22' :: (keyWritten ++ '\x22' :: (afterKey ++ ':' ::
          (beforeValue ++ (written ++ (after ++ ',' :: rest))))))

/-- A text stands for a value; blanks around it do not matter. -/
def Denotes (input : List Char) (value : Json) : Prop :=
  ∃ before written after,
    Spaces before ∧
      Derives (.value value) written ∧
      Spaces after ∧
      input = before ++ (written ++ after)

/-- What is left of an input after the blanks at its beginning. -/
def skipSpaces (input : List Char) : List Char :=
  input.dropWhile isSpace

/-- What is left of an input after blanks and a given character. -/
def after? (mark : Char) (input : List Char) : Option (List Char) :=
  if (skipSpaces input).head? = some mark then
    some (skipSpaces input).tail
  else
    none

/-- Read one of the three names. -/
def readName? : List Char → Option (Json × List Char)
  | 'n' :: 'u' :: 'l' :: 'l' :: rest => some (.null, rest)
  | 't' :: 'r' :: 'u' :: 'e' :: rest => some (.bool true, rest)
  | 'f' :: 'a' :: 'l' :: 's' :: 'e' :: rest => some (.bool false, rest)
  | _ => none

/-- Read a key and the colon after it. -/
def readKey? (fuel : Nat) (input : List Char) : Option (String × List Char) := do
  let opened ← after? '\x22' input
  let (characters, rest) ← readText? fuel opened
  let final ← after? ':' rest
  return (String.ofList characters, final)

/-- Go on after an element: to the closing character, or over a comma to further elements. -/
def readFurther?
    {Element : Type}
    (close : Char)
    (element : Element)
    (readOthers? : List Char → Option (List Element × List Char))
    (input : List Char) :
    Option (List Element × List Char) :=
  match after? close input with
  | some final => some ([element], final)
  | none => do
      let next ← after? ',' input
      let (others, final) ← readOthers? next
      return (element :: others, final)

mutual

/-- Read a value at the beginning of an input. -/
def readValue? : Nat → List Char → Option (Json × List Char)
  | 0, _ => none
  | fuel + 1, input =>
      match input with
      | '\x22' :: rest =>
          (readText? fuel rest).map (fun read => (.text (String.ofList read.1), read.2))
      | '[' :: rest =>
          match after? ']' rest with
          | some final => some (.list [], final)
          | none => (readItems? fuel rest).map (fun read => (.list read.1, read.2))
      | '\x7b' :: rest =>
          match after? '\x7d' rest with
          | some final => some (.object [], final)
          | none => (readMembers? fuel rest).map (fun read => (.object read.1, read.2))
      | _ => readName? input

/-- Read items up to the closing bracket. -/
def readItems? : Nat → List Char → Option (List Json × List Char)
  | 0, _ => none
  | fuel + 1, input => do
      let (value, rest) ← readValue? fuel (skipSpaces input)
      readFurther? ']' value (readItems? fuel) rest

/-- Read members up to the closing brace. -/
def readMembers? : Nat → List Char → Option (List (String × Json) × List Char)
  | 0, _ => none
  | fuel + 1, input => do
      let (key, valueInput) ← readKey? fuel input
      let (value, rest) ← readValue? fuel (skipSpaces valueInput)
      readFurther? '\x7d' (key, value) (readMembers? fuel) rest

end

/-- The value that a whole input stands for. No part of a value is longer than the input. -/
def read? (input : List Char) : Option Json := do
  let (value, rest) ← readValue? (input.length + 1) (skipSpaces input)
  if skipSpaces rest = [] then some value else none

theorem skipSpaces_of_spaces
    {spaces : List Char}
    (blank : Spaces spaces)
    (rest : List Char) :
    skipSpaces (spaces ++ rest) = skipSpaces rest := by
  rw [skipSpaces, List.dropWhile_append_of_pos blank]
  rfl

theorem skipSpaces_cons
    {first : Char}
    (notSpace : isSpace first = false)
    (rest : List Char) :
    skipSpaces (first :: rest) = first :: rest := by
  simp [skipSpaces, notSpace]

theorem exists_spaces (input : List Char) :
    ∃ spaces, Spaces spaces ∧ input = spaces ++ skipSpaces input := by
  refine ⟨input.takeWhile isSpace, ?_, List.takeWhile_append_dropWhile.symm⟩
  intro character member
  exact List.mem_takeWhile_imp member

/-- A character that is no blank is found behind blanks, and nothing else is. -/
theorem after?_of_spaces
    {spaces : List Char}
    (mark first : Char)
    (blank : Spaces spaces)
    (notSpace : isSpace first = false)
    (rest : List Char) :
    after? mark (spaces ++ first :: rest) = if first = mark then some rest else none := by
  rw [after?, skipSpaces_of_spaces blank, skipSpaces_cons notSpace]
  simp

theorem exists_spaces_of_after?
    {mark : Char}
    {input rest : List Char}
    (read : after? mark input = some rest) :
    ∃ spaces, Spaces spaces ∧ input = spaces ++ mark :: rest := by
  obtain ⟨spaces, blank, split⟩ := exists_spaces input
  rw [after?] at read
  cases shape : skipSpaces input with
  | nil =>
      simp [shape] at read
  | cons first others =>
      simp only [shape, List.head?_cons, Option.some.injEq, List.tail_cons] at read
      split_ifs at read with isMark
      cases read
      exact ⟨spaces, blank, by rw [← isMark, ← shape]; exact split⟩

section Further

variable {Element : Type} {readOthers? : List Char → Option (List Element × List Char)}

theorem readFurther?_closed
    {close : Char}
    {after : List Char}
    (element : Element)
    (notSpace : isSpace close = false)
    (blank : Spaces after)
    (rest : List Char) :
    readFurther? close element readOthers? (after ++ close :: rest) =
      some ([element], rest) := by
  simp [readFurther?, after?_of_spaces close close blank notSpace]

theorem readFurther?_comma
    {close : Char}
    {element : Element}
    {others : List Element}
    {after next final : List Char}
    (notComma : ',' ≠ close)
    (blank : Spaces after)
    (read : readOthers? next = some (others, final)) :
    readFurther? close element readOthers? (after ++ ',' :: next) =
      some (element :: others, final) := by
  have notClosed : after? close (after ++ ',' :: next) = none := by
    rw [after?_of_spaces close ',' blank rfl, if_neg notComma]
  have comma : after? ',' (after ++ ',' :: next) = some next := by
    rw [after?_of_spaces ',' ',' blank rfl, if_pos rfl]
  simp [readFurther?, notClosed, comma, read]

/-- Behind an element the list is closed, or a comma and further elements follow. -/
theorem cases_of_readFurther?
    {close : Char}
    {element : Element}
    {elements : List Element}
    {input final : List Char}
    (read : readFurther? close element readOthers? input = some (elements, final)) :
    (∃ after,
        Spaces after ∧
          input = after ++ close :: final ∧
          elements = [element]) ∨
      ∃ after next others,
        Spaces after ∧
          input = after ++ ',' :: next ∧
          readOthers? next = some (others, final) ∧
          elements = element :: others := by
  rw [readFurther?] at read
  cases closed : after? close input with
  | some rest =>
      rw [closed] at read
      obtain ⟨rfl, rfl⟩ := Prod.mk.inj (Option.some.inj read)
      obtain ⟨after, blank, split⟩ := exists_spaces_of_after? closed
      exact .inl ⟨after, blank, split, rfl⟩
  | none =>
      rw [closed] at read
      obtain ⟨next, comma, later⟩ := Option.bind_eq_some_iff.mp read
      obtain ⟨⟨others, rest⟩, readOthers, same⟩ := Option.bind_eq_some_iff.mp later
      obtain ⟨rfl, rfl⟩ := Prod.mk.inj (Option.some.inj same)
      obtain ⟨after, blank, split⟩ := exists_spaces_of_after? comma
      exact .inr ⟨after, next, others, blank, split, readOthers, rfl⟩

end Further

theorem readKey?_of_derives
    {key : String}
    {before keyWritten afterKey : List Char}
    (blankBefore : Spaces before)
    (keyDerived : DerivesText key.toList keyWritten)
    (blankAfterKey : Spaces afterKey)
    {fuel : Nat}
    (enough : keyWritten.length < fuel)
    (rest : List Char) :
    readKey? fuel (before ++ '\x22' :: (keyWritten ++ '\x22' :: (afterKey ++ ':' :: rest))) =
      some (key, rest) := by
  have opened := after?_of_spaces '\x22' '\x22' blankBefore rfl
    (keyWritten ++ '\x22' :: (afterKey ++ ':' :: rest))
  have colon := after?_of_spaces ':' ':' blankAfterKey rfl rest
  have read := readText?_of_derives keyDerived enough (afterKey ++ ':' :: rest)
  simp [readKey?, opened, read, colon]

theorem derives_of_readKey?
    {fuel : Nat}
    {input rest : List Char}
    {key : String}
    (read : readKey? fuel input = some (key, rest)) :
    ∃ before keyWritten afterKey,
      Spaces before ∧
        DerivesText key.toList keyWritten ∧
        Spaces afterKey ∧
        input = before ++ '\x22' :: (keyWritten ++ '\x22' :: (afterKey ++ ':' :: rest)) := by
  obtain ⟨opened, openedAt, later⟩ := Option.bind_eq_some_iff.mp read
  obtain ⟨⟨characters, closed⟩, readText, last⟩ := Option.bind_eq_some_iff.mp later
  obtain ⟨final, colon, same⟩ := Option.bind_eq_some_iff.mp last
  obtain ⟨rfl, rfl⟩ := Prod.mk.inj (Option.some.inj same)
  obtain ⟨before, blankBefore, rfl⟩ := exists_spaces_of_after? openedAt
  obtain ⟨keyWritten, derived, rfl⟩ := derives_of_readText? readText
  obtain ⟨afterKey, blankAfterKey, rfl⟩ := exists_spaces_of_after? colon
  exact ⟨before, keyWritten, afterKey, blankBefore, by simpa using derived, blankAfterKey, rfl⟩

namespace Derives

/-- A value begins with a character that is neither blank nor closes anything. -/
theorem exists_first
    {value : Json}
    {written : List Char}
    (derived : Derives (.value value) written) :
    ∃ first rest,
      written = first :: rest ∧
        isSpace first = false ∧
        first ≠ ']' := by
  cases derived with
  | literalNull | literalTrue | literalFalse =>
      exact ⟨_, _, rfl, rfl, by decide⟩
  | text | emptyList | list | emptyObject | object =>
      exact ⟨_, _, rfl, rfl, by decide⟩

theorem skipSpaces_before
    {value : Json}
    {before written : List Char}
    (blank : Spaces before)
    (derived : Derives (.value value) written)
    (rest : List Char) :
    skipSpaces (before ++ (written ++ rest)) = written ++ rest := by
  obtain ⟨first, others, rfl, notSpace, -⟩ := derived.exists_first
  rw [skipSpaces_of_spaces blank]
  exact skipSpaces_cons notSpace _

/-- Items are not taken for an empty list. -/
theorem after?_items
    {values : List Json}
    {written : List Char}
    (derived : Derives (.items values) written)
    (rest : List Char) :
    after? ']' (written ++ rest) = none := by
  cases derived with
  | lastItem blank derived _ | item blank derived _ _ =>
      obtain ⟨first, others, rfl, notSpace, notClosing⟩ := derived.exists_first
      simp only [List.append_assoc, List.cons_append, after?_of_spaces ']' first blank notSpace,
        if_neg notClosing]

/-- Members are not taken for an empty object. -/
theorem after?_members
    {members : List (String × Json)}
    {written : List Char}
    (derived : Derives (.members members) written)
    (rest : List Char) :
    after? '\x7d' (written ++ rest) = none := by
  cases derived with
  | lastMember blank _ _ _ _ _ | member blank _ _ _ _ _ _ =>
      simp only [List.append_assoc, List.cons_append]
      rw [after?_of_spaces '\x7d' '\x22' blank rfl]
      rfl

end Derives

/--
A phrase is read from its written form, whatever comes behind it. Items and
members are read together with the character that closes them.
-/
def Phrase.ReadsFrom (written : List Char) : Phrase → Prop
  | .value read =>
      ∀ {fuel} rest,
        written.length < fuel →
        readValue? fuel (written ++ rest) = some (read, rest)
  | .items read =>
      ∀ {fuel} rest,
        written.length + 1 < fuel →
        readItems? fuel (written ++ ']' :: rest) = some (read, rest)
  | .members read =>
      ∀ {fuel} rest,
        written.length + 1 < fuel →
        readMembers? fuel (written ++ '\x7d' :: rest) = some (read, rest)

/-- Whatever the grammar derives is read: each part is shorter than the whole. -/
theorem Derives.readsFrom
    {phrase : Phrase}
    {written : List Char}
    (derived : Derives phrase written) :
    phrase.ReadsFrom written := by
  induction derived with
  | literalNull | literalTrue | literalFalse =>
      intro fuel rest enough
      obtain ⟨fewer, rfl⟩ := Nat.exists_eq_add_one_of_ne_zero (Nat.ne_zero_of_lt enough)
      simp [readValue?, readName?]
  | @text value written derived =>
      intro fuel rest enough
      obtain ⟨fewer, rfl⟩ := Nat.exists_eq_add_one_of_ne_zero (Nat.ne_zero_of_lt enough)
      have read : readText? fewer (written ++ '\x22' :: rest) = some (value.toList, rest) :=
        readText?_of_derives derived (by simp at enough; omega) rest
      simp [readValue?, read]
  | emptyList blank =>
      intro fuel rest enough
      obtain ⟨fewer, rfl⟩ := Nat.exists_eq_add_one_of_ne_zero (Nat.ne_zero_of_lt enough)
      have closed := after?_of_spaces ']' ']' blank rfl rest
      simp [readValue?, closed]
  | @list values written items inductionHypothesis =>
      intro fuel rest enough
      obtain ⟨fewer, rfl⟩ := Nat.exists_eq_add_one_of_ne_zero (Nat.ne_zero_of_lt enough)
      have notClosed := items.after?_items (']' :: rest)
      have read : readItems? fewer (written ++ ']' :: rest) = some (values, rest) :=
        inductionHypothesis rest (by simp at enough; omega)
      simp [readValue?, notClosed, read]
  | emptyObject blank =>
      intro fuel rest enough
      obtain ⟨fewer, rfl⟩ := Nat.exists_eq_add_one_of_ne_zero (Nat.ne_zero_of_lt enough)
      have closed := after?_of_spaces '\x7d' '\x7d' blank rfl rest
      simp [readValue?, closed]
  | @object members written derived inductionHypothesis =>
      intro fuel rest enough
      obtain ⟨fewer, rfl⟩ := Nat.exists_eq_add_one_of_ne_zero (Nat.ne_zero_of_lt enough)
      have notClosed := derived.after?_members ('\x7d' :: rest)
      have read : readMembers? fewer (written ++ '\x7d' :: rest) = some (members, rest) :=
        inductionHypothesis rest (by simp at enough; omega)
      simp [readValue?, notClosed, read]
  | @lastItem value before written after blankBefore derived blankAfter readFirst =>
      intro fuel rest enough
      obtain ⟨fewer, rfl⟩ := Nat.exists_eq_add_one_of_ne_zero (Nat.ne_zero_of_lt enough)
      have read :
          readValue? fewer (written ++ (after ++ ']' :: rest)) =
            some (value, after ++ ']' :: rest) :=
        readFirst _ (by simp at enough; omega)
      have closed :
          readFurther? ']' value (readItems? fewer) (after ++ ']' :: rest) =
            some ([value], rest) :=
        readFurther?_closed value rfl blankAfter rest
      simp [readItems?, derived.skipSpaces_before blankBefore, read, closed]
  | @item value values before written after others blankBefore derived blankAfter
      _ readFirst readOthers =>
      intro fuel rest enough
      obtain ⟨fewer, rfl⟩ := Nat.exists_eq_add_one_of_ne_zero (Nat.ne_zero_of_lt enough)
      have read :
          readValue? fewer (written ++ (after ++ ',' :: (others ++ ']' :: rest))) =
            some (value, after ++ ',' :: (others ++ ']' :: rest)) :=
        readFirst _ (by simp at enough; omega)
      have further :
          readFurther? ']' value (readItems? fewer) (after ++ ',' :: (others ++ ']' :: rest)) =
            some (value :: values, rest) :=
        readFurther?_comma (by decide) blankAfter (readOthers rest (by simp at enough; omega))
      simp [readItems?, derived.skipSpaces_before blankBefore, read, further]
  | @lastMember key value before keyWritten afterKey beforeValue written after
      blankBefore keyDerived blankAfterKey blankBeforeValue derived blankAfter readFirst =>
      intro fuel rest enough
      obtain ⟨fewer, rfl⟩ := Nat.exists_eq_add_one_of_ne_zero (Nat.ne_zero_of_lt enough)
      have readKey := readKey?_of_derives blankBefore keyDerived blankAfterKey
        (show keyWritten.length < fewer by simp at enough; omega)
        (beforeValue ++ (written ++ (after ++ '\x7d' :: rest)))
      have read :
          readValue? fewer (written ++ (after ++ '\x7d' :: rest)) =
            some (value, after ++ '\x7d' :: rest) :=
        readFirst _ (by simp at enough; omega)
      have closed :
          readFurther? '\x7d' (key, value) (readMembers? fewer) (after ++ '\x7d' :: rest) =
            some ([(key, value)], rest) :=
        readFurther?_closed (key, value) rfl blankAfter rest
      simp [readMembers?, readKey, derived.skipSpaces_before blankBeforeValue, read, closed]
  | @member key value members before keyWritten afterKey beforeValue written after others
      blankBefore keyDerived blankAfterKey blankBeforeValue derived blankAfter
      _ readFirst readOthers =>
      intro fuel rest enough
      obtain ⟨fewer, rfl⟩ := Nat.exists_eq_add_one_of_ne_zero (Nat.ne_zero_of_lt enough)
      have readKey := readKey?_of_derives blankBefore keyDerived blankAfterKey
        (show keyWritten.length < fewer by simp at enough; omega)
        (beforeValue ++ (written ++ (after ++ ',' :: (others ++ '\x7d' :: rest))))
      have read :
          readValue? fewer (written ++ (after ++ ',' :: (others ++ '\x7d' :: rest))) =
            some (value, after ++ ',' :: (others ++ '\x7d' :: rest)) :=
        readFirst _ (by simp at enough; omega)
      have further :
          readFurther? '\x7d' (key, value) (readMembers? fewer)
              (after ++ ',' :: (others ++ '\x7d' :: rest)) =
            some ((key, value) :: members, rest) :=
        readFurther?_comma (by decide) blankAfter (readOthers rest (by simp at enough; omega))
      simp [readMembers?, readKey, derived.skipSpaces_before blankBeforeValue, read, further]

/-- With a given fuel, the reader accepts only what the grammar derives. -/
structure ReadsOnlyDerived (fuel : Nat) : Prop where
  value :
    ∀ {input value rest},
      readValue? fuel input = some (value, rest) →
      ∃ written, Derives (.value value) written ∧ input = written ++ rest
  items :
    ∀ {input values rest},
      readItems? fuel input = some (values, rest) →
      ∃ written, Derives (.items values) written ∧ input = written ++ ']' :: rest
  members :
    ∀ {input members rest},
      readMembers? fuel input = some (members, rest) →
      ∃ written, Derives (.members members) written ∧ input = written ++ '\x7d' :: rest

namespace ReadsOnlyDerived

variable {fuel : Nat} {input rest : List Char}

theorem readName?_derived
    {value : Json}
    (read : readName? input = some (value, rest)) :
    ∃ written, Derives (.value value) written ∧ input = written ++ rest := by
  unfold readName? at read
  split at read
  · obtain ⟨rfl, rfl⟩ := Prod.mk.inj (Option.some.inj read)
    exact ⟨_, .literalNull, rfl⟩
  · obtain ⟨rfl, rfl⟩ := Prod.mk.inj (Option.some.inj read)
    exact ⟨_, .literalTrue, rfl⟩
  · obtain ⟨rfl, rfl⟩ := Prod.mk.inj (Option.some.inj read)
    exact ⟨_, .literalFalse, rfl⟩
  · cases read

theorem value_succ
    {value : Json}
    (sound : ReadsOnlyDerived fuel)
    (read : readValue? (fuel + 1) input = some (value, rest)) :
    ∃ written, Derives (.value value) written ∧ input = written ++ rest := by
  rw [readValue?.eq_def] at read
  dsimp only at read
  split at read
  case h_1 opened =>
    obtain ⟨⟨characters, closed⟩, readText, same⟩ := Option.map_eq_some_iff.mp read
    obtain ⟨rfl, rfl⟩ := Prod.mk.inj same
    obtain ⟨written, derived, rfl⟩ := derives_of_readText? readText
    exact ⟨_, .text (by simpa using derived), by simp⟩
  case h_2 opened =>
    split at read
    case h_1 final closed =>
      obtain ⟨rfl, rfl⟩ := Prod.mk.inj (Option.some.inj read)
      obtain ⟨spaces, blank, rfl⟩ := exists_spaces_of_after? closed
      exact ⟨_, .emptyList blank, by simp⟩
    case h_2 =>
      obtain ⟨⟨values, final⟩, readItems, same⟩ := Option.map_eq_some_iff.mp read
      obtain ⟨rfl, rfl⟩ := Prod.mk.inj same
      obtain ⟨written, derived, rfl⟩ := sound.items readItems
      exact ⟨_, .list derived, by simp⟩
  case h_3 opened =>
    split at read
    case h_1 final closed =>
      obtain ⟨rfl, rfl⟩ := Prod.mk.inj (Option.some.inj read)
      obtain ⟨spaces, blank, rfl⟩ := exists_spaces_of_after? closed
      exact ⟨_, .emptyObject blank, by simp⟩
    case h_2 =>
      obtain ⟨⟨members, final⟩, readMembers, same⟩ := Option.map_eq_some_iff.mp read
      obtain ⟨rfl, rfl⟩ := Prod.mk.inj same
      obtain ⟨written, derived, rfl⟩ := sound.members readMembers
      exact ⟨_, .object derived, by simp⟩
  case h_4 =>
    exact readName?_derived read

theorem items_succ
    {values : List Json}
    (sound : ReadsOnlyDerived fuel)
    (read : readItems? (fuel + 1) input = some (values, rest)) :
    ∃ written, Derives (.items values) written ∧ input = written ++ ']' :: rest := by
  rw [readItems?] at read
  obtain ⟨⟨value, afterValue⟩, readFirst, further⟩ := Option.bind_eq_some_iff.mp read
  obtain ⟨before, blankBefore, split⟩ := exists_spaces input
  obtain ⟨written, derived, shape⟩ := sound.value readFirst
  rcases cases_of_readFurther? further with
    ⟨after, blankAfter, rfl, rfl⟩ | ⟨after, next, others, blankAfter, rfl, readOthers, rfl⟩
  · exact ⟨_, .lastItem blankBefore derived blankAfter, by rw [split, shape]; simp⟩
  · obtain ⟨othersWritten, othersDerived, rfl⟩ := sound.items readOthers
    exact ⟨_, .item blankBefore derived blankAfter othersDerived, by rw [split, shape]; simp⟩

theorem members_succ
    {members : List (String × Json)}
    (sound : ReadsOnlyDerived fuel)
    (read : readMembers? (fuel + 1) input = some (members, rest)) :
    ∃ written, Derives (.members members) written ∧ input = written ++ '\x7d' :: rest := by
  rw [readMembers?] at read
  obtain ⟨⟨key, valueInput⟩, readKey, later⟩ := Option.bind_eq_some_iff.mp read
  obtain ⟨⟨value, afterValue⟩, readFirst, further⟩ := Option.bind_eq_some_iff.mp later
  obtain ⟨before, keyWritten, afterKey, blankBefore, keyDerived, blankAfterKey, rfl⟩ :=
    derives_of_readKey? readKey
  obtain ⟨beforeValue, blankBeforeValue, split⟩ := exists_spaces valueInput
  obtain ⟨written, derived, shape⟩ := sound.value readFirst
  rcases cases_of_readFurther? further with
    ⟨after, blankAfter, rfl, rfl⟩ | ⟨after, next, others, blankAfter, rfl, readOthers, rfl⟩
  · exact ⟨_, .lastMember blankBefore keyDerived blankAfterKey blankBeforeValue derived
      blankAfter, by rw [split, shape]; simp⟩
  · obtain ⟨othersWritten, othersDerived, rfl⟩ := sound.members readOthers
    exact ⟨_, .member blankBefore keyDerived blankAfterKey blankBeforeValue derived
      blankAfter othersDerived, by rw [split, shape]; simp⟩

end ReadsOnlyDerived

theorem readsOnlyDerived (fuel : Nat) : ReadsOnlyDerived fuel := by
  induction fuel with
  | zero =>
      constructor
      · intro input value rest read
        simp [readValue?] at read
      · intro input values rest read
        simp [readItems?] at read
      · intro input members rest read
        simp [readMembers?] at read
  | succ fuel inductionHypothesis =>
      exact ⟨inductionHypothesis.value_succ, inductionHypothesis.items_succ,
        inductionHypothesis.members_succ⟩

/-- The reader accepts exactly the texts that stand for a value. -/
theorem read?_eq_some_iff
    {input : List Char}
    {value : Json} :
    read? input = some value ↔ Denotes input value := by
  constructor
  · intro read
    obtain ⟨⟨found, rest⟩, readValue, ended⟩ := Option.bind_eq_some_iff.mp read
    dsimp only at ended
    split_ifs at ended with empty
    cases ended
    obtain ⟨before, blankBefore, split⟩ := exists_spaces input
    obtain ⟨written, derived, shape⟩ := (readsOnlyDerived _).value readValue
    obtain ⟨after, blankAfter, splitAfter⟩ := exists_spaces rest
    rw [empty, List.append_nil] at splitAfter
    exact ⟨before, written, after, blankBefore, derived, blankAfter,
      by rw [← splitAfter, ← shape]; exact split⟩
  · rintro ⟨before, written, after, blankBefore, derived, blankAfter, rfl⟩
    have nothing : skipSpaces after = [] := by
      have skipped := skipSpaces_of_spaces blankAfter []
      rwa [List.append_nil] at skipped
    have readValue :
        readValue? ((before ++ (written ++ after)).length + 1) (written ++ after) =
          some (value, after) :=
      derived.readsFrom after (by simp; omega)
    rw [read?, derived.skipSpaces_before blankBefore, readValue]
    simp [nothing]

/-- A text stands for at most one value. -/
theorem Denotes.unique
    {input : List Char}
    {first second : Json}
    (denotesFirst : Denotes input first)
    (denotesSecond : Denotes input second) :
    first = second := by
  have readFirst := read?_eq_some_iff.mpr denotesFirst
  have readSecond := read?_eq_some_iff.mpr denotesSecond
  exact Option.some.inj (readFirst.symm.trans readSecond)

end JavaOutline.Json
