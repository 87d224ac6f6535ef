import JavaOutline.Proofs.SpelledTypes

namespace JavaOutline

/-!
# Types as trees and as texts

What an outline keeps of a type is a tree: a primitive, or a name with a list
of arguments, which are types again or wildcards. An identifier is this tree
written out. If the names in it are free of the characters that it is written
with, the tree can be read back, however deep the arguments are nested.
-/

mutual

/-- A type without its arrays and annotations. -/
inductive ErasedType where
  | primitive (kind : Primitive)
  /-- A name, applied to arguments; the bare name has none. -/
  | named (name : String) (arguments : List ErasedArgument)

/-- An argument of a type: another type, or a wildcard with or without a bound. -/
inductive ErasedArgument where
  | exact (type : ErasedType)
  | wildcard
  | upperBounded (bound : ErasedType)
  | lowerBounded (bound : ErasedType)

end

/-- The types directly inside an argument. -/
def ErasedArgument.types : ErasedArgument → List ErasedType
  | .exact type => [type]
  | .wildcard => []
  | .upperBounded bound => [bound]
  | .lowerBounded bound => [bound]

/-- The type of what has none. -/
def ErasedType.void : ErasedType :=
  .primitive .void

mutual

/-- A type, written out. -/
def ErasedType.text : ErasedType → String
  | .primitive kind => kind.name
  | .named name arguments => genericText name (erasedTexts arguments)

/-- An argument, written out. -/
def ErasedArgument.text : ErasedArgument → String
  | .exact type => type.text
  | .wildcard => "?"
  | .upperBounded bound => "? extends " ++ bound.text
  | .lowerBounded bound => "? super " ++ bound.text

/-- Arguments, each written out. -/
def erasedTexts : List ErasedArgument → List String
  | [] => []
  | argument :: rest => argument.text :: erasedTexts rest

end

theorem erasedTexts_eq_map (arguments : List ErasedArgument) :
    erasedTexts arguments = arguments.map ErasedArgument.text := by
  induction arguments with
  | nil =>
      rfl
  | cons argument rest inductionHypothesis =>
      rw [erasedTexts, List.map_cons, inductionHypothesis]

/-- A type with its arguments folded into its name. -/
def ErasedType.typeName (type : ErasedType) : TypeName :=
  match type with
  | .primitive kind => .primitive kind
  | .named _ _ => .reference type.text

theorem ErasedType.signature_typeName (type : ErasedType) :
    type.typeName.signature = type.text := by
  cases type <;> rfl

/-- A name that cannot be taken for anything else in the text of a type. -/
structure ClearName (name : String) : Prop where
  notEmpty : name ≠ ""
  noOpening : '<' ∉ name.toList
  noClosing : '>' ∉ name.toList
  noComma : ',' ∉ name.toList
  noQuestion : '?' ∉ name.toList
  notPrimitive : name ∉ Primitive.all.map Primitive.name

theorem clearName_iff
    {name : String} :
    ClearName name ↔
      (name ≠ "" ∧ '<' ∉ name.toList ∧ '>' ∉ name.toList) ∧
        ',' ∉ name.toList ∧ '?' ∉ name.toList ∧ name ∉ Primitive.all.map Primitive.name :=
  ⟨fun clear =>
      ⟨⟨clear.notEmpty, clear.noOpening, clear.noClosing⟩,
        clear.noComma, clear.noQuestion, clear.notPrimitive⟩,
    fun ⟨⟨notEmpty, noOpening, noClosing⟩, noComma, noQuestion, notPrimitive⟩ =>
      ⟨notEmpty, noOpening, noClosing, noComma, noQuestion, notPrimitive⟩⟩

instance (name : String) : Decidable (ClearName name) :=
  decidable_of_iff _ clearName_iff.symm

/-- Every name in a type is clear. -/
inductive ErasedType.Clear : ErasedType → Prop where
  | primitive (kind : Primitive) :
      Clear (.primitive kind)
  | named
      {name : String}
      {arguments : List ErasedArgument}
      (clearName : ClearName name)
      (types : ∀ argument ∈ arguments, ∀ type ∈ argument.types, Clear type) :
      Clear (.named name arguments)

/-- A text that can be taken out of a list divided by commas. -/
structure ListedText (text : List Char) : Prop where
  notEmpty : text ≠ []
  bracketed : Bracketed text

/-- A text that can also be told from a wildcard. -/
structure TypeText (text : List Char) : Prop extends ListedText text where
  noWildcard : text.head? ≠ some '?'

theorem ListedText.append
    {first second : List Char}
    (firstListed : ListedText first)
    (secondListed : ListedText second) :
    ListedText (first ++ second) where
  notEmpty := List.append_ne_nil_of_left_ne_nil firstListed.notEmpty second
  bracketed := firstListed.bracketed.append secondListed.bracketed

theorem TypeText.append
    {first second : List Char}
    (firstType : TypeText first)
    (secondListed : ListedText second) :
    TypeText (first ++ second) where
  toListedText := firstType.toListedText.append secondListed
  noWildcard := by
    rw [List.head?_append_of_ne_nil _ firstType.notEmpty]
    exact firstType.noWildcard

theorem TypeText.primitive (kind : Primitive) :
    TypeText kind.name.toList where
  notEmpty := (SignaturePart.primitive kind).notEmpty
  bracketed := (SignaturePart.primitive kind).bracketed
  noWildcard := by
    cases kind <;> decide

theorem ClearName.typeText
    {name : String}
    (clear : ClearName name) :
    TypeText name.toList where
  notEmpty := by
    intro empty
    exact clear.notEmpty (String.toList_eq_nil_iff.mp empty)
  bracketed := .of_plain clear.noOpening clear.noClosing clear.noComma
  noWildcard := by
    intro wildcard
    exact clear.noQuestion (List.mem_of_mem_head? wildcard)

section Generic

theorem toList_genericText
    (base : String)
    {arguments : List String}
    (notEmpty : arguments ≠ []) :
    (genericText base arguments).toList =
      base.toList ++ '<' :: ([','].intercalate (arguments.map String.toList) ++ ['>']) := by
  rw [genericText, if_neg (by simp [notEmpty])]
  simp [String.toList_intercalate]

theorem listedText_enclosed
    {arguments : List String}
    (listed : ∀ argument ∈ arguments, ListedText argument.toList) :
    ListedText ('<' :: ([','].intercalate (arguments.map String.toList) ++ ['>'])) where
  notEmpty := List.cons_ne_nil _ _
  bracketed := by
    refine .of_enclosed (.intercalate (List.forall_mem_map.mpr ?_))
    intro argument present
    exact (listed argument present).bracketed.toBalanced

theorem TypeText.genericText
    {base : String}
    {arguments : List String}
    (baseType : TypeText base.toList)
    (listed : ∀ argument ∈ arguments, ListedText argument.toList) :
    TypeText (genericText base arguments).toList := by
  by_cases empty : arguments = []
  · rw [empty]
    exact baseType
  · rw [toList_genericText base empty]
    exact baseType.append (listedText_enclosed listed)

/-- Only a generic type with arguments has a bracket in its text. -/
theorem mem_genericText_iff
    {base : String}
    {arguments : List String}
    (unmarked : '<' ∉ base.toList) :
    '<' ∈ (genericText base arguments).toList ↔ arguments ≠ [] := by
  by_cases empty : arguments = []
  · rw [empty]
    exact iff_of_false unmarked (fun notEmpty => notEmpty rfl)
  · rw [toList_genericText base empty]
    exact iff_of_true (List.mem_append_right _ List.mem_cons_self) empty

/-- The base name ends at the first bracket, and the arguments are read back one by one. -/
theorem genericText_inj
    {firstBase secondBase : String}
    {first second : List String}
    (firstUnmarked : '<' ∉ firstBase.toList)
    (secondUnmarked : '<' ∉ secondBase.toList)
    (firstListed : ∀ argument ∈ first, ListedText argument.toList)
    (secondListed : ∀ argument ∈ second, ListedText argument.toList)
    (same : genericText firstBase first = genericText secondBase second) :
    firstBase = secondBase ∧ first = second := by
  have alike : first ≠ [] ↔ second ≠ [] := by
    rw [← mem_genericText_iff firstUnmarked, ← mem_genericText_iff secondUnmarked, same]
  by_cases empty : first = []
  · have otherEmpty : second = [] := by
      by_contra notEmpty
      exact alike.mpr notEmpty empty
    subst empty otherEmpty
    exact ⟨same, rfl⟩
  · have written := congrArg String.toList same
    rw [toList_genericText firstBase empty,
      toList_genericText secondBase (alike.mp empty)] at written
    obtain ⟨sameBase, sameRest⟩ := append_separator_inj
      (ne_append_of_not_mem firstUnmarked secondBase.toList)
      (ne_append_of_not_mem secondUnmarked firstBase.toList) written
    have firstTexts : ∀ text ∈ first.map String.toList, ListedText text :=
      List.forall_mem_map.mpr firstListed
    have secondTexts : ∀ text ∈ second.map String.toList, ListedText text :=
      List.forall_mem_map.mpr secondListed
    have sameTexts : first.map String.toList = second.map String.toList :=
      intercalate_inj
        (fun text present => (firstTexts text present).bracketed)
        (fun text present => (secondTexts text present).bracketed)
        (fun text present => (firstTexts text present).notEmpty)
        (fun text present => (secondTexts text present).notEmpty)
        (List.append_cancel_right sameRest)
    exact ⟨String.toList_injective sameBase,
      List.map_injective_iff.mpr (fun _ _ => String.toList_injective) sameTexts⟩

end Generic

/-- The text of an argument is made of the types in it. -/
theorem ErasedArgument.listedText
    {argument : ErasedArgument}
    (types : ∀ type ∈ argument.types, TypeText type.text.toList) :
    ListedText argument.text.toList := by
  cases argument with
  | exact type =>
      exact (types type (List.mem_singleton.mpr rfl)).toListedText
  | wildcard =>
      exact ⟨by decide, by decide⟩
  | upperBounded bound =>
      have opening : ListedText "? extends ".toList := ⟨by decide, by decide⟩
      have boundText := (types bound (List.mem_singleton.mpr rfl)).toListedText
      rw [ErasedArgument.text, String.toList_append]
      exact opening.append boundText
  | lowerBounded bound =>
      have opening : ListedText "? super ".toList := ⟨by decide, by decide⟩
      have boundText := (types bound (List.mem_singleton.mpr rfl)).toListedText
      rw [ErasedArgument.text, String.toList_append]
      exact opening.append boundText

theorem listedText_of_mem_erasedTexts
    {arguments : List ErasedArgument}
    (types : ∀ argument ∈ arguments, ∀ type ∈ argument.types, TypeText type.text.toList) :
    ∀ text ∈ erasedTexts arguments, ListedText text.toList := by
  rw [erasedTexts_eq_map]
  exact List.forall_mem_map.mpr fun argument present =>
    ErasedArgument.listedText (types argument present)

/-- Clear names make clear types, by induction on the type. -/
theorem ErasedType.Clear.typeText
    {type : ErasedType}
    (clear : type.Clear) :
    TypeText type.text.toList := by
  induction clear with
  | primitive kind =>
      rw [ErasedType.text]
      exact .primitive kind
  | named clearName _ inductionHypothesis =>
      rw [ErasedType.text]
      exact .genericText clearName.typeText (listedText_of_mem_erasedTexts inductionHypothesis)

/-- An argument is no type of its own. -/
def ErasedArgument.IsWildcard (argument : ErasedArgument) : Prop :=
  ∀ type, argument ≠ .exact type

theorem ErasedArgument.IsWildcard.head?_text
    {argument : ErasedArgument}
    (wildcard : argument.IsWildcard) :
    argument.text.toList.head? = some '?' := by
  cases argument with
  | exact type =>
      exact (wildcard type rfl).elim
  | wildcard =>
      rfl
  | upperBounded bound =>
      simp [ErasedArgument.text]
  | lowerBounded bound =>
      simp [ErasedArgument.text]

/-- Wildcards differ in their third character, if they are not bounded in the same way. -/
theorem ErasedArgument.IsWildcard.text_inj
    {first second : ErasedArgument}
    (firstWild : first.IsWildcard)
    (secondWild : second.IsWildcard)
    (inner : ∀ type ∈ first.types, ∀ other ∈ second.types,
      type.text = other.text → type = other)
    (same : first.text = second.text) :
    first = second := by
  have sameThird := congrArg (fun text => text.toList[2]?) same
  cases first with
  | exact type =>
      exact (firstWild type rfl).elim
  | wildcard =>
      cases second with
      | exact other =>
          exact (secondWild other rfl).elim
      | wildcard =>
          rfl
      | upperBounded other | lowerBounded other =>
          simp [ErasedArgument.text] at sameThird
  | upperBounded bound =>
      cases second with
      | exact other =>
          exact (secondWild other rfl).elim
      | upperBounded other =>
          have sameBound : bound.text = other.text := by
            simpa [ErasedArgument.text] using same
          rw [inner bound (List.mem_singleton.mpr rfl) other (List.mem_singleton.mpr rfl)
            sameBound]
      | wildcard | lowerBounded other =>
          simp [ErasedArgument.text] at sameThird
  | lowerBounded bound =>
      cases second with
      | exact other =>
          exact (secondWild other rfl).elim
      | lowerBounded other =>
          have sameBound : bound.text = other.text := by
            simpa [ErasedArgument.text] using same
          rw [inner bound (List.mem_singleton.mpr rfl) other (List.mem_singleton.mpr rfl)
            sameBound]
      | wildcard | upperBounded other =>
          simp [ErasedArgument.text] at sameThird

/-- A type cannot be taken for a wildcard. -/
theorem ErasedArgument.text_inj
    {first second : ErasedArgument}
    (firstTypes : ∀ type ∈ first.types, TypeText type.text.toList)
    (secondTypes : ∀ type ∈ second.types, TypeText type.text.toList)
    (inner : ∀ type ∈ first.types, ∀ other ∈ second.types,
      type.text = other.text → type = other)
    (same : first.text = second.text) :
    first = second := by
  by_cases firstWild : first.IsWildcard
  · by_cases secondWild : second.IsWildcard
    · exact firstWild.text_inj secondWild inner same
    · obtain ⟨other, isType⟩ := not_forall_not.mp secondWild
      subst isType
      have head := firstWild.head?_text
      rw [same] at head
      exact ((secondTypes other (List.mem_singleton.mpr rfl)).noWildcard head).elim
  · obtain ⟨type, isType⟩ := not_forall_not.mp firstWild
    subst isType
    by_cases secondWild : second.IsWildcard
    · have head := secondWild.head?_text
      rw [← same] at head
      exact ((firstTypes type (List.mem_singleton.mpr rfl)).noWildcard head).elim
    · obtain ⟨other, isType⟩ := not_forall_not.mp secondWild
      subst isType
      rw [inner type (List.mem_singleton.mpr rfl) other (List.mem_singleton.mpr rfl) same]

/-- Arguments with the same texts are the same one by one. -/
theorem eq_of_erasedTexts_eq
    {first second : List ErasedArgument}
    (each : ∀ argument ∈ first, ∀ other ∈ second,
      argument.text = other.text → argument = other)
    (same : erasedTexts first = erasedTexts second) :
    first = second := by
  induction first generalizing second with
  | nil =>
      cases second with
      | nil =>
          rfl
      | cons other others =>
          cases same
  | cons argument rest inductionHypothesis =>
      cases second with
      | nil =>
          cases same
      | cons other others =>
          rw [erasedTexts, erasedTexts] at same
          obtain ⟨sameText, sameRest⟩ := List.cons.inj same
          have heads := each argument List.mem_cons_self other List.mem_cons_self sameText
          have tails : rest = others := by
            refine inductionHypothesis ?_ sameRest
            intro later inRest otherLater inOthers
            exact each later (List.mem_cons_of_mem _ inRest) otherLater
              (List.mem_cons_of_mem _ inOthers)
          rw [heads, tails]

/-- A primitive is not spelled like a type with a clear name. -/
theorem ClearName.genericText_ne
    {name : String}
    (clear : ClearName name)
    (arguments : List String)
    (kind : Primitive) :
    genericText name arguments ≠ kind.name := by
  intro same
  have unmarked : '<' ∉ kind.name.toList := by
    cases kind <;> decide
  have bare : arguments = [] := by
    by_contra applied
    apply unmarked
    rw [← same]
    exact (mem_genericText_iff clear.noOpening).mpr applied
  subst bare
  apply clear.notPrimitive
  have isName : name = kind.name := same
  rw [isName]
  cases kind <;> decide

/-- The text of a clear type determines the type, by induction on one of the two. -/
theorem ErasedType.Clear.text_inj
    {first second : ErasedType}
    (firstClear : first.Clear)
    (secondClear : second.Clear)
    (same : first.text = second.text) :
    first = second := by
  induction firstClear generalizing second with
  | primitive kind =>
      cases secondClear with
      | primitive other =>
          rw [Primitive.eq_of_name same]
      | named clearName _ =>
          exact (clearName.genericText_ne _ kind same.symm).elim
  | @named name arguments clearName types inductionHypothesis =>
      cases secondClear with
      | primitive other =>
          exact (clearName.genericText_ne _ other same).elim
      | @named otherName otherArguments otherClear otherTypes =>
          have firstTexts := fun argument present type inside =>
            (types argument present type inside).typeText
          have secondTexts := fun argument present type inside =>
            (otherTypes argument present type inside).typeText
          obtain ⟨sameName, sameTexts⟩ := genericText_inj
            clearName.noOpening otherClear.noOpening
            (listedText_of_mem_erasedTexts firstTexts)
            (listedText_of_mem_erasedTexts secondTexts) same
          have sameArguments : arguments = otherArguments := by
            refine eq_of_erasedTexts_eq ?_ sameTexts
            intro argument present other otherPresent
            refine ErasedArgument.text_inj (firstTexts argument present)
              (secondTexts other otherPresent) ?_
            intro type inside otherType otherInside
            exact inductionHypothesis argument present type inside
              (otherTypes other otherPresent otherType otherInside)
          rw [sameName, sameArguments]

end JavaOutline
