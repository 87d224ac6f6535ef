namespace JavaOutline

/-!
# Modifiers

A declaration carries a set of modifiers. Sets are kept as lists in the fixed
order of `Modifier.all`, so two sets with the same members are the same list.
-/

/-- The modifiers that a declaration can carry. -/
inductive Modifier where
  | publicAccess
  | privateAccess
  | protectedAccess
  | static
  | final
  | abstract
  | strict
  deriving Repr, DecidableEq

namespace Modifier

/-- Every modifier, in the order in which sets list them. -/
def all : List Modifier :=
  [publicAccess, privateAccess, protectedAccess, static, final, abstract, strict]

/-- Position in the order of listing. -/
def rank : Modifier → Nat
  | publicAccess => 0
  | privateAccess => 1
  | protectedAccess => 2
  | static => 3
  | final => 4
  | abstract => 5
  | strict => 6

/-- How the outline spells a modifier. -/
def name : Modifier → String
  | publicAccess => "public"
  | privateAccess => "private"
  | protectedAccess => "protected"
  | static => "static"
  | final => "final"
  | abstract => "abstract"
  | strict => "strict"

/-- The Java keyword for a modifier. -/
def keyword : Modifier → String
  | strict => "strictfp"
  | modifier => modifier.name

/-- The modifier with a given spelling. -/
def ofName? (name : String) : Option Modifier :=
  all.find? (fun modifier => modifier.name == name)

/-- The modifier that a Java keyword stands for. -/
def ofKeyword? (keyword : String) : Option Modifier :=
  all.find? (fun modifier => modifier.keyword == keyword)

theorem all_increasing :
    all.Pairwise (fun first second => first.rank < second.rank) := by
  decide

theorem mem_all (modifier : Modifier) : modifier ∈ all := by
  cases modifier <;> decide

end Modifier

/-- A set of modifiers, listed in strictly increasing order. -/
structure ModifierSet where
  toList : List Modifier
  increasing : toList.Pairwise (fun first second => first.rank < second.rank)
  deriving Repr, DecidableEq

namespace ModifierSet

/-- The set of the modifiers in a list, whatever their order and number. -/
def ofList (modifiers : List Modifier) : ModifierSet where
  toList := Modifier.all.filter (fun modifier => modifiers.contains modifier)
  increasing := Modifier.all_increasing.filter _

/-- The empty set. -/
def empty : ModifierSet :=
  ofList []

/-- The spellings of the members, in order. -/
def names (modifiers : ModifierSet) : List String :=
  modifiers.toList.map Modifier.name

@[simp] theorem mem_ofList
    {modifier : Modifier}
    {modifiers : List Modifier} :
    modifier ∈ (ofList modifiers).toList ↔ modifier ∈ modifiers := by
  simp [ofList, Modifier.mem_all]

end ModifierSet

end JavaOutline
