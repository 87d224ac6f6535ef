namespace JavaOutline

/-!
# Sorting by name

Names are compared character by character, by code point; a name comes after
every name that it continues.
-/

/-- A list of characters comes before another. -/
def charsBefore : List Char → List Char → Bool
  | _, [] => false
  | [], _ :: _ => true
  | first :: firstRest, second :: secondRest =>
      if first = second then
        charsBefore firstRest secondRest
      else
        first.toNat < second.toNat

/-- A name comes before another. -/
def nameBefore (first second : String) : Bool :=
  charsBefore first.toList second.toList

variable {Item : Type}

/-- Put an item before the first one whose name does not come before its own. -/
def insertBy (nameOf : Item → String) (item : Item) : List Item → List Item
  | [] => [item]
  | first :: rest =>
      if nameBefore (nameOf first) (nameOf item) then
        first :: insertBy nameOf item rest
      else
        item :: first :: rest

/-- Items in the order of their names. -/
def sortBy (nameOf : Item → String) : List Item → List Item
  | [] => []
  | item :: rest => insertBy nameOf item (sortBy nameOf rest)

/-- Names in order. -/
def sortNames (names : List String) : List String :=
  sortBy id names

/-- Entries in the order of their names. -/
def sortByName (entries : List (String × Item)) : List (String × Item) :=
  sortBy Prod.fst entries

end JavaOutline
