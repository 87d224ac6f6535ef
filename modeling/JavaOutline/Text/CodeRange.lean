namespace JavaOutline.Text

/-!
# Tables of code points

A character property is written as a list of ranges of code points, each given
by its first and its last member.
-/

/-- A table of code points, as ranges with both ends included. -/
abbrev CodeRanges := List (Nat × Nat)

/-- A character lies in one of the ranges. -/
def CodeRanges.holds (ranges : CodeRanges) (character : Char) : Bool :=
  ranges.any (fun range => range.1 ≤ character.toNat && character.toNat ≤ range.2)

end JavaOutline.Text
