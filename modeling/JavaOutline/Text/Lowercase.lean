import JavaOutline.Text.LetterCase

namespace JavaOutline.Text

/-!
# Lower case

The full lower-case form of a text. Two characters have a form that no table
of single characters gives: a capital I with a dot above becomes two
characters, and a capital sigma becomes a final sigma where it ends a word.
-/

/-- The lower-case form of a character regarded alone. -/
def lowerChar (character : Char) : List Char :=
  if character = 'İ' then
    ['i', '\u0307']
  else
    match caseRuns.findSome? (fun run => run.lower? character.toNat) with
    | some code => [Char.ofNat code]
    | none => [character]

/-- The nearest character that is not passed over has case. -/
def nearestIsCased (characters : List Char) : Bool :=
  match characters.dropWhile caseIgnorable.holds with
  | [] => false
  | character :: _ => cased.holds character

/--
A position ends a word when a letter with case comes before it and none
follows. The characters before the position are given from the nearest on.
-/
def endsWord (before after : List Char) : Bool :=
  nearestIsCased before && !nearestIsCased after

/-- Lower case of characters that follow the characters `before`, nearest first. -/
def lowercaseFrom (before : List Char) : List Char → List Char
  | [] => []
  | character :: rest =>
      (if character = 'Σ' then
        [if endsWord before rest then 'ς' else 'σ']
      else
        lowerChar character) ++
        lowercaseFrom (character :: before) rest

/-- Lower case of a list of characters. -/
def lowercaseChars (characters : List Char) : List Char :=
  lowercaseFrom [] characters

/-- Lower case of a text. -/
def lowercase (text : String) : String :=
  String.ofList (lowercaseChars text.toList)

end JavaOutline.Text
