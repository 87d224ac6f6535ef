namespace JavaOutline.Text

/-!
# Blank characters

A character is blank if Unicode gives it a white-space or separator class: the
controls from tab to carriage return and from file separator to unit
separator, next line, and every kind of space, the no-break spaces and the
line and paragraph separators included. Zero-width characters are not blank.
-/

/-- A character that separates words. -/
def isBlank (character : Char) : Bool :=
  let code := character.toNat
  (0x09 ≤ code && code ≤ 0x0D) || (0x1C ≤ code && code ≤ 0x20) ||
    code == 0x85 || code == 0xA0 || code == 0x1680 ||
    (0x2000 ≤ code && code ≤ 0x200A) ||
    code == 0x2028 || code == 0x2029 || code == 0x202F || code == 0x205F ||
    code == 0x3000

/-- Characters without the blanks at either end. -/
def stripChars (characters : List Char) : List Char :=
  ((characters.dropWhile isBlank).reverse.dropWhile isBlank).reverse

/-- Characters without any blank. -/
def compactChars (characters : List Char) : List Char :=
  characters.filter (fun character => !isBlank character)

/-- A text without the blanks at either end. -/
def strip (text : String) : String :=
  String.ofList (stripChars text.toList)

/-- A text without any blank, so that `java.util . List` reads `java.util.List`. -/
def compact (text : String) : String :=
  String.ofList (compactChars text.toList)

end JavaOutline.Text
