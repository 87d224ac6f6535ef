namespace JavaOutline.Text

/-!
# Lines of text
-/

/--
A character that ends a line: line feed, carriage return, vertical tab, form
feed, the file, group and record separators, next line, and the Unicode line
and paragraph separators. The unit separator does not end a line.
-/
def isLineBreak (character : Char) : Bool :=
  let code := character.toNat
  (0x0A ≤ code && code ≤ 0x0D) || (0x1C ≤ code && code ≤ 0x1E) ||
    code == 0x85 || code == 0x2028 || code == 0x2029

/-- The characters before the first line break. -/
def firstLineChars (characters : List Char) : List Char :=
  characters.takeWhile (fun character => !isLineBreak character)

/-- Write every line end, be it `\r\n`, a lone `\r` or `\n`, as `\n`. -/
def unifyNewlines : List Char → List Char
  | [] => []
  | '\r' :: '\n' :: rest => '\n' :: unifyNewlines rest
  | '\r' :: rest => '\n' :: unifyNewlines rest
  | character :: rest => character :: unifyNewlines rest

/-- The text of lines that each end with a line feed. -/
def ofLines (lines : List String) : String :=
  String.join (lines.map (fun line => line ++ "\n"))

end JavaOutline.Text
