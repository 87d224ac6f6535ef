import JavaOutline.Text.Hex
import JavaOutline.Text.Printable

namespace JavaOutline.Text

/-!
# Quoted texts

How a text is shown inside a message: between quotes, on one line, with every
character that has no visible form written as an escape.
-/

/-- The apostrophe. -/
def singleQuote : Char := '\x27'

/-- The straight double quotation mark. -/
def doubleQuote : Char := '\x22'

/-- Single quotes enclose a text, unless it holds some and no double quote. -/
def quoteMark (characters : List Char) : Char :=
  if characters.contains singleQuote && !characters.contains doubleQuote then
    doubleQuote
  else
    singleQuote

/-- An escape by number: two, four or eight digits, as many as the number needs. -/
def numberEscape (code : Nat) : List Char :=
  if code < 0x100 then
    ['\\', 'x'] ++ hexDigits 2 code
  else if code < 0x10000 then
    ['\\', 'u'] ++ hexDigits 4 code
  else
    ['\\', 'U'] ++ hexDigits 8 code

/-- One character of a text enclosed by `mark`. -/
def quoteChar (mark character : Char) : List Char :=
  if character = mark || character = '\\' then
    ['\\', character]
  else if character = '\t' then
    ['\\', 't']
  else if character = '\n' then
    ['\\', 'n']
  else if character = '\r' then
    ['\\', 'r']
  else if printable.holds character then
    [character]
  else
    numberEscape character.toNat

/-- A text between quotes. -/
def quote (text : String) : String :=
  let mark := quoteMark text.toList
  String.ofList (mark :: (text.toList.flatMap (quoteChar mark) ++ [mark]))

end JavaOutline.Text
