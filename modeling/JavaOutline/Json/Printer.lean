import JavaOutline.Json.Value
import JavaOutline.Text.Hex

namespace JavaOutline.Json

/-!
# Writing JSON

The written form is plain ASCII. Lists and objects take one line for each item
and are indented by two spaces for each level; empty ones stay on one line.
-/

/-- A sixteen-bit unit as an escape. -/
def unitEscape (unit : Nat) : List Char :=
  ['\\', 'u'] ++ Text.hexDigits 4 unit

/-- An escape by number; above the basic plane it is a pair of surrogate units. -/
def numberEscape (code : Nat) : List Char :=
  if code < 0x10000 then
    unitEscape code
  else
    unitEscape (0xD800 + (code - 0x10000) / 0x400) ++
      unitEscape (0xDC00 + (code - 0x10000) % 0x400)

/-- A character that stands for itself inside a written text. -/
def isPlain (character : Char) : Bool :=
  0x20 ≤ character.toNat && character.toNat ≤ 0x7E &&
    character != '\x22' && character != '\\'

/-- The short escapes. -/
def shortEscape? (character : Char) : Option Char :=
  if character = '\x22' then some '\x22'
  else if character = '\\' then some '\\'
  else if character = '\n' then some 'n'
  else if character = '\r' then some 'r'
  else if character = '\t' then some 't'
  else if character = '\x0c' then some 'f'
  else if character = '\x08' then some 'b'
  else none

/-- One character of a written text. -/
def writeChar (character : Char) : List Char :=
  if isPlain character then
    [character]
  else
    match shortEscape? character with
    | some letter => ['\\', letter]
    | none => numberEscape character.toNat

/-- A text between double quotes. -/
def writeText (text : String) : List Char :=
  '\x22' :: (text.toList.flatMap writeChar ++ ['\x22'])

/-- A new line at a level of indentation. -/
def newLine (level : Nat) : List Char :=
  '\n' :: List.replicate (2 * level) ' '

mutual

/-- The written form of a value whose brackets stand at a level of indentation. -/
def write (level : Nat) : Json → List Char
  | .null => ['n', 'u', 'l', 'l']
  | .bool true => ['t', 'r', 'u', 'e']
  | .bool false => ['f', 'a', 'l', 's', 'e']
  | .text value => writeText value
  | .list [] => ['[', ']']
  | .list (item :: rest) =>
      '[' :: (newLine (level + 1) ++ write (level + 1) item ++
        writeItems (level + 1) rest ++ newLine level ++ [']'])
  | .object [] => ['\x7b', '\x7d']
  | .object ((key, value) :: rest) =>
      '\x7b' :: (newLine (level + 1) ++ writeText key ++ [':', ' '] ++
        write (level + 1) value ++
        writeMembers (level + 1) rest ++ newLine level ++ ['\x7d'])

/-- The items of a list after its first. -/
def writeItems (level : Nat) : List Json → List Char
  | [] => []
  | item :: rest =>
      ',' :: (newLine level ++ write level item ++ writeItems level rest)

/-- The members of an object after its first. -/
def writeMembers (level : Nat) : List (String × Json) → List Char
  | [] => []
  | (key, value) :: rest =>
      ',' :: (newLine level ++ writeText key ++ [':', ' '] ++ write level value ++
        writeMembers level rest)

end

/-- The written form of a value. -/
def render (value : Json) : String :=
  String.ofList (write 0 value)

end JavaOutline.Json
