import JavaOutline.CommandLine.Flag
import JavaOutline.Text.Digit
import JavaOutline.Text.Quoted

namespace JavaOutline.CommandLine

/-!
# Words of the command line

Each word is an option, an operand, or the divider after which every word is
an operand. Long options may be cut short as long as only one option begins
so, and a value may be joined to a word by an equals sign.
-/

/-- What is wrong with a command line. -/
inductive UsageError where
  /-- The word begins several options alike. -/
  | ambiguous (word : String) (candidates : List String)
  /-- The option is not followed by a value. -/
  | valueMissing (flag : Flag)
  /-- The option is given a value and takes none. -/
  | valueIgnored (flag : Flag) (value : String)
  /-- Words are left over. -/
  | unrecognized (words : List String)
  deriving Repr, DecidableEq

/-- The wording of a usage error. -/
def UsageError.message : UsageError → String
  | ambiguous word candidates =>
      "ambiguous option: " ++ word ++ " could match " ++ ", ".intercalate candidates
  | valueMissing flag => "argument " ++ flag.label ++ ": expected one argument"
  | valueIgnored flag value =>
      "argument " ++ flag.label ++ ": ignored explicit argument " ++ Text.quote value
  | unrecognized words => "unrecognized arguments: " ++ " ".intercalate words

/-- The value of an option. -/
inductive FlagValue where
  | text (value : String)
  /-- A double dash, which stands for no words and is nothing of its own as a value. -/
  | nothing
  deriving Repr, DecidableEq

/-- The value that is joined to an option. -/
def FlagValue.ofJoined (value : String) : FlagValue :=
  if value = "--" then .nothing else .text value

/-- What a word stands for. -/
inductive Word where
  | operand (text : String)
  /-- The first double dash. -/
  | divider
  /-- An option, whether it is written with one dash, and a value joined to it. -/
  | option (flag : Flag) (short : Bool) (value : Option String)
  /-- A word that looks like an option and is none. -/
  | unknown (text : String)
  deriving Repr, DecidableEq

/-- The parts of a word before and after its first equals sign. -/
def splitValue (word : List Char) : List Char × Option (List Char) :=
  let before := word.takeWhile (fun character => character != '=')
  match word.dropWhile (fun character => character != '=') with
  | [] => (before, none)
  | _ :: value => (before, some value)

/-- Digits, at least one. -/
def isDigits (characters : List Char) : Bool :=
  !characters.isEmpty && characters.all Text.isDecimalDigit

/-- A number as written after a minus sign; digits before a decimal point may be left out. -/
def isUnsignedNumber (characters : List Char) : Bool :=
  isDigits characters ||
    match characters.dropWhile Text.isDecimalDigit with
    | '.' :: fraction => isDigits fraction
    | _ => false

/-- A negative number, which is an operand although it starts with a dash. -/
def isNegativeNumber (word : List Char) : Bool :=
  match word with
  | '-' :: number =>
      isUnsignedNumber number ||
        (number.getLast? == some '\n' && isUnsignedNumber number.dropLast)
  | _ => false

/-- The spellings that a word written with two dashes begins, and the value joined to it. -/
def longCandidates (word : List Char) : List (String × Flag × Option String) :=
  let parts := splitValue word
  (Flag.spelled.filter (fun entry => parts.1.isPrefixOf entry.1.toList)).map fun entry =>
    (entry.1, entry.2, parts.2.map String.ofList)

/-- The one-letter option that a word starts with, the rest of the word being its value. -/
def shortCandidates (word : List Char) : List (String × Flag × Option String) :=
  (Flag.spelled.filter (fun entry => entry.1.toList == word.take 2)).map fun entry =>
    (entry.1, entry.2, some (String.ofList (word.drop 2)))

/-- A spelling has one dash only. -/
def isShort (spelling : String) : Bool :=
  match spelling.toList with
  | '-' :: '-' :: _ => false
  | _ => true

/-- Understand a word that starts with a dash and is no spelling of an option. -/
def readDashed (word : List Char) : Except UsageError Word :=
  let text := String.ofList word
  let candidates := if isShort text then shortCandidates word else longCandidates word
  match candidates with
  | [(spelling, flag, value)] => .ok (.option flag (isShort spelling) value)
  | [] =>
      if isNegativeNumber word || word.contains ' ' then
        .ok (.operand text)
      else
        .ok (.unknown text)
  | several => .error (.ambiguous text (several.map Prod.fst))

/-- Understand a word before the divider. -/
def readWord (text : String) : Except UsageError Word :=
  match text.toList with
  | '-' :: second :: rest =>
      match Flag.ofSpelling? text with
      | some flag => .ok (.option flag (isShort text) none)
      | none =>
          let parts := splitValue text.toList
          match parts.2, Flag.ofSpelling? (String.ofList parts.1) with
          | some value, some flag =>
              .ok (.option flag (isShort text) (some (String.ofList value)))
          | _, _ => readDashed ('-' :: second :: rest)
  | _ => .ok (.operand text)

/-- Understand the words of a command line. -/
def readWords : List String → Except UsageError (List Word)
  | [] => .ok []
  | text :: rest =>
      if text = "--" then
        .ok (.divider :: rest.map .operand)
      else do
        let first ← readWord text
        let others ← readWords rest
        .ok (first :: others)

end JavaOutline.CommandLine
