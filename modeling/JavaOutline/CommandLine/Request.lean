import JavaOutline.CommandLine.Word

namespace JavaOutline.CommandLine

/-!
# Requests

What a command line asks for. Words are taken from left to right, and asking
for help ends the reading at once; words that are left over are an error only
at the end.
-/

/-- What a run is to do. -/
structure Arguments where
  path : Option String := none
  package : FlagValue := .text ""
  json : Bool := false
  verbose : Bool := false
  logFile : Option FlagValue := none
  deriving Repr, DecidableEq

/-- What a command line asks for. -/
inductive Request where
  | help
  | run (arguments : Arguments)
  deriving Repr, DecidableEq

/-- Switch an option without a value on; none for the option that asks for help. -/
def Arguments.switch? (arguments : Arguments) : Flag → Option Arguments
  | .help => none
  | .json => some { arguments with json := true }
  | .verbose => some { arguments with verbose := true }
  | .package => some arguments
  | .logFile => some arguments

/-- Set the value of an option; a later value replaces an earlier one. -/
def Arguments.set (arguments : Arguments) (value : FlagValue) : Flag → Arguments
  | .package => { arguments with package := value }
  | .logFile => { arguments with logFile := some value }
  | .help => arguments
  | .json => arguments
  | .verbose => arguments

/-- Switch options on in order; none as soon as one asks for help. -/
def Arguments.switchAll? (arguments : Arguments) : List Flag → Option Arguments
  | [] => some arguments
  | flag :: rest => (arguments.switch? flag).bind (fun switched => switched.switchAll? rest)

/--
The one-letter options that are joined in one word: `flag`, and then those in
the rest of the word. A letter that is no option is taken for a value, which
the option before it does not take.
-/
def cluster (flag : Flag) : List Char → Except UsageError (List Flag)
  | [] => .ok [flag]
  | letter :: rest =>
      match Flag.ofSpelling? (String.ofList ['-', letter]) with
      | some next => (cluster next rest).map (fun others => flag :: others)
      | none => .error (.valueIgnored flag (String.ofList (letter :: rest)))

/-- The options without values that a word switches on. -/
def switches (flag : Flag) (short : Bool) : Option String → Except UsageError (List Flag)
  | none => .ok [flag]
  | some value =>
      if short && value != "" then
        cluster flag value.toList
      else
        .error (.valueIgnored flag value)

/-- How far the reading has come: the arguments so far and the words left over. -/
structure Progress where
  arguments : Arguments
  leftOver : List String

/-- The request once all words are read. -/
def Progress.finish (progress : Progress) : Except UsageError Request :=
  if progress.leftOver.isEmpty then
    .ok (.run progress.arguments)
  else
    .error (.unrecognized progress.leftOver)

/-- Leave a word over. -/
def Progress.leave (progress : Progress) (word : String) : Progress :=
  { progress with leftOver := progress.leftOver ++ [word] }

/-- Change the arguments. -/
def Progress.withArguments (progress : Progress) (arguments : Arguments) : Progress :=
  { progress with arguments := arguments }

/-- Switch on the options in a word; nothing remains to be read once help is asked for. -/
def switchWord
    (progress : Progress)
    (flag : Flag)
    (short : Bool)
    (value : Option String) :
    Except UsageError (Option Progress) := do
  let flags ← switches flag short value
  .ok ((progress.arguments.switchAll? flags).map progress.withArguments)

/--
Read the remaining words. The first operand is the path. A divider next to it
is dropped; one that comes later is left over like any other word.
-/
def Progress.read (progress : Progress) : List Word → Except UsageError Request
  | [] => progress.finish
  | .operand text :: .divider :: rest =>
      match progress.arguments.path with
      | some _ => ((progress.leave text).leave "--").read rest
      | none =>
          (progress.withArguments { progress.arguments with path := some text }).read rest
  | .operand text :: rest =>
      match progress.arguments.path with
      | some _ => (progress.leave text).read rest
      | none =>
          (progress.withArguments { progress.arguments with path := some text }).read rest
  | .divider :: rest =>
      match progress.arguments.path with
      | some _ => (progress.leave "--").read rest
      | none => progress.read rest
  | .unknown text :: rest => (progress.leave text).read rest
  | .option flag short (some value) :: rest =>
      if flag.takesValue then
        (progress.withArguments (progress.arguments.set (.ofJoined value) flag)).read rest
      else
        match switchWord progress flag short (some value) with
        | .error fault => .error fault
        | .ok none => .ok .help
        | .ok (some switched) => switched.read rest
  | .option flag short none :: .operand text :: rest =>
      if flag.takesValue then
        (progress.withArguments (progress.arguments.set (.text text) flag)).read rest
      else
        match switchWord progress flag short none with
        | .error fault => .error fault
        | .ok none => .ok .help
        | .ok (some switched) => switched.read (.operand text :: rest)
  | .option flag short none :: rest =>
      if flag.takesValue then
        .error (.valueMissing flag)
      else
        match switchWord progress flag short none with
        | .error fault => .error fault
        | .ok none => .ok .help
        | .ok (some switched) => switched.read rest

/-- What the words of a command line ask for. -/
def request (words : List String) : Except UsageError Request := do
  let read ← readWords words
  Progress.read ⟨{}, []⟩ read

end JavaOutline.CommandLine
