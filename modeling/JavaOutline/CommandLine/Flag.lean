namespace JavaOutline.CommandLine

/-!
# Options of the command line
-/

/-- The options. -/
inductive Flag where
  | help
  | package
  | json
  | verbose
  | logFile
  deriving Repr, DecidableEq

namespace Flag

/-- Every option, in the order in which they are explained. -/
def all : List Flag :=
  [help, package, json, verbose, logFile]

/-- The ways of writing an option. -/
def spellings : Flag → List String
  | help => ["-h", "--help"]
  | package => ["--package"]
  | json => ["--json"]
  | verbose => ["-v", "--verbose"]
  | logFile => ["--log-file"]

/-- The option in messages. -/
def label (flag : Flag) : String :=
  "/".intercalate flag.spellings

/-- The option has to be followed by a value. -/
def takesValue : Flag → Bool
  | package => true
  | logFile => true
  | help => false
  | json => false
  | verbose => false

/-- Every spelling together with its option. -/
def spelled : List (String × Flag) :=
  all.flatMap (fun flag => flag.spellings.map (fun spelling => (spelling, flag)))

/-- The option with a given spelling. -/
def ofSpelling? (spelling : String) : Option Flag :=
  (spelled.find? (fun entry => entry.1 == spelling)).map Prod.snd

end Flag

end JavaOutline.CommandLine
