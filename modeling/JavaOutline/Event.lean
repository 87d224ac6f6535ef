import JavaOutline.Issue
import JavaOutline.Name

namespace JavaOutline

/-!
# Events worth a log record

Whatever the program tells about its work is an event. Events are turned into
records only when they are written, so nothing is decided by message texts.
-/

/-- How important a log record is. -/
inductive Level where
  | debug
  | info
  | warning
  | error
  | critical
  deriving Repr, DecidableEq

namespace Level

/-- Every level, from the least important on. -/
def all : List Level :=
  [debug, info, warning, error, critical]

/-- The number by which levels are compared. -/
def rank : Level → Nat
  | debug => 10
  | info => 20
  | warning => 30
  | error => 40
  | critical => 50

/-- The name of a level in log lines. -/
def name : Level → String
  | debug => "DEBUG"
  | info => "INFO"
  | warning => "WARNING"
  | error => "ERROR"
  | critical => "CRITICAL"

/-- The level with a given name. -/
def ofName? (name : String) : Option Level :=
  all.find? (fun level => level.name == name)

end Level

/-- A message from one part of the program. -/
structure LogRecord where
  level : Level
  logger : String
  message : String
  deriving Repr, DecidableEq

/-- The logger above all others. -/
def rootLogger : String := "decl_index"

/-- The logger for a part of the program; an empty name stands for the whole of it. -/
def loggerFor (part : String) : String :=
  if part = "" then rootLogger else rootLogger ++ "." ++ part

/-- The advice given when the grammar is not there. -/
def grammarAdvice : String :=
  "Could not load Java grammar.\n- Install `tree-sitter-java` (pip install tree-sitter-java)."

/-- Something that happened on the way from files to outlines. -/
inductive Event where
  /-- A method declares exceptions, which the outline does not keep. -/
  | thrownIgnored (owner : ClassName) (method : String) (thrown : List String)
  /-- An annotation type is left out; `bodyLength` counts the characters of its body. -/
  | annotationSkipped (name : String) (bodyLength : Nat)
  /-- A class with this many members has been recorded. -/
  | extracted (name : ClassName) (kind : String) (members : Nat)
  /-- A source has been outlined. -/
  | outlined (path : String) (topLevel : Nat)
  /-- A source is turned down for its syntax. -/
  | syntaxRejected (path : String) (issues : List SyntaxIssue)
  /-- A source has a declaration that cannot be recorded. -/
  | declarationRejected (path : String) (missing : MissingPart)
  /-- A file is about to be outlined. -/
  | indexing (path : String)
  /-- A file is in a language that cannot be outlined yet. -/
  | noExtractor (path : String)
  /-- A file found by a scan cannot be read. -/
  | unreadable (path cause : String)
  /-- There is no grammar to parse with. -/
  | grammarMissing
  /-- Some of the files of a run failed. -/
  | runIncomplete (failed total : Nat)
  deriving Repr, DecidableEq

namespace Event

/-- How important an event is. -/
def level : Event → Level
  | thrownIgnored _ _ _ => .debug
  | annotationSkipped _ _ => .debug
  | extracted _ _ _ => .debug
  | outlined _ _ => .debug
  | syntaxRejected _ _ => .warning
  | declarationRejected _ _ => .warning
  | indexing _ => .info
  | noExtractor _ => .debug
  | unreadable _ _ => .warning
  | grammarMissing => .error
  | runIncomplete _ _ => .warning

/-- The part of the program that an event comes from. -/
def part : Event → String
  | thrownIgnored _ _ _ => "members"
  | annotationSkipped _ _ => "type_declarations"
  | extracted _ _ _ => "type_declarations"
  | outlined _ _ => "indexer"
  | syntaxRejected _ _ => "indexer"
  | declarationRejected _ _ => "indexer"
  | indexing _ => "scanning"
  | noExtractor _ => "scanning"
  | unreadable _ _ => "scanning"
  | grammarMissing => ""
  | runIncomplete _ _ => ""

/-- The wording of an event. -/
def message : Event → String
  | thrownIgnored owner method thrown =>
      owner.shortName ++ "." ++ method ++ " throws " ++ ", ".intercalate thrown ++
        " (not recorded)"
  | annotationSkipped name bodyLength =>
      "skipping annotation type @" ++ name ++ " (" ++ toString bodyLength ++
        " chars of body)"
  | extracted name kind members =>
      "extracted " ++ name.qualifiedName ++ " (" ++ kind ++ ") with " ++
        toString members ++ " member(s)"
  | outlined path topLevel =>
      path ++ ": " ++ toString topLevel ++ " top-level declaration(s)"
  | syntaxRejected path issues =>
      "Syntax error in " ++ path ++ ": " ++ summarizeIssues issues
  | declarationRejected path missing =>
      "Could not extract " ++ path ++ ": " ++ missing.message
  | indexing path => "Indexing " ++ path
  | noExtractor path => "No extractor yet for " ++ path
  | unreadable path cause => "Failed to read " ++ path ++ ": " ++ cause
  | grammarMissing => grammarAdvice
  | runIncomplete failed total =>
      toString failed ++ " of " ++ toString total ++ " file(s) failed to parse"

/-- The log record of an event. -/
def record (event : Event) : LogRecord :=
  ⟨event.level, loggerFor event.part, event.message⟩

end Event

end JavaOutline
