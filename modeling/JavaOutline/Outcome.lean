import JavaOutline.Declaration
import JavaOutline.Issue

namespace JavaOutline

/-!
# Outcomes of files

A file that declares nothing and a file that failed both have no
declarations; the status tells them apart. A catalog holds the outcomes of a
run by path, in the order in which the paths came up.
-/

/-- How outlining a file ended. -/
inductive Status where
  | parsed
  | syntaxError
  | extractionError
  deriving Repr, DecidableEq

namespace Status

/-- Every status, each once. -/
def all : List Status :=
  [parsed, syntaxError, extractionError]

/-- The identifier of a status in reports. -/
def name : Status → String
  | parsed => "parsed"
  | syntaxError => "syntax_error"
  | extractionError => "extraction_error"

/-- The status with a given identifier. -/
def ofName? (name : String) : Option Status :=
  all.find? (fun status => status.name == name)

end Status

/-- What outlining one file came to. -/
structure FileOutcome where
  file : String
  status : Status
  declarations : List ClassDecl
  issues : List SyntaxIssue
  message : Option String

namespace FileOutcome

/-- A file whose declarations are all recorded. -/
def parsed (file : String) (declarations : List ClassDecl) : FileOutcome :=
  ⟨file, .parsed, declarations, [], none⟩

/-- A file without recorded declarations. -/
def failed
    (file : String)
    (status : Status)
    (message : Option String)
    (issues : List SyntaxIssue) :
    FileOutcome :=
  ⟨file, status, [], issues, message⟩

/-- The file has been outlined. -/
def isParsed (outcome : FileOutcome) : Bool :=
  outcome.status == .parsed

/-- Every class of the file, at any depth. -/
def walk (outcome : FileOutcome) : List ClassDecl :=
  outcome.declarations.flatMap ClassDecl.walk

end FileOutcome

/-- Outcomes by path. -/
structure Catalog where
  entries : List (String × FileOutcome)

namespace Catalog

/-- No outcome. -/
def empty : Catalog :=
  ⟨[]⟩

/-- Replace the outcome of a path where it stands, or add it at the end. -/
def putEntry
    (path : String)
    (outcome : FileOutcome) :
    List (String × FileOutcome) → List (String × FileOutcome)
  | [] => [(path, outcome)]
  | entry :: rest =>
      if entry.1 = path then
        (path, outcome) :: rest
      else
        entry :: putEntry path outcome rest

/-- Set the outcome of a path. A path that is already there keeps its place. -/
def put (catalog : Catalog) (path : String) (outcome : FileOutcome) : Catalog :=
  ⟨putEntry path outcome catalog.entries⟩

/-- Set outcomes one after the other. -/
def ofList (entries : List (String × FileOutcome)) : Catalog :=
  entries.foldl (fun catalog entry => catalog.put entry.1 entry.2) .empty

/-- The number of outcomes that are failures. -/
def failures (catalog : Catalog) : Nat :=
  catalog.entries.countP (fun entry => !entry.2.isParsed)

end Catalog

end JavaOutline
