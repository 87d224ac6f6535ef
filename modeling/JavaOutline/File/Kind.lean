import JavaOutline.Declaration
import JavaOutline.File.Path
import JavaOutline.Text.Lowercase

namespace JavaOutline

/-!
# Kinds of files

What is done with a file depends on its extension alone, regardless of case.
-/

/-- What a file is to a scan. -/
inductive FileKind where
  /-- Source that can be outlined. -/
  | extractable
  /-- Source in a language that cannot be outlined yet. -/
  | notImplemented
  /-- Data, documents and binaries. -/
  | nonSource
  | unknown
  deriving Repr, DecidableEq

/-- The identifier of a kind of file. -/
def FileKind.name : FileKind → String
  | extractable => "extractable"
  | notImplemented => "not_implemented"
  | nonSource => "non_source"
  | unknown => "unknown"

/-- Which extensions mean what, and the package of files that declare none. -/
structure ScanConfig where
  extractable : List (String × Language)
  pending : List String
  nonSource : List String
  defaultPackage : String
  deriving Repr, DecidableEq

namespace ScanConfig

/-- The extensions of sources in languages that cannot be outlined yet. -/
def pendingExtensions : List String :=
  [".cs", ".h", ".hxx", ".hpp", ".cpp", ".c", ".cc", ".m", ".py", ".py3", ".js", ".jsx", ".kt",
    ".sol", ".ts", ".sc", ".rs", ".go", ".clj", ".cxx", ".el", ".lua", ".m4", ".php", ".pl",
    ".rb", ".sh", ".swift", ".vb"]

/-- The extensions of files that are not source. -/
def nonSourceExtensions : List String :=
  [".txt", ".md", ".html", ".json", ".xml", ".sql", ".yaml", ".hbs", ".vcxproj", ".xcodeproj",
    ".csproj", ".diff", ".patch", ".log", ".rtf", ".tex", ".odt", ".org", ".pdf", ".rst", ".wpd",
    ".wps", ".po", ".class", ".jar", ".war", ".ear", ".dll", ".exe", ".so", ".lib", ".a"]

/-- The usual meaning of extensions. -/
def standard (defaultPackage : String) : ScanConfig where
  extractable := [(".java", .java)]
  pending := pendingExtensions
  nonSource := nonSourceExtensions
  defaultPackage := defaultPackage

/-- What becomes of a file with a given extension; earlier tables go before later ones. -/
def kindOfExtension (config : ScanConfig) (extension : String) : FileKind :=
  if config.extractable.any (fun entry => entry.1 == extension) then
    .extractable
  else if config.pending.contains extension then
    .notImplemented
  else if config.nonSource.contains extension then
    .nonSource
  else
    .unknown

/-- What becomes of the file at a path. -/
def classify (config : ScanConfig) (path : String) : FileKind :=
  config.kindOfExtension (Text.lowercase (Path.extension path))

end ScanConfig

/-- Parts of a scan configuration to be replaced. -/
structure ScanOverrides where
  extractable : Option (List (String × Language)) := none
  pending : Option (List String) := none
  nonSource : Option (List String) := none
  defaultPackage : Option String := none
  deriving Repr, DecidableEq

/-- Replace parts of a configuration. Lists of extensions are kept without repetitions. -/
def ScanConfig.override (config : ScanConfig) (changes : ScanOverrides) : ScanConfig where
  extractable := changes.extractable.getD config.extractable
  pending := (changes.pending.getD config.pending).eraseDups
  nonSource := (changes.nonSource.getD config.nonSource).eraseDups
  defaultPackage := changes.defaultPackage.getD config.defaultPackage

end JavaOutline
