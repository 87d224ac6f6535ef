import JavaOutline.CommandLine.Word
import JavaOutline.Text.Line

namespace JavaOutline.CommandLine

/-!
# Usage and help
-/

/-- The name of the program. -/
def programName : String := "decl-index"

/-- The lines that show how the program is called. -/
def usageLines : List String :=
  ["usage: decl-index [-h] [--package PACKAGE] [--json] [-v] [--log-file LOG_FILE]",
    "                  [path]"]

/-- The lines of the help. -/
def helpLines : List String :=
  usageLines ++
    ["",
      "Extract classes, methods and fields from Java sources.",
      "",
      "positional arguments:",
      "  path                 Java file or directory (defaults to a built-in sample).",
      "",
      "options:",
      "  -h, --help           show this help message and exit",
      "  --package PACKAGE    Package for files without a package declaration.",
      "  --json               Print JSON instead of a summary.",
      "  -v, --verbose        Increase log verbosity.",
      "  --log-file LOG_FILE  Also write logs to this file."]

/-- The help. -/
def helpText : String :=
  Text.ofLines helpLines

/-- What is printed for a command line that cannot be understood. -/
def UsageError.report (fault : UsageError) : String :=
  Text.ofLines (usageLines ++ [programName ++ ": error: " ++ fault.message])

end JavaOutline.CommandLine
