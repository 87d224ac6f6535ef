import JavaOutline.Node
import JavaOutline.Text.Line

namespace JavaOutline

/-!
# Syntax issues

A node marked as missing, or of the kind for unexpected input, is a place
where a source does not follow the Java grammar.
-/

/-- A place where a source is not well formed, and what is wrong there. -/
structure SyntaxIssue where
  point : Point
  message : String
  deriving Repr, DecidableEq

/-- The issue with its position, counted from one. -/
def SyntaxIssue.describe (issue : SyntaxIssue) : String :=
  "line " ++ toString (issue.point.row + 1) ++ ":" ++ toString (issue.point.column + 1) ++
    " " ++ issue.message

/-- How many issues there are, and the first of them. -/
def summarizeIssues (issues : List SyntaxIssue) : String :=
  toString issues.length ++ " syntax error(s)" ++
    match issues with
    | [] => ""
    | first :: _ => ": " ++ first.describe

/-- At most this many characters of unexpected input are shown. -/
def excerptLimit : Nat := 40

/-- The beginning of the first line of a text, blanks at its ends left out. -/
def excerptChars (characters : List Char) : List Char :=
  (Text.firstLineChars (Text.stripChars characters)).take excerptLimit

/-- The kind of nodes that hold unexpected input. -/
def unexpectedKind : String := "ERROR"

/-- The issue that a node stands for. A missing node is never unexpected input. -/
def NodeInfo.issue? (source : Text.Bytes) (info : NodeInfo) : Option SyntaxIssue :=
  if info.missing then
    some ⟨info.point, "missing '" ++ info.kind ++ "'"⟩
  else if info.kind = unexpectedKind then
    let excerpt := String.ofList (excerptChars (info.text source).toList)
    some ⟨info.point, "unexpected input near '" ++ excerpt ++ "'"⟩
  else
    none

end JavaOutline
