import JavaOutline.Outcome
import JavaOutline.Text.Line

namespace JavaOutline

/-!
# The summary for readers

Each file has a heading. Below it, each class is printed with one line for
each member, and its nested classes follow it, indented by one step more.
-/

/-- The padding of lines at a level of nesting. -/
def padding (level : Int) : String :=
  String.ofList (List.replicate (2 * level.toNat) ' ')

/-- What the line of a member says. -/
def Declaration.label : Declaration → String
  | .method declared => declared.name.signature
  | .field declared => declared.name.name ++ ": " ++ declared.name.typeSignature
  | .nested declared => declared.name.shortName

mutual

/-- The lines of a class and of the classes nested in it. -/
def ClassDecl.lines (level : Int) : ClassDecl → List String
  | .mk head children =>
      (padding level ++ head.name.shortName) ::
        (children.map (fun child => padding level ++ "-" ++ child.label) ++
          nestedLines (level + 1) children)

/-- The lines of the classes among members. -/
def nestedLines (level : Int) : List Declaration → List String
  | [] => []
  | .nested declared :: rest => declared.lines level ++ nestedLines level rest
  | .method _ :: rest => nestedLines level rest
  | .field _ :: rest => nestedLines level rest

end

/-- The lines below the heading of a file. -/
def FileOutcome.lines (outcome : FileOutcome) : List String :=
  if outcome.isParsed then
    outcome.declarations.flatMap (ClassDecl.lines 0)
  else
    ["  !! " ++ outcome.status.name ++ ": " ++ outcome.message.getD "None"]

/-- The lines of all files, each after a heading that an empty line sets off. -/
def Catalog.lines (catalog : Catalog) : List String :=
  catalog.entries.flatMap fun entry =>
    ("\n=== " ++ entry.1 ++ " ===") :: entry.2.lines

/-- The summary of a run. -/
def Catalog.summary (catalog : Catalog) : String :=
  Text.ofLines catalog.lines

end JavaOutline
