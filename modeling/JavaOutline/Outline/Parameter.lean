import JavaOutline.Declaration
import JavaOutline.Outline.TypeNode

namespace JavaOutline

open Text (Bytes)

/-!
# Parameters, declarators and thrown types
-/

/-- The field under which a declaration holds its name. -/
def nameField : String := "name"

/-- The text of the name that a node must have. -/
def Node.requiredName (source : Bytes) (node : Node) : Except MissingPart String :=
  (node.require nameField).map (fun name => name.text source)

/-- A parameter with a type and a name. Array brackets after the name are no part of it. -/
def formalArgument (source : Bytes) (node : Node) : Except MissingPart Argument :=
  (node.requiredName source).map fun name =>
    ⟨name, typeOf? source (node.childByField? "type")⟩

/-- The declarator that names a variable-arity parameter. -/
def Node.spreadDeclarator? (node : Node) : Option Node :=
  node.childOfKind? ["variable_declarator"]

/-- A variable-arity parameter, recorded with the type of one element. -/
def spreadArgument (source : Bytes) (node : Node) : Except MissingPart Argument :=
  let type := typeOf? source node.typeChild?
  match node.spreadDeclarator? with
  | none => .ok ⟨"", type⟩
  | some declarator =>
      (declarator.requiredName source).map (fun name => ⟨name, type⟩)

/-- The ways in which a node can declare a parameter. -/
inductive ParameterShape where
  | formal
  | spread
  deriving Repr, DecidableEq

/-- The way in which a kind of node declares a parameter. -/
def parameterShape? (kind : String) : Option ParameterShape :=
  match kind with
  | "formal_parameter" => some .formal
  | "spread_parameter" => some .spread
  | _ => none

/-- Read parameters in order; nodes of other kinds, such as a receiver, are passed over. -/
def readArguments (source : Bytes) : List Node → Except MissingPart (List Argument)
  | [] => .ok []
  | node :: rest =>
      let shape? := if node.info.named then parameterShape? node.kind else none
      match shape? with
      | none => readArguments source rest
      | some .formal => do
          let first ← formalArgument source node
          let others ← readArguments source rest
          .ok (first :: others)
      | some .spread => do
          let first ← spreadArgument source node
          let others ← readArguments source rest
          .ok (first :: others)

/-- The arguments in a parameter list, which may be absent. -/
def argumentsOf (source : Bytes) (parameters? : Option Node) :
    Except MissingPart (List Argument) :=
  match parameters? with
  | none => .ok []
  | some parameters => readArguments source parameters.children

/-- The names of all of the given nodes. -/
def requiredNames (source : Bytes) : List Node → Except MissingPart (List String)
  | [] => .ok []
  | node :: rest => do
      let first ← node.requiredName source
      let others ← requiredNames source rest
      .ok (first :: others)

/-- The names that a declaration of fields declares. -/
def declaratorNames (source : Bytes) (node : Node) : Except MissingPart (List String) :=
  requiredNames source (node.childrenByField "declarator")

/-- The types listed in a throws clause; none if there is no such clause. -/
def thrownTypes (source : Bytes) (node : Node) : List String :=
  match node.childOfKind? ["throws"] with
  | none => []
  | some clause => clause.namedChildren.map (fun child => child.compactText source)

end JavaOutline
